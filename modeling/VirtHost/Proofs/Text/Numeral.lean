import Mathlib.Algebra.Group.Nat.Defs
import VirtHost.Text.CharacterClass
import VirtHost.Text.Numeral

/-! # Numerals read back

* `readNumeral?_digitsOf`: the digits of a number up to a limit denote it.
* `readNumeral?_zeroFill`: they still do with zeros before them.
* `exists_readNumeral?`: digits that are few enough for a limit denote some number.
* `zeroFill_digitsOf_injective`, `decimal_injective`: different numbers have different numerals.
-/

namespace VirtHost.Text
set_option autoImplicit false

variable {base limit n : Nat}

/-! ## Digits -/

theorem toNat_digitChar : ∀ n < 16, (digitChar n).toNat = if n < 10 then 0x30 + n else 0x57 + n := by
  decide

theorem digitValue?_digitChar (hbase : base ≤ 16) (hn : n < base) :
    digitValue? base (digitChar n) = some n := by
  have hchar := toNat_digitChar n (by omega)
  unfold digitValue?
  rw [hchar]
  by_cases h : n < 10
  · have hrange : 0x30 ≤ 0x30 + n ∧ 0x30 + n ≤ 0x39 := by omega
    simp [h, hrange, hn]
  · have hdecimal : ¬ 0x57 + n ≤ 0x39 := by omega
    have hupper : ¬ 0x57 + n ≤ 0x5a := by omega
    have hlower : 0x61 ≤ 0x57 + n ∧ 0x57 + n ≤ 0x7a := by omega
    simp [h, hdecimal, hupper, hlower, hn]

theorem digitValue?_lt {c : Char} {d : Nat} (h : digitValue? base c = some d) : d < base := by
  unfold digitValue? at h
  dsimp only at h
  generalize (if 0x30 ≤ c.toNat ∧ c.toNat ≤ 0x39 then c.toNat - 0x30
    else if 0x41 ≤ c.toNat ∧ c.toNat ≤ 0x5a then c.toNat - 0x37
    else if 0x61 ≤ c.toNat ∧ c.toNat ≤ 0x7a then c.toNat - 0x57 else base) = value at h
  split at h
  · obtain rfl : value = d := by simpa using h
    assumption
  · cases h

theorem digitValue?_plus : digitValue? base '+' = none := by
  simp [digitValue?]

theorem isDecimalDigit_digitChar : ∀ n < 10, isDecimalDigit (digitChar n) = true := by
  decide

/-! ## The digits of a number -/

theorem digitsOf_of_lt (h : n < base) : digitsOf base n = [digitChar n] := by
  rw [digitsOf, dif_neg (by omega)]

theorem digitsOf_of_le (hbase : 2 ≤ base) (h : base ≤ n) :
    digitsOf base n = digitsOf base (n / base) ++ [digitChar (n % base)] := by
  rw [digitsOf, dif_pos ⟨hbase, h⟩]

theorem digitsOf_ne_nil (base n : Nat) : digitsOf base n ≠ [] := by
  rw [digitsOf]
  split <;> simp

theorem forall_mem_digitsOf (hbase : 2 ≤ base) {p : Char → Prop} (h : ∀ d < base, p (digitChar d))
    (n : Nat) : ∀ c ∈ digitsOf base n, p c := by
  induction n using Nat.strongRecOn with
  | ind n ih =>
    by_cases hn : n < base
    · rw [digitsOf_of_lt hn]
      simpa using h n hn
    · rw [digitsOf_of_le hbase (by omega)]
      intro c hc
      rcases List.mem_append.1 hc with hc | hc
      · exact ih (n / base) (Nat.div_lt_self (by omega) (by omega)) c hc
      · obtain rfl := List.mem_singleton.1 hc
        exact h _ (Nat.mod_lt n (by omega))

theorem length_digitsOf_le (hbase : 2 ≤ base) {k : Nat} (h : n < base ^ (k + 1)) :
    (digitsOf base n).length ≤ k + 1 := by
  induction k generalizing n with
  | zero =>
    rw [digitsOf_of_lt (by simpa using h)]
    simp
  | succ k ih =>
    by_cases hn : n < base
    · rw [digitsOf_of_lt hn]
      simp
    · have hdiv : n / base < base ^ (k + 1) := by
        rw [Nat.div_lt_iff_lt_mul (by omega), ← Nat.pow_succ]
        exact h
      have := ih hdiv
      rw [digitsOf_of_le hbase (by omega), List.length_append, List.length_singleton]
      omega

/-! ## Reading -/

theorem readDigits_append (base limit acc : Nat) (s t : List Char) :
    readDigits base limit acc (s ++ t) =
      (readDigits base limit acc s).bind fun n => readDigits base limit n t := by
  induction s generalizing acc with
  | nil => rfl
  | cons c s ih =>
    rw [List.cons_append, readDigits, readDigits]
    split
    · rfl
    · split
      · exact ih _
      · rfl

theorem readDigits_digitsOf (hbase : 2 ≤ base) (hle : base ≤ 16) (h : n ≤ limit) :
    readDigits base limit 0 (digitsOf base n) = .ok n := by
  induction n using Nat.strongRecOn with
  | ind n ih =>
    by_cases hn : n < base
    · rw [digitsOf_of_lt hn, readDigits, digitValue?_digitChar hle hn]
      simp [readDigits, h]
    · have hlt : n / base < n := Nat.div_lt_self (by omega) (by omega)
      have hdiv : n / base * base + n % base = n := Nat.div_add_mod' n base
      rw [digitsOf_of_le hbase (by omega), readDigits_append, ih _ hlt (by omega)]
      simp only [Except.bind, readDigits, digitValue?_digitChar hle (Nat.mod_lt n (by omega)), hdiv, h,
        if_true]

/-- A text of digits has no sign that could be dropped. -/
theorem readNumeral_of_notMem {s : List Char} (hs : s ≠ []) (h : '+' ∉ s) :
    readNumeral base limit s = readDigits base limit 0 s := by
  unfold readNumeral
  split
  · exact absurd rfl hs
  · simp at h
  · simp at h
  · rfl

theorem plus_notMem_digitsOf (hbase : 2 ≤ base) (hle : base ≤ 16) (n : Nat) :
    '+' ∉ digitsOf base n := by
  intro hmem
  refine forall_mem_digitsOf hbase (p := fun c => c ≠ '+') ?_ n '+' hmem rfl
  intro d hd hchar
  have hvalue := digitValue?_digitChar hle hd
  rw [hchar, digitValue?_plus] at hvalue
  cases hvalue

theorem readNumeral?_digitsOf (hbase : 2 ≤ base) (hle : base ≤ 16) (h : n ≤ limit) :
    readNumeral? base limit (digitsOf base n) = some n := by
  rw [readNumeral?, readNumeral_of_notMem (digitsOf_ne_nil base n)
    (plus_notMem_digitsOf hbase hle n), readDigits_digitsOf hbase hle h]
  rfl

/-- Digits can be appended as long as the largest number with as many digits is within the limit. -/
theorem exists_readDigits {acc : Nat} {s : List Char} (hs : ∀ c ∈ s, (digitValue? base c).isSome)
    (h : (acc + 1) * base ^ s.length ≤ limit + 1) : ∃ n, readDigits base limit acc s = .ok n := by
  induction s generalizing acc with
  | nil => exact ⟨acc, rfl⟩
  | cons c s ih =>
    obtain ⟨d, hd⟩ := Option.isSome_iff_exists.1 (hs c (by simp))
    have hlt : d < base := digitValue?_lt hd
    have hnext : (acc * base + d + 1) * base ^ s.length ≤ limit + 1 := by
      have hstep : acc * base + d + 1 ≤ (acc + 1) * base := by
        rw [Nat.succ_mul]
        omega
      calc (acc * base + d + 1) * base ^ s.length
          ≤ (acc + 1) * base * base ^ s.length := Nat.mul_le_mul_right _ hstep
        _ = (acc + 1) * base ^ (c :: s).length := by
            rw [List.length_cons, Nat.pow_succ', Nat.mul_assoc]
        _ ≤ limit + 1 := h
    have hfits : acc * base + d ≤ limit := by
      have hpow : 0 < base ^ s.length := Nat.pow_pos (by omega)
      have := Nat.le_mul_of_pos_right (acc * base + d + 1) hpow
      omega
    obtain ⟨n, hn⟩ := ih (fun c' hc' => hs c' (List.mem_cons_of_mem c hc')) hnext
    exact ⟨n, by simp [readDigits, hd, hfits, hn]⟩

theorem exists_readNumeral? {s : List Char} (hne : s ≠ [])
    (hs : ∀ c ∈ s, (digitValue? base c).isSome) (h : base ^ s.length ≤ limit + 1) :
    ∃ n, readNumeral? base limit s = some n := by
  have hplus : '+' ∉ s := by
    intro hmem
    have := hs '+' hmem
    rw [digitValue?_plus] at this
    cases this
  have hzero : (0 + 1) * base ^ s.length ≤ limit + 1 := by simpa using h
  obtain ⟨n, hn⟩ := exists_readDigits hs hzero
  exact ⟨n, by rw [readNumeral?, readNumeral_of_notMem hne hplus, hn]; rfl⟩

/-! ## Zeros before a numeral -/

theorem readDigits_zeros (hbase : 2 ≤ base) (limit k : Nat) (s : List Char) :
    readDigits base limit 0 (List.replicate k '0' ++ s) = readDigits base limit 0 s := by
  induction k with
  | zero => rfl
  | succ k ih =>
    have hzero : digitValue? base '0' = some 0 := by
      have hpos : 0 < base := by omega
      simp [digitValue?, hpos]
    rw [List.replicate_succ, List.cons_append, readDigits, hzero]
    simpa using ih

theorem forall_mem_zeroFill (hbase : 2 ≤ base) {p : Char → Prop} (h : ∀ d < base, p (digitChar d))
    (width n : Nat) : ∀ c ∈ zeroFill width (digitsOf base n), p c := by
  intro c hc
  rcases List.mem_append.1 hc with hc | hc
  · rw [List.eq_of_mem_replicate hc]
    exact h 0 (by omega)
  · exact forall_mem_digitsOf hbase h n c hc

theorem plus_notMem_zeroFill (hbase : 2 ≤ base) (hle : base ≤ 16) (width n : Nat) :
    '+' ∉ zeroFill width (digitsOf base n) := by
  intro hmem
  refine forall_mem_zeroFill hbase (p := fun c => c ≠ '+') ?_ width n '+' hmem rfl
  intro d hd hchar
  have hvalue := digitValue?_digitChar hle hd
  rw [hchar, digitValue?_plus] at hvalue
  cases hvalue

/-- The digits of a number denote it, also with zeros before them. -/
theorem readNumeral?_zeroFill (hbase : 2 ≤ base) (hle : base ≤ 16) (width : Nat) (h : n ≤ limit) :
    readNumeral? base limit (zeroFill width (digitsOf base n)) = some n := by
  have hne : zeroFill width (digitsOf base n) ≠ [] :=
    List.append_ne_nil_of_right_ne_nil _ (digitsOf_ne_nil base n)
  have hread : readDigits base limit 0 (zeroFill width (digitsOf base n)) = .ok n := by
    rw [zeroFill, readDigits_zeros hbase, readDigits_digitsOf hbase hle h]
  rw [readNumeral?, readNumeral_of_notMem hne (plus_notMem_zeroFill hbase hle width n), hread]
  rfl

theorem readNumeral?_hexadecimal (width : Nat) (h : n ≤ limit) :
    readNumeral? 16 limit (hexadecimal width n) = some n :=
  readNumeral?_zeroFill (by decide) (by decide) width h

theorem zeroFill_digitsOf_injective (hbase : 2 ≤ base) (hle : base ≤ 16) (width : Nat) :
    Function.Injective fun n => zeroFill width (digitsOf base n) := by
  intro m n h
  have hm : readNumeral? base (max m n) (zeroFill width (digitsOf base m)) = some m :=
    readNumeral?_zeroFill hbase hle width (Nat.le_max_left m n)
  have hn : readNumeral? base (max m n) (zeroFill width (digitsOf base n)) = some n :=
    readNumeral?_zeroFill hbase hle width (Nat.le_max_right m n)
  have hsame : zeroFill width (digitsOf base m) = zeroFill width (digitsOf base n) := h
  rw [hsame, hn] at hm
  exact (Option.some.inj hm).symm

theorem hexadecimal_injective (width : Nat) : Function.Injective (hexadecimal width) :=
  zeroFill_digitsOf_injective (by decide) (by decide) width

theorem decimal_injective : Function.Injective decimal := by
  intro m n h
  have hdigits : digitsOf 10 m = digitsOf 10 n := String.ofList_injective h
  have hfilled : Function.Injective fun n => zeroFill 0 (digitsOf 10 n) :=
    zeroFill_digitsOf_injective (by decide) (by decide) 0
  exact hfilled (congrArg (zeroFill 0) hdigits)

end VirtHost.Text
