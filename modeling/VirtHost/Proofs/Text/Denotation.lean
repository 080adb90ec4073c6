import Mathlib.Data.Nat.Digits.Defs
import Mathlib.Tactic.SplitIfs
import VirtHost.Proofs.Text.Numeral
import VirtHost.Text.Blank

/-! # The numerals of a number

* `IsNumeral base n s`: the text `s` consists of digits with the value `n`.
* `Denotes base n s`: it does, perhaps behind a plus sign.
* `readNumeral?_eq_some_iff`: what is read up to a limit is what is denoted.
* `denotes_map_toLower_iff`: the case of the digits does not matter.
* `IsNumeral.mod_pow`: the value of the last digits.
* `isNumeral_concat_iff`: the value with one more digit.
* `denotes_append_iff`: only zeros can stand before a numeral without a change of its value.
-/

namespace VirtHost.Text
set_option autoImplicit false

variable {base limit n m : Nat} {c : Char} {s t : List Char}

/-- A text consists of digits, of which there is at least one, and these have a value. -/
def IsNumeral (base n : Nat) (s : List Char) : Prop :=
  s ≠ [] ∧ ∃ values : List Nat, s.map (digitValue? base) = values.map some ∧
    n = Nat.ofDigits base values.reverse

/-- A text denotes a number. -/
inductive Denotes (base n : Nat) : List Char → Prop
  | unsigned {s : List Char} (hs : IsNumeral base n s) : Denotes base n s
  | plus {s : List Char} (hs : IsNumeral base n s) : Denotes base n ('+' :: s)

/-! ## Digits -/

/-- A digit is a decimal digit or a letter of the alphabet. -/
theorem toNat_of_digitValue? {d : Nat} (h : digitValue? base c = some d) :
    (0x30 ≤ c.toNat ∧ c.toNat ≤ 0x39) ∨ (0x41 ≤ c.toNat ∧ c.toNat ≤ 0x5a) ∨
      (0x61 ≤ c.toNat ∧ c.toNat ≤ 0x7a) := by
  unfold digitValue? at h
  have hlt := (Option.ite_none_right_eq_some.1 h).1
  split_ifs at hlt <;> omega

theorem isBlank_of_digitValue? {d : Nat} (h : digitValue? base c = some d) : isBlank c = false := by
  have hrange := toNat_of_digitValue? h
  simp only [isBlank, inRanges, blankRanges, List.any_cons, List.any_nil, Bool.or_false,
    Bool.or_eq_false_iff, Bool.and_eq_false_iff, decide_eq_false_iff_not]
  omega

theorem digitValue?_eq_some_zero (h : digitValue? base c = some 0) : c = '0' := by
  have hvalue : (if 0x30 ≤ c.toNat ∧ c.toNat ≤ 0x39 then c.toNat - 0x30
      else if 0x41 ≤ c.toNat ∧ c.toNat ≤ 0x5a then c.toNat - 0x37
      else if 0x61 ≤ c.toNat ∧ c.toNat ≤ 0x7a then c.toNat - 0x57 else base) = 0 := by
    unfold digitValue? at h
    exact Option.some.inj (Option.ite_none_right_eq_some.1 h).2
  have hbase := digitValue?_lt h
  apply Char.toNat_inj.1
  rw [show '0'.toNat = 0x30 from rfl]
  split_ifs at hvalue <;> omega

/-! ## Letter case -/

/-- An upper-case letter of the alphabet is moved, and nothing else is. -/
theorem toLower_cases (c : Char) :
    (0x41 ≤ c.toNat ∧ c.toNat ≤ 0x5a ∧ c.toLower.toNat = c.toNat + 0x20) ∨ c.toLower = c := by
  unfold Char.toLower
  split
  · rename_i h
    have hlow : 0x41 ≤ c.toNat := UInt32.le_iff_toNat_le.1 h.1
    have hhigh : c.toNat ≤ 0x5a := UInt32.le_iff_toNat_le.1 h.2
    refine .inl ⟨hlow, hhigh, ?_⟩
    have hmoved : (c.val + 0x20).toNat = c.toNat + 0x20 := by
      rw [UInt32.toNat_add, Nat.mod_eq_of_lt]
      · rfl
      · rw [show c.val.toNat = c.toNat from rfl, show (0x20 : UInt32).toNat = 0x20 from rfl]
        omega
    exact hmoved
  · exact .inr rfl

theorem digitValue?_toLower (base : Nat) (c : Char) : digitValue? base c.toLower = digitValue? base c := by
  rcases toLower_cases c with ⟨hlow, hhigh, hcode⟩ | h
  · have hdecimal : ¬ c.toNat ≤ 0x39 := by omega
    have hdecimal' : ¬ c.toNat + 0x20 ≤ 0x39 := by omega
    have hupper : ¬ c.toNat + 0x20 ≤ 0x5a := by omega
    have hlower : 0x61 ≤ c.toNat + 0x20 ∧ c.toNat + 0x20 ≤ 0x7a := by omega
    have hvalue : c.toNat + 0x20 - 0x57 = c.toNat - 0x37 := by omega
    unfold digitValue?
    simp [hcode, hlow, hhigh, hdecimal, hdecimal', hupper, hlower, hvalue]
  · rw [h]

/-- A character that is no letter comes from itself only. -/
theorem eq_of_toLower_eq {d : Char} (h : c.toLower = d) (hd : ¬ (0x61 ≤ d.toNat ∧ d.toNat ≤ 0x7a)) :
    c = d := by
  rcases toLower_cases c with ⟨hlow, hhigh, hcode⟩ | hsame
  · rw [h] at hcode
    omega
  · rw [← hsame, h]

/-! ## Reading -/

/-- The digit behind a number that has been read already adds to it. -/
theorem ofDigits_reverse_cons (d acc : Nat) (values : List Nat) :
    Nat.ofDigits base ((d :: values).reverse ++ [acc]) =
      Nat.ofDigits base (values.reverse ++ [acc * base + d]) := by
  simp only [List.reverse_cons, List.append_assoc, List.cons_append, List.nil_append,
    Nat.ofDigits_append, Nat.ofDigits_cons, Nat.ofDigits_nil]
  rw [Nat.mul_zero, Nat.add_zero, Nat.add_zero, Nat.mul_comm acc base, Nat.add_comm d]

/-- What is read behind a number that has been read already. -/
theorem readDigits_eq_ok_iff {acc : Nat} : readDigits base limit acc s = .ok n ↔
    (s ≠ [] → n ≤ limit) ∧ ∃ values : List Nat, s.map (digitValue? base) = values.map some ∧
      n = Nat.ofDigits base (values.reverse ++ [acc]) := by
  induction s generalizing acc with
  | nil =>
    rw [readDigits]
    constructor
    · intro h
      obtain rfl : acc = n := Except.ok.inj h
      exact ⟨fun hne => absurd rfl hne, [], rfl, (Nat.ofDigits_singleton).symm⟩
    · rintro ⟨-, values, hvalues, rfl⟩
      obtain rfl : values = [] := by simpa using hvalues.symm
      rw [List.reverse_nil, List.nil_append, Nat.ofDigits_singleton]
  | cons c s ih =>
    rw [readDigits]
    cases hc : digitValue? base c with
    | none =>
      simp only [reduceCtorEq, false_iff, not_and, not_exists]
      intro _ values hvalues
      cases values <;> simp [hc] at hvalues
    | some d =>
      dsimp only
      constructor
      · intro h
        split at h
        · rename_i hle
          obtain ⟨hlimit, values, hvalues, rfl⟩ := ih.1 h
          refine ⟨fun _ => ?_, d :: values, by simp [hc, hvalues], (ofDigits_reverse_cons d acc values).symm⟩
          cases s with
          | nil =>
            obtain rfl : values = [] := by simpa using hvalues.symm
            simpa using hle
          | cons _ _ => exact hlimit (by simp)
        · cases h
      · rintro ⟨hlimit, values, hvalues, hn⟩
        cases values with
        | nil => simp at hvalues
        | cons d' values =>
          obtain ⟨rfl, hrest⟩ : d = d' ∧ s.map (digitValue? base) = values.map some := by
            simpa [hc] using hvalues
          rw [ofDigits_reverse_cons] at hn
          -- the number does not become smaller by further digits
          have hgrows : acc * base + d ≤ n := by
            have hpos : 0 < base ^ values.reverse.length := Nat.pow_pos (by have := digitValue?_lt hc; omega)
            rw [hn, Nat.ofDigits_append, Nat.ofDigits_singleton]
            exact Nat.le_add_left_of_le (Nat.le_mul_of_pos_left _ hpos)
          have hle : n ≤ limit := hlimit (by simp)
          rw [if_pos (hgrows.trans hle)]
          exact ih.2 ⟨fun _ => hle, values, hrest, hn⟩

theorem IsNumeral.ne_plus (h : IsNumeral base n (c :: s)) : c ≠ '+' := by
  rintro rfl
  obtain ⟨-, values, hvalues, -⟩ := h
  cases values <;> simp [digitValue?_plus] at hvalues

theorem isNumeral_iff : IsNumeral base n s ∧ n ≤ limit ↔ s ≠ [] ∧ readDigits base limit 0 s = .ok n := by
  have hzero (values : List Nat) :
      Nat.ofDigits base (values.reverse ++ [0]) = Nat.ofDigits base values.reverse :=
    Nat.ofDigits_append_zero _
  rw [readDigits_eq_ok_iff, IsNumeral]
  simp only [hzero]
  constructor
  · rintro ⟨⟨hne, hvalues⟩, hlimit⟩
    exact ⟨hne, fun _ => hlimit, hvalues⟩
  · rintro ⟨hne, hlimit, hvalues⟩
    exact ⟨⟨hne, hvalues⟩, hlimit hne⟩

theorem not_denotes_nil : ¬ Denotes base n [] := by
  rintro (hs | _)
  exact hs.1 rfl

theorem denotes_plus_iff : Denotes base n ('+' :: s) ↔ IsNumeral base n s := by
  constructor
  · intro h
    cases h with
    | unsigned hs => exact absurd rfl hs.ne_plus
    | plus hs => exact hs
  · exact .plus

theorem denotes_cons_iff (hc : c ≠ '+') : Denotes base n (c :: s) ↔ IsNumeral base n (c :: s) := by
  constructor
  · intro h
    cases h with
    | unsigned hs => exact hs
    | plus hs => exact absurd rfl hc
  · exact .unsigned

/-- **What is read** up to a limit is the number that is denoted. -/
theorem readNumeral?_eq_some_iff : readNumeral? base limit s = some n ↔ Denotes base n s ∧ n ≤ limit := by
  have hoption (r : Except NumeralError Nat) : r.toOption = some n ↔ r = .ok n := by
    cases r <;> simp [Except.toOption]
  rw [readNumeral?, hoption]
  unfold readNumeral
  split
  · simp [not_denotes_nil]
  · simp [denotes_plus_iff, IsNumeral]
  · rename_i rest hrest
    have hne : rest ≠ [] := fun h => hrest h
    rw [denotes_plus_iff, isNumeral_iff]
    exact ⟨fun h => ⟨hne, h⟩, fun h => h.2⟩
  · rename_i hnil _ hsigned
    cases s with
    | nil => exact absurd rfl hnil
    | cons c s =>
      have hc : c ≠ '+' := by
        rintro rfl
        exact hsigned s rfl
      rw [denotes_cons_iff hc, isNumeral_iff]
      exact ⟨fun h => ⟨by simp, h⟩, fun h => h.2⟩

theorem Denotes.isNumeral (h : Denotes base n s) (hplus : s.head? ≠ some '+') :
    IsNumeral base n s := by
  cases h with
  | unsigned hs => exact hs
  | plus hs => exact absurd rfl hplus

theorem Denotes.unique (h : Denotes base n s) (h' : Denotes base m s) : n = m := by
  have hn := readNumeral?_eq_some_iff.2 ⟨h, Nat.le_max_left n m⟩
  have hm := readNumeral?_eq_some_iff.2 ⟨h', Nat.le_max_right n m⟩
  rw [hn] at hm
  exact Option.some.inj hm

/-! ## Characters of a numeral -/

theorem IsNumeral.isSome_digitValue? (h : IsNumeral base n s) : ∀ c ∈ s, (digitValue? base c).isSome := by
  obtain ⟨-, values, hvalues, -⟩ := h
  intro c hc
  have hmem : digitValue? base c ∈ values.map some := hvalues ▸ List.mem_map_of_mem hc
  obtain ⟨d, -, hd⟩ := List.mem_map.1 hmem
  rw [← hd]
  rfl

/-- A numeral has digits, and perhaps a plus sign. -/
theorem Denotes.forall_mem {p : Char → Prop} (hplus : p '+')
    (hdigit : ∀ c, (digitValue? base c).isSome → p c) (h : Denotes base n s) : ∀ c ∈ s, p c := by
  cases h with
  | unsigned hs => exact fun c hc => hdigit c (hs.isSome_digitValue? c hc)
  | plus hs =>
    rw [List.forall_mem_cons]
    exact ⟨hplus, fun c hc => hdigit c (hs.isSome_digitValue? c hc)⟩

theorem Denotes.notMem (h : Denotes base n s) (hc : c ≠ '+') (hvalue : digitValue? base c = none) :
    c ∉ s := by
  have hall : ∀ d ∈ s, d ≠ c := by
    refine h.forall_mem hc.symm fun d hd heq => ?_
    rw [heq, hvalue] at hd
    cases hd
  exact fun hmem => hall c hmem rfl

theorem Denotes.isBlank (h : Denotes base n s) : ∀ c ∈ s, isBlank c = false := by
  refine h.forall_mem (by decide) fun c hc => ?_
  obtain ⟨d, hd⟩ := Option.isSome_iff_exists.1 hc
  exact isBlank_of_digitValue? hd

theorem isNumeral_map_toLower_iff : IsNumeral base n (s.map Char.toLower) ↔ IsNumeral base n s := by
  have hvalues : (s.map Char.toLower).map (digitValue? base) = s.map (digitValue? base) := by
    rw [List.map_map]
    exact List.map_congr_left fun c _ => digitValue?_toLower base c
  rw [IsNumeral, IsNumeral, hvalues, ne_eq, List.map_eq_nil_iff]

theorem denotes_map_toLower_iff : Denotes base n (s.map Char.toLower) ↔ Denotes base n s := by
  cases s with
  | nil => rfl
  | cons c s =>
    have hplus : '+'.toLower = '+' := by decide
    by_cases hc : c = '+'
    · subst hc
      rw [List.map_cons, hplus, denotes_plus_iff, denotes_plus_iff, isNumeral_map_toLower_iff]
    · have hlower : c.toLower ≠ '+' := fun h => hc (eq_of_toLower_eq h (by decide))
      have hmap := @isNumeral_map_toLower_iff base n (c :: s)
      rw [List.map_cons] at hmap ⊢
      rw [denotes_cons_iff hlower, denotes_cons_iff hc, hmap]

/-! ## The last digits -/

theorem forall_mem_lt {values : List Nat} (hvalues : s.map (digitValue? base) = values.map some) :
    ∀ d ∈ values, d < base := by
  intro d hd
  have hmem : some d ∈ s.map (digitValue? base) := hvalues ▸ List.mem_map_of_mem hd
  obtain ⟨c, -, hc⟩ := List.mem_map.1 hmem
  exact digitValue?_lt hc

/-- The last digits of a numeral have the value that is left of its own. -/
theorem IsNumeral.mod_pow (h : IsNumeral base n (s ++ t)) (hbase : 0 < base) (ht : t ≠ []) :
    IsNumeral base (n % base ^ t.length) t := by
  obtain ⟨-, values, hvalues, rfl⟩ := h
  have hlt : ∀ d ∈ values.reverse, d < base := fun d hd => forall_mem_lt hvalues d (List.mem_reverse.1 hd)
  rw [List.map_append] at hvalues
  obtain ⟨before, behind, rfl, -, hbehind⟩ := List.append_eq_map_iff.1 hvalues
  have hlength : t.length = behind.reverse.length := by
    simpa using (congrArg List.length hbehind).symm
  refine ⟨ht, behind, hbehind.symm, ?_⟩
  rw [Nat.ofDigits_mod_pow_eq_ofDigits_take _ hbase _ hlt, hlength, List.reverse_append, List.take_left]

theorem isNumeral_concat_iff : IsNumeral base n (s ++ [c]) ↔
    ∃ m d, digitValue? base c = some d ∧ n = base * m + d ∧ (s = [] ∧ m = 0 ∨ IsNumeral base m s) := by
  constructor
  · rintro ⟨-, values, hvalues, rfl⟩
    rw [List.map_append] at hvalues
    obtain ⟨before, last, rfl, hbefore, hlast⟩ := List.append_eq_map_iff.1 hvalues
    obtain ⟨d, rfl, hd⟩ : ∃ d, last = [d] ∧ some d = digitValue? base c := by
      simpa [List.map_eq_singleton_iff] using hlast
    refine ⟨Nat.ofDigits base before.reverse, d, hd.symm, ?_, ?_⟩
    · rw [List.reverse_concat, Nat.ofDigits_cons, Nat.add_comm]
    · by_cases hs : s = []
      · subst hs
        obtain rfl : before = [] := by simpa using hbefore
        exact .inl ⟨rfl, rfl⟩
      · exact .inr ⟨hs, before, hbefore.symm, rfl⟩
  · rintro ⟨m, d, hd, rfl, ⟨rfl, rfl⟩ | ⟨-, values, hvalues, rfl⟩⟩
    · exact ⟨by simp, [d], by simp [hd], by simp⟩
    · refine ⟨by simp, values ++ [d], by simp [hvalues, hd], ?_⟩
      rw [List.reverse_concat, Nat.ofDigits_cons, Nat.add_comm]

/-! ## Zeros before a numeral -/

theorem map_replicate_zero (hbase : 0 < base) (k : Nat) :
    (List.replicate k '0').map (digitValue? base) = (List.replicate k 0).map some := by
  have hzero : digitValue? base '0' = some 0 := by simp [digitValue?, hbase]
  rw [List.map_replicate, List.map_replicate, hzero]

theorem eq_replicate_zero (hbase : 0 < base) {values : List Nat}
    (hvalues : s.map (digitValue? base) = values.map some)
    (hzero : Nat.ofDigits base values.reverse = 0) : s = List.replicate s.length '0' := by
  rw [List.eq_replicate_iff]
  refine ⟨rfl, fun c hc => ?_⟩
  have hmem : digitValue? base c ∈ values.map some := hvalues ▸ List.mem_map_of_mem hc
  obtain ⟨d, hd, hvalue⟩ := List.mem_map.1 hmem
  obtain rfl : d = 0 := Nat.digits_zero_of_eq_zero hbase.ne' hzero d (List.mem_reverse.2 hd)
  exact digitValue?_eq_some_zero hvalue.symm

theorem isNumeral_append_iff (hbase : 0 < base) (ht : IsNumeral base n t) :
    IsNumeral base n (s ++ t) ↔ s = List.replicate s.length '0' := by
  obtain ⟨hne, values, hvalues, hn⟩ := ht
  constructor
  · rintro ⟨-, all, hall, hn'⟩
    rw [List.map_append, hvalues] at hall
    obtain ⟨before, behind, rfl, hbefore, hbehind⟩ := List.append_eq_map_iff.1 hall
    obtain rfl : behind = values := (List.map_inj_right fun _ _ => Option.some.inj).1 hbehind
    apply eq_replicate_zero hbase hbefore.symm
    have hpos : 0 < base ^ behind.reverse.length := Nat.pow_pos hbase
    rw [hn, List.reverse_append, Nat.ofDigits_append] at hn'
    have hzero : base ^ behind.reverse.length * Nat.ofDigits base before.reverse = 0 := by omega
    exact (Nat.mul_eq_zero.1 hzero).resolve_left hpos.ne'
  · intro hs
    refine ⟨List.append_ne_nil_of_right_ne_nil s hne, List.replicate s.length 0 ++ values, ?_, ?_⟩
    · rw [List.map_append, List.map_append, hvalues, ← map_replicate_zero hbase, ← hs]
    · rw [List.reverse_append, List.reverse_replicate, Nat.ofDigits_append_replicate_zero, hn]

/-- **What can stand before a numeral** without a change of its value: zeros, perhaps behind a plus sign. -/
theorem denotes_append_iff (hbase : 0 < base) (ht : IsNumeral base n t) :
    Denotes base n (s ++ t) ↔ ∃ k, s = List.replicate k '0' ∨ s = '+' :: List.replicate k '0' := by
  constructor
  · intro h
    cases s with
    | nil => exact ⟨0, .inl rfl⟩
    | cons c s =>
      by_cases hc : c = '+'
      · subst hc
        rw [List.cons_append, denotes_plus_iff, isNumeral_append_iff hbase ht] at h
        exact ⟨s.length, .inr (by rw [← h])⟩
      · rw [List.cons_append, denotes_cons_iff hc, ← List.cons_append, isNumeral_append_iff hbase ht] at h
        exact ⟨(c :: s).length, .inl h⟩
  · rintro ⟨k, rfl | rfl⟩
    · exact .unsigned ((isNumeral_append_iff hbase ht).2 (by simp))
    · exact .plus ((isNumeral_append_iff hbase ht).2 (by simp))

end VirtHost.Text
