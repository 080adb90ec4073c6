import Mathlib.Data.List.Induction
import VirtHost.Proofs.Pci.Grammar

/-! # Which texts are addresses

A text is an address if between blanks it has one of two forms and its numbers are small enough.

* `HexDigit`, `HexNumeral`, `Part`: digits, numerals and numerals behind an optional plus sign, given by
  the list of digits and not by how they are read.
* `isNumeral_iff_hexNumeral`: these are the numerals that are read.
* `Form`: the two forms `D:B:S.F` and `B:S.F`, with the four numbers in them, however large.
* `parse_outcome`: when a text is read, as what, and what is reported otherwise.
-/

namespace VirtHost.Pci.Address
open Text
set_option autoImplicit false

variable {n d : Nat} {c : Char} {s : List Char}

/-! ## Hexadecimal numerals -/

/-- The digits from zero on, in lower case and in upper case. -/
def HexDigit (d : Nat) (c : Char) : Prop :=
  "0123456789abcdef".toList[d]? = some c ∨ "0123456789ABCDEF".toList[d]? = some c

instance (d : Nat) (c : Char) : Decidable (HexDigit d c) :=
  inferInstanceAs (Decidable (_ ∨ _))

/-- One digit or more; each further one adds to sixteen times the value before it. -/
inductive HexNumeral : Nat → List Char → Prop
  | digit {d : Nat} {c : Char} (hc : HexDigit d c) : HexNumeral d [c]
  | concat {n d : Nat} {s : List Char} {c : Char} (hs : HexNumeral n s) (hc : HexDigit d c) :
      HexNumeral (16 * n + d) (s ++ [c])

/-- A numeral, perhaps behind a plus sign. -/
inductive Part (n : Nat) : List Char → Prop
  | unsigned {s : List Char} (hs : HexNumeral n s) : Part n s
  | plus {s : List Char} (hs : HexNumeral n s) : Part n ('+' :: s)

theorem digitValue?_ascii :
    ∀ k < 128, ∀ d < 16, digitValue? 16 (Char.ofNat k) = some d ↔ HexDigit d (Char.ofNat k) := by
  decide +kernel

theorem HexDigit.bounds (h : HexDigit d c) : d < 16 ∧ c.toNat < 128 := by
  have hbound (digits : List Char) (hlength : digits.length = 16) (hascii : ∀ c ∈ digits, c.toNat < 128)
      (hc : digits[d]? = some c) : d < 16 ∧ c.toNat < 128 := by
    obtain ⟨hd, -⟩ := List.getElem?_eq_some_iff.1 hc
    exact ⟨hlength ▸ hd, hascii c (List.mem_of_getElem? hc)⟩
  rcases h with h | h
  · exact hbound _ rfl (by simp) h
  · exact hbound _ rfl (by simp) h

theorem digitValue?_eq_some_iff_hexDigit : digitValue? 16 c = some d ↔ HexDigit d c := by
  have hascii (hd : d < 16) (hc : c.toNat < 128) : digitValue? 16 c = some d ↔ HexDigit d c := by
    have h := digitValue?_ascii c.toNat hc d hd
    rwa [Char.ofNat_toNat] at h
  constructor
  · intro h
    have hrange := toNat_of_digitValue? h
    exact (hascii (digitValue?_lt h) (by omega)).1 h
  · intro h
    exact (hascii h.bounds.1 h.bounds.2).2 h

theorem isNumeral_iff_hexNumeral : IsNumeral 16 n s ↔ HexNumeral n s := by
  constructor
  · -- A numeral is read from its head, but its value grows at its end.
    induction s using List.reverseRecOn generalizing n with
    | nil => exact fun h => absurd rfl h.1
    | append_singleton s c ih =>
      intro h
      obtain ⟨m, d, hd, rfl, hrest⟩ := isNumeral_concat_iff.1 h
      have hc := digitValue?_eq_some_iff_hexDigit.1 hd
      rcases hrest with ⟨rfl, rfl⟩ | hs
      · rw [Nat.mul_zero, Nat.zero_add]
        exact .digit hc
      · exact .concat (ih hs) hc
  · intro h
    induction h with
    | @digit d c hc =>
      have hd := digitValue?_eq_some_iff_hexDigit.2 hc
      exact isNumeral_concat_iff.2 ⟨0, d, hd, by omega, .inl ⟨rfl, rfl⟩⟩
    | @concat n d s c _ hc ih =>
      have hd := digitValue?_eq_some_iff_hexDigit.2 hc
      exact isNumeral_concat_iff.2 ⟨n, d, hd, rfl, .inr ih⟩

theorem denotes_iff_part : Denotes 16 n s ↔ Part n s := by
  constructor
  · rintro (hs | hs)
    · exact .unsigned (isNumeral_iff_hexNumeral.1 hs)
    · exact .plus (isNumeral_iff_hexNumeral.1 hs)
  · rintro (hs | hs)
    · exact .unsigned (isNumeral_iff_hexNumeral.2 hs)
    · exact .plus (isNumeral_iff_hexNumeral.2 hs)

/-! ## Forms -/

/-- Four numbers of any size, in the places of an address. -/
structure Numbers where
  domain : Nat
  bus : Nat
  slot : Nat
  function : Nat

/-- The numbers are within the ranges of an address. -/
structure Numbers.InRange (n : Numbers) : Prop where
  domain : n.domain ≤ 2 ^ 32 - 1
  bus : n.bus ≤ 255
  slot : n.slot ≤ 255
  function : n.function ≤ 255

/-- The numbers of an address. -/
def numbers (a : Address) : Numbers :=
  ⟨a.domain.toNat, a.bus.toNat, a.slot.toNat, a.function.toNat⟩

/-- A text of the form `D:B:S.F`, or `B:S.F` with domain zero. -/
inductive Form (n : Numbers) : List Char → Prop
  | long {domain bus slot function : List Char} (hdomain : Part n.domain domain) (hbus : Part n.bus bus)
      (hslot : Part n.slot slot) (hfunction : Part n.function function) :
      Form n (domain ++ ':' :: bus ++ ':' :: slot ++ '.' :: function)
  | short {bus slot function : List Char} (hdomain : n.domain = 0) (hbus : Part n.bus bus)
      (hslot : Part n.slot slot) (hfunction : Part n.function function) :
      Form n (bus ++ ':' :: slot ++ '.' :: function)

theorem inRange_numbers (a : Address) : a.numbers.InRange :=
  ⟨Nat.le_pred_of_lt a.domain.toNat_lt, Nat.le_pred_of_lt a.bus.toNat_lt,
    Nat.le_pred_of_lt a.slot.toNat_lt, Nat.le_pred_of_lt a.function.toNat_lt⟩

/-- Numbers in range are those of an address. -/
theorem exists_numbers_eq {n : Numbers} (h : n.InRange) : ∃ a : Address, a.numbers = n := by
  obtain ⟨hdomain, hbus, hslot, hfunction⟩ := h
  refine ⟨⟨.ofNat n.domain, .ofNat n.bus, .ofNat n.slot, .ofNat n.function⟩, ?_⟩
  have hbyte {k : Nat} (hk : k ≤ 255) : (UInt8.ofNat k).toNat = k :=
    UInt8.toNat_ofNat_of_lt' (Nat.lt_succ_of_le hk)
  have hword : (UInt32.ofNat n.domain).toNat = n.domain :=
    UInt32.toNat_ofNat_of_lt' (Nat.lt_succ_of_le hdomain)
  rw [numbers, hword, hbyte hbus, hbyte hslot, hbyte hfunction]

theorem written_iff_form {a : Address} : Written a s ↔ Form a.numbers s := by
  have hzero : a.domain = 0 ↔ a.numbers.domain = 0 := UInt32.toNat_inj.symm
  constructor
  · rintro (⟨hd, hb, hs, hf⟩ | ⟨hd, hb, hs, hf⟩)
    · exact .long (denotes_iff_part.1 hd) (denotes_iff_part.1 hb) (denotes_iff_part.1 hs)
        (denotes_iff_part.1 hf)
    · exact .short (hzero.1 hd) (denotes_iff_part.1 hb) (denotes_iff_part.1 hs) (denotes_iff_part.1 hf)
  · rintro (⟨hd, hb, hs, hf⟩ | ⟨hd, hb, hs, hf⟩)
    · exact .long (denotes_iff_part.2 hd) (denotes_iff_part.2 hb) (denotes_iff_part.2 hs)
        (denotes_iff_part.2 hf)
    · exact .short (hzero.2 hd) (denotes_iff_part.2 hb) (denotes_iff_part.2 hs) (denotes_iff_part.2 hf)

/-! ## Outcomes -/

theorem parse_eq_ok_or_error (text : String) : (∃ a, parse text = .ok a) ∨
    parse text = .error (.invalidPciAddress (String.ofList (trim text.toList))) := by
  rw [parse]
  cases read? (trim text.toList) with
  | none => exact .inr rfl
  | some a => exact .inl ⟨a, rfl⟩

/-- **The outcome of reading.** A text that has one of the two forms between blanks, with numbers in range,
is read as the address with these numbers. Of every other text it is reported that what stands between
its blanks is no address. -/
theorem parse_outcome (text : String) :
    (∀ a, parse text = .ok a ↔ ∃ n : Numbers, Form n (trim text.toList) ∧ n.InRange ∧ a.numbers = n) ∧
    ∀ e, parse text = .error e ↔
      (¬ ∃ n : Numbers, Form n (trim text.toList) ∧ n.InRange) ∧
        e = .invalidPciAddress (String.ofList (trim text.toList)) := by
  have hsettles : Settles
      (fun a : Address => ∃ n : Numbers, Form n (trim text.toList) ∧ n.InRange ∧ a.numbers = n)
      (fun e => (¬ ∃ n : Numbers, Form n (trim text.toList) ∧ n.InRange) ∧
        e = .invalidPciAddress (String.ofList (trim text.toList))) (parse text) := by
    refine .intro (fun a ha => ?_) (fun e he => ?_) ?_
    · obtain ⟨n, hform, -, rfl⟩ := ha
      exact parse_eq_ok_iff.2 (written_iff_form.2 hform)
    · obtain ⟨hnone, rfl⟩ := he
      rcases parse_eq_ok_or_error text with ⟨a, ha⟩ | herror
      · exact absurd ⟨a.numbers, written_iff_form.1 (parse_eq_ok_iff.1 ha), inRange_numbers a⟩ hnone
      · exact herror
    · by_cases hsome : ∃ n : Numbers, Form n (trim text.toList) ∧ n.InRange
      · obtain ⟨n, hform, hrange⟩ := hsome
        obtain ⟨a, ha⟩ := exists_numbers_eq hrange
        exact .inl ⟨a, n, hform, hrange, ha⟩
      · exact .inr ⟨_, hsome, rfl⟩
  exact ⟨hsettles.ok_iff, hsettles.error_iff⟩

end VirtHost.Pci.Address
