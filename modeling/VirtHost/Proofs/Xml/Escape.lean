import VirtHost.Proofs.Text.Denotation
import VirtHost.Proofs.Xml.Tag

/-! # Escaped values

An attribute value is written between quotes with references for the characters that have a meaning there,
and perhaps for others.

* `Reference`: the references to a character, by name and by number.
* `Escaped`: a value as it stands between quotes; `exists_escaped`: every value can be written so.
* `unescape?_escaped`: it is read back.
* `Written.Spelled`: an attribute whose value is written so.
-/

namespace VirtHost.Xml
open Text
set_option autoImplicit false

variable {c quote : Char} {name value raw digits : List Char}

/-- A reference to a character, without its ampersand and semicolon. -/
inductive Reference : Char → List Char → Prop
  | lt : Reference '<' "lt".toList
  | gt : Reference '>' "gt".toList
  | amp : Reference '&' "amp".toList
  | apos : Reference '\'' "apos".toList
  | quot : Reference '"' "quot".toList
  | decimal {c : Char} {digits : List Char} (hc : c.toNat ≠ 0) (hdigits : IsNumeral 10 c.toNat digits)
      (hlength : digits.length ≤ 7) : Reference c ('#' :: digits)
  | hexadecimal {c : Char} {digits : List Char} (hc : c.toNat ≠ 0) (hdigits : IsNumeral 16 c.toNat digits)
      (hlength : digits.length ≤ 6) : Reference c ('#' :: 'x' :: digits)

/-- A value and what stands for it between two quotes. An ampersand and the quote are written as references;
any other character may be. -/
inductive Escaped (quote : Char) : List Char → List Char → Prop
  | nil : Escaped quote [] []
  | plain {c : Char} {value raw : List Char} (hc : c ≠ '&') (hquote : c ≠ quote)
      (h : Escaped quote value raw) : Escaped quote (c :: value) (c :: raw)
  | reference {c : Char} {name value raw : List Char} (hname : Reference c name)
      (h : Escaped quote value raw) : Escaped quote (c :: value) ('&' :: name ++ ';' :: raw)

/-! ## References -/

theorem foldlM_digitValue? {base : Nat} {values : List Nat}
    (h : digits.map (digitValue? base) = values.map some) (acc : Nat) :
    (digits.foldlM (fun n c => (digitValue? base c).map (n * base + ·)) acc : Option Nat)
      = some (Nat.ofDigits base (values.reverse ++ [acc])) := by
  induction digits generalizing values acc with
  | nil =>
    obtain rfl : values = [] := by simpa using h.symm
    simp
  | cons c digits ih =>
    cases values with
    | nil => simp at h
    | cons d values =>
      obtain ⟨hd, hrest⟩ : digitValue? base c = some d ∧ digits.map (digitValue? base) = values.map some := by
        simpa using h
      rw [List.foldlM_cons, hd, ofDigits_reverse_cons]
      exact ih hrest _

theorem codePoint?_of_isNumeral {base most n : Nat} (h : IsNumeral base n digits)
    (hlength : digits.length ≤ most) : codePoint? base most digits = some n := by
  obtain ⟨-, values, hvalues, rfl⟩ := h
  rw [codePoint?, if_pos hlength, foldlM_digitValue? hvalues, Nat.ofDigits_append_zero]

theorem charOfNumber?_toNat (hc : c.toNat ≠ 0) : charOfNumber? c.toNat = some c := by
  have hvalid : c.toNat.isValidChar := c.valid
  rw [charOfNumber?, dif_pos hvalid, if_neg hc]
  rfl

theorem isNumeral_head_ne_x (h : IsNumeral 10 c.toNat digits) : ∀ rest, digits ≠ 'x' :: rest := by
  rintro rest rfl
  have hx := h.isSome_digitValue? 'x' List.mem_cons_self
  cases hx

theorem referenced?_of_reference (h : Reference c name) : referenced? name = some c := by
  cases h with
  | lt => rfl
  | gt => rfl
  | amp => rfl
  | apos => rfl
  | quot => rfl
  | @decimal _ digits hc hdigits hlength =>
    have hread : referenced? ('#' :: digits) = codePoint? 10 7 digits >>= charOfNumber? := by
      unfold referenced?
      split
      · rename_i rest heq
        exact absurd (List.cons.inj heq).2 (isNumeral_head_ne_x hdigits rest)
      · rename_i heq
        rw [(List.cons.inj heq).2]
      · rename_i hnot
        exact absurd rfl (hnot digits)
    rw [hread, codePoint?_of_isNumeral hdigits hlength]
    exact charOfNumber?_toNat hc
  | hexadecimal hc hdigits hlength =>
    have hpoint := codePoint?_of_isNumeral hdigits hlength
    simp only [referenced?, hpoint]
    exact charOfNumber?_toNat hc

theorem Reference.plain (h : Reference c name) : ∀ d ∈ name, d ≠ ';' ∧ d ≠ '&' ∧ d ≠ '"' ∧ d ≠ '\'' := by
  have hdigit {base n : Nat} (hbase : base ≤ 16) {digits : List Char} (hdigits : IsNumeral base n digits) :
      ∀ d ∈ digits, d ≠ ';' ∧ d ≠ '&' ∧ d ≠ '"' ∧ d ≠ '\'' := by
    intro d hd
    obtain ⟨value, hvalue⟩ := Option.isSome_iff_exists.1 (hdigits.isSome_digitValue? d hd)
    have hrange := toNat_of_digitValue? hvalue
    refine ⟨?_, ?_, ?_, ?_⟩ <;> rintro rfl <;> revert hrange <;> decide
  cases h with
  | lt | gt | amp | apos | quot => simp
  | decimal hc hdigits hlength =>
    exact List.forall_mem_cons.2 ⟨by decide, hdigit (by decide) hdigits⟩
  | hexadecimal hc hdigits hlength =>
    exact List.forall_mem_cons.2 ⟨by decide, List.forall_mem_cons.2 ⟨by decide, hdigit (by decide) hdigits⟩⟩

/-! ## Values -/

/-- A reference is read up to its semicolon. -/
theorem unescapeFrom_reference (hname : ∀ d ∈ name, d ≠ ';' ∧ d ≠ '&') (before rest : List Char) :
    unescapeFrom (some before) (name ++ ';' :: rest) = (do
      let found ← referenced? (before.reverse ++ name)
      let value ← unescapeFrom none rest
      pure (found :: value)) := by
  induction name generalizing before with
  | nil => simp [unescapeFrom]
  | cons d name ih =>
    obtain ⟨⟨hsemicolon, hampersand⟩, hrest⟩ := List.forall_mem_cons.1 hname
    rw [List.cons_append, unescapeFrom]
    simp only [hsemicolon, hampersand, if_false]
    rw [ih hrest]
    simp

/-- **What is escaped is read back.** -/
theorem unescape?_escaped (h : Escaped quote value raw) : unescape? raw = some value := by
  rw [unescape?]
  induction h with
  | nil => rfl
  | plain hc _ _ ih =>
    rw [unescapeFrom]
    simp only [hc, if_false, ih, Option.map_some]
  | @reference c name value raw hname _ ih =>
    have hplain : ∀ d ∈ name, d ≠ ';' ∧ d ≠ '&' := fun d hd => ⟨(hname.plain d hd).1, (hname.plain d hd).2.1⟩
    rw [List.cons_append, unescapeFrom]
    simp only [if_true]
    rw [unescapeFrom_reference hplain, ih, List.reverse_nil, List.nil_append,
      referenced?_of_reference hname]
    rfl

/-- The quote does not stand in what is escaped for it. -/
theorem quote_notMem_of_escaped (hquote : quote = '"' ∨ quote = '\'') (h : Escaped quote value raw) :
    quote ∉ raw := by
  have hsigns : quote ≠ '&' ∧ quote ≠ ';' := by
    rcases hquote with rfl | rfl <;> decide
  induction h with
  | nil => exact List.not_mem_nil
  | plain _ hne _ ih => exact List.not_mem_cons_of_ne_of_not_mem (Ne.symm hne) ih
  | @reference c name value raw hname _ ih =>
    have hin : quote ∉ name := by
      intro hmem
      obtain ⟨-, -, hdouble, hsingle⟩ := hname.plain quote hmem
      rcases hquote with h | h
      · exact hdouble h
      · exact hsingle h
    simp only [List.cons_append, List.mem_cons, List.mem_append, not_or]
    exact ⟨hsigns.1, hin, hsigns.2, ih⟩

theorem exists_escaped (hquote : quote = '"' ∨ quote = '\'') (value : List Char) :
    ∃ raw, Escaped quote value raw := by
  induction value with
  | nil => exact ⟨[], .nil⟩
  | cons c value ih =>
    obtain ⟨raw, hraw⟩ := ih
    by_cases hc : c = '&'
    · subst hc
      exact ⟨_, .reference .amp hraw⟩
    · by_cases hq : c = quote
      · subst hq
        rcases hquote with rfl | rfl
        · exact ⟨_, .reference .quot hraw⟩
        · exact ⟨_, .reference .apos hraw⟩
      · exact ⟨_, .plain hc hq hraw⟩

namespace Written

/-- An attribute between quotes of either kind, its value escaped. -/
structure Spelled (a : Written) : Prop where
  key : IsName a.key
  quote : a.quote = '"' ∨ a.quote = '\''
  value : Escaped a.quote a.value.toList a.raw

theorem Spelled.valid {a : Written} (h : a.Spelled) : a.Valid :=
  ⟨h.key, h.quote, quote_notMem_of_escaped h.quote h.value, unescape?_escaped h.value⟩

theorem exists_spelled {key : String} (hkey : IsName key) (value : String) :
    ∃ a : Written, a.Spelled ∧ a.key = key ∧ a.value = value := by
  obtain ⟨raw, hraw⟩ := exists_escaped (.inl rfl) value.toList
  exact ⟨⟨key, value, '"', raw⟩, ⟨hkey, .inl rfl, hraw⟩, rfl, rfl⟩

end Written

end VirtHost.Xml
