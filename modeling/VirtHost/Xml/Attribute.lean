import VirtHost.Text.Numeral

/-! # Attributes

* `unescape?`: an attribute value with its references resolved: the five named characters and
  characters by number.
* `attributes?`: the attributes of a tag. Values are quoted and names are not repeated.

Everything that breaks these rules has no result.
-/

namespace VirtHost.Xml
open Text
set_option autoImplicit false

def isMarkupBlank (c : Char) : Bool :=
  c = ' ' || c = '\r' || c = '\n' || c = '\t'

/-! ## References -/

/-- The number with at most `most` digits in base `base`; no digits are zero. -/
def codePoint? (base most : Nat) (digits : List Char) : Option Nat :=
  if digits.length ≤ most then
    digits.foldlM (fun n c => (digitValue? base c).map (n * base + ·)) 0
  else none

/-- The character with a given number, which is neither zero nor a surrogate. -/
def charOfNumber? (n : Nat) : Option Char :=
  if h : n.isValidChar then (if n = 0 then none else some (Char.ofNatAux n h)) else none

/-- The character that a reference stands for, given without its ampersand and semicolon. -/
def referenced? (reference : List Char) : Option Char :=
  match reference with
  | '#' :: 'x' :: digits => codePoint? 16 6 digits >>= charOfNumber?
  | '#' :: digits => codePoint? 10 7 digits >>= charOfNumber?
  | _ =>
    if reference = "lt".toList then some '<'
    else if reference = "gt".toList then some '>'
    else if reference = "amp".toList then some '&'
    else if reference = "apos".toList then some '\''
    else if reference = "quot".toList then some '"'
    else none

/-- A value with its references resolved; `open?` holds the characters of the reference being read,
last one first. -/
def unescapeFrom (open? : Option (List Char)) : List Char → Option (List Char)
  | [] => if open?.isNone then some [] else none
  | c :: rest =>
    match open? with
    | none => if c = '&' then unescapeFrom (some []) rest else (unescapeFrom none rest).map (c :: ·)
    | some reference =>
      if c = ';' then do
        let found ← referenced? reference.reverse
        let value ← unescapeFrom none rest
        pure (found :: value)
      else if c = '&' then none
      else unescapeFrom (some (c :: reference)) rest

/-- An attribute value with its references resolved. -/
def unescape? (value : List Char) : Option (List Char) :=
  unescapeFrom none value

/-! ## Attributes -/

/-- The name at the head of a text that does not begin with a blank: its first character and what
follows up to an equals sign or a blank. -/
def keyOf (first : Char) (rest : List Char) : List Char :=
  first :: rest.takeWhile fun c => c != '=' && !isMarkupBlank c

/-- The text after a name and its equals sign, without leading blanks. -/
def afterEquals? (rest : List Char) : Option (List Char) :=
  match (rest.dropWhile fun c => c != '=' && !isMarkupBlank c).dropWhile isMarkupBlank with
  | '=' :: value => some (value.dropWhile isMarkupBlank)
  | _ => none

/-- The quoted value at the head of a text and the text after it. -/
def quoted? : List Char → Option (List Char × List Char)
  | [] => none
  | quote :: rest =>
    if quote = '"' ∨ quote = '\'' then
      match rest.dropWhile (· != quote) with
      | [] => none
      | _ :: after => some (rest.takeWhile (· != quote), after)
    else none

theorem length_afterEquals? {rest value : List Char} (h : afterEquals? rest = some value) :
    value.length ≤ rest.length := by
  unfold afterEquals? at h
  split at h
  · next tail heq =>
    injection h with h
    subst h
    have h1 := (List.dropWhile_sublist isMarkupBlank (l := tail)).length_le
    have h2 := (List.dropWhile_sublist isMarkupBlank
      (l := rest.dropWhile fun c => c != '=' && !isMarkupBlank c)).length_le
    have h3 := (List.dropWhile_sublist (fun c => c != '=' && !isMarkupBlank c) (l := rest)).length_le
    rw [heq, List.length_cons] at h2
    omega
  · cases h

theorem length_quoted? {s value after : List Char} (h : quoted? s = some (value, after)) :
    after.length < s.length := by
  unfold quoted? at h
  split at h
  · cases h
  · next quote rest =>
    split at h
    · split at h
      · cases h
      · next heq =>
        injection h with h
        injection h with _ h
        subst h
        have := (List.dropWhile_sublist (· != quote) (l := rest)).length_le
        rw [heq, List.length_cons] at this
        simp only [List.length_cons]
        omega
    · cases h

/-- The attributes in a text, the names in `seen` being taken. -/
def attributesFrom (seen : List (List Char)) (s : List Char) : Option (List (String × String)) :=
  match _hs : s.dropWhile isMarkupBlank with
  | [] => some []
  | first :: rest =>
    let key := keyOf first rest
    match _hv : afterEquals? rest with
    | none => none
    | some value =>
      if key ∈ seen then none
      else
        match _hq : quoted? value with
        | none => none
        | some (raw, after) => do
          let text ← unescape? raw
          let others ← attributesFrom (key :: seen) after
          pure ((String.ofList key, String.ofList text) :: others)
termination_by s.length
decreasing_by
  have h1 := (List.dropWhile_sublist isMarkupBlank (l := s)).length_le
  have h2 := length_afterEquals? _hv
  have h3 := length_quoted? _hq
  rw [_hs, List.length_cons] at h1
  omega

def attributes? (s : List Char) : Option (List (String × String)) :=
  attributesFrom [] s

end VirtHost.Xml
