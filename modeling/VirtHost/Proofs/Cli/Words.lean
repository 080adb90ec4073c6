import VirtHost.Proofs.Text.Scan

/-! # Names and values in the words of a command

* `Named`, `Given`: which parameters words name, and which values they give, as it is written.
* `named_concat`, `given_concat`: what one more word names and gives.
-/

namespace VirtHost.Cli
open Text (splitOnce)
set_option autoImplicit false

/-- A word that is a value where names of parameters may stand: a dash, or one that does not begin with a
dash. -/
def IsValue (word : String) : Prop :=
  word = "-" ∨ word.toList.head? ≠ some '-'

/-- The word is the name of a parameter, alone or with a value. -/
def Names (word name : String) : Prop :=
  word = "--" ++ name ∨ ∃ value, word = "--" ++ name ++ "=" ++ value

/-- A parameter is named by one of the words before two dashes. -/
def Named (words : List String) (name : String) : Prop :=
  ∃ before word after, words = before ++ word :: after ∧ "--" ∉ before ∧ Names word name

/-- A parameter is named before two dashes and has a value, in one word or in two. -/
inductive Given (words : List String) (name value : String) : Prop
  | joined (before after : List String)
      (hwords : words = before ++ ("--" ++ name ++ "=" ++ value) :: after) (hfree : "--" ∉ before)
  | apart (before after : List String)
      (hwords : words = before ++ ("--" ++ name) :: value :: after) (hfree : "--" ∉ before) (hvalue : IsValue value)

/-- A name that can stand on a command line. -/
structure IsName (name : String) : Prop where
  ne_empty : name ≠ ""
  equals : '=' ∉ name.toList

section
variable {words before after : List String} {word name other value : String}

theorem toList_long (name : String) : ("--" ++ name).toList = '-' :: '-' :: name.toList := by
  simp

theorem toList_joined (name value : String) :
    ("--" ++ name ++ "=" ++ value).toList = '-' :: '-' :: (name.toList ++ '=' :: value.toList) := by
  simp

theorem long_ne_separator (h : IsName name) : "--" ++ name ≠ "--" := by
  simpa using h.ne_empty

theorem joined_ne_separator : "--" ++ name ++ "=" ++ value ≠ "--" := by
  intro heq
  have hlist := congrArg String.toList heq
  rw [toList_joined] at hlist
  simp at hlist

theorem joined_ne_long (h : '=' ∉ other.toList) : "--" ++ name ++ "=" ++ value ≠ "--" ++ other := by
  intro heq
  have hlist := congrArg String.toList heq
  rw [toList_joined, toList_long] at hlist
  simp only [List.cons.injEq, true_and] at hlist
  exact h (by simp [← hlist])

theorem joined_inj (h : '=' ∉ name.toList) (hother : '=' ∉ other.toList) {otherValue : String}
    (heq : "--" ++ name ++ "=" ++ value = "--" ++ other ++ "=" ++ otherValue) :
    name = other ∧ value = otherValue := by
  have hlist := congrArg String.toList heq
  rw [toList_joined, toList_joined] at hlist
  simp only [List.cons.injEq, true_and] at hlist
  have hsplit := congrArg (splitOnce '=') hlist
  rw [Text.splitOnce_append h, Text.splitOnce_append hother] at hsplit
  simpa [String.toList_inj] using hsplit

theorem not_isValue_of_toList {rest : List Char} (h : word.toList = '-' :: '-' :: rest) : ¬ IsValue word := by
  rintro (rfl | hhead)
  · simp at h
  · simp [h] at hhead

theorem isValue_of_forall_ne (h : ∀ c rest, word.toList ≠ '-' :: c :: rest) : IsValue word := by
  cases hword : word.toList with
  | nil => exact .inr (by simp [hword])
  | cons c rest =>
    by_cases hdash : c = '-'
    · subst hdash
      cases rest with
      | nil => exact .inl (String.toList_inj.1 hword)
      | cons d rest => exact absurd hword (h d rest)
    · exact .inr (by simp [hword, hdash])

theorem IsValue.ne_separator (h : IsValue word) : word ≠ "--" := by
  rintro rfl
  exact not_isValue_of_toList rfl h

theorem IsValue.ne_long (h : IsValue word) : word ≠ "--" ++ name := by
  rintro rfl
  exact not_isValue_of_toList (toList_long name) h

theorem IsValue.not_names (h : IsValue word) : ¬ Names word name := by
  rintro (hlong | ⟨value, rfl⟩)
  · exact h.ne_long hlong
  · exact not_isValue_of_toList (toList_joined name value) h

theorem not_names_separator (h : IsName name) : ¬ Names "--" name := by
  rintro (heq | ⟨value, heq⟩)
  · exact long_ne_separator h heq.symm
  · exact joined_ne_separator heq.symm

theorem names_long_iff (h : '=' ∉ other.toList) : Names ("--" ++ other) name ↔ other = name := by
  constructor
  · rintro (heq | ⟨value, heq⟩)
    · simpa using heq
    · exact absurd heq.symm (joined_ne_long h)
  · rintro rfl
    exact .inl rfl

theorem names_joined_iff (h : '=' ∉ name.toList) (hother : '=' ∉ other.toList) :
    Names ("--" ++ other ++ "=" ++ value) name ↔ other = name := by
  constructor
  · rintro (heq | ⟨otherValue, heq⟩)
    · exact absurd heq (joined_ne_long h)
    · exact (joined_inj hother h heq).1
  · rintro rfl
    exact .inr ⟨value, rfl⟩

theorem not_given_nil : ¬ Given [] name value := by
  rintro (⟨before, after, hwords, -⟩ | ⟨before, after, hwords, -, -⟩)
  · simp at hwords
  · simp at hwords

/-- A word after others names a parameter if there were no two dashes before it. -/
theorem named_concat : Named (words ++ [word]) name ↔ Named words name ∨ "--" ∉ words ∧ Names word name := by
  constructor
  · rintro ⟨before, found, after, hwords, hfree, hnames⟩
    rcases List.eq_nil_or_concat after with rfl | ⟨after, last, rfl⟩
    · obtain ⟨rfl, hfound⟩ := List.append_inj' hwords rfl
      obtain rfl : word = found := by simpa using hfound
      exact .inr ⟨hfree, hnames⟩
    · rw [List.concat_eq_append, ← List.cons_append, ← List.append_assoc] at hwords
      exact .inl ⟨before, found, after, (List.append_inj' hwords rfl).1, hfree, hnames⟩
  · rintro (⟨before, found, after, rfl, hfree, hnames⟩ | ⟨hfree, hnames⟩)
    · exact ⟨before, found, after ++ [word], by simp, hfree, hnames⟩
    · exact ⟨words, word, [], rfl, hfree, hnames⟩

/-- A word after others gives a value if there were no two dashes before it: behind a name, or as the value
of the name in the word before. -/
theorem given_concat (h : IsName name) : Given (words ++ [word]) name value ↔ Given words name value ∨
    "--" ∉ words ∧ (word = "--" ++ name ++ "=" ++ value ∨
      words.getLast? = some ("--" ++ name) ∧ IsValue word ∧ word = value) := by
  constructor
  · rintro (⟨before, after, hwords, hfree⟩ | ⟨before, after, hwords, hfree, hvalue⟩)
    · rcases List.eq_nil_or_concat after with rfl | ⟨after, last, rfl⟩
      · obtain ⟨rfl, hword⟩ := List.append_inj' hwords rfl
        exact .inr ⟨hfree, .inl (by simpa using hword)⟩
      · rw [List.concat_eq_append, ← List.cons_append, ← List.append_assoc] at hwords
        exact .inl (.joined before after (List.append_inj' hwords rfl).1 hfree)
    · rcases List.eq_nil_or_concat after with rfl | ⟨after, last, rfl⟩
      · rw [List.append_cons before] at hwords
        obtain ⟨rfl, hword⟩ := List.append_inj' hwords rfl
        obtain rfl : word = value := by simpa using hword
        refine .inr ⟨?_, .inr ⟨by simp, hvalue, rfl⟩⟩
        rw [List.mem_append, List.mem_singleton, not_or]
        exact ⟨hfree, (long_ne_separator h).symm⟩
      · rw [List.concat_eq_append, ← List.cons_append, ← List.cons_append, ← List.append_assoc] at hwords
        exact .inl (.apart before after (List.append_inj' hwords rfl).1 hfree hvalue)
  · rintro ((⟨before, after, rfl, hfree⟩ | ⟨before, after, rfl, hfree, hvalue⟩) |
      ⟨hfree, rfl | ⟨hlast, hvalue, rfl⟩⟩)
    · exact .joined before (after ++ [word]) (by simp) hfree
    · exact .apart before (after ++ [word]) (by simp) hfree hvalue
    · exact .joined words [] rfl hfree
    · obtain ⟨before, rfl⟩ := List.getLast?_eq_some_iff.1 hlast
      exact .apart before [] (by simp) (fun hmem => hfree (List.mem_append_left _ hmem)) hvalue

end
end VirtHost.Cli
