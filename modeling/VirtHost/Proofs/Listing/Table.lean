import Mathlib.Data.List.Forall2
import VirtHost.Listing.Vm
import VirtHost.Proofs.Text.Words

/-! # Printed tables

* `Tabulates`: a text that shows a table, its headings above a rule and one row a line below it. How wide
  the gaps are does not matter, and blank lines may stand anywhere.
* `tableWords_of_tabulates`: the rows that are read from such a text.
* `tabulates_tableWords`: every text with a rule is one.
-/

namespace VirtHost.Listing
open Text
set_option autoImplicit false

variable {rows : List (List (List Char))} {row : List (List Char)} {line text : List Char}

/-- Three dashes or more and nothing else. -/
def IsRule (row : List (List Char)) : Prop :=
  ∃ n, 3 ≤ n ∧ row = [List.replicate n '-']

/-- A text that shows a table with these rows. -/
def Tabulates (rows : List (List (List Char))) (text : List Char) : Prop :=
  ∃ heading rule body ls, text = join ['\n'] ls ∧ List.Forall₂ Spaced (heading ++ rule :: body) ls ∧
    (∀ row ∈ heading, ¬ IsRule row) ∧ IsRule rule ∧ rows = body.filter fun row => !row.isEmpty

/-! ## Rules -/

theorem isRule_eq_true_iff : isRule line = true ↔ ∃ n, 3 ≤ n ∧ line = List.replicate n '-' := by
  constructor
  · intro h
    obtain ⟨hlength, hall⟩ : 3 ≤ line.length ∧ ∀ c ∈ line, c = '-' := by simpa [isRule] using h
    exact ⟨line.length, hlength, List.eq_replicate_iff.2 ⟨rfl, hall⟩⟩
  · rintro ⟨n, hn, rfl⟩
    simp [isRule, hn]

theorem isWord_replicate_dash {n : ℕ} (h : 3 ≤ n) : IsWord (List.replicate n '-') := by
  have hdash : isBlank '-' = false := by decide
  refine ⟨by simp; omega, fun c hc => ?_⟩
  rw [List.eq_of_mem_replicate hc, hdash]

theorem isRule_trim_iff (h : Spaced row line) : isRule (trim line) = true ↔ IsRule row := by
  rw [isRule_eq_true_iff]
  constructor
  · rintro ⟨n, hn, htrim⟩
    refine ⟨n, hn, ?_⟩
    rw [← words_of_spaced h, ← words_trim, htrim, words_of_isWord (isWord_replicate_dash hn)]
  · rintro ⟨n, hn, rfl⟩
    exact ⟨n, hn, trim_of_spaced_singleton h⟩

/-! ## Rows -/

theorem tableWords_ofList (text : List Char) :
    tableWords (String.ofList text)
      = ((((lines text).map trim).dropWhile fun l => !isRule l).drop 1
          |>.filter fun l => !l.isEmpty).map words := by
  rw [tableWords, tableRows, String.toList_ofList]

/-- The rows among trimmed lines. -/
def rowsBelow (ls : List (List Char)) : List (List Char) :=
  ((ls.dropWhile fun l => !isRule l).drop 1).filter fun l => !l.isEmpty

theorem rowsBelow_append_nil (ls : List (List Char)) : rowsBelow (ls ++ [[]]) = rowsBelow ls := by
  unfold rowsBelow
  rw [List.dropWhile_append]
  cases ls.dropWhile fun l => !isRule l with
  | nil => simp [isRule]
  | cons l rest => simp

/-- What follows the last line feed is a row only if it is not empty, and so is any other line. -/
theorem tableRows_join {ls : List (List Char)} (hne : ls ≠ []) (h : ∀ l ∈ ls, '\n' ∉ l) :
    tableRows (String.ofList (join ['\n'] ls)) = rowsBelow (ls.map trim) := by
  have hsplit : (join ['\n'] ls).splitOn '\n' = ls := List.splitOn_intercalate '\n' h hne
  have hlines := map_trim_splitOn (join ['\n'] ls)
  rw [hsplit] at hlines
  unfold tableRows
  rw [String.toList_ofList]
  rcases hlines with heq | heq
  · rw [heq, rowsBelow]
  · rw [heq, rowsBelow_append_nil, rowsBelow]

theorem words_of_forall₂ {body : List (List (List Char))} {ls : List (List Char)}
    (h : List.Forall₂ Spaced body ls) :
    ((ls.map trim).filter fun l => !l.isEmpty).map words = body.filter fun row => !row.isEmpty := by
  induction h with
  | nil => rfl
  | @cons row line body ls hline _ ih =>
    have hwords : words (trim line) = row := by rw [words_trim, words_of_spaced hline]
    cases row with
    | nil =>
      have htrim : trim line = [] := trim_eq_nil_iff.2 (words_of_spaced hline)
      simpa [htrim] using ih
    | cons w row =>
      have htrim : trim line ≠ [] := fun hnil => by
        rw [hnil, words_nil] at hwords
        cases hwords
      simpa [htrim, hwords] using ih

theorem exists_below {heading body : List (List (List Char))} {rule : List (List Char)}
    {ls : List (List Char)} (h : List.Forall₂ Spaced (heading ++ rule :: body) ls)
    (hheading : ∀ row ∈ heading, ¬ IsRule row) (hrule : IsRule rule) :
    ∃ below, List.Forall₂ Spaced body below ∧
      rowsBelow (ls.map trim) = (below.map trim).filter fun l => !l.isEmpty := by
  induction heading generalizing ls with
  | nil =>
    cases h with
    | cons hline hbelow =>
      have htrim := (isRule_trim_iff hline).2 hrule
      exact ⟨_, hbelow, by simp [rowsBelow, htrim]⟩
  | cons row heading ih =>
    cases h with
    | cons hline hrest =>
      obtain ⟨below, hbelow, hrows⟩ := ih hrest fun r hr => hheading r (by simp [hr])
      have htrim : isRule (trim _) ≠ true := fun h =>
        hheading row (by simp) ((isRule_trim_iff hline).1 h)
      refine ⟨below, hbelow, ?_⟩
      rw [← hrows]
      simp [rowsBelow, htrim]

theorem newline_notMem_of_forall₂ {ls : List (List Char)} (h : List.Forall₂ Spaced rows ls) :
    ∀ l ∈ ls, '\n' ∉ l := by
  induction h with
  | nil => simp
  | cons hline _ ih => exact List.forall_mem_cons.2 ⟨newline_notMem_of_spaced hline, ih⟩

theorem tableWords_of_tabulates (h : Tabulates rows text) : tableWords (String.ofList text) = rows := by
  obtain ⟨heading, rule, body, ls, rfl, hls, hheading, hrule, rfl⟩ := h
  obtain ⟨below, hbelow, hrows⟩ := exists_below hls hheading hrule
  have hne : ls ≠ [] := by
    rintro rfl
    simp at hls
  rw [tableWords, tableRows_join hne (newline_notMem_of_forall₂ hls), hrows, words_of_forall₂ hbelow]

theorem tabulates_tableWords (h : ∃ l ∈ text.splitOn '\n', isRule (trim l) = true) :
    Tabulates (tableWords (String.ofList text)) text := by
  obtain ⟨rule, hfind⟩ := Option.isSome_iff_exists.1 (List.find?_isSome.2 h)
  obtain ⟨hrule, heading, body, hsplit, hheading⟩ := List.find?_eq_some_iff_append.1 hfind
  have hspaced : ∀ l ∈ text.splitOn '\n', Spaced (words l) l := fun l hl =>
    spaced_words (notMem_of_mem_splitOn hl)
  have hrows : Tabulates ((body.map words).filter fun row => !row.isEmpty) text := by
    refine ⟨heading.map words, words rule, body.map words, text.splitOn '\n',
      (List.intercalate_splitOn '\n').symm, ?_, ?_, ?_, rfl⟩
    · rw [← List.map_cons, ← List.map_append, ← hsplit, List.forall₂_map_left_iff]
      exact List.forall₂_same.2 hspaced
    · rw [List.forall_mem_map]
      intro l hl
      have hnot : ¬ isRule (trim l) = true := by simpa using hheading l hl
      rwa [isRule_trim_iff (hspaced l (by simp [hsplit, hl]))] at hnot
    · exact (isRule_trim_iff (hspaced rule (by simp [hsplit]))).1 hrule
  rwa [tableWords_of_tabulates hrows]

end VirtHost.Listing
