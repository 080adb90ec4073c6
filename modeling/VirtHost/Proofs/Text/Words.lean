import Mathlib.Data.List.DropRight
import Mathlib.Data.List.TakeWhile
import VirtHost.Proofs.Text.Scan

/-! # Words and the gaps between them

* `words_append_blank`: a blank ends a word. What else is said about words follows from this.
* `words_trim`: trimming a text does not change its words.
* `Spaced`: a line on which some words stand, with gaps around them.
* `words_of_spaced`: these are its words.
-/

namespace VirtHost.Text
set_option autoImplicit false

variable {c : Char} {s t w gap gap' : List Char} {ws : List (List Char)}

/-- A text of blanks, on one line. -/
def IsGap (s : List Char) : Prop :=
  ∀ c ∈ s, isBlank c = true ∧ c ≠ '\n'

/-- A text without blanks that is not empty. -/
def IsWord (s : List Char) : Prop :=
  s ≠ [] ∧ ∀ c ∈ s, isBlank c = false

instance : DecidablePred IsGap := fun s =>
  List.decidableBAll (fun c => isBlank c = true ∧ c ≠ '\n') s

instance : DecidablePred IsWord := fun s =>
  have := List.decidableBAll (fun c => isBlank c = false) s
  inferInstanceAs (Decidable (s ≠ [] ∧ ∀ c ∈ s, isBlank c = false))

/-! ## The words of a text -/

theorem words_nil : words [] = [] := rfl

theorem words_append_blank (hc : isBlank c = true) (s t : List Char) :
    words (s ++ c :: t) = words s ++ words t := by
  unfold words
  rw [List.splitOnP_append_cons s t hc, List.filter_append]

theorem words_cons_blank (hc : isBlank c = true) (s : List Char) : words (c :: s) = words s :=
  words_append_blank hc [] s

theorem words_blanks_append (h : ∀ c ∈ s, isBlank c = true) (t : List Char) :
    words (s ++ t) = words t := by
  induction s with
  | nil => rfl
  | cons c s ih =>
    rw [List.cons_append, words_cons_blank (h c (by simp))]
    exact ih fun d hd => h d (by simp [hd])

theorem words_append_blanks (h : ∀ c ∈ t, isBlank c = true) (s : List Char) :
    words (s ++ t) = words s := by
  cases t with
  | nil => rw [List.append_nil]
  | cons c t =>
    have hrest := words_blanks_append (s := t) (fun d hd => h d (by simp [hd])) []
    rw [List.append_nil] at hrest
    rw [words_append_blank (h c (by simp)), hrest, words_nil, List.append_nil]

theorem words_of_isWord (h : IsWord w) : words w = [w] := by
  unfold words
  rw [List.splitOnP_eq_singleton h.2]
  simp [h.1]

theorem words_ne_nil_of_not_blank (hc : isBlank c = false) (s : List Char) : words (c :: s) ≠ [] := by
  obtain ⟨piece, pieces, h⟩ := List.exists_cons_of_ne_nil (List.splitOnP_ne_nil isBlank s)
  unfold words
  rw [List.splitOnP_cons_eq_if_modifyHead, h]
  simp [hc]

/-! ## Trimming -/

theorem words_trimStart (s : List Char) : words (trimStart s) = words s := by
  have hblank : ∀ c ∈ s.takeWhile isBlank, isBlank c = true := fun c hc => List.mem_takeWhile_imp hc
  have h := words_blanks_append hblank (s.dropWhile isBlank)
  rw [List.takeWhile_append_dropWhile] at h
  exact h.symm

theorem words_trimEnd (s : List Char) : words (trimEnd s) = words s := by
  have hblank : ∀ c ∈ (s.reverse.takeWhile isBlank).reverse, isBlank c = true := fun c hc =>
    List.mem_takeWhile_imp (List.mem_reverse.1 hc)
  have h := words_append_blanks hblank (trimEnd s)
  rw [trimEnd, ← List.reverse_append, List.takeWhile_append_dropWhile, List.reverse_reverse] at h
  exact h.symm

theorem words_trim (s : List Char) : words (trim s) = words s := by
  rw [trim, words_trimEnd, words_trimStart]

theorem trimStart_blanks_append (h : ∀ c ∈ s, isBlank c = true) (t : List Char) :
    trimStart (s ++ t) = trimStart t :=
  List.dropWhile_append_of_pos h

theorem trim_blanks_append (h : ∀ c ∈ s, isBlank c = true) (t : List Char) :
    trim (s ++ t) = trim t := by
  rw [trim, trimStart_blanks_append h, trim]

theorem trimEnd_append_blanks (h : ∀ c ∈ t, isBlank c = true) (s : List Char) :
    trimEnd (s ++ t) = trimEnd s := by
  rw [trimEnd, List.reverse_append, List.dropWhile_append_of_pos (by simpa using h)]
  rfl

theorem trim_append_blanks (h : ∀ c ∈ t, isBlank c = true) (s : List Char) :
    trim (s ++ t) = trim s := by
  by_cases hs : s.dropWhile isBlank = []
  · have hstart : trimStart (s ++ t) = [] := by
      simpa [trimStart, List.dropWhile_append, hs] using h
    rw [trim, hstart, trim, trimStart, hs]
  · have hstart : trimStart (s ++ t) = trimStart s ++ t := by
      simp [trimStart, List.dropWhile_append, hs]
    rw [trim, hstart, trimEnd_append_blanks h, trim]

theorem exists_eq_trimEnd (s : List Char) :
    ∃ gap, (∀ c ∈ gap, isBlank c = true) ∧ s = trimEnd s ++ gap := by
  refine ⟨(s.reverse.takeWhile isBlank).reverse, ?_, ?_⟩
  · exact fun c hc => List.mem_takeWhile_imp (List.mem_reverse.1 hc)
  · rw [trimEnd, ← List.reverse_append, List.takeWhile_append_dropWhile, List.reverse_reverse]

theorem trim_trimEnd (s : List Char) : trim (trimEnd s) = trim s := by
  obtain ⟨gap, hgap, hs⟩ := exists_eq_trimEnd s
  conv => rhs; rw [hs, trim_append_blanks hgap]

theorem trim_trim (s : List Char) : trim (trim s) = trim s := by
  have hend : trimEnd (trim s) = trim s := by
    simp [trim, trimEnd, List.dropWhile_idempotent]
  have hstart : trimStart (trim s) = trim s := by
    cases htrim : trim s with
    | nil => rfl
    | cons c rest =>
      -- the first character that is left is the first one that is not blank
      obtain ⟨gap, -, hgap⟩ := exists_eq_trimEnd (trimStart s)
      have hhead := List.head?_dropWhile_not isBlank s
      have hc : (s.dropWhile isBlank).head? = some c := by
        rw [← trimStart, hgap, ← trim, htrim]
        rfl
      rw [hc] at hhead
      have hblank : isBlank c = false := by simpa using hhead
      simp [trimStart, hblank]
  rw [trim, hstart, hend]

/-- The carriage return at the end of a line is a blank. -/
theorem trim_dropReturn (line : List Char) : trim (dropReturn line) = trim line := by
  by_cases hlast : line.getLast? = some '\r'
  · obtain ⟨rest, rfl⟩ := List.getLast?_eq_some_iff.1 hlast
    have hreturn : ∀ c ∈ ['\r'], isBlank c = true := by
      rw [List.forall_mem_singleton]
      decide
    simp [dropReturn, trim_append_blanks hreturn]
  · simp [dropReturn, hlast]

theorem words_dropReturn (line : List Char) : words (dropReturn line) = words line := by
  rw [← words_trim, trim_dropReturn, words_trim]

/-- Between line feeds stand the lines of a text, perhaps with an empty one at the end. -/
theorem map_trim_splitOn (s : List Char) : (s.splitOn '\n').map trim = (lines s).map trim ∨
    (s.splitOn '\n').map trim = (lines s).map trim ++ [[]] := by
  obtain ⟨front, last, hsplit⟩ : ∃ front last, s.splitOn '\n' = front ++ [last] :=
    ⟨_, _, (List.dropLast_append_getLast (List.splitOnP_ne_nil (· == '\n') s)).symm⟩
  have hfront : (front.map dropReturn).map trim = front.map trim := by
    rw [List.map_map]
    exact List.map_congr_left fun l _ => trim_dropReturn l
  have hlines : (lines s).map trim = front.map trim ++ ([last].filter fun l => !l.isEmpty).map trim := by
    simp [lines, hsplit, ← hfront]
  rw [hsplit, hlines, List.map_append]
  cases last with
  | nil => exact .inr (by simp [show trim [] = [] from rfl])
  | cons c rest => exact .inl rfl

/-- A line has no words if nothing of it is left by trimming. -/
theorem trim_eq_nil_iff : trim s = [] ↔ words s = [] := by
  constructor
  · intro h
    rw [← words_trim, h, words_nil]
  · intro h
    have hblank : ∀ c ∈ trimStart s, isBlank c = true := by
      cases hs : trimStart s with
      | nil => simp
      | cons c rest =>
        have hc : isBlank c = false := by
          have := List.head?_dropWhile_not isBlank s
          rw [← trimStart, hs] at this
          simpa using this
        rw [← words_trimStart, hs] at h
        exact absurd h (words_ne_nil_of_not_blank hc rest)
    have hnone := trimEnd_append_blanks hblank []
    rwa [List.nil_append] at hnone

theorem trim_isWord (hw : IsWord w) (hgap : ∀ c ∈ gap, isBlank c = true)
    (hgap' : ∀ c ∈ gap', isBlank c = true) : trim (gap ++ (w ++ gap')) = w := by
  obtain ⟨c, rest, rfl⟩ := List.exists_cons_of_ne_nil hw.1
  have hstart : trimStart (c :: rest ++ gap') = c :: rest ++ gap' := by
    simp [trimStart, hw.2 c (by simp)]
  rw [trim, trimStart_blanks_append hgap, hstart, trimEnd_append_blanks hgap']
  have htrim := trim_of_forall hw.2
  rwa [trim, trimStart, dropWhile_of_forall hw.2] at htrim

/-- Only what stands behind a trimmed text is trimmed. -/
theorem trimEnd_append (hs : trimEnd s = s) (t : List Char) : trimEnd (s ++ t) = s ++ trimEnd t := by
  have hend : s.reverse.dropWhile isBlank = s.reverse := by
    rw [← List.reverse_inj, ← trimEnd, hs, List.reverse_reverse]
  rw [trimEnd, trimEnd, List.reverse_append, List.dropWhile_append, hend]
  split
  · rename_i hblank
    simp [List.isEmpty_iff.1 hblank]
  · simp

theorem trimStart_append (hs : trimStart s = s) (hne : s ≠ []) (t : List Char) :
    trimStart (s ++ t) = s ++ t := by
  obtain ⟨c, rest, rfl⟩ := List.exists_cons_of_ne_nil hne
  have hhead := List.head?_dropWhile_not isBlank (c :: rest)
  rw [← trimStart, hs] at hhead
  have hc : isBlank c = false := by simpa using hhead
  simp [trimStart, hc]

theorem trim_append (hw : IsWord w) (t : List Char) : trim (w ++ t) = w ++ trimEnd t := by
  have hstart : trimStart w = w := dropWhile_of_forall hw.2
  have hend : trimEnd w = w := by
    rw [trimEnd, dropWhile_of_forall fun c hc => hw.2 c (List.mem_reverse.1 hc), List.reverse_reverse]
  rw [trim, trimStart_append hstart hw.1, trimEnd_append hend]

/-! ## Lines -/

/-- A line on which some words stand in order, with gaps between them and around them. -/
inductive Spaced : List (List Char) → List Char → Prop
  | none {gap : List Char} (hgap : IsGap gap) : Spaced [] gap
  | word {gap w rest : List Char} {ws : List (List Char)} (hgap : IsGap gap) (hw : IsWord w)
      (hends : ∀ c, rest.head? = some c → isBlank c = true) (hrest : Spaced ws rest) :
      Spaced (w :: ws) (gap ++ (w ++ rest))

theorem words_of_spaced (h : Spaced ws s) : words s = ws := by
  induction h with
  | none hgap =>
    have := words_blanks_append (fun c hc => (hgap c hc).1) []
    rwa [List.append_nil] at this
  | @word gap w rest ws hgap hw hends _ ih =>
    rw [words_blanks_append (fun c hc => (hgap c hc).1)]
    cases rest with
    | nil =>
      obtain rfl : ws = [] := by rw [← ih, words_nil]
      rw [List.append_nil, words_of_isWord hw]
    | cons c rest =>
      have hc : isBlank c = true := hends c rfl
      rw [words_cons_blank hc] at ih
      rw [words_append_blank hc, words_of_isWord hw, ih]
      rfl

theorem newline_notMem_of_spaced (h : Spaced ws s) : '\n' ∉ s := by
  induction h with
  | none hgap => exact fun hmem => (hgap _ hmem).2 rfl
  | word hgap hw _ _ ih =>
    have hword : isBlank '\n' = true := by decide
    simp only [List.mem_append, not_or]
    refine ⟨fun hmem => (hgap _ hmem).2 rfl, fun hmem => ?_, ih⟩
    rw [hw.2 _ hmem] at hword
    cases hword

theorem spaced_words (h : '\n' ∉ s) : Spaced (words s) s := by
  -- On the length: what is left behind the first word is shorter, but not the tail of the list.
  induction hn : s.length using Nat.strongRecOn generalizing s with
  | ind n ih =>
    subst hn
    have hgap : IsGap (s.takeWhile isBlank) := fun c hc =>
      ⟨List.mem_takeWhile_imp hc, fun heq => h (heq ▸ List.takeWhile_subset isBlank hc)⟩
    have hsplit := List.takeWhile_append_dropWhile (p := isBlank) (l := s)
    have hwords : words (s.dropWhile isBlank) = words s := words_trimStart s
    cases hs : s.dropWhile isBlank with
    | nil =>
      rw [hs, List.append_nil] at hsplit
      rw [← hwords, hs, words_nil]
      exact hsplit ▸ .none hgap
    | cons c rest =>
      have hc : isBlank c = false := by
        have := List.head?_dropWhile_not isBlank s
        rw [hs] at this
        simpa using this
      let p : Char → Bool := fun d => !isBlank d
      have hword : IsWord (c :: rest.takeWhile p) := by
        refine ⟨by simp, fun d hd => ?_⟩
        rcases List.mem_cons.1 hd with rfl | hd
        · exact hc
        · simpa [p] using List.mem_takeWhile_imp hd
      have hrest : s = s.takeWhile isBlank ++ (c :: rest.takeWhile p ++ rest.dropWhile p) := by
        rw [List.cons_append, List.takeWhile_append_dropWhile, ← hs, hsplit]
      have hends : ∀ d, (rest.dropWhile p).head? = some d → isBlank d = true := by
        intro d hd
        have := List.head?_dropWhile_not p rest
        rw [hd] at this
        simpa [p] using this
      have hshorter : (rest.dropWhile p).length < s.length := by
        have hle := (List.dropWhile_sublist (l := rest) p).length_le
        have hle' := (List.dropWhile_sublist (l := s) isBlank).length_le
        rw [hs, List.length_cons] at hle'
        omega
      have hlater := ih _ hshorter (s := rest.dropWhile p)
        (fun hmem => h (by rw [hrest]; exact List.mem_append_right _ (List.mem_append_right _ hmem))) rfl
      have hspaced := Spaced.word hgap hword hends hlater
      rw [← hrest] at hspaced
      rwa [words_of_spaced hspaced]

theorem spaced_join (h : ∀ w ∈ ws, IsWord w) : Spaced ws (join [' '] ws) := by
  have hempty : IsGap [] := by simp [IsGap]
  have hspace : IsGap [' '] := by
    rw [IsGap, List.forall_mem_singleton]
    decide
  induction ws with
  | nil => exact .none hempty
  | cons w ws ih =>
    obtain ⟨hw, hws⟩ := List.forall_mem_cons.1 h
    cases ws with
    | nil => exact .word hempty hw (by simp) (.none hempty)
    | cons next ws =>
      have hrest := ih hws
      rw [join_cons_cons]
      generalize join [' '] (next :: ws) = rest at hrest
      cases hrest with
      | word hgap hnext hends hlater =>
        refine .word hempty hw (by simpa using (by decide : isBlank ' ' = true)) ?_
        rw [← List.append_assoc]
        refine .word (fun c hc => ?_) hnext hends hlater
        rcases List.mem_append.1 hc with hc | hc
        · exact hspace c hc
        · exact hgap c hc

/-- A line with one word is trimmed to that word. -/
theorem trim_of_spaced_singleton (h : Spaced [w] s) : trim s = w := by
  cases h with
  | word hgap hw _ hrest =>
    cases hrest with
    | none hgap' => exact trim_isWord hw (fun c hc => (hgap c hc).1) fun c hc => (hgap' c hc).1

end VirtHost.Text
