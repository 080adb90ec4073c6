import VirtHost.Proofs.Text.Words

/-! # The lines of a text

* `Lined ls text`: the text consists of these lines, with a line feed between any two of them.
* `Lined.exists_read`: they are read in their order, each perhaps without a carriage return at its end.
* `Among Shows Other as bs`: the elements of `as` are shown by elements of `bs` in their order, and all
  others of `bs` are passed over; `Among.filterMap`.
-/

namespace VirtHost.Text
set_option autoImplicit false

variable {ls : List (List Char)} {text : String}

/-! ## Lines -/

/-- The text consists of these lines. A last line that is empty is one behind the last line feed. -/
structure Lined (ls : List (List Char)) (text : String) : Prop where
  toList_eq : text.toList = join ['\n'] ls
  newline_notMem : ∀ l ∈ ls, '\n' ∉ l

/-- What is read of a line. -/
def IsReadOf (l read : List Char) : Prop :=
  read = l ∨ read = dropReturn l

/-- An empty line is not read if it is the last one. -/
theorem Lined.exists_read (h : Lined ls text) : ∃ read, List.Forall₂ IsReadOf ls read ∧
    (read = lines text.toList ∨ read = lines text.toList ++ [[]]) := by
  by_cases hne : ls = []
  · subst hne
    exact ⟨[], .nil, .inl (by rw [h.toList_eq]; rfl)⟩
  have hsplit : text.toList.splitOn '\n' = ls := by
    rw [h.toList_eq]
    exact List.splitOn_intercalate '\n' h.newline_notMem hne
  obtain ⟨front, last, rfl⟩ : ∃ front last, ls = front ++ [last] :=
    ⟨_, _, (List.dropLast_append_getLast hne).symm⟩
  have hfront : List.Forall₂ IsReadOf front (front.map dropReturn) := by
    rw [List.forall₂_map_right_iff]
    exact List.forall₂_same.2 fun l _ => .inr rfl
  have hlines : lines text.toList = front.map dropReturn ++ [last].filter fun l => !l.isEmpty := by
    simp [lines, hsplit]
  refine ⟨front.map dropReturn ++ [last], List.rel_append hfront (.cons (.inl rfl) .nil), ?_⟩
  rw [hlines]
  cases last with
  | nil => exact .inr (by simp)
  | cons c rest => exact .inl (by simp)

/-- What is picked out of the lines, if a carriage return at the end of a line makes no difference and
nothing is picked out of an empty line. -/
theorem Lined.filterMap_lines {α : Type} {f : List Char → Option α} (h : Lined ls text)
    (hnil : f [] = none) (hreturn : ∀ l ∈ ls, f (dropReturn l) = f l) :
    (lines text.toList).filterMap f = ls.filterMap f := by
  obtain ⟨read, hread, hlines⟩ := h.exists_read
  have hpicked : read.filterMap f = ls.filterMap f := by
    clear hlines h
    induction hread with
    | nil => rfl
    | @cons l r ls read hr _ ih =>
      have hlater := ih fun l hl => hreturn l (List.mem_cons_of_mem _ hl)
      have hline : f r = f l := by
        rcases hr with rfl | rfl
        · rfl
        · exact hreturn l List.mem_cons_self
      rw [List.filterMap_cons, List.filterMap_cons, hline, hlater]
  rcases hlines with rfl | rfl
  · exact hpicked
  · rw [← hpicked, List.filterMap_append]
    simp [hnil]

/-! ## What lines show -/

/-- Elements of a list show the elements of another one in order; the others are of a kind that shows
nothing. -/
inductive Among {α β : Type} (Shows : α → β → Prop) (Other : β → Prop) : List α → List β → Prop
  | nil : Among Shows Other [] []
  | shown {a : α} {b : β} {as : List α} {bs : List β} (hshows : Shows a b)
      (hrest : Among Shows Other as bs) : Among Shows Other (a :: as) (b :: bs)
  | other {b : β} {as : List α} {bs : List β} (hother : Other b) (hrest : Among Shows Other as bs) :
      Among Shows Other as (b :: bs)

namespace Among

variable {α β γ : Type} {Shows : α → β → Prop} {Other : β → Prop} {as : List α} {bs : List β}

/-- What is read of the elements that show something is read, and nothing else. -/
theorem filterMap {f : β → Option γ} {g : α → γ} (h : Among Shows Other as bs)
    (hshown : ∀ a ∈ as, ∀ b, Shows a b → f b = some (g a)) (hother : ∀ b, Other b → f b = none) :
    bs.filterMap f = as.map g := by
  induction h with
  | nil => rfl
  | @shown a b as bs hshows _ ih =>
    rw [List.filterMap_cons_some (hshown a List.mem_cons_self b hshows), List.map_cons,
      ih fun a ha => hshown a (List.mem_cons_of_mem _ ha)]
  | @other b as bs hb _ ih => rw [List.filterMap_cons_none (hother b hb), ih hshown]

theorem shows_or_other (h : Among Shows Other as bs) : ∀ b ∈ bs, (∃ a ∈ as, Shows a b) ∨ Other b := by
  induction h with
  | nil => simp
  | @shown a b as bs hshows _ ih =>
    refine List.forall_mem_cons.2 ⟨.inl ⟨a, List.mem_cons_self, hshows⟩, fun c hc => ?_⟩
    exact (ih c hc).imp_left fun ⟨x, hx, hshows⟩ => ⟨x, List.mem_cons_of_mem _ hx, hshows⟩
  | other hb _ ih => exact List.forall_mem_cons.2 ⟨.inr hb, ih⟩

end Among

end VirtHost.Text
