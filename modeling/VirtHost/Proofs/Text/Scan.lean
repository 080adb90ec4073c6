import Mathlib.Data.List.Forall2
import VirtHost.Text.Blank
import VirtHost.Text.Scan

/-! # Searching and splitting

* `dropHead?_eq_some_iff`, `startsWith_append`: the head of a text, and what follows it.
* `splitLast_eq_some_iff`: the last separator is the one that no other follows.
* `splitOn_join`: the pieces of joined texts.
* `append_inj_of_notMem`: what is put together at a separator can be taken apart there.
* `not_infix_append`: what does not occur across two texts.
* `matchesFrom_eq_drop`, `matchesFrom_append`: the search for matches goes on behind a match, and passes
  over a text in which none begins.
* `eq_none_of_matchesFrom_eq_nil`, `matchesFrom_eq_cons`: where no match begins, and where the first one
  was found.
* `find?_eq_some_of_nodup`: a search by key.
* `mapM_eq_ok_iff`, `mapM_eq_error_iff`: a list is read if each of its elements is, and else the first
  that is not decides; `exists_forall₂_iff`.
* `Settles`, `Settles.intro`: one relation says what is read and another one what is reported.
* `replaceAll_append`, `replaceAll_append_of_suffix`: an occurrence is replaced, and a text in which none
  begins is kept.
* `trim_of_forall`: a text without blanks is its own trimming.
-/

namespace VirtHost.Text
set_option autoImplicit false

/-! ## Heads -/

theorem dropHead?_append (head s : List Char) : dropHead? head (head ++ s) = some s := by
  induction head with
  | nil => rfl
  | cons c head ih => simpa [dropHead?] using ih

theorem dropHead?_eq_some_iff {head s rest : List Char} :
    dropHead? head s = some rest ↔ s = head ++ rest := by
  constructor
  · intro h
    induction head generalizing s with
    | nil =>
      rw [dropHead?] at h
      exact Option.some.inj h
    | cons c head ih =>
      cases s with
      | nil => simp [dropHead?] at h
      | cons d s =>
        rw [dropHead?] at h
        split at h
        · rename_i hc
          rw [hc, ih h, List.cons_append]
        · cases h
  · rintro rfl
    exact dropHead?_append head rest

/-- A head that is no longer than the first of two texts is looked for in that one. -/
theorem startsWith_append {s t head : String} (h : head.toList.length ≤ s.toList.length) :
    startsWith (s ++ t) head = startsWith s head := by
  rw [startsWith, startsWith, String.toList_append, Bool.eq_iff_iff, List.isPrefixOf_iff_prefix,
    List.isPrefixOf_iff_prefix]
  constructor
  · intro hprefix
    exact List.prefix_of_prefix_length_le hprefix (List.prefix_append _ _) h
  · intro hprefix
    exact hprefix.trans (List.prefix_append _ _)

/-- If neither of two texts is the beginning of the other one, what follows the one does not matter. -/
theorem not_startsWith_append {s t head : String} (h : ¬ s.toList <+: head.toList)
    (h' : ¬ head.toList <+: s.toList) : startsWith (s ++ t) head ≠ true := by
  rw [startsWith, String.toList_append, ne_eq, List.isPrefixOf_iff_prefix]
  intro hhead
  rcases List.prefix_or_prefix_of_prefix (List.prefix_append s.toList t.toList) hhead with hs | hs
  · exact h hs
  · exact h' hs

theorem head?_append {s t : String} {c : Char} (hs : s.toList.head? = some c) :
    (s ++ t).toList.head? = some c := by
  rw [String.toList_append, List.head?_append, hs]
  rfl

theorem startsWith_of_head?_ne {s head : String} {c d : Char} (hs : s.toList.head? = some c)
    (hhead : head.toList.head? = some d) (h : c ≠ d) : startsWith s head = false := by
  obtain ⟨u, hu⟩ := List.head?_eq_some_iff.1 hs
  obtain ⟨v, hv⟩ := List.head?_eq_some_iff.1 hhead
  rw [startsWith, hu, hv, List.isPrefixOf]
  simp [Ne.symm h]

theorem startsWith_append_of_ne {s t head : String} {c d : Char} (hs : s.toList.head? = some c)
    (hhead : head.toList.head? = some d) (h : c ≠ d) : startsWith (s ++ t) head = false :=
  startsWith_of_head?_ne (head?_append hs) hhead h

/-! ## Splitting -/

theorem splitOnce_append {sep : Char} {s t : List Char} (h : sep ∉ s) :
    splitOnce sep (s ++ sep :: t) = some (s, t) := by
  induction s with
  | nil => simp [splitOnce]
  | cons c s ih =>
    simp only [List.mem_cons, not_or] at h
    obtain ⟨hc, hs⟩ := h
    simp [splitOnce, Ne.symm hc, ih hs]

theorem splitLast_append {sep : Char} {s t : List Char} (h : sep ∉ t) :
    splitLast sep (s ++ sep :: t) = some (s, t) := by
  have hreverse : (s ++ sep :: t).reverse = t.reverse ++ sep :: s.reverse := by simp
  rw [splitLast, hreverse, splitOnce_append (by simpa using h)]
  simp

theorem splitOnce_eq_some {sep : Char} {s before behind : List Char}
    (h : splitOnce sep s = some (before, behind)) : s = before ++ sep :: behind ∧ sep ∉ before := by
  induction s generalizing before with
  | nil => simp [splitOnce] at h
  | cons c s ih =>
    rw [splitOnce] at h
    split at h
    · rename_i hc
      obtain ⟨rfl, rfl⟩ : [] = before ∧ s = behind := by simpa using h
      simp [hc]
    · rename_i hc
      obtain ⟨⟨before, behind'⟩, hsplit, heq⟩ := Option.map_eq_some_iff.1 h
      obtain ⟨rfl, rfl⟩ : c :: before = _ ∧ behind' = behind := by simpa using heq
      obtain ⟨rfl, hbefore⟩ := ih hsplit
      exact ⟨rfl, List.not_mem_cons_of_ne_of_not_mem (Ne.symm hc) hbefore⟩

theorem splitOnce_eq_none_iff {sep : Char} {s : List Char} : splitOnce sep s = none ↔ sep ∉ s := by
  constructor
  · intro h hmem
    obtain ⟨before, behind, rfl, hbefore⟩ := List.eq_append_cons_of_mem hmem
    rw [splitOnce_append hbefore] at h
    cases h
  · intro h
    rw [Option.eq_none_iff_forall_ne_some]
    rintro ⟨before, behind⟩ hsome
    obtain ⟨rfl, -⟩ := splitOnce_eq_some hsome
    simp at h

theorem splitLast_eq_some_iff {sep : Char} {s before behind : List Char} :
    splitLast sep s = some (before, behind) ↔ s = before ++ sep :: behind ∧ sep ∉ behind := by
  constructor
  · intro h
    obtain ⟨⟨u, v⟩, hsplit, heq⟩ := Option.map_eq_some_iff.1 h
    obtain ⟨rfl, rfl⟩ : v.reverse = before ∧ u.reverse = behind := by simpa using heq
    obtain ⟨hs, hu⟩ := splitOnce_eq_some hsplit
    refine ⟨?_, by simpa using hu⟩
    rw [← List.reverse_reverse s, hs]
    simp
  · rintro ⟨rfl, h⟩
    exact splitLast_append h

theorem notMem_of_mem_splitOn {sep : Char} {s piece : List Char} (h : piece ∈ s.splitOn sep) :
    sep ∉ piece := by
  induction s generalizing piece with
  | nil =>
    obtain rfl : piece = [] := by simpa using h
    simp
  | cons c s ih =>
    rw [List.splitOn, List.splitOnP_cons_eq_if_modifyHead] at h
    by_cases hc : (c == sep) = true
    · rw [if_pos hc] at h
      rcases List.mem_cons.1 h with rfl | hlater
      · simp
      · exact ih hlater
    · rw [if_neg hc] at h
      obtain ⟨head, pieces, hpieces⟩ := List.exists_cons_of_ne_nil (List.splitOnP_ne_nil (· == sep) s)
      rw [hpieces, List.modifyHead_cons] at h
      have hmem : ∀ piece ∈ head :: pieces, sep ∉ piece := fun p hp => ih (by rwa [List.splitOn, hpieces])
      rcases List.mem_cons.1 h with rfl | hlater
      · have hne : sep ≠ c := fun heq => hc (by simp [heq])
        exact List.not_mem_cons_of_ne_of_not_mem hne (hmem head (by simp))
      · exact hmem piece (by simp [hlater])

theorem join_cons_cons (sep piece next : List Char) (pieces : List (List Char)) :
    join sep (piece :: next :: pieces) = piece ++ (sep ++ join sep (next :: pieces)) := by
  simp [join, List.intercalate]

theorem mem_join {sep c : Char} {pieces : List (List Char)} (h : c ∈ join [sep] pieces) :
    c = sep ∨ ∃ piece ∈ pieces, c ∈ piece := by
  induction pieces with
  | nil => simp [join] at h
  | cons piece pieces ih =>
    cases pieces with
    | nil => exact .inr ⟨piece, by simp, by simpa [join, List.intercalate] using h⟩
    | cons next pieces =>
      rw [join_cons_cons, List.singleton_append, List.mem_append, List.mem_cons] at h
      rcases h with hpiece | hsep | hlater
      · exact .inr ⟨piece, by simp, hpiece⟩
      · exact .inl hsep
      · rcases ih hlater with hsep | ⟨other, hother, hc⟩
        · exact .inl hsep
        · exact .inr ⟨other, List.mem_cons_of_mem piece hother, hc⟩

theorem splitOn_join {sep : Char} {parts : List (List Char)} (h : parts ≠ []) :
    (join [sep] parts).splitOn sep = parts.flatMap fun part => part.splitOn sep := by
  induction parts with
  | nil => exact absurd rfl h
  | cons part parts ih =>
    cases parts with
    | nil => simp [join, List.intercalate]
    | cons next parts =>
      rw [join_cons_cons, List.singleton_append, List.splitOn_append_cons_self, ih (by simp)]
      rfl

theorem upTo_append {sep : Char} {s : List Char} (h : sep ∉ s) (t : List Char) :
    upTo sep (s ++ sep :: t) = s := by
  have hs : ∀ c ∈ s, (c != sep) = true := by
    intro c hc
    rw [bne_iff_ne]
    rintro rfl
    exact h hc
  rw [upTo, List.takeWhile_append_of_pos hs]
  simp

/-- A text ends where the first separator is. -/
theorem append_inj_of_notMem {sep : Char} {s t u v : List Char} (hs : sep ∉ s) (ht : sep ∉ t)
    (hu : ∀ c ∈ u.head?, c = sep) (hv : ∀ c ∈ v.head?, c = sep) (h : s ++ u = t ++ v) :
    s = t ∧ u = v := by
  have hcut {x y : List Char} (hx : sep ∉ x) (hy : ∀ c ∈ y.head?, c = sep) : upTo sep (x ++ y) = x := by
    cases y with
    | nil =>
      have hall : ∀ c ∈ x, (c != sep) = true := fun c hc => bne_iff_ne.2 fun heq => hx (heq ▸ hc)
      rw [upTo, List.takeWhile_append_of_pos hall, List.takeWhile_nil, List.append_nil]
    | cons c y =>
      obtain rfl : c = sep := hy c rfl
      exact upTo_append hx y
  have heq : s = t := by rw [← hcut hs hu, h, hcut ht hv]
  exact ⟨heq, List.append_cancel_left (heq ▸ h)⟩

/-! ## Infixes -/

section
variable {w u v : List Char} {c : Char}

theorem not_infix_cons (hc : c ∉ w) (hv : ¬ w <:+: v) : ¬ w <:+: c :: v := by
  intro h
  rcases List.infix_cons_iff.1 h with hhead | hlater
  · cases w with
    | nil => exact hv (List.nil_infix)
    | cons d w =>
      rw [(List.cons_prefix_cons.1 hhead).1] at hc
      exact hc List.mem_cons_self
  · exact hv hlater

/-- What occurs in neither of two texts does not occur across them if a character between is not in it. -/
theorem not_infix_append (hu : ¬ w <:+: u) (hv : ¬ w <:+: v) (hhead : ∀ c ∈ v.head?, c ∉ w) :
    ¬ w <:+: u ++ v := by
  rintro ⟨s, t, h⟩
  rw [List.append_assoc] at h
  rcases List.append_eq_append_iff.1 h with ⟨x, rfl, hx⟩ | ⟨x, rfl, rfl⟩
  · rcases List.append_eq_append_iff.1 hx with ⟨y, rfl, -⟩ | ⟨y, rfl, rfl⟩
    · exact hu ⟨s, y, by simp⟩
    · cases y with
      | nil => exact hu ⟨s, [], by simp⟩
      | cons c y => exact hhead c (by simp) (by simp)
  · exact hv ⟨x, t, by simp⟩

theorem not_infix_append_cons (hu : ¬ w <:+: u) (hc : c ∉ w) (hv : ¬ w <:+: v) : ¬ w <:+: u ++ c :: v := by
  refine not_infix_append hu (not_infix_cons hc hv) fun d hd => ?_
  obtain rfl : c = d := by simpa using hd
  exact hc

end

/-! ## Matches -/

section
variable {α : Type} {pattern : List Char → Option (α × Nat)}

/-- The characters of the last match are passed over. -/
theorem matchesFrom_eq_drop (skip : Nat) (s : List Char) :
    matchesFrom pattern skip s = matchesFrom pattern 0 (s.drop skip) := by
  induction s generalizing skip with
  | nil =>
    rw [List.drop_nil]
    cases skip <;> rfl
  | cons c s ih =>
    cases skip with
    | zero => rfl
    | succ skip => rw [matchesFrom, List.drop_succ_cons, ih]

/-- Where no match begins the search goes on. -/
theorem matchesFrom_append {s t : List Char}
    (h : ∀ u v, s = u ++ v → v ≠ [] → pattern (v ++ t) = none) :
    matchesFrom pattern 0 (s ++ t) = matchesFrom pattern 0 t := by
  induction s with
  | nil => rfl
  | cons c s ih =>
    have hc := h [] (c :: s) rfl (by simp)
    rw [List.cons_append] at hc ⊢
    rw [matchesFrom, hc]
    refine ih fun u v hs hv => ?_
    exact h (c :: u) v (by rw [hs, List.cons_append]) hv

theorem matchesFrom_of_match {s : List Char} {found : α} {length : Nat}
    (h : pattern s = some (found, length)) (hs : s ≠ []) (hlength : 0 < length) :
    matchesFrom pattern 0 s = found :: matchesFrom pattern 0 (s.drop length) := by
  cases s with
  | nil => exact absurd rfl hs
  | cons c s =>
    obtain ⟨k, rfl⟩ : ∃ k, length = k + 1 := ⟨length - 1, by omega⟩
    rw [matchesFrom, h]
    dsimp only
    rw [matchesFrom_eq_drop, List.drop_succ_cons, Nat.add_sub_cancel]

theorem eq_none_of_matchesFrom_eq_nil {s : List Char} (h : matchesFrom pattern 0 s = []) :
    ∀ u v, s = u ++ v → v ≠ [] → pattern v = none := by
  induction s with
  | nil =>
    intro u v huv hv
    exact absurd (List.append_eq_nil_iff.1 huv.symm).2 hv
  | cons c s ih =>
    intro u v huv hv
    rw [matchesFrom] at h
    split at h
    · cases h
    · rename_i hnone
      cases u with
      | nil => rwa [← List.nil_append v, ← huv]
      | cons d u => exact ih h u v (List.cons_eq_cons.1 huv).2 hv

/-- Where the first match was found, and where the search went on. -/
theorem matchesFrom_eq_cons {s : List Char} {found : α} {others : List α}
    (hpattern : ∀ v p, pattern v = some p → 0 < p.2)
    (h : matchesFrom pattern 0 s = found :: others) :
    ∃ before v length, s = before ++ v ∧
      (∀ u w, before = u ++ w → w ≠ [] → pattern (w ++ v) = none) ∧
      pattern v = some (found, length) ∧ others = matchesFrom pattern 0 (v.drop length) := by
  induction s with
  | nil => cases h
  | cons c s ih =>
    rw [matchesFrom] at h
    split at h
    · rename_i first length hfirst
      obtain ⟨rfl, rfl⟩ := List.cons_eq_cons.1 h
      obtain ⟨k, rfl⟩ := Nat.exists_eq_add_of_lt (hpattern _ _ hfirst)
      refine ⟨[], c :: s, _, rfl, fun u w huw hw => ?_, hfirst, ?_⟩
      · exact absurd (List.append_eq_nil_iff.1 huw.symm).2 hw
      · rw [matchesFrom_eq_drop, Nat.zero_add, Nat.add_sub_cancel, List.drop_succ_cons]
    · rename_i hnone
      obtain ⟨before, v, length, rfl, hbefore, hv, hothers⟩ := ih h
      refine ⟨c :: before, v, length, rfl, fun u w huw hw => ?_, hv, hothers⟩
      cases u with
      | nil => rwa [← List.nil_append w, ← huw]
      | cons d u => exact hbefore u w (List.cons_eq_cons.1 huw).2 hw

end

theorem find?_eq_some_of_nodup {α κ : Type} {as : List α} {a : α} {key : α → κ} {p : α → Bool}
    (hdistinct : (as.map key).Nodup) (ha : a ∈ as) (hp : ∀ b ∈ as, p b = true ↔ key b = key a) :
    as.find? p = some a := by
  obtain ⟨before, after, rfl⟩ := List.append_of_mem ha
  rw [List.map_append, List.nodup_append] at hdistinct
  refine List.find?_eq_some_iff_append.2 ⟨(hp a ha).2 rfl, before, after, rfl, fun b hb => ?_⟩
  have hne : key b ≠ key a := hdistinct.2.2 _ (List.mem_map_of_mem hb) _ (by simp)
  simpa using (hp b (List.mem_append_left _ hb)).not.2 hne

theorem mapM_eq_ok_iff {α β ε : Type} {f : α → Except ε β} {as : List α} {bs : List β} :
    as.mapM f = .ok bs ↔ List.Forall₂ (fun a b => f a = .ok b) as bs := by
  constructor
  · intro h
    induction as generalizing bs with
    | nil =>
      obtain rfl : [] = bs := Except.ok.inj h
      exact .nil
    | cons a as ih =>
      rw [List.mapM_cons] at h
      cases ha : f a with
      | error e =>
        rw [ha] at h
        cases h
      | ok b =>
        rw [ha] at h
        cases has : as.mapM f with
        | error e =>
          rw [has] at h
          cases h
        | ok rest =>
          rw [has] at h
          obtain rfl : b :: rest = bs := Except.ok.inj h
          exact .cons ha (ih has)
  · intro h
    induction h with
    | nil => rfl
    | cons hhead _ ih =>
      rw [List.mapM_cons, hhead, ih]
      rfl

theorem exists_forall₂_iff {α β : Type} {R : α → β → Prop} {as : List α} :
    (∃ bs, List.Forall₂ R as bs) ↔ ∀ a ∈ as, ∃ b, R a b := by
  induction as with
  | nil => simp
  | cons a as ih =>
    rw [List.forall_mem_cons, ← ih]
    constructor
    · rintro ⟨bs, hbs⟩
      cases hbs with
      | cons hhead hrest => exact ⟨⟨_, hhead⟩, _, hrest⟩
    · rintro ⟨⟨b, hb⟩, bs, hbs⟩
      exact ⟨b :: bs, .cons hb hbs⟩

/-- A list is not read because of the first of its elements that is not. -/
theorem mapM_eq_error_iff {α β ε : Type} {f : α → Except ε β} {as : List α} {e : ε} :
    as.mapM f = .error e ↔ ∃ before a behind, as = before ++ a :: behind ∧
      (∀ b ∈ before, ∃ y, f b = .ok y) ∧ f a = .error e := by
  constructor
  · intro h
    induction as with
    | nil => cases h
    | cons a as ih =>
      rw [List.mapM_cons] at h
      cases ha : f a with
      | error e' =>
        rw [ha] at h
        obtain rfl : e' = e := Except.error.inj h
        exact ⟨[], a, as, rfl, by simp, ha⟩
      | ok b =>
        rw [ha] at h
        cases has : as.mapM f with
        | error e' =>
          rw [has] at h
          obtain rfl : e' = e := Except.error.inj h
          obtain ⟨before, a', behind, rfl, hbefore, ha'⟩ := ih has
          exact ⟨a :: before, a', behind, rfl, List.forall_mem_cons.2 ⟨⟨b, ha⟩, hbefore⟩, ha'⟩
        | ok rest =>
          rw [has] at h
          cases h
  · rintro ⟨before, a, behind, rfl, hbefore, ha⟩
    induction before with
    | nil => rw [List.nil_append, List.mapM_cons, ha]; rfl
    | cons b before ih =>
      obtain ⟨⟨y, hy⟩, hrest⟩ := List.forall_mem_cons.1 hbefore
      rw [List.cons_append, List.mapM_cons, hy, ih hrest]
      rfl

/-- A result is known from what is read: `Reads` says what it is and `Fails` what is reported. -/
structure Settles {α ε : Type} (Reads : α → Prop) (Fails : ε → Prop) (result : Except ε α) : Prop where
  ok_iff : ∀ a, result = .ok a ↔ Reads a
  error_iff : ∀ e, result = .error e ↔ Fails e

namespace Settles

variable {α ε : Type} {Reads : α → Prop} {Fails : ε → Prop} {result : Except ε α}

/-- It is enough that one of the two says something and that what they say is so. -/
theorem intro (hok : ∀ a, Reads a → result = .ok a) (herror : ∀ e, Fails e → result = .error e)
    (hsome : (∃ a, Reads a) ∨ ∃ e, Fails e) : Settles Reads Fails result := by
  constructor
  · refine fun a => ⟨fun h => ?_, hok a⟩
    rcases hsome with ⟨b, hb⟩ | ⟨e, he⟩
    · obtain rfl : b = a := Except.ok.inj ((hok b hb).symm.trans h)
      exact hb
    · cases (herror e he).symm.trans h
  · refine fun e => ⟨fun h => ?_, herror e⟩
    rcases hsome with ⟨b, hb⟩ | ⟨x, hx⟩
    · cases (hok b hb).symm.trans h
    · obtain rfl : x = e := Except.error.inj ((herror x hx).symm.trans h)
      exact hx

theorem reads_or_fails (h : Settles Reads Fails result) : (∃ a, Reads a) ∨ ∃ e, Fails e := by
  cases hresult : result with
  | ok a => exact .inl ⟨a, (h.ok_iff a).1 hresult⟩
  | error e => exact .inr ⟨e, (h.error_iff e).1 hresult⟩

/-- A list is read if each of its elements is; else the first one that is not decides what is reported. -/
theorem mapM {β : Type} {Reads : β → α → Prop} {Fails : β → ε → Prop} {f : β → Except ε α} {bs : List β}
    (h : ∀ b ∈ bs, Settles (Reads b) (Fails b) (f b)) :
    Settles (fun found => List.Forall₂ Reads bs found)
      (fun e => ∃ before b behind, bs = before ++ b :: behind ∧ (∀ c ∈ before, ∃ a, Reads c a) ∧ Fails b e)
      (bs.mapM f) := by
  refine .intro (fun found hfound => ?_) (fun e he => ?_) ?_
  · refine mapM_eq_ok_iff.2 (((List.forall₂_and_left _ _).2 ⟨h, hfound⟩).imp fun b a hb => ?_)
    exact (hb.1.ok_iff a).2 hb.2
  · obtain ⟨before, b, behind, rfl, hbefore, hb⟩ := he
    refine mapM_eq_error_iff.2 ⟨before, b, behind, rfl, fun c hc => ?_, ((h b (by simp)).error_iff e).2 hb⟩
    obtain ⟨a, ha⟩ := hbefore c hc
    exact ⟨a, ((h c (by simp [hc])).ok_iff a).2 ha⟩
  · cases hresult : bs.mapM f with
    | ok found =>
      refine .inl ⟨found, ((List.forall₂_and_left _ _).2 ⟨h, mapM_eq_ok_iff.1 hresult⟩).imp fun b a hb => ?_⟩
      exact (hb.1.ok_iff a).1 hb.2
    | error e =>
      obtain ⟨before, b, behind, rfl, hbefore, hb⟩ := mapM_eq_error_iff.1 hresult
      refine .inr ⟨e, before, b, behind, rfl, fun c hc => ?_, ((h b (by simp)).error_iff e).1 hb⟩
      obtain ⟨a, ha⟩ := hbefore c hc
      exact ⟨a, ((h c (by simp [hc])).ok_iff a).1 ha⟩

end Settles

/-! ## Replacement -/

section
variable {old new : List Char}

theorem replaceFrom_eq_drop (skip : Nat) (s : List Char) :
    replaceFrom old new skip s = replaceFrom old new 0 (s.drop skip) := by
  induction s generalizing skip with
  | nil =>
    rw [List.drop_nil]
    cases skip <;> rfl
  | cons c s ih =>
    cases skip with
    | zero => rfl
    | succ skip => rw [replaceFrom, List.drop_succ_cons, ih]

theorem replaceAll_cons {c : Char} {s : List Char} (h : ¬ old <+: c :: s) :
    replaceAll old new (c :: s) = c :: replaceAll old new s := by
  have hnot : old.isPrefixOf (c :: s) = false := by
    rw [← Bool.not_eq_true, List.isPrefixOf_iff_prefix]
    exact h
  rw [replaceAll, replaceFrom, hnot]
  rfl

/-- A text in which nothing that is replaced begins is kept. -/
theorem replaceAll_append_of_suffix {s t : List Char} (h : ∀ u, u <:+ s → u ≠ [] → ¬ old <+: u ++ t) :
    replaceAll old new (s ++ t) = s ++ replaceAll old new t := by
  induction s with
  | nil => rfl
  | cons c s ih =>
    have hnot : ¬ old <+: c :: (s ++ t) := h (c :: s) (List.suffix_refl _) (by simp)
    rw [List.cons_append, replaceAll_cons hnot, List.cons_append]
    rw [ih fun u hu => h u (hu.trans (List.suffix_cons c s))]

/-- A text without the first character of what is replaced is kept. -/
theorem replaceAll_append_of_notMem {c : Char} {s t : List Char} (h : c ∉ s) :
    replaceAll (c :: old) new (s ++ t) = s ++ replaceAll (c :: old) new t := by
  apply replaceAll_append_of_suffix
  intro u hu hne hbegins
  obtain ⟨d, u, rfl⟩ := List.exists_cons_of_ne_nil hne
  rw [List.cons_append, List.cons_prefix_cons] at hbegins
  exact h (hbegins.1 ▸ hu.subset List.mem_cons_self)

/-- What is replaced at the head of a text. -/
theorem replaceAll_append (hold : old ≠ []) (t : List Char) :
    replaceAll old new (old ++ t) = new ++ replaceAll old new t := by
  cases old with
  | nil => exact absurd rfl hold
  | cons c old =>
    have hprefix : (c :: old).isPrefixOf (c :: (old ++ t)) = true :=
      List.isPrefixOf_iff_prefix.2 (List.prefix_append (c :: old) t)
    rw [List.cons_append, replaceAll, replaceFrom, if_pos hprefix, replaceFrom_eq_drop,
      List.length_cons, Nat.add_sub_cancel, List.drop_left]
    rfl

end

/-! ## Trimming -/

theorem dropWhile_of_forall {p : Char → Bool} {s : List Char} (h : ∀ c ∈ s, p c = false) :
    s.dropWhile p = s := by
  cases s with
  | nil => rfl
  | cons c s => simp [h c (by simp)]

theorem trim_of_forall {s : List Char} (h : ∀ c ∈ s, isBlank c = false) : trim s = s := by
  rw [trim, trimStart, dropWhile_of_forall h, trimEnd, dropWhile_of_forall, List.reverse_reverse]
  intro c hc
  exact h c (List.mem_reverse.1 hc)

end VirtHost.Text
