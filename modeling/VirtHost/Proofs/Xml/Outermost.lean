import VirtHost.Proofs.Xml.Document
import VirtHost.Proofs.Xml.Printed

/-! # Outermost elements

Several elements may stand beside each other outside all others. The last of them is what is read; the ones
before it are lost.

* `Stacked`, `Partial.Shows`: what a stack of open elements says about the tags that have been read.
* `ofTokens_eq_ok_iff`: the tags that are read, and what they stand for.
* `Outermost`: the outermost elements of a text; `Outermost.unique`: they are one list.
* `parse_takes_last`: what is read of a text, and what is lost.
* `parse_loses_first`: two texts of which an element is lost.
-/

namespace VirtHost.Xml
set_option autoImplicit false

variable {ns ms complete : List Node} {n root : Node} {tokens others inner : List Token} {token : Token}
  {p q : Partial} {frames : List Frame} {text : String}

/-! ## Tags of elements -/

theorem Tagged.append (h : Tagged ns tokens) (h' : Tagged ms others) :
    Tagged (ns ++ ms) (tokens ++ others) := by
  induction h with
  | nil => exact h'
  | single _ ih => exact .single ih
  | nested hinner _ _ ih =>
    rw [List.cons_append, List.cons_append, List.append_assoc, List.cons_append]
    exact .nested hinner ih

theorem Tagged.unique (h : Tagged ns tokens) (h' : Tagged ms tokens) : ns = ms := by
  -- Inside an open element both lists become its children, so that nothing of them is lost.
  let frame : Frame := ⟨"", [], []⟩
  have hread := (Partial.foldlM_step_of_tagged h ⟨[frame], none⟩).symm.trans
    (Partial.foldlM_step_of_tagged h' ⟨[frame], none⟩)
  rw [Partial.foldl_add_cons, Partial.foldl_add_cons] at hread
  have hchildren : ns.reverse ++ frame.children = ms.reverse ++ frame.children := by
    simpa using hread
  exact List.reverse_injective (List.append_cancel_right hchildren)

theorem Node.tags_mk (name : String) (attributes : List (String × String)) (children : List Node) :
    (mk name attributes children).tags = (name, attributes) :: children.flatMap tags := by
  have hchildren : descendantsOfAll children = children.flatMap descendants := by
    induction children with
    | nil => rfl
    | cons n children ih => rw [descendantsOfAll, ih, List.flatMap_cons]
  rw [tags, descendants, List.map_cons, hchildren, List.map_flatMap]
  rfl

/-- Every element begins with one tag, in document order. -/
theorem Tagged.startTags (h : Tagged ns tokens) :
    tokens.filterMap Token.tag? = ns.flatMap Node.tags := by
  induction h with
  | nil => rfl
  | single _ ih => simp [Token.tag?, Node.tags_mk, ih]
  | @nested name attributes children ns inner tokens _ _ ihinner ih =>
    have hfinish : (Token.finish name :: tokens).filterMap Token.tag? = tokens.filterMap Token.tag? := rfl
    simp [Token.tag?, Node.tags_mk, List.filterMap_append, ihinner, ih, hfinish]

/-! ## Open elements -/

/-- The tags that have been read when some elements are complete outside all others and some are open: the
tags of the complete ones and, for each open one, its start tag and the tags of its children so far. -/
inductive Stacked (complete : List Node) : List Frame → List Token → Prop
  | closed {tokens : List Token} (h : Tagged complete tokens) : Stacked complete [] tokens
  | opened {f : Frame} {frames : List Frame} {tokens inner : List Token}
      (h : Stacked complete frames tokens) (hinner : Tagged f.children.reverse inner) :
      Stacked complete (f :: frames) (tokens ++ .start f.name f.attributes :: inner)

/-- What has been read of a document is what these tags say, with these elements complete outside all
others. -/
structure Partial.Shows (p : Partial) (complete : List Node) (tokens : List Token) : Prop where
  stacked : Stacked complete p.frames tokens
  root : p.root = complete.getLast?

theorem Partial.shows_start : start.Shows [] [] :=
  ⟨.closed .nil, rfl⟩

theorem Partial.Shows.add (h : p.Shows complete tokens) (hn : Tagged [n] inner) :
    ∃ complete', (p.add n).Shows complete' (tokens ++ inner) := by
  obtain ⟨frames, root⟩ := p
  obtain ⟨hstacked, hroot⟩ := h
  cases hstacked with
  | closed htokens => exact ⟨complete ++ [n], .closed (htokens.append hn), by simp [Partial.add]⟩
  | @opened f frames tokens before hframes hchildren =>
    have hmore : Tagged (n :: f.children).reverse (before ++ inner) := by
      rw [List.reverse_cons]
      exact hchildren.append hn
    refine ⟨complete, ?_, hroot⟩
    rw [List.append_assoc, List.cons_append]
    exact .opened (f := { f with children := n :: f.children }) hframes hmore

/-- One tag more. -/
theorem Partial.Shows.step (h : p.Shows complete tokens) (hstep : p.step token = .ok q) :
    ∃ complete', q.Shows complete' (tokens ++ [token]) := by
  cases token with
  | start name attributes =>
    obtain rfl := Except.ok.inj hstep
    exact ⟨complete, .opened h.stacked .nil, h.root⟩
  | empty name attributes =>
    obtain rfl := Except.ok.inj hstep
    exact h.add (.single .nil)
  | finish name =>
    obtain ⟨frames, root⟩ := p
    obtain ⟨hstacked, hroot⟩ := h
    cases hstacked with
    | closed htokens => cases hstep
    | @opened f frames tokens inner hframes hchildren =>
      simp only [Partial.step] at hstep
      split at hstep
      · rename_i hname
        obtain rfl := Except.ok.inj hstep
        have hclosed : Tagged [f.close] (.start f.name f.attributes :: (inner ++ [.finish name])) := by
          rw [← hname]
          exact .nested hchildren .nil
        rw [List.append_assoc, List.cons_append]
        exact Partial.Shows.add ⟨hframes, hroot⟩ hclosed
      · cases hstep

theorem Partial.Shows.foldlM (h : p.Shows complete tokens) (hread : others.foldlM Partial.step p = .ok q) :
    ∃ complete', q.Shows complete' (tokens ++ others) := by
  induction others generalizing p complete tokens with
  | nil =>
    obtain rfl : p = q := Except.ok.inj hread
    exact ⟨complete, by rwa [List.append_nil]⟩
  | cons token others ih =>
    rw [List.foldlM_cons] at hread
    cases hm : p.step token with
    | error e =>
      rw [hm] at hread
      cases hread
    | ok m =>
      rw [hm] at hread
      obtain ⟨complete', hnext⟩ := h.step hm
      rw [List.append_cons]
      exact ih hnext hread

/-! ## Complete documents -/

theorem Partial.foldl_add_nil (root : Option Node) (ns : List Node) :
    ns.foldl add ⟨[], root⟩ = ⟨[], ns.getLast?.or root⟩ := by
  induction ns generalizing root with
  | nil => rfl
  | cons n ns ih =>
    rw [List.foldl_cons, add, ih, List.getLast?_cons]
    cases ns.getLast? <;> rfl

/-- The tags of any number of elements are read, unless there are none, and give the last one. -/
theorem ofTokens_eq_ok_iff :
    ofTokens tokens = .ok root ↔ ∃ before, Tagged (before ++ [root]) tokens := by
  rw [ofTokens]
  constructor
  · intro h
    cases hp : tokens.foldlM Partial.step Partial.start with
    | error e =>
      rw [hp] at h
      cases h
    | ok p =>
      rw [hp] at h
      have hresult : p.result = .ok root := h
      obtain ⟨complete, hstacked, hroot⟩ := Partial.shows_start.foldlM hp
      obtain ⟨frames, top⟩ := p
      cases hstacked with
      | opened hframes hchildren => cases hresult
      | closed htokens =>
        cases top with
        | none => cases hresult
        | some n =>
          obtain rfl : n = root := Except.ok.inj hresult
          obtain ⟨before, rfl⟩ := List.getLast?_eq_some_iff.1 hroot.symm
          exact ⟨before, htokens⟩
  · rintro ⟨before, htokens⟩
    rw [Partial.foldlM_step_of_tagged htokens, Partial.start, Partial.foldl_add_nil, List.getLast?_concat]
    rfl

/-- The outermost elements of a text, in order. -/
def Outermost (text : String) (elements : List Node) : Prop :=
  ∃ tokens, Token.ofText? (dropMark text.toList) = some tokens ∧ Tagged elements tokens

/-- The tags with which the elements of a text begin, in order. -/
def startTags (text : String) : List (String × List (String × String)) :=
  ((Token.ofText? (dropMark text.toList)).getD []).filterMap Token.tag?

theorem Outermost.unique (h : Outermost text ns) (h' : Outermost text ms) : ns = ms := by
  obtain ⟨tokens, htokens, htagged⟩ := h
  obtain ⟨others, hothers, htagged'⟩ := h'
  obtain rfl : tokens = others := Option.some.inj (htokens.symm.trans hothers)
  exact htagged.unique htagged'

theorem Outermost.startTags_eq (h : Outermost text ns) : startTags text = ns.flatMap Node.tags := by
  obtain ⟨tokens, htokens, htagged⟩ := h
  rw [startTags, htokens, Option.getD_some, htagged.startTags]

theorem outermost_of_prints (h : Prints ns text.toList) : Outermost text ns := by
  obtain ⟨tokens, htagged, htokens⟩ := h.exists_tokens
  exact ⟨tokens, by rwa [Token.ofText?_dropMark], htagged⟩

theorem parse_eq_ok_iff : parse text = .ok root ↔ ∃ before, Outermost text (before ++ [root]) := by
  rw [parse_eq_ok_iff_tokens]
  constructor
  · rintro ⟨tokens, htokens, hroot⟩
    obtain ⟨before, htagged⟩ := ofTokens_eq_ok_iff.1 hroot
    exact ⟨before, tokens, htokens, htagged⟩
  · rintro ⟨before, tokens, htokens, htagged⟩
    exact ⟨tokens, htokens, ofTokens_eq_ok_iff.2 ⟨before, htagged⟩⟩

theorem exists_xml_of_parse_eq_error {e : Error} (h : parse text = .error e) :
    ∃ cause, e = .xml cause := by
  rw [parse] at h
  split at h
  · exact ⟨_, (Except.error.inj h).symm⟩
  · rename_i tokens htokens
    cases ho : ofTokens tokens with
    | ok n => simp [ho, Except.mapError] at h
    | error cause =>
      rw [ho] at h
      exact ⟨cause, (Except.error.inj h).symm⟩

/-- **The root of a text.** A text is read if it has an outermost element, and what is read is the last one
of these, with all that is inside it; of the tags with which elements begin those before it are lost, so that
nothing is lost exactly if there is no other outermost element. Any other text is refused. -/
theorem parse_takes_last (text : String) :
    (∀ ns ms, Outermost text ns → Outermost text ms → ns = ms) ∧
    (∀ root, parse text = .ok root ↔ ∃ before, Outermost text (before ++ [root])) ∧
    (∀ before root, Outermost text (before ++ [root]) →
      startTags text = before.flatMap Node.tags ++ root.tags ∧
        (root.tags = startTags text ↔ before = [])) ∧
    ((∃ root, parse text = .ok root) ∨ ∃ cause, parse text = .error (.xml cause)) := by
  refine ⟨fun ns ms => Outermost.unique, fun root => parse_eq_ok_iff, fun before root h => ?_, ?_⟩
  · have htags : startTags text = before.flatMap Node.tags ++ root.tags := by
      rw [h.startTags_eq, List.flatMap_append, List.flatMap_singleton]
    refine ⟨htags, ?_⟩
    rw [htags, List.self_eq_append_left, List.flatMap_eq_nil_iff]
    constructor
    · intro hnone
      refine List.eq_nil_iff_forall_not_mem.2 fun n hn => ?_
      obtain ⟨name, attributes, children⟩ := n
      simpa [Node.tags_mk] using hnone _ hn
    · rintro rfl
      simp
  · cases hparse : parse text with
    | ok root => exact .inl ⟨root, rfl⟩
    | error e =>
      obtain ⟨cause, rfl⟩ := exists_xml_of_parse_eq_error hparse
      exact .inr ⟨cause, rfl⟩

/-- Two texts with two outermost elements each, with one tag and with two, of which the first is lost. -/
theorem parse_loses_first :
    let elements : List Node := [.mk "a" [] [], .mk "b" [] []]
    Outermost "<a/><b/>" elements ∧ parse "<a/><b/>" = .ok (.mk "b" [] []) ∧
      Outermost "<a></a><b></b>" elements ∧ parse "<a></a><b></b>" = .ok (.mk "b" [] []) := by
  intro elements
  have ha : IsName "a" := by decide
  have hb : IsName "b" := by decide
  have hnone : ∀ a ∈ ([] : List Written), a.Spelled := by simp
  have hshort : Prints elements "<a/><b/>".toList :=
    .single .nil ha hnone List.nodup_nil (.single .nil hb hnone List.nodup_nil (.nil .nil))
  have hlong : Prints elements "<a></a><b></b>".toList :=
    .nested .nil ha hnone List.nodup_nil (.nil .nil)
      (.nested .nil hb hnone List.nodup_nil (.nil .nil) (.nil .nil))
  have houtermost := outermost_of_prints hshort
  have houtermost' := outermost_of_prints hlong
  exact ⟨houtermost, parse_eq_ok_iff.2 ⟨[_], houtermost⟩, houtermost', parse_eq_ok_iff.2 ⟨[_], houtermost'⟩⟩

end VirtHost.Xml
