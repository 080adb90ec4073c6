import VirtHost.Proofs.Text.Scan
import VirtHost.Xml.Document
import VirtHost.Xml.Domain

/-! # Document order

* `Node.tag`, `Token.tag?`: what the tag that begins an element says about it.
* `Partial.tags_step`, `Partial.tags_foldlM`: no tag is lost or moved while a document is read, but for
  those of an earlier outermost element.
* `InDocumentOrder`, `inDocumentOrder_filter`: the elements of a text come in the order of their tags.
* `Domain.Passes`: so do the devices that a domain XML passes through.
* `Domain.passthroughs_eq_ok_iff`: when they are known.
-/

namespace VirtHost.Xml
set_option autoImplicit false

/-- The name and the attributes of an element. -/
def Node.tag (n : Node) : String × List (String × String) :=
  (n.name, n.attributes)

/-- The name and the attributes in a tag that begins an element. -/
def Token.tag? : Token → Option (String × List (String × String))
  | .start name attributes => some (name, attributes)
  | .empty name attributes => some (name, attributes)
  | .finish _ => none

/-- The tags of an element and of all elements inside it. -/
def Node.tags (n : Node) : List (String × List (String × String)) :=
  n.descendants.map tag

theorem Node.descendantsOfAll_append (ns ms : List Node) :
    descendantsOfAll (ns ++ ms) = descendantsOfAll ns ++ descendantsOfAll ms := by
  induction ns with
  | nil => simp [descendantsOfAll]
  | cons n ns ih => simp [descendantsOfAll, ih]

namespace Partial

/-- The tags of the open elements and of what is inside them, from the outermost one on. -/
def openTags : List Frame → List (String × List (String × String))
  | [] => []
  | f :: frames => openTags frames ++ f.close.tags

/-- The tags of what has been read and is still needed. -/
def tags (p : Partial) : List (String × List (String × String)) :=
  (p.root.elim [] Node.tags) ++ openTags p.frames

theorem tags_close_cons (f : Frame) (n : Node) :
    ({ f with children := n :: f.children } : Frame).close.tags = f.close.tags ++ n.tags := by
  simp [Frame.close, Node.tags, Node.descendants, Node.descendantsOfAll_append,
    Node.descendantsOfAll, Node.tag, Node.name, Node.attributes]

/-- A complete element comes after all that is kept; if it is an outermost one, it replaces that. -/
theorem tags_add (p : Partial) (n : Node) : (p.add n).tags <:+ p.tags ++ n.tags := by
  obtain ⟨frames, root⟩ := p
  cases frames with
  | nil =>
    have hadd : (add ⟨[], root⟩ n).tags = n.tags := by simp [add, tags, openTags]
    rw [hadd]
    exact List.suffix_append _ _
  | cons f frames =>
    have hadd : (add ⟨f :: frames, root⟩ n).tags = tags ⟨f :: frames, root⟩ ++ n.tags := by
      simp only [add, tags, openTags, tags_close_cons, List.append_assoc]
    exact ⟨[], by rw [List.nil_append, hadd]⟩

theorem tags_step {p q : Partial} {token : Token} (h : p.step token = .ok q) :
    q.tags <:+ p.tags ++ token.tag?.toList := by
  cases token with
  | start name attributes =>
    obtain rfl := Except.ok.inj h
    have hopen : tags ⟨⟨name, attributes, []⟩ :: p.frames, p.root⟩ = p.tags ++ [(name, attributes)] := by
      simp [tags, openTags, Frame.close, Node.tags, Node.descendants, Node.descendantsOfAll,
        Node.tag, Node.name, Node.attributes]
    exact ⟨[], by rw [List.nil_append, hopen]; rfl⟩
  | empty name attributes =>
    obtain rfl := Except.ok.inj h
    exact p.tags_add (.mk name attributes [])
  | finish name =>
    obtain ⟨frames, root⟩ := p
    cases frames with
    | nil => cases h
    | cons f frames =>
      simp only [step] at h
      split at h
      · obtain rfl := Except.ok.inj h
        have hkept : tags ⟨f :: frames, root⟩ = tags ⟨frames, root⟩ ++ f.close.tags := by
          simp only [tags, openTags, List.append_assoc]
        simp only [Token.tag?, Option.toList_none, List.append_nil, hkept]
        exact tags_add ⟨frames, root⟩ f.close
      · cases h

/-- What is kept while tags are read is the end of all that has been read. -/
theorem tags_foldlM {tokens : List Token} {p q : Partial} (h : tokens.foldlM step p = .ok q) :
    q.tags <:+ p.tags ++ tokens.filterMap Token.tag? := by
  induction tokens generalizing p with
  | nil =>
    obtain rfl : p = q := Except.ok.inj h
    simp
  | cons token tokens ih =>
    -- What the first tag pushes out stays out, so it can be put before the rest.
    rw [List.foldlM_cons] at h
    cases hm : p.step token with
    | error e =>
      rw [hm] at h
      cases h
    | ok m =>
      rw [hm] at h
      obtain ⟨before, hbefore⟩ := tags_step hm
      have hrest := ih h
      have hsplit : (token :: tokens).filterMap Token.tag?
          = token.tag?.toList ++ tokens.filterMap Token.tag? := by
        cases htag : token.tag? <;> simp [htag]
      rw [hsplit, ← List.append_assoc, ← hbefore, List.append_assoc]
      exact hrest.trans (List.suffix_append _ _)

end Partial

/-- The elements of a document have the last of its tags, in the same order. -/
theorem tags_of_ofTokens {tokens : List Token} {root : Node} (h : ofTokens tokens = .ok root) :
    root.tags <:+ tokens.filterMap Token.tag? := by
  unfold ofTokens at h
  cases hp : tokens.foldlM Partial.step Partial.start with
  | error e =>
    rw [hp] at h
    cases h
  | ok p =>
    rw [hp] at h
    have hresult : p.result = .ok root := h
    obtain ⟨frames, top⟩ := p
    cases frames with
    | cons f frames => cases hresult
    | nil =>
      cases top with
      | none => cases hresult
      | some n =>
        obtain rfl : n = root := Except.ok.inj hresult
        have hread := Partial.tags_foldlM hp
        simpa [Partial.tags, Partial.openTags, Partial.start] using hread

/-- The tags of some elements stand in a text in the same order. -/
def InDocumentOrder (text : String) (elements : List Node) : Prop :=
  ∃ tokens, Token.ofText? (dropMark text.toList) = some tokens ∧
    (elements.map Node.tag).Sublist (tokens.filterMap Token.tag?)

/-- A text is read if its tags are. -/
theorem parse_eq_ok_iff_tokens {text : String} {root : Node} :
    parse text = .ok root ↔
      ∃ tokens, Token.ofText? (dropMark text.toList) = some tokens ∧ ofTokens tokens = .ok root := by
  rw [parse]
  cases Token.ofText? (dropMark text.toList) with
  | none => simp
  | some tokens => cases hroot : ofTokens tokens <;> simp [hroot, Except.mapError]

/-- The elements of a kind in a document are found in the order of their tags. -/
theorem inDocumentOrder_filter {text : String} {root : Node} (h : parse text = .ok root)
    (kind : Node → Bool) : InDocumentOrder text (root.descendants.filter kind) := by
  obtain ⟨tokens, htokens, hroot⟩ := parse_eq_ok_iff_tokens.1 h
  have hfilter : (root.descendants.filter kind).map Node.tag |>.Sublist root.tags :=
    List.filter_sublist.map Node.tag
  exact ⟨tokens, htokens, hfilter.trans (tags_of_ofTokens hroot).sublist⟩

/-! ## Devices -/

namespace Domain

/-- The devices that a text passes through: one for each element that says so, in document order. -/
def Passes (text : String) (devices : List Passthrough) : Prop :=
  ∃ domain, parse text = .ok domain ∧
    InDocumentOrder text (domain.descendants.filter isPassthrough) ∧
    List.Forall₂ (fun element device => passthroughOf element = .ok device)
      (domain.descendants.filter isPassthrough) devices

theorem passthroughs_eq_ok_iff {domain : Node} {devices : List Passthrough} :
    passthroughs domain = .ok devices ↔ domain.descendants.filter isPassthrough ≠ [] ∧
      List.Forall₂ (fun element device => passthroughOf element = .ok device)
        (domain.descendants.filter isPassthrough) devices := by
  rw [passthroughs, ← Text.mapM_eq_ok_iff]
  split
  · rename_i hnone
    simp [hnone]
  · rename_i hsome
    exact (and_iff_right hsome).symm

theorem passes_of_passthroughs {text : String} {domain : Node} {devices : List Passthrough}
    (hparse : parse text = .ok domain) (h : passthroughs domain = .ok devices) :
    Passes text devices :=
  ⟨domain, hparse, inDocumentOrder_filter hparse isPassthrough, (passthroughs_eq_ok_iff.1 h).2⟩

end Domain

end VirtHost.Xml
