import VirtHost.Proofs.Xml.Escape

/-! # Printed documents

An element can be printed in many ways. Whichever is chosen, it is read back.

* `Gap`: what may stand between tags; `Token.ofText?_of_gap`: it is passed over.
* `Tagged`: the tags of some elements in order; `foldlM_step_of_tagged`: what the open elements become when
  these tags are read.
* `Prints`, `PrintedAs`: the printed forms of elements; `exists_prints`: every element has one.
* `parse_printed`: reading a document gives the element that was printed.
-/

namespace VirtHost.Xml
open Text
set_option autoImplicit false

variable {s t gap text : List Char} {ns ms : List Node} {tokens : List Token}

/-! ## Between tags -/

/-- What may stand between tags: text, comments and XML declarations. -/
inductive Gap : List Char → Prop
  | nil : Gap []
  | text {s rest : List Char} (hs : '<' ∉ s) (h : Gap rest) : Gap (s ++ rest)
  | comment {s rest : List Char} (hs : ¬ "--".toList <:+: s) (h : Gap rest) :
      Gap ("<!--".toList ++ s ++ "-->".toList ++ rest)
  | declaration {s rest : List Char} (hs : '>' ∉ s) (h : Gap rest) :
      Gap ("<?xml".toList ++ s ++ "?>".toList ++ rest)

theorem Gap.append (hs : Gap s) (ht : Gap t) : Gap (s ++ t) := by
  induction hs with
  | nil => exact ht
  | text hs _ ih =>
    rw [List.append_assoc]
    exact .text hs ih
  | comment hs _ ih =>
    rw [List.append_assoc]
    exact .comment hs ih
  | declaration hs _ ih =>
    rw [List.append_assoc]
    exact .declaration hs ih

namespace Token

/-- A comment ends with its first two dashes. -/
theorem after?_comment (hs : ¬ "--".toList <:+: s) (t : List Char) :
    after? "-->".toList (s ++ "-->".toList ++ t) = some t := by
  induction s with
  | nil => simp [after?, dropHead?]
  | cons c s ih =>
    have hlater : ¬ "--".toList <:+: s := fun h => hs (h.trans (List.suffix_cons c s).isInfix)
    have hnot : dropHead? "-->".toList (c :: (s ++ "-->".toList ++ t)) = none := by
      refine Option.eq_none_iff_forall_ne_some.2 fun rest hrest => ?_
      have heq := dropHead?_eq_some_iff.1 hrest
      -- Two dashes in front would stand in the comment, or one of them and the end could not follow.
      cases s with
      | nil => simp at heq
      | cons d s =>
        simp only [String.reduceToList, List.cons_append, List.nil_append, List.cons.injEq] at heq
        obtain ⟨rfl, rfl, -⟩ := heq
        exact hs ⟨[], s, rfl⟩
    rw [List.cons_append, List.cons_append, after?, hnot, Option.none_or]
    exact ih hlater

theorem ofText?_comment (hs : ¬ "--".toList <:+: s) (t : List Char) :
    ofText? ("<!--".toList ++ s ++ "-->".toList ++ t) = ofText? t := by
  have hbang : markup? ('!' :: '-' :: '-' :: (s ++ "-->".toList ++ t)) = some (none, t) := by
    simp only [markup?, afterBang?, dropHead?, if_true, Option.bind_eq_bind, Option.bind_some,
      after?_comment hs t, Option.map_some]
  have hsplit : "<!--".toList ++ s ++ "-->".toList ++ t
      = '<' :: '!' :: '-' :: '-' :: (s ++ "-->".toList ++ t) := by simp
  rw [hsplit, ofText?_eq, afterOpen?_cons]
  simp only [hbang]
  cases ofText? t <;> rfl

theorem ofText?_declaration (hs : '>' ∉ s) (t : List Char) :
    ofText? ("<?xml".toList ++ s ++ "?>".toList ++ t) = ofText? t := by
  have hinside : ∀ c ∈ "xml".toList ++ s ++ ['?'], (c != '>') = true := by
    intro c hc
    simp only [List.mem_append, List.mem_singleton] at hc
    rcases hc with (hc | hc) | rfl
    · simp only [String.reduceToList, List.mem_cons, List.not_mem_nil, or_false] at hc
      rcases hc with rfl | rfl | rfl <;> decide
    · simpa using fun heq : c = '>' => hs (heq ▸ hc)
    · decide
  have hcut : cut '>' ("xml".toList ++ s ++ ['?'] ++ '>' :: t) = ("xml".toList ++ s ++ ['?'], t) := by
    rw [cut, List.takeWhile_append_of_pos hinside, List.dropWhile_append_of_pos hinside]
    simp
  have hmarkup : markup? ('?' :: ("xml".toList ++ s ++ ['?'] ++ '>' :: t)) = some (none, t) := by
    simp only [markup?, hcut, isInstruction, List.getLast?_concat, decide_true, if_true]
  have hsplit : "<?xml".toList ++ s ++ "?>".toList ++ t
      = '<' :: '?' :: ("xml".toList ++ s ++ ['?'] ++ '>' :: t) := by simp
  rw [hsplit, ofText?_eq, afterOpen?_cons]
  simp only [hmarkup]
  cases ofText? t <;> rfl

/-- What stands between tags is passed over. -/
theorem ofText?_of_gap (h : Gap gap) (t : List Char) : ofText? (gap ++ t) = ofText? t := by
  induction h with
  | nil => rfl
  | text hs _ ih => rw [List.append_assoc, ofText?_gap hs, ih]
  | comment hs _ ih => rw [List.append_assoc, ofText?_comment hs, ih]
  | declaration hs _ ih => rw [List.append_assoc, ofText?_declaration hs, ih]

theorem ofText?_dropMark (s : List Char) : ofText? (dropMark s) = ofText? s := by
  unfold dropMark
  split
  · rename_i rest
    exact (@ofText?_gap ['\ufeff'] (by decide) rest).symm
  · rfl

end Token

/-! ## Tags of elements -/

/-- The tags of some elements that stand beside each other, in order. An element without children may have one
tag or two. -/
inductive Tagged : List Node → List Token → Prop
  | nil : Tagged [] []
  | single {name : String} {attributes : List (String × String)} {ns : List Node} {tokens : List Token}
      (h : Tagged ns tokens) : Tagged (.mk name attributes [] :: ns) (.empty name attributes :: tokens)
  | nested {name : String} {attributes : List (String × String)} {children ns : List Node}
      {inner tokens : List Token} (hinner : Tagged children inner) (h : Tagged ns tokens) :
      Tagged (.mk name attributes children :: ns)
        (.start name attributes :: (inner ++ .finish name :: tokens))

namespace Partial

theorem foldl_add_cons (f : Frame) (frames : List Frame) (root : Option Node) (ns : List Node) :
    ns.foldl add ⟨f :: frames, root⟩
      = ⟨{ f with children := ns.reverse ++ f.children } :: frames, root⟩ := by
  induction ns generalizing f with
  | nil => rfl
  | cons n ns ih =>
    rw [List.foldl_cons, add, ih]
    simp

/-- **The stack while tags are read.** When all tags of some elements have been read, the same elements are
open as before, and the new ones have been added one after the other. -/
theorem foldlM_step_of_tagged (h : Tagged ns tokens) (p : Partial) :
    tokens.foldlM step p = .ok (ns.foldl add p) := by
  induction h generalizing p with
  | nil => rfl
  | single _ ih =>
    rw [List.foldlM_cons]
    exact ih _
  | @nested name attributes children ns inner tokens _ _ ihinner ih =>
    have hopened : p.step (.start name attributes) = .ok ⟨⟨name, attributes, []⟩ :: p.frames, p.root⟩ := rfl
    have hread := ihinner ⟨⟨name, attributes, []⟩ :: p.frames, p.root⟩
    rw [foldl_add_cons, List.append_nil] at hread
    have hclosed : step ⟨⟨name, attributes, children.reverse⟩ :: p.frames, p.root⟩ (.finish name)
        = .ok (p.add (.mk name attributes children)) := by
      simp [step, Frame.close]
    calc (Token.start name attributes :: (inner ++ .finish name :: tokens)).foldlM step p
        = (inner ++ .finish name :: tokens).foldlM step ⟨⟨name, attributes, []⟩ :: p.frames, p.root⟩ := by
          rw [List.foldlM_cons, hopened]
          rfl
      _ = (Token.finish name :: tokens).foldlM step
            ⟨⟨name, attributes, children.reverse⟩ :: p.frames, p.root⟩ := by
          rw [List.foldlM_append, hread]
          rfl
      _ = tokens.foldlM step (p.add (.mk name attributes children)) := by
          rw [List.foldlM_cons, hclosed]
          rfl
      _ = .ok (ns.foldl add (p.add (.mk name attributes children))) := ih _

end Partial

theorem ofTokens_of_tagged {root : Node} (h : Tagged [root] tokens) : ofTokens tokens = .ok root := by
  rw [ofTokens, Partial.foldlM_step_of_tagged h]
  rfl

/-! ## Printed forms -/

/-- The printed forms of some elements that stand beside each other. Before, between and behind them and inside
their tags there may be gaps; an element without children may have one tag or two. -/
inductive Prints : List Node → List Char → Prop
  | nil {gap : List Char} (hgap : Gap gap) : Prints [] gap
  | single {gap rest : List Char} {name : String} {as : List Written} {ns : List Node} (hgap : Gap gap)
      (hname : IsName name) (has : ∀ a ∈ as, a.Spelled) (hnodup : (as.map (·.key)).Nodup)
      (hrest : Prints ns rest) :
      Prints (.mk name (valuesOf as) [] :: ns)
        (gap ++ ('<' :: Token.inside name as ++ '/' :: '>' :: rest))
  | nested {gap inner rest : List Char} {name : String} {as : List Written} {children ns : List Node}
      (hgap : Gap gap) (hname : IsName name) (has : ∀ a ∈ as, a.Spelled)
      (hnodup : (as.map (·.key)).Nodup) (hinner : Prints children inner) (hrest : Prints ns rest) :
      Prints (.mk name (valuesOf as) children :: ns)
        (gap ++ ('<' :: Token.inside name as ++ '>' :: (inner ++
          ('<' :: '/' :: name.toList ++ '>' :: rest))))

/-- A document whose only outermost element is the given one. -/
def PrintedAs (root : Node) (text : String) : Prop :=
  Prints [root] text.toList

theorem Prints.exists_tagged (h : Prints ns text) : ∃ tokens, Tagged ns tokens ∧
    ∀ t, Token.ofText? (text ++ t) = (Token.ofText? t).map (tokens ++ ·) := by
  induction h with
  | nil hgap => exact ⟨[], .nil, fun t => by simp [Token.ofText?_of_gap hgap]⟩
  | @single gap rest name as ns hgap hname has hnodup _ ih =>
    obtain ⟨tokens, htagged, hread⟩ := ih
    refine ⟨_, .single htagged, fun t => ?_⟩
    have htag := Token.ofText?_empty hname (fun a ha => (has a ha).valid) hnodup (rest ++ t)
    rw [hread, Option.map_map] at htag
    rw [List.append_assoc, Token.ofText?_of_gap hgap]
    simpa [Function.comp_def] using htag
  | @nested gap inner rest name as children ns hgap hname has hnodup _ _ ihinner ih =>
    obtain ⟨tokens, htagged, hread⟩ := ih
    obtain ⟨tokens', htagged', hread'⟩ := ihinner
    refine ⟨_, .nested htagged' htagged, fun t => ?_⟩
    have hfinish := Token.ofText?_finish hname (rest ++ t)
    have htag := Token.ofText?_start hname (fun a ha => (has a ha).valid) hnodup
      (inner ++ ('<' :: '/' :: name.toList ++ '>' :: (rest ++ t)))
    rw [hread', hfinish, hread, Option.map_map, Option.map_map, Option.map_map] at htag
    rw [List.append_assoc, Token.ofText?_of_gap hgap]
    simpa [Function.comp_def] using htag

theorem Prints.exists_tokens (h : Prints ns text) :
    ∃ tokens, Tagged ns tokens ∧ Token.ofText? text = some tokens := by
  obtain ⟨tokens, htagged, hread⟩ := h.exists_tagged
  have htokens := hread []
  have hend : Token.ofText? [] = some [] := by
    rw [Token.ofText?_eq]
    rfl
  rw [List.append_nil, hend, Option.map_some, List.append_nil] at htokens
  exact ⟨tokens, htagged, htokens⟩

/-- A document is read as the element that it prints. -/
theorem parse_of_printedAs {root : Node} {text : String} (h : PrintedAs root text) :
    parse text = .ok root := by
  obtain ⟨tokens, htagged, htokens⟩ := Prints.exists_tokens h
  rw [parse, Token.ofText?_dropMark, htokens]
  simp only [ofTokens_of_tagged htagged]
  rfl

/-! ## Elements that can be printed -/

/-- The characters with which a name of XML begins. -/
def nameStartRanges : List (Nat × Nat) :=
  [(0x3a, 0x3a), (0x41, 0x5a), (0x5f, 0x5f), (0x61, 0x7a), (0xc0, 0xd6), (0xd8, 0xf6), (0xf8, 0x2ff),
   (0x370, 0x37d), (0x37f, 0x1fff), (0x200c, 0x200d), (0x2070, 0x218f), (0x2c00, 0x2fef),
   (0x3001, 0xd7ff), (0xf900, 0xfdcf), (0xfdf0, 0xfffd), (0x10000, 0xeffff)]

/-- The characters of a name of XML. -/
def nameRanges : List (Nat × Nat) :=
  nameStartRanges ++
    [(0x2d, 0x2e), (0x30, 0x39), (0xb7, 0xb7), (0x300, 0x36f), (0x203f, 0x2040)]

/-- A name of XML. -/
def IsXmlName (name : String) : Prop :=
  (∃ c ∈ name.toList.head?, inRanges nameStartRanges c = true) ∧
    ∀ c ∈ name.toList, inRanges nameRanges c = true

instance (name : String) : Decidable (IsXmlName name) :=
  decidable_of_iff (name.toList.head?.any (inRanges nameStartRanges) ∧ name.toList.all (inRanges nameRanges))
    (by simp [IsXmlName, Option.any_eq_true])

theorem not_inRanges_of_sign :
    ∀ c ∈ [' ', '\r', '\n', '\t', '=', '<', '>', '"', '\'', '/', '!', '?'], inRanges nameRanges c = false := by
  simp only [List.forall_mem_cons, List.not_mem_nil, false_imp_iff, implies_true, and_true]
  decide

/-- No character of a name has a meaning of its own in markup. -/
theorem IsXmlName.isName {name : String} (h : IsXmlName name) : IsName name := by
  obtain ⟨⟨c, hc, -⟩, hall⟩ := h
  refine ⟨fun hnil => by simp [hnil] at hc, fun d hd => ?_⟩
  have hname := hall d hd
  cases hsign : isMarkupSign d with
  | false => rfl
  | true =>
    have hmem : d ∈ [' ', '\r', '\n', '\t', '=', '<', '>', '"', '\'', '/', '!', '?'] := by
      simpa only [isMarkupSign, isMarkupBlank, Bool.or_eq_true, decide_eq_true_eq, List.contains_iff_mem,
        List.mem_cons, or_assoc] using hsign
    rw [not_inRanges_of_sign d hmem] at hname
    cases hname

/-- An element in which all names are names of XML and no attribute is repeated. -/
inductive Node.Named : Node → Prop
  | mk {name : String} {attributes : List (String × String)} {children : List Node} (hname : IsXmlName name)
      (hkeys : ∀ a ∈ attributes, IsXmlName a.1) (hnodup : (attributes.map (·.1)).Nodup)
      (hchildren : ∀ c ∈ children, c.Named) : Named (.mk name attributes children)

theorem Prints.gap_append (hgap : Gap gap) (h : Prints ns text) : Prints ns (gap ++ text) := by
  cases h with
  | nil hgap' => exact .nil (hgap.append hgap')
  | single hgap' hname has hnodup hrest =>
    rw [← List.append_assoc]
    exact .single (hgap.append hgap') hname has hnodup hrest
  | nested hgap' hname has hnodup hinner hrest =>
    rw [← List.append_assoc]
    exact .nested (hgap.append hgap') hname has hnodup hinner hrest

theorem Prints.append (hs : Prints ns s) (ht : Prints ms t) : Prints (ns ++ ms) (s ++ t) := by
  induction hs with
  | nil hgap => exact ht.gap_append hgap
  | single hgap hname has hnodup _ ih =>
    have h := Prints.single hgap hname has hnodup ih
    simpa using h
  | nested hgap hname has hnodup hinner _ _ ih =>
    have h := Prints.nested hgap hname has hnodup hinner ih
    simpa using h

theorem exists_spelled_attributes {attributes : List (String × String)}
    (h : ∀ a ∈ attributes, IsXmlName a.1) :
    ∃ as : List Written, (∀ a ∈ as, a.Spelled) ∧ valuesOf as = attributes := by
  induction attributes with
  | nil => exact ⟨[], by simp, rfl⟩
  | cons a attributes ih =>
    obtain ⟨hkey, hrest⟩ := List.forall_mem_cons.1 h
    obtain ⟨as, has, rfl⟩ := ih hrest
    obtain ⟨b, hb, hkeyOf, hvalueOf⟩ := Written.exists_spelled hkey.isName a.2
    refine ⟨b :: as, List.forall_mem_cons.2 ⟨hb, has⟩, ?_⟩
    rw [valuesOf, List.map_cons, hkeyOf, hvalueOf]
    rfl

theorem exists_prints_all (h : ∀ n ∈ ns, ∃ text, Prints [n] text) : ∃ text, Prints ns text := by
  induction ns with
  | nil => exact ⟨[], .nil .nil⟩
  | cons n ns ih =>
    obtain ⟨⟨first, hfirst⟩, hrest⟩ := List.forall_mem_cons.1 h
    obtain ⟨others, hothers⟩ := ih hrest
    exact ⟨first ++ others, hfirst.append hothers⟩

theorem exists_prints {n : Node} (h : n.Named) : ∃ text, Prints [n] text := by
  induction h with
  | @mk name attributes children hname hkeys hnodup _ ih =>
    obtain ⟨as, has, rfl⟩ := exists_spelled_attributes hkeys
    obtain ⟨inner, hinner⟩ := exists_prints_all ih
    have hdistinct : (as.map (·.key)).Nodup := by
      rw [valuesOf, List.map_map] at hnodup
      exact hnodup
    exact ⟨_, .nested .nil hname.isName has hdistinct hinner (.nil .nil)⟩

/-- **Reading undoes printing.** An element whose names are names of XML can be printed, and however it is
printed, reading gives it back with its attributes and children in order. -/
theorem parse_printed (root : Node) (h : root.Named) :
    (∃ text, PrintedAs root text) ∧ ∀ text, PrintedAs root text → parse text = .ok root := by
  obtain ⟨text, htext⟩ := exists_prints h
  refine ⟨⟨String.ofList text, ?_⟩, fun text => parse_of_printedAs⟩
  rw [PrintedAs, String.toList_ofList]
  exact htext

/-- An element with a value in which everything must be escaped, and two children without content. -/
def mixedRoot : Node :=
  .mk "d" [("k", "<&\"'"), ("l", ">")] [.mk "b" [] [], .mk "c" [] []]

theorem parse_printed_mixed :
    let text := "<?xml version='1.0'?>\n<!--a>-b--><d k=\"&lt;&amp;&quot;&#39;\" l='>'>x > y<b/> <c></c></d>\n"
    mixedRoot.Named ∧ PrintedAs mixedRoot text ∧ parse text = .ok mixedRoot := by
  intro text
  have hd : IsXmlName "d" := by decide
  have hb : IsXmlName "b" := by decide
  have hc : IsXmlName "c" := by decide
  have hk : IsXmlName "k" := by decide
  have hl : IsXmlName "l" := by decide
  have hnamed : mixedRoot.Named := by
    refine .mk hd (by simp [hk, hl]) (by decide) ?_
    rw [List.forall_mem_cons, List.forall_mem_singleton]
    exact ⟨.mk hb (by simp) (by simp) (by simp), .mk hc (by simp) (by simp) (by simp)⟩
  have hnumber : IsNumeral 10 '\''.toNat "39".toList := ⟨by decide, [3, 9], by decide, by decide⟩
  have hfirst : Written.Spelled ⟨"k", "<&\"'", '"', "&lt;&amp;&quot;&#39;".toList⟩ :=
    ⟨hk.isName, .inl rfl, .reference .lt (.reference .amp (.reference .quot
      (.reference (.decimal (by decide) hnumber (by decide)) .nil)))⟩
  have hsecond : Written.Spelled ⟨"l", ">", '\'', ">".toList⟩ :=
    ⟨hl.isName, .inr rfl, .plain (by decide) (by decide) .nil⟩
  have htext (s : List Char) (hs : '<' ∉ s) : Gap s := by
    have h := Gap.text hs .nil
    rwa [List.append_nil] at h
  have hprolog : Gap "<?xml version='1.0'?>\n<!--a>-b-->".toList := by
    have hcomment := @Gap.comment "a>-b".toList [] (by decide) .nil
    have hnext := (htext "\n".toList (by decide)).append hcomment
    have h := @Gap.declaration " version='1.0'".toList _ (by decide) hnext
    simpa using h
  have hlast : Prints [.mk "c" [] []] " <c></c>".toList := by
    have h := @Prints.nested " ".toList [] [] "c" [] [] [] (htext _ (by decide)) hc.isName (by simp) (by simp)
      (.nil .nil) (.nil .nil)
    simpa [Token.inside, valuesOf] using h
  have hinner : Prints [.mk "b" [] [], .mk "c" [] []] "x > y<b/> <c></c>".toList := by
    have h := Prints.single (htext "x > y".toList (by decide)) hb.isName (List.forall_mem_nil _) List.nodup_nil
      hlast
    simpa [Token.inside, valuesOf] using h
  have hprinted : PrintedAs mixedRoot text := by
    have hattributes := List.forall_mem_cons.2 ⟨hfirst, List.forall_mem_singleton.2 hsecond⟩
    have h := Prints.nested hprolog hd.isName hattributes (by decide) hinner
      (.nil (htext "\n".toList (by decide)))
    simpa [Token.inside, valuesOf, Written.chars, PrintedAs, mixedRoot, text] using h
  exact ⟨hnamed, hprinted, (parse_printed mixedRoot hnamed).2 text hprinted⟩

end VirtHost.Xml
