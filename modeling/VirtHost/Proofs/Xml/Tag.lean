import VirtHost.Proofs.Text.Scan
import VirtHost.Xml.Document

/-! # Written tags

What is read of tags that are written out: the tag itself, whatever comes behind it.

* `Written`: an attribute with the quotes and the text between them.
* `attributes?_written`: the attributes of a tag.
* `Token.Balanced`: a text in which every quote is closed and no tag ends.
* `Token.ofText?_gap`, `Token.ofText?_start`, `Token.ofText?_empty`, `Token.ofText?_finish`: text between tags,
  and tags.
-/

namespace VirtHost.Xml
set_option autoImplicit false

/-! ## Names and attributes -/

/-- The characters that end a name or have a meaning of their own in markup. -/
def isMarkupSign (c : Char) : Bool :=
  isMarkupBlank c || ['=', '<', '>', '"', '\'', '/', '!', '?'].contains c

/-- A name of an element or an attribute. -/
structure IsName (name : String) : Prop where
  nonempty : name.toList ≠ []
  plain : ∀ c ∈ name.toList, isMarkupSign c = false

instance (name : String) : Decidable (IsName name) :=
  decidable_of_iff (name.toList ≠ [] ∧ name.toList.all (fun c => !isMarkupSign c) = true)
    ⟨fun h => ⟨h.1, by simpa using h.2⟩, fun h => ⟨h.nonempty, by simpa using h.plain⟩⟩

/-- An attribute as it is written, and the value that it stands for. -/
structure Written where
  key : String
  value : String
  quote : Char
  raw : List Char

namespace Written

def chars (a : Written) : List Char :=
  ' ' :: a.key.toList ++ '=' :: a.quote :: a.raw ++ [a.quote]

structure Valid (a : Written) : Prop where
  key : IsName a.key
  quote : a.quote = '"' ∨ a.quote = '\''
  inside : a.quote ∉ a.raw
  value : unescape? a.raw = some a.value.toList

end Written

/-- The attributes that some written ones stand for. -/
def valuesOf (as : List Written) : List (String × String) :=
  as.map fun a => (a.key, a.value)

theorem isMarkupBlank_of_sign {c : Char} (h : isMarkupSign c = false) : isMarkupBlank c = false := by
  simp only [isMarkupSign, Bool.or_eq_false_iff] at h
  exact h.1

theorem unescape?_of_notMem {s : List Char} (h : '&' ∉ s) : unescape? s = some s := by
  rw [unescape?]
  induction s with
  | nil => rfl
  | cons c s ih =>
    simp only [List.mem_cons, not_or] at h
    rw [unescapeFrom, if_neg (Ne.symm h.1), ih h.2]
    rfl

theorem quoted?_append {quote : Char} {raw t : List Char} (hquote : quote = '"' ∨ quote = '\'')
    (hraw : quote ∉ raw) : quoted? (quote :: raw ++ quote :: t) = some (raw, t) := by
  have hinside : ∀ c ∈ raw, (c != quote) = true := by
    intro c hc
    simpa using fun heq : c = quote => hraw (heq ▸ hc)
  rw [List.cons_append, quoted?, if_pos hquote, List.dropWhile_append_of_pos hinside,
    List.takeWhile_append_of_pos hinside, List.dropWhile_cons_of_neg (by simp),
    List.takeWhile_cons_of_neg (by simp), List.append_nil]

theorem attributesFrom_append {a : Written} (ha : a.Valid)
    {seen : List (List Char)} (hseen : a.key.toList ∉ seen) (t : List Char) :
    attributesFrom seen (a.chars ++ t)
      = (attributesFrom (a.key.toList :: seen) t).map ((a.key, a.value) :: ·) := by
  obtain ⟨first, more, hkey⟩ := List.exists_cons_of_ne_nil ha.key.nonempty
  have hplain := ha.key.plain
  rw [hkey] at hplain
  have hfirst : isMarkupBlank first = false := isMarkupBlank_of_sign (hplain first List.mem_cons_self)
  have hmore : ∀ c ∈ more, (c != '=' && !isMarkupBlank c) = true := by
    intro c hc
    have hsign := hplain c (List.mem_cons_of_mem first hc)
    have hequals : c ≠ '=' := by
      rintro rfl
      cases hsign
    simp [hequals, isMarkupBlank_of_sign hsign]
  have hchars : (a.chars ++ t).dropWhile isMarkupBlank
      = first :: (more ++ '=' :: (a.quote :: a.raw ++ a.quote :: t)) := by
    have hblank : isMarkupBlank ' ' = true := by decide
    rw [Written.chars, hkey]
    simp [hblank, hfirst]
  have hkeyOf : keyOf first (more ++ '=' :: (a.quote :: a.raw ++ a.quote :: t)) = a.key.toList := by
    rw [keyOf, List.takeWhile_append_of_pos hmore, List.takeWhile_cons_of_neg (by simp),
      List.append_nil, hkey]
  have hafter : afterEquals? (more ++ '=' :: (a.quote :: a.raw ++ a.quote :: t))
      = some (a.quote :: a.raw ++ a.quote :: t) := by
    have hequals : isMarkupBlank '=' = false := by decide
    have hquote : isMarkupBlank a.quote = false := by
      rcases ha.quote with hq | hq <;> rw [hq] <;> decide
    rw [afterEquals?, List.dropWhile_append_of_pos hmore, List.dropWhile_cons_of_neg (by simp),
      List.dropWhile_cons_of_neg (by simp [hequals])]
    simp [hquote]
  rw [attributesFrom]
  split
  · rename_i hnil
    rw [hchars] at hnil
    cases hnil
  · rename_i first' rest hs
    rw [hchars, List.cons.injEq] at hs
    obtain ⟨rfl, rfl⟩ := hs
    rw [hkeyOf]
    split
    · rename_i hnone
      rw [hafter] at hnone
      cases hnone
    · rename_i found hfound
      rw [hafter, Option.some.injEq] at hfound
      subst hfound
      rw [if_neg hseen]
      split
      · rename_i hnone
        rw [quoted?_append ha.quote ha.inside] at hnone
        cases hnone
      · rename_i raw after hquoted
        rw [quoted?_append ha.quote ha.inside, Option.some.injEq, Prod.mk.injEq] at hquoted
        obtain ⟨rfl, rfl⟩ := hquoted
        rw [ha.value, String.ofList_toList, Option.bind_eq_bind, Option.bind_some,
          String.ofList_toList]
        cases attributesFrom (a.key.toList :: seen) t <;> rfl

theorem attributesFrom_written {as : List Written} (has : ∀ a ∈ as, a.Valid)
    (hnodup : (as.map (·.key)).Nodup) {seen : List (List Char)}
    (hseen : ∀ a ∈ as, a.key.toList ∉ seen) :
    attributesFrom seen (as.flatMap Written.chars) = some (valuesOf as) := by
  induction as generalizing seen with
  | nil =>
    rw [List.flatMap_nil, attributesFrom]
    rfl
  | cons a as ih =>
    obtain ⟨hkey, hrest⟩ := List.nodup_cons.1 hnodup
    have hlater : ∀ b ∈ as, b.key.toList ∉ a.key.toList :: seen := by
      intro b hb hmem
      rcases List.mem_cons.1 hmem with heq | hmem
      · exact hkey (List.mem_map.2 ⟨b, hb, String.toList_injective heq⟩)
      · exact hseen b (List.mem_cons_of_mem a hb) hmem
    rw [List.flatMap_cons, attributesFrom_append (has a List.mem_cons_self)
      (hseen a List.mem_cons_self), ih (fun b hb => has b (List.mem_cons_of_mem a hb)) hrest hlater]
    rfl

theorem attributes?_written {as : List Written} (has : ∀ a ∈ as, a.Valid)
    (hnodup : (as.map (·.key)).Nodup) :
    attributes? (as.flatMap Written.chars) = some (valuesOf as) :=
  attributesFrom_written has hnodup fun _ _ => List.not_mem_nil

namespace Token

/-! ## Insides of tags -/

/-- Every quote in a text is closed in it, and no tag ends in it. -/
def Balanced (s : List Char) : Prop :=
  ∀ t, cutTag? none (s ++ t) = (cutTag? none t).map fun p => (s ++ p.1, p.2)

theorem Balanced.append {s u : List Char} (hs : Balanced s) (hu : Balanced u) : Balanced (s ++ u) := by
  intro t
  rw [List.append_assoc, hs, hu, Option.map_map]
  congr 1
  funext p
  simp

theorem balanced_of_forall {s : List Char} (h : ∀ c ∈ s, c ≠ '>' ∧ c ≠ '"' ∧ c ≠ '\'') :
    Balanced s := by
  induction s with
  | nil =>
    intro t
    simp
  | cons c s ih =>
    intro t
    obtain ⟨hend, hdouble, hsingle⟩ := h c List.mem_cons_self
    have hquote : ¬ (c = '"' ∨ c = '\'') := not_or.2 ⟨hdouble, hsingle⟩
    rw [List.cons_append, cutTag?, if_neg hend, if_neg hquote,
      ih (fun d hd => h d (List.mem_cons_of_mem c hd)) t, Option.map_map]
    rfl

theorem cutTag?_quoted {quote : Char} {raw : List Char} (hraw : quote ∉ raw) (t : List Char) :
    cutTag? (some quote) (raw ++ quote :: t)
      = (cutTag? none t).map fun p => (raw ++ quote :: p.1, p.2) := by
  induction raw with
  | nil => simp [cutTag?]
  | cons c raw ih =>
    simp only [List.mem_cons, not_or] at hraw
    rw [List.cons_append, cutTag?, if_neg (Ne.symm hraw.1), ih hraw.2, Option.map_map]
    rfl

theorem balanced_quoted {quote : Char} {raw : List Char} (hquote : quote = '"' ∨ quote = '\'')
    (hraw : quote ∉ raw) : Balanced (quote :: raw ++ [quote]) := by
  intro t
  have hend : quote ≠ '>' := by
    rcases hquote with rfl | rfl <;> decide
  have hsplit : quote :: raw ++ [quote] ++ t = quote :: (raw ++ quote :: t) := by simp
  rw [hsplit, cutTag?, if_neg hend, if_pos hquote, cutTag?_quoted hraw, Option.map_map]
  congr 1
  funext p
  simp

theorem plain_of_isName {name : String} (h : IsName name) :
    ∀ c ∈ name.toList, c ≠ '>' ∧ c ≠ '"' ∧ c ≠ '\'' := by
  intro c hc
  have hsign := h.plain c hc
  refine ⟨?_, ?_, ?_⟩
  all_goals
    rintro rfl
    cases hsign

theorem balanced_written {a : Written} (ha : a.Valid) : Balanced a.chars := by
  have hsplit : a.chars = (' ' :: a.key.toList ++ ['=']) ++ (a.quote :: a.raw ++ [a.quote]) := by
    simp [Written.chars]
  rw [hsplit]
  refine (balanced_of_forall fun c hc => ?_).append (balanced_quoted ha.quote ha.inside)
  simp only [List.cons_append, List.mem_cons, List.mem_append, List.not_mem_nil, or_false] at hc
  rcases hc with rfl | hc | rfl
  · decide
  · exact plain_of_isName ha.key c hc
  · decide

theorem balanced_flatMap {as : List Written} (has : ∀ a ∈ as, a.Valid) :
    Balanced (as.flatMap Written.chars) := by
  induction as with
  | nil => exact balanced_of_forall fun c hc => absurd hc List.not_mem_nil
  | cons a as ih =>
    rw [List.flatMap_cons]
    exact (balanced_written (has a List.mem_cons_self)).append
      (ih fun b hb => has b (List.mem_cons_of_mem a hb))

/-- A tag ends at the first `>` behind a text in which every quote is closed. -/
theorem cutTag?_balanced {s : List Char} (hs : Balanced s) (t : List Char) :
    cutTag? none (s ++ '>' :: t) = some (s, t) := by
  rw [hs, cutTag?]
  simp

/-- The name and the attributes of a tag as they are written. -/
def inside (name : String) (as : List Written) : List Char :=
  name.toList ++ as.flatMap Written.chars

section
variable {name : String} {as : List Written}

theorem balanced_inside (hname : IsName name) (has : ∀ a ∈ as, a.Valid) :
    Balanced (inside name as) :=
  (balanced_of_forall (plain_of_isName hname)).append (balanced_flatMap has)

theorem not_blank_of_isName (hname : IsName name) :
    ∀ c ∈ name.toList, (!isMarkupBlank c) = true := by
  intro c hc
  rw [isMarkupBlank_of_sign (hname.plain c hc)]
  rfl

/-- What stands behind the name begins with a blank, if there is anything. -/
theorem span_inside (hname : IsName name) :
    ((inside name as).takeWhile fun c => !isMarkupBlank c) = name.toList ∧
      ((inside name as).dropWhile fun c => !isMarkupBlank c) = as.flatMap Written.chars := by
  have hblank : isMarkupBlank ' ' = true := by decide
  rw [inside, List.takeWhile_append_of_pos (not_blank_of_isName hname),
    List.dropWhile_append_of_pos (not_blank_of_isName hname)]
  cases as with
  | nil => simp
  | cons a as => simp [Written.chars, hblank]

theorem getLast?_inside (hname : IsName name) (has : ∀ a ∈ as, a.Valid) :
    (inside name as).getLast? ≠ some '/' := by
  intro hlast
  have hmem := List.mem_of_getLast? hlast
  rcases List.eq_nil_or_concat as with rfl | ⟨before, a, rfl⟩
  · have hslash : '/' ∈ name.toList := by simpa [inside] using hmem
    have hsign := hname.plain '/' hslash
    cases hsign
  · have hend : inside name (before.concat a) = name.toList ++ before.flatMap Written.chars
        ++ (' ' :: a.key.toList ++ '=' :: a.quote :: a.raw) ++ [a.quote] := by
      simp [inside, Written.chars]
    rw [hend, List.getLast?_concat, Option.some.injEq] at hlast
    rcases (has a (by simp)).quote with hq | hq <;> rw [hq] at hlast <;> cases hlast

theorem ofInside?_start (hname : IsName name) (has : ∀ a ∈ as, a.Valid)
    (hnodup : (as.map (·.key)).Nodup) :
    ofInside? (inside name as) = some (.start name (valuesOf as)) := by
  obtain ⟨htake, hdrop⟩ := @span_inside name as hname
  simp only [ofInside?, getLast?_inside hname has, if_false, htake, hdrop,
    attributes?_written has hnodup, String.ofList_toList, Option.map_some]

theorem ofInside?_empty (hname : IsName name) (has : ∀ a ∈ as, a.Valid)
    (hnodup : (as.map (·.key)).Nodup) :
    ofInside? (inside name as ++ ['/']) = some (.empty name (valuesOf as)) := by
  obtain ⟨htake, hdrop⟩ := @span_inside name as hname
  simp only [ofInside?, List.getLast?_concat, if_true, List.dropLast_concat, htake, hdrop,
    attributes?_written has hnodup, String.ofList_toList, Option.map_some]

end

/-! ## Tags in a text -/

theorem ofText?_eq (s : List Char) :
    ofText? s = match afterOpen? s with
      | none => some []
      | some rest =>
        match markup? rest with
        | none => none
        | some (token, rest) => (ofText? rest).map (token.toList ++ ·) := by
  rw [ofText?]
  split
  · rename_i hopen
    rw [hopen]
  · rename_i rest hopen
    rw [hopen]
    dsimp only
    split
    · rename_i hmarkup
      rw [hmarkup]
    · rename_i token rest' hmarkup
      rw [hmarkup]

theorem afterOpen?_gap {gap : List Char} (hgap : '<' ∉ gap) (s : List Char) :
    afterOpen? (gap ++ s) = afterOpen? s := by
  rw [afterOpen?, afterOpen?, List.dropWhile_append_of_pos]
  intro c hc
  simpa using fun heq : c = '<' => hgap (heq ▸ hc)

theorem ofText?_gap {gap : List Char} (hgap : '<' ∉ gap) (s : List Char) :
    ofText? (gap ++ s) = ofText? s := by
  rw [ofText?_eq, ofText?_eq s, afterOpen?_gap hgap]

theorem afterOpen?_cons (s : List Char) : afterOpen? ('<' :: s) = some s := by
  simp [afterOpen?]

/-- The inside of a tag that begins with a name is read as that of a tag. -/
theorem markup?_tag {first : Char} {s : List Char} (hfirst : isMarkupSign first = false) :
    markup? (first :: s) = (do
      let (inside, after) ← cutTag? none (first :: s)
      let token ← ofInside? inside
      pure (some token, after)) := by
  unfold markup?
  split
  · rename_i hnil
    cases hnil
  · rename_i hcons
    obtain ⟨rfl, -⟩ := List.cons.inj hcons
    cases hfirst
  · rename_i hcons
    obtain ⟨rfl, -⟩ := List.cons.inj hcons
    cases hfirst
  · rename_i hcons
    obtain ⟨rfl, -⟩ := List.cons.inj hcons
    cases hfirst
  · rfl

theorem ofText?_tag {name : String} {tail : List Char} {token : Token} (hname : IsName name)
    (hbalanced : Balanced (name.toList ++ tail))
    (htoken : ofInside? (name.toList ++ tail) = some token) (s : List Char) :
    ofText? ('<' :: (name.toList ++ tail) ++ '>' :: s) = (ofText? s).map (token :: ·) := by
  obtain ⟨first, more, hchars⟩ := List.exists_cons_of_ne_nil hname.nonempty
  have hfirst : isMarkupSign first = false := hname.plain first (by simp [hchars])
  have hcons : name.toList ++ tail ++ '>' :: s = first :: (more ++ tail ++ '>' :: s) := by
    rw [hchars]
    rfl
  rw [ofText?_eq, List.cons_append, afterOpen?_cons]
  dsimp only
  rw [hcons, markup?_tag hfirst, ← hcons, cutTag?_balanced hbalanced]
  simp [htoken]

theorem ofText?_start {name : String} {as : List Written} (hname : IsName name)
    (has : ∀ a ∈ as, a.Valid) (hnodup : (as.map (·.key)).Nodup) (s : List Char) :
    ofText? ('<' :: inside name as ++ '>' :: s) = (ofText? s).map (.start name (valuesOf as) :: ·) :=
  ofText?_tag hname (balanced_inside hname has) (ofInside?_start hname has hnodup) s

theorem ofText?_empty {name : String} {as : List Written} (hname : IsName name)
    (has : ∀ a ∈ as, a.Valid) (hnodup : (as.map (·.key)).Nodup) (s : List Char) :
    ofText? ('<' :: inside name as ++ '/' :: '>' :: s)
      = (ofText? s).map (.empty name (valuesOf as) :: ·) := by
  have hslash : Balanced ['/'] := balanced_of_forall (by simp)
  have hbalanced := (balanced_inside hname has).append hslash
  have htoken := ofInside?_empty hname has hnodup
  rw [inside, List.append_assoc] at hbalanced htoken
  have htext := ofText?_tag hname hbalanced htoken s
  rw [inside]
  simpa using htext

theorem endName_of_isName {name : String} (hname : IsName name) :
    endName name.toList = name.toList := by
  have hnot : name.toList.all isMarkupBlank = false := by
    obtain ⟨first, more, hchars⟩ := List.exists_cons_of_ne_nil hname.nonempty
    have hfirst := isMarkupBlank_of_sign (hname.plain first (by simp [hchars]))
    rw [hchars, List.all_cons, hfirst, Bool.false_and]
  rw [endName, hnot, if_neg Bool.false_ne_true, Text.dropWhile_of_forall, List.reverse_reverse]
  intro c hc
  exact isMarkupBlank_of_sign (hname.plain c (List.mem_reverse.1 hc))

theorem ofText?_finish {name : String} (hname : IsName name) (s : List Char) :
    ofText? ('<' :: '/' :: name.toList ++ '>' :: s) = (ofText? s).map (.finish name :: ·) := by
  have hinside : ∀ c ∈ name.toList, (c != '>') = true := by
    intro c hc
    simpa using (plain_of_isName hname c hc).1
  have hcut : cut '>' (name.toList ++ '>' :: s) = (name.toList, s) := by
    rw [cut, List.takeWhile_append_of_pos hinside, List.dropWhile_append_of_pos hinside]
    simp
  rw [ofText?_eq, List.cons_append, List.cons_append, afterOpen?_cons]
  simp only [markup?, hcut, endName_of_isName hname, String.ofList_toList, Option.toList_some,
    List.singleton_append]

end Token
end VirtHost.Xml
