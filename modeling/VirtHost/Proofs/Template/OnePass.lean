import Mathlib.Data.List.Induction
import Mathlib.Data.List.Nodup
import VirtHost.Proofs.Xml.BuiltIn

/-! # Templates filled in one pass

The keys of a template are filled in one after the other, so a value that was inserted is looked at again.
With keys and values between which nothing new can come about, the order of the keys does not matter, and
the result is that of one pass over the template, whatever braces are in it.

* `Template.OnePass`: a text and what one pass makes of it.
* `Template.Inert`: keys without braces, and values without opening braces, each of which begins with a
  character that no placeholder has.
* `Template.OnePass.replaceAll`: one more key.
* `Template.AtOnce`: what is stated of a rendered template.
* `Template.filled_atOnce`: numbers.
-/

namespace VirtHost.Template
open Pci.Address (hexValue)
set_option autoImplicit false

variable {values : List (String × String)} {key value : String} {s t : List Char}

/-! ## Placeholders -/

theorem length_lt_placeholder_append (key : String) (s : List Char) :
    s.length < (placeholder key ++ s).length := by
  rw [List.length_append]
  exact Nat.lt_add_of_pos_left (List.length_pos_iff.2 (placeholder_ne_nil key))

theorem replaceAll_text_append {text : String} {new : List Char} (h : NoBrace text) :
    Text.replaceAll (placeholder key) new (text.toList ++ t)
      = text.toList ++ Text.replaceAll (placeholder key) new t :=
  Text.replaceAll_append_of_notMem h

theorem infix_of_infix_append (h : '\x7b' ∉ s) (hfound : placeholder key <:+: s ++ t) :
    placeholder key <:+: t := by
  induction s with
  | nil => exact hfound
  | cons c s ih =>
    rw [List.mem_cons, not_or] at h
    rw [List.cons_append, List.infix_cons_iff] at hfound
    rcases hfound with hhead | hlater
    · exact absurd (List.cons_prefix_cons.1 hhead).1 h.1
    · exact ih h.2 hlater

/-! ## One pass -/

/-- One pass over a text. A placeholder at the head of what is left gives way to the value of its key; a
character at which none begins is kept. -/
inductive OnePass (values : List (String × String)) : List Char → List Char → Prop
  | done : OnePass values [] []
  | filled {key value : String} {s t : List Char} (hmem : (key, value) ∈ values)
      (hrest : OnePass values s t) : OnePass values (placeholder key ++ s) (value.toList ++ t)
  | kept {c : Char} {s t : List Char} (hnone : ∀ v ∈ values, ¬ placeholder v.1 <+: c :: s)
      (hrest : OnePass values s t) : OnePass values (c :: s) (c :: t)

/-- Keys and values between which no new placeholder can come about. -/
structure Inert (values : List (String × String)) : Prop where
  bare : ∀ v ∈ values, BareKey v.1
  noBrace : ∀ v ∈ values, NoBrace v.2
  begins : ∀ v ∈ values, ∀ w ∈ values, ∃ c, v.2.toList.head? = some c ∧ c ∉ placeholder w.1
  nodup : (values.map Prod.fst).Nodup

theorem Inert.perm {values' : List (String × String)} (h : Inert values) (hperm : values.Perm values') :
    Inert values' where
  bare v hv := h.bare v (hperm.mem_iff.2 hv)
  noBrace v hv := h.noBrace v (hperm.mem_iff.2 hv)
  begins v hv w hw := h.begins v (hperm.mem_iff.2 hv) w (hperm.mem_iff.2 hw)
  nodup := (hperm.map Prod.fst).nodup_iff.1 h.nodup

theorem Inert.sublist {values' : List (String × String)} (h : Inert values) (hsub : values'.Sublist values) :
    Inert values' where
  bare v hv := h.bare v (hsub.subset hv)
  noBrace v hv := h.noBrace v (hsub.subset hv)
  begins v hv w hw := h.begins v (hsub.subset hv) w (hsub.subset hw)
  nodup := (hsub.map Prod.fst).nodup h.nodup

namespace OnePass

theorem perm {values' : List (String × String)} (hperm : values.Perm values')
    (h : OnePass values s t) : OnePass values' s t := by
  induction h with
  | done => exact .done
  | filled hmem _ ih => exact .filled (hperm.mem_iff.1 hmem) ih
  | kept hnone _ ih => exact .kept (fun v hv => hnone v (hperm.mem_iff.2 hv)) ih

/-- What no value begins in was there before. -/
theorem of_target {w : List Char} (hw : ∀ v ∈ values, ∃ c, v.2.toList.head? = some c ∧ c ∉ w)
    (h : OnePass values s (w ++ t)) : ∃ s', s = w ++ s' ∧ OnePass values s' t := by
  induction w generalizing s with
  | nil => exact ⟨s, rfl, h⟩
  | cons c w ih =>
    generalize hu : c :: w ++ t = u at h
    cases h with
    | done => cases hu
    | @filled key value s t' hmem hrest =>
      obtain ⟨d, hd, hnot⟩ := hw _ hmem
      obtain ⟨rest, hvalue⟩ := List.head?_eq_some_iff.1 hd
      rw [hvalue] at hu
      have hc : c = d := (List.cons.inj hu).1
      rw [← hc] at hnot
      exact absurd List.mem_cons_self hnot
    | @kept d s t' hnone hrest =>
      obtain ⟨rfl, rfl⟩ := List.cons.inj hu
      have hlater : ∀ v ∈ values, ∃ c, v.2.toList.head? = some c ∧ c ∉ w := by
        intro v hv
        obtain ⟨d, hd, hnot⟩ := hw v hv
        exact ⟨d, hd, fun hmem => hnot (List.mem_cons_of_mem c hmem)⟩
      obtain ⟨s', rfl, hs'⟩ := ih hlater hrest
      exact ⟨s', rfl, hs'⟩

/-- What no placeholder begins in stays there. -/
theorem of_source {w : List Char}
    (hw : ∀ v ∈ values, ∀ u, u <:+ w → u ≠ [] → ¬ placeholder v.1 <+: u ++ s)
    (h : OnePass values (w ++ s) t) : ∃ t', t = w ++ t' ∧ OnePass values s t' := by
  induction w generalizing t with
  | nil => exact ⟨t, rfl, h⟩
  | cons c w ih =>
    generalize hu : c :: w ++ s = u at h
    cases h with
    | done => cases hu
    | @filled key value s' t hmem hrest =>
      have hbegins : placeholder key <+: c :: w ++ s := ⟨s', hu.symm⟩
      exact absurd hbegins (hw _ hmem _ (List.suffix_refl _) (by simp))
    | @kept d s' t hnone hrest =>
      obtain ⟨rfl, rfl⟩ := List.cons.inj hu
      have hlater : ∀ v ∈ values, ∀ u, u <:+ w → u ≠ [] → ¬ placeholder v.1 <+: u ++ s :=
        fun v hv u hsuffix => hw v hv u (hsuffix.trans (List.suffix_cons c w))
      obtain ⟨t', rfl, ht'⟩ := ih hlater hrest
      exact ⟨t', rfl, ht'⟩

theorem unique (hinert : Inert values) {t' : List Char} (h : OnePass values s t)
    (h' : OnePass values s t') : t = t' := by
  induction h generalizing t' with
  | done =>
    generalize hs : ([] : List Char) = x at h'
    cases h' with
    | done => rfl
    | @filled key value s' t' hmem hrest => simp [placeholder] at hs
    | kept => cases hs
  | @filled key value s t hmem hrest ih =>
    generalize hs : placeholder key ++ s = x at h'
    cases h' with
    | done => simp [placeholder] at hs
    | @filled key' value' s' t' hmem' hrest' =>
      obtain rfl : key = key' :=
        eq_of_isPrefix_placeholder (hinert.bare _ hmem) (hinert.bare _ hmem') ⟨s, hs⟩
      obtain rfl : value = value' :=
        congrArg Prod.snd (List.inj_on_of_nodup_map hinert.nodup hmem hmem' rfl)
      obtain rfl := List.append_cancel_left hs
      rw [ih hrest']
    | @kept c s' t' hnone hrest' => exact absurd ⟨s, hs⟩ (hnone _ hmem)
  | @kept c s t hnone hrest ih =>
    generalize hs : c :: s = x at h'
    cases h' with
    | done => cases hs
    | @filled key value s' t' hmem hrest' => exact absurd ⟨s', hs.symm⟩ (hnone _ hmem)
    | kept hnone' hrest' =>
      obtain ⟨rfl, rfl⟩ := List.cons.inj hs
      rw [ih hrest']

theorem replaceAll (hinert : Inert ((key, value) :: values)) (h : OnePass values s t) :
    OnePass ((key, value) :: values) s (Text.replaceAll (placeholder key) value.toList t) := by
  -- On the length: where the placeholder begins, the rest of the pass is taken up behind all of it.
  induction hlength : s.length using Nat.strongRecOn generalizing s t with
  | ind n ih =>
    subst hlength
    have hnew : ∀ v ∈ values, v.1 ≠ key := by
      intro v hv heq
      exact (List.nodup_cons.1 hinert.nodup).1 (List.mem_map.2 ⟨v, hv, heq⟩)
    cases h with
    | done => exact .done
    | @filled other value' s t hmem hrest =>
      have hnoBrace : NoBrace value' := hinert.noBrace _ (List.mem_cons_of_mem _ hmem)
      have hshorter : s.length < (placeholder other ++ s).length := length_lt_placeholder_append other s
      rw [replaceAll_text_append hnoBrace]
      exact .filled (List.mem_cons_of_mem (key, value) hmem) (ih _ hshorter hrest rfl)
    | @kept c s t hnone hrest =>
      by_cases hbegins : placeholder key <+: c :: t
      · -- No value begins inside a placeholder, so one that is there now was there before.
        obtain ⟨t', ht'⟩ := hbegins
        have hbefore : OnePass values (c :: s) (placeholder key ++ t') := ht' ▸ .kept hnone hrest
        obtain ⟨s', hs', hafter⟩ := of_target (fun v hv =>
          hinert.begins v (List.mem_cons_of_mem _ hv) _ List.mem_cons_self) hbefore
        have hshorter : s'.length < (c :: s).length := by
          rw [hs']
          exact length_lt_placeholder_append key s'
        rw [← ht', Text.replaceAll_append (placeholder_ne_nil key), hs']
        exact .filled List.mem_cons_self (ih _ hshorter hafter rfl)
      · rw [Text.replaceAll_cons hbegins]
        refine .kept (List.forall_mem_cons.2 ⟨?_, hnone⟩) (ih _ (by simp) hrest rfl)
        rintro ⟨s', hs'⟩
        have hwhole : OnePass values (placeholder key ++ s') (c :: t) := hs' ▸ .kept hnone hrest
        obtain ⟨t', ht', -⟩ := of_source (fun v hv u hu hne =>
          not_isPrefix_of_suffix (hinert.bare v (List.mem_cons_of_mem _ hv))
            (hinert.bare (key, value) List.mem_cons_self) (hnew v hv) hu hne) hwhole
        exact hbegins ⟨t', ht'.symm⟩

theorem noPlaceholder (hinert : Inert values) (h : OnePass values s t) {v : String × String}
    (hv : v ∈ values) : ¬ placeholder v.1 <:+: t := by
  induction h with
  | done =>
    intro hfound
    exact placeholder_ne_nil v.1 (List.infix_nil.1 hfound)
  | @filled key value s t hmem hrest ih =>
    have hnoBrace : NoBrace value := hinert.noBrace _ hmem
    exact mt (infix_of_infix_append hnoBrace) ih
  | @kept c s t hnone hrest ih =>
    intro hfound
    rcases List.infix_cons_iff.1 hfound with ⟨t', ht'⟩ | hlater
    · have hbefore : OnePass values (c :: s) (placeholder v.1 ++ t') := ht' ▸ .kept hnone hrest
      obtain ⟨s', hs', -⟩ := of_target (fun w hw => hinert.begins w hw v hv) hbefore
      exact hnone v hv ⟨s', hs'.symm⟩
    · exact ih hlater

end OnePass

/-! ## Rendered templates -/

/-- A text is what one pass makes of a template, and what is made of it by filling in the keys in any
order; no placeholder is left in it. -/
structure AtOnce (template : String) (values : List (String × String)) (text : String) : Prop where
  onePass : ∀ t, OnePass values template.toList t ↔ t = text.toList
  perm : ∀ values', values'.Perm values → render template values' = text
  noPlaceholder : ∀ v ∈ values, ¬ placeholder v.1 <:+: text.toList

theorem onePass_render (template : String) (hinert : Inert values) :
    OnePass values template.toList (render template values).toList := by
  rw [render, String.toList_ofList]
  induction values using List.reverseRecOn with
  | nil =>
    generalize template.toList = s
    induction s with
    | nil => exact .done
    | cons c s ih => exact .kept (by simp) ih
  | append_singleton values v ih =>
    have hperm : (values ++ [v]).Perm (v :: values) := List.perm_append_singleton v values
    have hcons := hinert.perm hperm
    rw [List.foldl_concat]
    have hinit := ih (hinert.sublist (List.sublist_append_left values [v]))
    exact (hinit.replaceAll hcons).perm hperm.symm

theorem atOnce_render (template : String) (hinert : Inert values) :
    AtOnce template values (render template values) where
  onePass t := by
    have hrender := onePass_render template hinert
    constructor
    · intro h
      exact h.unique hinert hrender
    · rintro rfl
      exact hrender
  perm values' hperm := by
    have hrender := (onePass_render template (hinert.perm hperm.symm)).perm hperm
    exact String.toList_injective (hrender.unique hinert (onePass_render template hinert))
  noPlaceholder v hv := (onePass_render template hinert).noPlaceholder hinert hv

/-! ## Numbers -/

theorem head?_hexValue (n : Nat) : (hexValue n).toList.head? = some '0' := by
  rw [hexValue, String.toList_ofList]
  rfl

theorem exists_head?_decimal (n : Nat) :
    ∃ d < 10, (Text.decimal n).toList.head? = some (Text.digitChar d) := by
  obtain ⟨c, rest, hdigits⟩ := List.exists_cons_of_ne_nil (Text.digitsOf_ne_nil 10 n)
  have hall : ∀ c ∈ Text.digitsOf 10 n, ∃ d < 10, c = Text.digitChar d :=
    Text.forall_mem_digitsOf (by decide) (fun d hd => ⟨d, hd, rfl⟩) n
  obtain ⟨d, hd, rfl⟩ := hall c (by simp [hdigits])
  refine ⟨d, hd, ?_⟩
  rw [Text.decimal, String.toList_ofList, hdigits, List.head?_cons]

theorem exists_head?_controllerValues (pci : Pci.Address) (index chassis port : Nat) :
    ∀ v ∈ controllerValues pci index chassis port,
      ∃ d < 10, v.2.toList.head? = some (Text.digitChar d) := by
  have hhex (n : Nat) : ∃ d < 10, (hexValue n).toList.head? = some (Text.digitChar d) :=
    ⟨0, by decide, head?_hexValue n⟩
  simp [controllerValues, Pci.Address.values, hhex, exists_head?_decimal]

theorem keys_controllerValues (pci : Pci.Address) (index chassis port : Nat) :
    (controllerValues pci index chassis port).map Prod.fst
      = ["domain", "bus", "slot", "func", "index", "chassis", "port"] :=
  rfl

theorem inert_controllerValues (pci : Pci.Address) (index chassis port : Nat) :
    Inert (controllerValues pci index chassis port) where
  bare v hv := (Xml.controllerValues_clean pci index chassis port v hv).1
  noBrace v hv := (Xml.controllerValues_clean pci index chassis port v hv).2
  begins v hv w hw := by
    have hkeys : ∀ key ∈ ["domain", "bus", "slot", "func", "index", "chassis", "port"],
        ∀ d < 10, Text.digitChar d ∉ placeholder key := by decide
    obtain ⟨d, hd, hhead⟩ := exists_head?_controllerValues pci index chassis port v hv
    have hkey : w.1 ∈ (controllerValues pci index chassis port).map Prod.fst :=
      List.mem_map_of_mem hw
    rw [keys_controllerValues] at hkey
    exact ⟨_, hhead, hkeys w.1 hkey d hd⟩
  nodup := by
    rw [keys_controllerValues]
    decide

theorem inert_values (pci : Pci.Address) : Inert pci.values := by
  have hfour : pci.values.Sublist (controllerValues pci 0 0 0) := List.sublist_append_left _ _
  exact (inert_controllerValues pci 0 0 0).sublist hfour

/-- **Numbers are filled in at once.** For every template the XML of a controller is what one pass makes of
it, and no matter in which order the keys are filled in; so is the XML of a virtual function. -/
theorem filled_atOnce (template : String) (pci : Pci.Address) (index chassis port : Nat) :
    AtOnce template (controllerValues pci index chassis port)
      (controller template pci index chassis port) ∧
    AtOnce template pci.values (virtualFunction template pci) := by
  constructor
  · exact atOnce_render template (inert_controllerValues pci index chassis port)
  · exact atOnce_render template (inert_values pci)

end VirtHost.Template
