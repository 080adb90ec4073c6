import VirtHost.Proofs.Text.Scan
import VirtHost.Template

/-! # Filled templates

A template is a row of pieces: plain text and placeholders. Filling in a key replaces its placeholders
and leaves every other piece as it is, if no text has an opening brace and no key a brace of either kind.

* `Template.Piece`, `Template.spell`: pieces, and the text that they make.
* `Template.replaceAll_spell`: one key.
* `Template.render_spell`: all keys, one after the other.
-/

namespace VirtHost.Template
set_option autoImplicit false

/-- A piece of a template: plain text, or the placeholder of a key. -/
inductive Piece
  | plain (text : String)
  | hole (key : String)
  deriving DecidableEq

/-- A text without opening braces. -/
def NoBrace (s : String) : Prop :=
  '\x7b' ∉ s.toList

instance (s : String) : Decidable (NoBrace s) :=
  inferInstanceAs (Decidable ('\x7b' ∉ s.toList))

/-- A key without braces. -/
def BareKey (key : String) : Prop :=
  '\x7b' ∉ key.toList ∧ '\x7d' ∉ key.toList

instance (key : String) : Decidable (BareKey key) :=
  inferInstanceAs (Decidable (_ ∧ _))

namespace Piece

/-- The text of a piece. -/
def chars : Piece → List Char
  | plain text => text.toList
  | hole key => placeholder key

/-- A piece whose braces are those of a placeholder. -/
def Clean : Piece → Prop
  | plain text => NoBrace text
  | hole key => BareKey key

instance (p : Piece) : Decidable p.Clean :=
  match p with
  | plain text => inferInstanceAs (Decidable (NoBrace text))
  | hole key => inferInstanceAs (Decidable (BareKey key))

/-- The piece with the placeholder of a key replaced by a value. -/
def replace (p : Piece) (key value : String) : Piece :=
  match p with
  | plain text => plain text
  | hole k => if k = key then plain value else hole k

/-- The piece with the placeholders of all keys replaced. -/
def fill (values : List (String × String)) (p : Piece) : Piece :=
  values.foldl (fun p v => p.replace v.1 v.2) p

end Piece

/-- The text of a row of pieces. -/
def spell (ps : List Piece) : List Char :=
  ps.flatMap Piece.chars

/-! ## One key -/

theorem placeholder_ne_nil (key : String) : placeholder key ≠ [] := by
  simp [placeholder]

/-- No placeholder begins at the head of another one. -/
theorem eq_of_isPrefix_placeholder {key other : String} {t : List Char} (hkey : BareKey key)
    (hother : BareKey other) (h : placeholder key <+: placeholder other ++ t) : key = other := by
  obtain ⟨rest, hrest⟩ := h
  have hinner : key.toList ++ '\x7d' :: ('\x7d' :: rest)
      = other.toList ++ '\x7d' :: ('\x7d' :: t) := by
    simpa [placeholder] using hrest
  have hbefore := congrArg (List.takeWhile (· != '\x7d')) hinner
  have hstop : ∀ {s u : List Char}, '\x7d' ∉ s →
      (s ++ '\x7d' :: u).takeWhile (· != '\x7d') = s := by
    intro s u hs
    rw [List.takeWhile_append_of_pos, List.takeWhile_cons_of_neg (by simp), List.append_nil]
    intro c hc
    simpa using fun heq : c = '\x7d' => hs (heq ▸ hc)
  rw [hstop hkey.2, hstop hother.2] at hbefore
  exact String.toList_injective hbefore

/-- The placeholder of another key begins nowhere in a placeholder, whatever follows that. -/
theorem not_isPrefix_of_suffix {key other : String} {u t : List Char} (hkey : BareKey key)
    (hother : BareKey other) (hne : key ≠ other) (hu : u <:+ placeholder other) (hnonempty : u ≠ []) :
    ¬ placeholder key <+: u ++ t := by
  intro hprefix
  have hclosed : '\x7b' ∉ other.toList ++ ['\x7d', '\x7d'] := by
    simpa using hother.1
  have hhead {x : List Char} {rest : List Char} (hx : x ≠ []) (h : '\x7b' :: rest <+: x ++ t) :
      '\x7b' ∈ x := by
    obtain ⟨c, x, rfl⟩ := List.exists_cons_of_ne_nil hx
    rw [List.cons_append, List.cons_prefix_cons] at h
    rw [h.1]
    exact List.mem_cons_self
  rcases List.suffix_cons_iff.1 hu with rfl | hu
  · exact hne (eq_of_isPrefix_placeholder hkey hother hprefix)
  · rcases List.suffix_cons_iff.1 hu with rfl | hu
    · -- Behind the first brace there is only one more, and a placeholder begins with two.
      exact hclosed (hhead (by simp) (List.cons_prefix_cons.1 hprefix).2)
    · exact hclosed (hu.subset (hhead hnonempty hprefix))

theorem replaceAll_placeholder_of_ne {key other : String} {new t : List Char} (hkey : BareKey key)
    (hother : BareKey other) (hne : other ≠ key) :
    Text.replaceAll (placeholder key) new (placeholder other ++ t)
      = placeholder other ++ Text.replaceAll (placeholder key) new t :=
  Text.replaceAll_append_of_suffix fun _ hu hnonempty =>
    not_isPrefix_of_suffix hkey hother hne.symm hu hnonempty

theorem replaceAll_spell {key value : String} {ps : List Piece} (hkey : BareKey key)
    (hps : ∀ p ∈ ps, p.Clean) :
    Text.replaceAll (placeholder key) value.toList (spell ps)
      = spell (ps.map fun p => p.replace key value) := by
  induction ps with
  | nil => rfl
  | cons p ps ih =>
    have hp := hps p List.mem_cons_self
    have hrest := ih fun q hq => hps q (List.mem_cons_of_mem p hq)
    have hcons : ∀ (q : Piece) (qs : List Piece), spell (q :: qs) = q.chars ++ spell qs :=
      fun q qs => List.flatMap_cons
    rw [List.map_cons, hcons, hcons, ← hrest]
    cases p with
    | plain text => exact Text.replaceAll_append_of_notMem hp
    | hole other =>
      by_cases hother : other = key
      · rw [hother, Piece.replace, if_pos rfl]
        exact Text.replaceAll_append (placeholder_ne_nil key) _
      · rw [Piece.replace, if_neg hother]
        exact replaceAll_placeholder_of_ne hkey hp hother

/-! ## All keys -/

theorem Piece.Clean.replace {p : Piece} {key value : String} (hp : p.Clean) (hvalue : NoBrace value) :
    (p.replace key value).Clean := by
  cases p with
  | plain text => exact hp
  | hole other =>
    rw [Piece.replace]
    split
    · exact hvalue
    · exact hp

/-- **Filling a template.** Every piece is filled by itself. -/
theorem render_spell {ps : List Piece} {values : List (String × String)} (hps : ∀ p ∈ ps, p.Clean)
    (hvalues : ∀ v ∈ values, BareKey v.1 ∧ NoBrace v.2) :
    render (String.ofList (spell ps)) values = String.ofList (spell (ps.map (Piece.fill values))) := by
  rw [render, String.toList_ofList]
  congr 1
  induction values generalizing ps with
  | nil =>
    have hid : Piece.fill [] = id := rfl
    rw [hid, List.map_id]
    rfl
  | cons v values ih =>
    obtain ⟨hkey, hvalue⟩ := hvalues v List.mem_cons_self
    rw [List.foldl_cons, replaceAll_spell hkey hps, ih, List.map_map]
    · rfl
    · intro q hq
      obtain ⟨p, hp, rfl⟩ := List.mem_map.1 hq
      exact (hps p hp).replace hvalue
    · exact fun w hw => hvalues w (List.mem_cons_of_mem v hw)

end VirtHost.Template
