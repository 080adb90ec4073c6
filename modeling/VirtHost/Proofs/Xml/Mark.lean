import VirtHost.Proofs.Template
import VirtHost.Proofs.Xml.Tag

/-! # Documents written tag by tag

A document is written as a row of tags with text before each. Its tags are read back, and if it is a
template, filling it fills the values of its attributes.

* `Mark`, `Mark.chars`, `Mark.token`: a tag, its text and what is read of it.
* `Token.ofText?_marks`: all tags of a document.
* `Mark.pieces`, `spellFilled_rowPieces`: tags whose attribute values are pieces of a template, filled in.
* `parse_render`: reading a template that has been filled in.
-/

namespace VirtHost.Xml
open Template (Piece)
set_option autoImplicit false

/-- A tag with attribute values of some type. -/
inductive Mark (ν : Type)
  | opening (name : String) (attributes : List (String × ν))
  | single (name : String) (attributes : List (String × ν))
  | closing (name : String)

namespace Mark
variable {ν μ : Type}

/-- The tag with its attribute values changed. -/
def map (f : ν → μ) : Mark ν → Mark μ
  | opening name attributes => opening name (attributes.map fun a => (a.1, f a.2))
  | single name attributes => single name (attributes.map fun a => (a.1, f a.2))
  | closing name => closing name

/-- An attribute in single quotes. -/
def written (a : String × String) : Written :=
  ⟨a.1, a.2, '\'', a.2.toList⟩

/-- The text of a tag. -/
def chars : Mark String → List Char
  | opening name attributes => '<' :: Token.inside name (attributes.map written) ++ ['>']
  | single name attributes => '<' :: (Token.inside name (attributes.map written) ++ ['/']) ++ ['>']
  | closing name => '<' :: '/' :: name.toList ++ ['>']

def token : Mark String → Token
  | opening name attributes => .start name attributes
  | single name attributes => .empty name attributes
  | closing name => .finish name

/-- Values that need no references between single quotes. -/
def PlainValue (value : String) : Prop :=
  '\'' ∉ value.toList ∧ '&' ∉ value.toList

instance (value : String) : Decidable (PlainValue value) :=
  inferInstanceAs (Decidable (_ ∧ _))

/-- Attributes with different names and plain values. -/
structure PlainAttributes (attributes : List (String × String)) : Prop where
  names : ∀ a ∈ attributes, IsName a.1
  values : ∀ a ∈ attributes, PlainValue a.2
  nodup : (attributes.map (·.1)).Nodup

def Plain : Mark String → Prop
  | opening name attributes => IsName name ∧ PlainAttributes attributes
  | single name attributes => IsName name ∧ PlainAttributes attributes
  | closing name => IsName name

theorem PlainAttributes.valid {attributes : List (String × String)} (h : PlainAttributes attributes) :
    ∀ a ∈ attributes.map written, a.Valid := by
  intro a ha
  obtain ⟨b, hb, rfl⟩ := List.mem_map.1 ha
  obtain ⟨hquote, hreference⟩ := h.values b hb
  exact ⟨h.names b hb, .inr rfl, hquote, unescape?_of_notMem hreference⟩

theorem PlainAttributes.nodup_keys {attributes : List (String × String)}
    (h : PlainAttributes attributes) : ((attributes.map written).map (·.key)).Nodup := by
  rw [List.map_map]
  exact h.nodup

theorem valuesOf_written (attributes : List (String × String)) :
    valuesOf (attributes.map written) = attributes := by
  rw [valuesOf, List.map_map]
  exact List.map_id _

end Mark

theorem Token.ofText?_mark {m : Mark String} (hm : m.Plain) (s : List Char) :
    ofText? (m.chars ++ s) = (ofText? s).map (m.token :: ·) := by
  cases m with
  | opening name attributes =>
    obtain ⟨hname, hattributes⟩ := hm
    have htext := ofText?_start hname hattributes.valid hattributes.nodup_keys s
    rw [Mark.valuesOf_written] at htext
    rw [Mark.chars, List.append_assoc]
    exact htext
  | single name attributes =>
    obtain ⟨hname, hattributes⟩ := hm
    have htext := ofText?_empty hname hattributes.valid hattributes.nodup_keys s
    rw [Mark.valuesOf_written] at htext
    simpa [Mark.chars, Mark.token] using htext
  | closing name =>
    rw [Mark.chars, List.append_assoc]
    exact ofText?_finish hm s

/-! ## Rows of tags -/

/-- The text of tags, each with the text before it. -/
def rowChars (rows : List (String × Mark String)) : List Char :=
  rows.flatMap fun row => row.1.toList ++ row.2.chars

theorem Token.ofText?_marks {rows : List (String × Mark String)} {tail : List Char}
    (hgaps : ∀ row ∈ rows, '<' ∉ row.1.toList) (hmarks : ∀ row ∈ rows, row.2.Plain)
    (htail : '<' ∉ tail) :
    ofText? (rowChars rows ++ tail) = some (rows.map fun row => row.2.token) := by
  induction rows with
  | nil =>
    have hend := ofText?_gap htail []
    rw [List.append_nil] at hend
    rw [rowChars, List.flatMap_nil, List.nil_append, hend, ofText?_eq]
    rfl
  | cons row rows ih =>
    have hrest := ih (fun r hr => hgaps r (List.mem_cons_of_mem row hr))
      (fun r hr => hmarks r (List.mem_cons_of_mem row hr))
    have hsplit : rowChars (row :: rows) ++ tail
        = row.1.toList ++ (row.2.chars ++ (rowChars rows ++ tail)) := by
      simp [rowChars]
    rw [hsplit, ofText?_gap (hgaps row List.mem_cons_self),
      ofText?_mark (hmarks row List.mem_cons_self), hrest]
    rfl

/-! ## Templates -/

namespace Mark

/-- An attribute of a template. -/
def attributePieces (a : String × Piece) : List Piece :=
  [.plain (" " ++ a.1 ++ "='"), a.2, .plain "'"]

/-- A tag of a template. -/
def pieces : Mark Piece → List Piece
  | opening name attributes =>
    .plain ("<" ++ name) :: attributes.flatMap attributePieces ++ [.plain ">"]
  | single name attributes =>
    .plain ("<" ++ name) :: attributes.flatMap attributePieces ++ [.plain "/>"]
  | closing name => [.plain ("</" ++ name ++ ">")]

end Mark

/-- The pieces of tags, each with the text before it. -/
def rowPieces (rows : List (String × Mark Piece)) : List Piece :=
  rows.flatMap fun row => .plain row.1 :: row.2.pieces

/-- The text of a piece in which all keys have been filled in. -/
def filled (values : List (String × String)) (p : Piece) : String :=
  String.ofList (p.fill values).chars

section
variable (values : List (String × String))

theorem fill_plain (text : String) : (Piece.plain text).fill values = .plain text := by
  induction values with
  | nil => rfl
  | cons v values ih => exact ih

/-- The text of pieces in which all keys have been filled in. -/
def spellFilled (ps : List Piece) : List Char :=
  Template.spell (ps.map (Piece.fill values))

theorem spellFilled_append (ps qs : List Piece) :
    spellFilled values (ps ++ qs) = spellFilled values ps ++ spellFilled values qs := by
  rw [spellFilled, List.map_append, Template.spell, List.flatMap_append]
  rfl

theorem spellFilled_cons (p : Piece) (ps : List Piece) :
    spellFilled values (p :: ps) = (p.fill values).chars ++ spellFilled values ps :=
  rfl

theorem spellFilled_plain (text : String) (ps : List Piece) :
    spellFilled values (.plain text :: ps) = text.toList ++ spellFilled values ps := by
  rw [spellFilled_cons, fill_plain]
  rfl

theorem spellFilled_nil : spellFilled values [] = [] := rfl

theorem spellFilled_attributes (attributes : List (String × Piece)) :
    spellFilled values (attributes.flatMap Mark.attributePieces)
      = (((attributes.map fun a => (a.1, filled values a.2)).map Mark.written).flatMap
          Written.chars) := by
  induction attributes with
  | nil => rfl
  | cons a attributes ih =>
    rw [List.flatMap_cons, spellFilled_append, ih, Mark.attributePieces, spellFilled_plain,
      spellFilled_cons, spellFilled_plain, spellFilled_nil]
    simp [Mark.written, Written.chars, filled]

/-- Filling a tag fills the values of its attributes. -/
theorem spellFilled_pieces (m : Mark Piece) :
    spellFilled values m.pieces = (m.map (filled values)).chars := by
  cases m with
  | opening name attributes =>
    rw [Mark.pieces, spellFilled_append, spellFilled_plain, spellFilled_attributes, spellFilled_plain,
      spellFilled_nil]
    simp [Mark.map, Mark.chars, Token.inside]
  | single name attributes =>
    rw [Mark.pieces, spellFilled_append, spellFilled_plain, spellFilled_attributes, spellFilled_plain,
      spellFilled_nil]
    simp [Mark.map, Mark.chars, Token.inside]
  | closing name =>
    rw [Mark.pieces, spellFilled_plain, spellFilled_nil]
    simp [Mark.map, Mark.chars]

theorem spellFilled_rowPieces (rows : List (String × Mark Piece)) :
    spellFilled values (rowPieces rows)
      = rowChars (rows.map fun row => (row.1, row.2.map (filled values))) := by
  induction rows with
  | nil => rfl
  | cons row rows ih =>
    have hsplit : rowPieces (row :: rows) = .plain row.1 :: row.2.pieces ++ rowPieces rows := by
      simp [rowPieces]
    rw [hsplit, spellFilled_append, ih, spellFilled_plain, spellFilled_pieces]
    simp [rowChars]

end

theorem dropMark_rowChars (m : Mark String) (rows : List (String × Mark String)) (tail : List Char) :
    dropMark (rowChars (("", m) :: rows) ++ tail) = rowChars (("", m) :: rows) ++ tail := by
  cases m <;> rfl

/-- The text of a template made of tags, once it is filled. -/
theorem toList_render {rows : List (String × Mark Piece)} {tail : String}
    {values : List (String × String)}
    (hclean : ∀ p ∈ rowPieces rows ++ [Piece.plain tail], p.Clean)
    (hvalues : ∀ v ∈ values, Template.BareKey v.1 ∧ Template.NoBrace v.2) :
    (Template.render (String.ofList (Template.spell (rowPieces rows ++ [Piece.plain tail])))
        values).toList
      = rowChars (rows.map fun row => (row.1, row.2.map (filled values))) ++ tail.toList := by
  have happend := spellFilled_append values (rowPieces rows) [Piece.plain tail]
  rw [spellFilled_rowPieces, spellFilled_plain, spellFilled_nil, List.append_nil] at happend
  rw [Template.render_spell hclean hvalues, String.toList_ofList]
  exact happend

/-- **Filled documents.** A template made of tags is read, once it is filled, as the element of these tags
with the values of their attributes filled in. -/
theorem parse_render {rows : List (String × Mark Piece)} {tail : String}
    {values : List (String × String)} {marks : List (Mark String)} {n : Node}
    (hfirst : ∃ m rest, rows = ("", m) :: rest)
    (hclean : ∀ p ∈ rowPieces rows ++ [Piece.plain tail], p.Clean)
    (hvalues : ∀ v ∈ values, Template.BareKey v.1 ∧ Template.NoBrace v.2)
    (hgaps : ∀ row ∈ rows, '<' ∉ row.1.toList) (htail : '<' ∉ tail.toList)
    (hfilled : rows.map (fun row => row.2.map (filled values)) = marks)
    (hmarks : ∀ m ∈ marks, m.Plain) (hnode : ofTokens (marks.map Mark.token) = .ok n) :
    parse (Template.render (String.ofList (Template.spell (rowPieces rows ++ [Piece.plain tail])))
      values) = .ok n := by
  have htokens : Token.ofText?
      (rowChars (rows.map fun row => (row.1, row.2.map (filled values))) ++ tail.toList)
        = some (marks.map Mark.token) := by
    rw [Token.ofText?_marks, ← hfilled, List.map_map, List.map_map]
    · rfl
    · intro row hrow
      obtain ⟨r, hr, rfl⟩ := List.mem_map.1 hrow
      exact hgaps r hr
    · intro row hrow
      obtain ⟨r, hr, rfl⟩ := List.mem_map.1 hrow
      exact hmarks _ (hfilled ▸ List.mem_map_of_mem hr)
    · exact htail
  obtain ⟨m, rest, rfl⟩ := hfirst
  rw [List.map_cons] at htokens
  rw [parse, toList_render hclean hvalues, List.map_cons, dropMark_rowChars, htokens]
  dsimp only
  rw [hnode]
  rfl

end VirtHost.Xml
