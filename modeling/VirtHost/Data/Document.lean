import VirtHost.Text.Numeral

/-! # Documents

What is printed: texts, lists and records, and texts under a tag.

* `Document.json`: the form with one item a line and two blanks of indentation for each level.
* `Document.line`: the form without blanks on one line.
-/

namespace VirtHost.Data
set_option autoImplicit false

/-- A printed value. A record keeps its fields in order. -/
inductive Document
  | text (s : String)
  /-- A text that stands for one case of several. -/
  | tagged (tag : String) (s : String)
  | list (items : List Document)
  | record (fields : List (String × Document))

namespace Document

/-! ## Quoted texts -/

def jsonChar (c : Char) : List Char :=
  match c with
  | '"' => ['\\', '"']
  | '\\' => ['\\', '\\']
  | '\n' => ['\\', 'n']
  | '\r' => ['\\', 'r']
  | '\t' => ['\\', 't']
  | '\x08' => ['\\', 'b']
  | '\x0c' => ['\\', 'f']
  | c => if c.toNat < 0x20 then '\\' :: 'u' :: Text.hexadecimal 4 c.toNat else [c]

def jsonText (s : String) : List Char :=
  '"' :: s.toList.flatMap jsonChar ++ ['"']

/-! ## The form -/

def newLine (depth : Nat) : List Char :=
  '\n' :: List.replicate (2 * depth) ' '

/-- Parts on lines of their own between two brackets. -/
def bracketed (opening closing : Char) (depth : Nat) (parts : List (List Char)) : List Char :=
  if parts = [] then [opening, closing]
  else opening :: (List.intercalate [','] (parts.map (newLine (depth + 1) ++ ·))
    ++ newLine depth ++ [closing])

def jsonField (key : String) (content : List Char) : List Char :=
  jsonText key ++ ':' :: ' ' :: content

mutual

/-- A document at a depth. -/
def jsonAt (depth : Nat) : Document → List Char
  | text s => jsonText s
  | tagged tag s =>
    bracketed '\x7b' '\x7d' depth [jsonField tag (jsonText s)]
  | list items => bracketed '[' ']' depth (jsonItems (depth + 1) items)
  | record fields => bracketed '\x7b' '\x7d' depth (jsonFields (depth + 1) fields)

def jsonItems (depth : Nat) : List Document → List (List Char)
  | [] => []
  | d :: rest => jsonAt depth d :: jsonItems depth rest

def jsonFields (depth : Nat) : List (String × Document) → List (List Char)
  | [] => []
  | (key, d) :: rest => jsonField key (jsonAt depth d) :: jsonFields depth rest

end

mutual

/-- A document on one line. -/
def lineOf : Document → List Char
  | text s => jsonText s
  | tagged tag s => '\x7b' :: jsonText tag ++ ':' :: jsonText s ++ ['\x7d']
  | list items => '[' :: List.intercalate [','] (lineItems items) ++ [']']
  | record fields => '\x7b' :: List.intercalate [','] (lineFields fields) ++ ['\x7d']

def lineItems : List Document → List (List Char)
  | [] => []
  | d :: rest => lineOf d :: lineItems rest

def lineFields : List (String × Document) → List (List Char)
  | [] => []
  | (key, d) :: rest => (jsonText key ++ ':' :: lineOf d) :: lineFields rest

end

/-- The text of a document on one line, without a line break. -/
def line (d : Document) : String :=
  String.ofList (lineOf d)

/-- The text of a document, ending with a line break. -/
def json (d : Document) : String :=
  String.ofList (jsonAt 0 d ++ ['\n'])

end Document
end VirtHost.Data
