import VirtHost.Data.Document
import VirtHost.Yaml.Style

/-! # Printing documents

`Document.yaml` writes a document with one field or item a line. The fields of a record in a list begin
on the line of the dash; a list in a record begins below its key, with the dashes under the key.
-/

namespace VirtHost.Data.Document
open Yaml (scalar isSimpleKey)
set_option autoImplicit false

/-- A line break and an indentation. -/
def yamlLine (indent : Nat) : List Char :=
  '\n' :: List.replicate indent ' '

/-- A field: its key, and what follows the colon. -/
def yamlField (indent : Nat) (key : String) (content : List Char) : List Char :=
  if isSimpleKey key then scalar (indent + 2) key ++ ':' :: content
  else '?' :: ' ' :: scalar (indent + 2) key ++ yamlLine indent ++ ':' :: content

mutual

/-- A document after the dash of an item. -/
def yamlItem (indent : Nat) : Document → List Char
  | text s => scalar (indent + 2) s
  | tagged tag s => '!' :: tag.toList ++ ' ' :: scalar (indent + 2) s
  | list [] => ['[', ']']
  | list items => List.intercalate (yamlLine (indent + 2)) (yamlItems (indent + 2) items)
  | record [] => ['\x7b', '\x7d']
  | record fields => List.intercalate (yamlLine (indent + 2)) (yamlFields (indent + 2) fields)

/-- A document after the colon of a field. -/
def yamlValue (indent : Nat) : Document → List Char
  | text s => ' ' :: scalar (indent + 2) s
  | tagged tag s => ' ' :: '!' :: tag.toList ++ ' ' :: scalar (indent + 2) s
  | list [] => [' ', '[', ']']
  | list items =>
    yamlLine indent ++ List.intercalate (yamlLine indent) (yamlItems indent items)
  | record [] => [' ', '\x7b', '\x7d']
  | record fields =>
    yamlLine (indent + 2) ++ List.intercalate (yamlLine (indent + 2)) (yamlFields (indent + 2) fields)

def yamlItems (indent : Nat) : List Document → List (List Char)
  | [] => []
  | d :: rest => ('-' :: ' ' :: yamlItem indent d) :: yamlItems indent rest

def yamlFields (indent : Nat) : List (String × Document) → List (List Char)
  | [] => []
  | (key, d) :: rest => yamlField indent key (yamlValue indent d) :: yamlFields indent rest

end

def yamlRoot : Document → List Char
  | text s => scalar 2 s
  | tagged tag s => '!' :: tag.toList ++ ' ' :: scalar 2 s
  | list [] => ['[', ']']
  | list items => List.intercalate (yamlLine 0) (yamlItems 0 items)
  | record [] => ['\x7b', '\x7d']
  | record fields => List.intercalate (yamlLine 0) (yamlFields 0 fields)

def yaml (d : Document) : String :=
  String.ofList (yamlRoot d ++ ['\n'])

end VirtHost.Data.Document
