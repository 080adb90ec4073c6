import VirtHost.Text.Numeral

/-! # Structured values

What is read from a data format: scalars, lists and records.

* `Value`: a scalar keeps how it was spelled where the format lets every plain scalar pass for text.
* `text?`, `flag?`, `natural?`, `integer?`, `optional?`, `list?`: a value as something of a given kind.
* `Shape`, `Shape.read?`: a record with known fields, of which the ones that are not given keep their
  defaults.
-/

namespace VirtHost.Data
set_option autoImplicit false

/-- What a scalar stands for. -/
inductive Scalar
  | null
  | flag (b : Bool)
  | integer (n : Int)
  /-- A number that is not written as an integer. -/
  | fraction
  | text (s : String)
  deriving DecidableEq

/-- A value. A record keeps its fields in order. -/
inductive Value
  | scalar (content : Scalar) (spelling : Option String)
  | list (items : List Value)
  | record (fields : List (Value × Value))
  deriving Inhabited

namespace Value

/-! ## Scalars -/

/-- Text that is nothing else. -/
def ofText (s : String) : Value :=
  .scalar (.text s) (some s)

/-- The text that a value is and nothing else. -/
def asText? : Value → Option String
  | .scalar (.text s) _ => some s
  | _ => none

/-- A value as text: its spelling, if it has one. -/
def text? : Value → Option String
  | .scalar _ spelling => spelling
  | _ => none

def flag? : Value → Option Bool
  | .scalar (.flag b) _ => some b
  | _ => none

def integer? (least most : Int) : Value → Option Int
  | .scalar (.integer n) _ => if least ≤ n ∧ n ≤ most then some n else none
  | _ => none

def natural? (limit : Nat) (v : Value) : Option Nat :=
  (v.integer? 0 limit).map Int.toNat

def optional? {α : Type} (read : Value → Option α) : Value → Option (Option α)
  | .scalar .null _ => some none
  | v => (read v).map some

/-- Whether a value is an empty place, which passes for an empty list and an empty record. -/
def isEmptyPlace : Value → Bool
  | .scalar .null (some "") => true
  | _ => false

def list? {α : Type} (read : Value → Option α) (v : Value) : Option (List α) :=
  match v with
  | .list items => items.mapM read
  | v => if v.isEmptyPlace then some [] else none

end Value

/-! ## Records -/

/-- A field of a record of type `α`: its name, and how its value is put into the record. -/
structure Field (α : Type) where
  name : String
  put? : Value → α → Option α

/-- A field whose value is read by `read` and put in its place by `set`. -/
def Field.of {α β : Type} (name : String) (read : Value → Option β) (set : β → α → α) : Field α where
  name
  put? v a := (read v).map (set · a)

/-- A record type: its fields in order, and its defaults. -/
structure Shape (α : Type) where
  fields : List (Field α)
  base : α

namespace Shape

/-- Puts the given fields into a record. Every key has to be text. Unknown fields are passed over, and no
known one may be given twice. -/
def putFields? {α : Type} (shape : Shape α) :
    (seen : List String) → α → List (Value × Value) → Option α
  | _, a, [] => some a
  | seen, a, (key, v) :: rest =>
    match key.text? with
    | none => none
    | some name =>
      match shape.fields.find? (·.name = name) with
      | none => putFields? shape seen a rest
      | some field =>
        if name ∈ seen then none
        else (field.put? v a).bind fun a => putFields? shape (name :: seen) a rest

/-- Puts values into the fields of a record in order; there may not be more values than fields. -/
def putItems? {α : Type} : List (Field α) → α → List Value → Option α
  | _, a, [] => some a
  | [], _, _ :: _ => none
  | field :: fields, a, v :: rest => (field.put? v a).bind fun a => putItems? fields a rest

def read? {α : Type} (shape : Shape α) : Value → Option α
  | .record fields => shape.putFields? [] shape.base fields
  | .list items => putItems? shape.fields shape.base items
  | v => if v.isEmptyPlace then some shape.base else none

end Shape
end VirtHost.Data
