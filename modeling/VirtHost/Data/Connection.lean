import VirtHost.Connection
import VirtHost.Data.Settings

/-! # Reading connections

A connection is a record whose field `type` names its kind, or a list with that name at its head. What
belongs to the kind is read from the rest, for which the spelling of a scalar does not count: a number
is no text there. A field may be given by its number in order.
-/

namespace VirtHost.Data
open Text (limit16 limit64)
set_option autoImplicit false

/-! ## Values without spelling -/

mutual

/-- A value of which the spelling does not count. There is no place for integers beyond 64 bits. -/
def unspelled? : Value → Option Value
  | .scalar (.text s) _ => some (.ofText s)
  | .scalar (.integer n) _ =>
    if -9223372036854775808 ≤ n ∧ n ≤ limit64 then some (.scalar (.integer n) none) else none
  | .scalar content _ => some (.scalar content none)
  | .list items => (unspelledItems? items).map .list
  | .record fields => (unspelledFields? fields).map .record

def unspelledItems? : List Value → Option (List Value)
  | [] => some []
  | v :: rest => do
    let v ← unspelled? v
    let rest ← unspelledItems? rest
    some (v :: rest)

def unspelledFields? : List (Value × Value) → Option (List (Value × Value))
  | [] => some []
  | (key, v) :: rest => do
    let key ← unspelled? key
    let v ← unspelled? v
    let rest ← unspelledFields? rest
    some ((key, v) :: rest)

end

/-- The name of the field that a key stands for. A number beyond the last field stands for none. -/
def Shape.nameOf? {α : Type} (shape : Shape α) : Value → Option String
  | .scalar (.text s) _ => some s
  | .scalar (.integer n) _ =>
    if 0 ≤ n then some (((shape.fields[n.toNat]?).map Field.name).getD "") else none
  | _ => none

/-- A value as a record of which the spelling does not count. -/
def Shape.readUnspelled? {α : Type} (shape : Shape α) (v : Value) : Option α := do
  match ← unspelled? v with
  | .record fields =>
    let named ← fields.mapM fun p => (shape.nameOf? p.1).map fun name => (Value.ofText name, p.2)
    shape.read? (.record named)
  | v => shape.read? v

/-! ## Connections -/

structure RemoteFields where
  host : Option String := none
  user : Option String := none
  port : Nat := 22

def remoteShape : Shape RemoteFields where
  base := {}
  fields :=
    [textField "host" fun v r => { r with host := some v },
     optionalText "user" fun v r => { r with user := v },
     naturalField "port" limit16 fun v r => { r with port := v }]

/-- A connection through the secure shell; its host is needed. -/
def remote? (v : Value) : Option Connection := do
  let fields ← remoteShape.readUnspelled? v
  let host ← fields.host
  some (.ssh { host, user := fields.user, port := UInt16.ofNat fields.port })

/-- A direct connection, of which a record may say anything more, but a list nothing. -/
def direct? (v : Value) : Option Connection := do
  match ← unspelled? v with
  | .record _ => some .direct
  | .list [] => some .direct
  | _ => none

/-- The value that names the kind of a connection, and the rest. -/
def kindAndRest? : Value → Option (Value × Value)
  | .list (kind :: rest) => some (kind, .list rest)
  | .record fields =>
    match fields.partition fun p => p.1.asText? = some "type" with
    | ([kind], rest) => some (kind.2, .record rest)
    | _ => none
  | _ => none

def connection? (v : Value) : Option Connection := do
  let (kind, rest) ← kindAndRest? v
  match kind.text? with
  | some "local" => direct? rest
  | some "ssh" => remote? rest
  | _ => none

end VirtHost.Data
