import VirtHost.Error
import VirtHost.Xml.Node
import VirtHost.Xml.Token

/-! # Documents

`parse` reads the elements of a text. Start and end tags must match. Of several elements that stand
beside each other outside all others, the last one is the result.

The elements that are open are kept on a stack of frames; a complete element goes into the innermost
open one, or becomes the result.
-/

namespace VirtHost.Xml
set_option autoImplicit false

/-- An element whose end tag has not been read: its name, its attributes and the children so far,
last one first. -/
structure Frame where
  name : String
  attributes : List (String × String)
  children : List Node

def Frame.close (f : Frame) : Node :=
  .mk f.name f.attributes f.children.reverse

/-- What has been read of a document: the open elements, innermost first, and the last complete one
outside all others. -/
structure Partial where
  frames : List Frame
  root : Option Node

namespace Partial

def start : Partial :=
  ⟨[], none⟩

/-- A complete element goes into the innermost open one. -/
def add (p : Partial) (n : Node) : Partial :=
  match p.frames with
  | [] => ⟨[], some n⟩
  | f :: frames => ⟨{ f with children := n :: f.children } :: frames, p.root⟩

/-- Reads a tag. An end tag must have the name of the innermost open element. -/
def step (p : Partial) : Token → Except XmlError Partial
  | .start name attributes => .ok { p with frames := ⟨name, attributes, []⟩ :: p.frames }
  | .empty name attributes => .ok (p.add (.mk name attributes []))
  | .finish name =>
    match p.frames with
    | [] => .error .malformed
    | f :: frames => if f.name = name then .ok (add ⟨frames, p.root⟩ f.close) else .error .malformed

/-- The result, if no element is open and there is one. -/
def result (p : Partial) : Except XmlError Node :=
  match p.frames, p.root with
  | _ :: _, _ => .error .unexpectedEnd
  | [], none => .error .empty
  | [], some n => .ok n

end Partial

/-- The element that a list of tags stands for. -/
def ofTokens (tokens : List Token) : Except XmlError Node := do
  let p ← tokens.foldlM Partial.step Partial.start
  p.result

def dropMark (s : List Char) : List Char :=
  match s with
  | '\ufeff' :: rest => rest
  | _ => s

/-- The last of the outermost elements of a text. -/
def parse (text : String) : Except Error Node :=
  match Token.ofText? (dropMark text.toList) with
  | none => .error (.xml .malformed)
  | some tokens => (ofTokens tokens).mapError Error.xml

end VirtHost.Xml
