import VirtHost.Yaml.Quoted

/-! # Reading block texts

A block text is a header and the lines below it that are indented more than what they belong to.

* `Header.read?`: the header: literal or folded, what becomes of the line breaks at the end, and
  perhaps the indentation.
* `blockText?`: the text of a block, and what follows it.
-/

namespace VirtHost.Yaml
set_option autoImplicit false

/-! ## Headers -/

/-- What becomes of the line breaks at the end of a block. -/
inductive Chomping
  | strip
  | clip
  | keep
  deriving DecidableEq

structure Header where
  /-- Whether line breaks stand for themselves. -/
  literal : Bool
  chomping : Chomping := .clip
  /-- The indentation beyond that of what the block belongs to, if it is given. -/
  indentation : Option Nat := none

/-- Reads the marks of a header, of each sort at most one. -/
def Header.marks (h : Header) (s : List Char) : Header × List Char :=
  let chomp (h : Header) (s : List Char) : Header × List Char :=
    match s with
    | '-' :: rest => ({ h with chomping := .strip }, rest)
    | '+' :: rest => ({ h with chomping := .keep }, rest)
    | _ => (h, s)
  let digit (h : Header) (s : List Char) : Header × List Char :=
    match s with
    | c :: rest =>
      if '1' ≤ c ∧ c ≤ '9' then ({ h with indentation := some (c.toNat - '0'.toNat) }, rest)
      else (h, s)
    | [] => (h, s)
  match s with
  | '-' :: _ => let p := chomp h s; digit p.1 p.2
  | '+' :: _ => let p := chomp h s; digit p.1 p.2
  | _ => let p := digit h s; chomp p.1 p.2

/-- The header at the head of a text, and the text from the next line on. -/
def Header.read? (s : List Char) : Option (Header × List Char) := do
  let (h, s) ← match s with
    | '|' :: rest => some (Header.marks { literal := true } rest)
    | '>' :: rest => some (Header.marks { literal := false } rest)
    | _ => none
  match s.dropWhile isSpace with
  | [] => some (h, [])
  | '\n' :: rest => some (h, rest)
  | '#' :: rest => some (h, (rest.dropWhile (· != '\n')).drop 1)
  | _ => none

/-! ## Lines -/

/-- The indentation of the first line that is not blank, or of the longest blank line. -/
def detectIndentation (widest : Nat) : List (List Char) → Nat
  | [] => widest
  | line :: rest =>
    let spaces := (line.takeWhile (· = ' ')).length
    if line.length = spaces then detectIndentation (max widest spaces) rest
    else max widest spaces

/-- The lines of a block: those that are indented far enough, without their indentation, and empty ones
between; then the other lines. -/
def blockLines (indent : Nat) : List (List Char) → List (List Char) × List (List Char)
  | [] => ([], [])
  | line :: rest =>
    if indent ≤ (line.takeWhile (· = ' ')).length then
      let p := blockLines indent rest
      (line.drop indent :: p.1, p.2)
    else if line.all (· = ' ') then
      let p := blockLines indent rest
      ([] :: p.1, p.2)
    else ([], line :: rest)

/-! ## Joining lines -/

def beginsBlank (line : List Char) : Bool :=
  (line.head?.map isSpace).getD false

/-- The lines of a folded block joined. A line break between two lines that do not begin with a blank
stands for a blank, or for nothing before empty lines, which stand for one line break each. -/
def foldLines : (previous : List Char) → (empty : Nat) → List (List Char) → List Char
  | _, _, [] => []
  | previous, empty, line :: rest =>
    if line = [] then foldLines previous (empty + 1) rest
    else
      let gap :=
        if previous = [] then List.replicate empty '\n'
        else if beginsBlank previous || beginsBlank line then List.replicate (empty + 1) '\n'
        else if empty = 0 then [' '] else List.replicate empty '\n'
      gap ++ line ++ foldLines line 0 rest

/-- The lines without the empty ones at the end, and the number of these. -/
def dropEmptyEnd (lines : List (List Char)) : List (List Char) × Nat :=
  let kept := (lines.reverse.dropWhile fun line => line.isEmpty).reverse
  (kept, lines.length - kept.length)

/-- The line breaks at the end of a block, after which there are so many empty lines. -/
def endBreaks (chomping : Chomping) (isEmpty ended : Bool) (empty : Nat) : List Char :=
  match chomping with
  | .strip => []
  | .clip => if isEmpty || !ended then [] else ['\n']
  | .keep => List.replicate (if isEmpty then empty else if ended then empty + 1 else 0) '\n'

/-- The text of a block at the head of `s`, and what follows it. What it belongs to is indented by
`parent`. -/
def blockText? (parent : Nat) (s : List Char) : Option (List Char × List Char) := do
  let (h, body) ← Header.read? s
  let pieces := body.splitOn '\n'
  let ended := pieces.getLast? = some []
  let lines := if ended then pieces.dropLast else pieces
  let indent := match h.indentation with
    | some n => parent + n
    | none => max (detectIndentation 0 lines) (parent + 1)
  let (inside, rest) := blockLines indent lines
  let (kept, empty) := dropEmptyEnd inside
  let text := if h.literal then List.intercalate ['\n'] kept else foldLines [] 0 kept
  let last := ended || !rest.isEmpty
  let after := List.intercalate ['\n'] rest ++ (if ended && !rest.isEmpty then ['\n'] else [])
  some (text ++ endBreaks h.chomping kept.isEmpty last empty, after)

end VirtHost.Yaml
