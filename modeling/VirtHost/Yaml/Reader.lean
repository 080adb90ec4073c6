import VirtHost.Yaml.Block
import VirtHost.Yaml.Style

/-! # Reading YAML

`Yaml.read?` reads one document. The structure of what is not in brackets goes by columns: the fields of
a record and the items of a list begin in one column, and what belongs to them is indented further;
the items of a list in a field may be in the column of the field.

* `Cursor`: what is left of a text, where it is, and what the anchors stand for.
* `Cursor.skip`: to the next character that counts.
* `bracketed`: values in brackets.
* `block`: any value.

Every step consumes text or ends, so as many steps as there are characters, and a few more, are enough.
-/

namespace VirtHost.Yaml
open Data (Value)
set_option autoImplicit false

/-! ## Positions -/

structure Cursor where
  rest : List Char
  line : Nat := 0
  column : Nat := 0
  /-- The values of the anchors passed. -/
  anchors : List (String × Value) := []

namespace Cursor

def step (c : Cursor) : Cursor :=
  match c.rest with
  | [] => c
  | '\n' :: rest => { c with rest, line := c.line + 1, column := 0 }
  | _ :: rest => { c with rest, column := c.column + 1 }

def forward (c : Cursor) (count : Nat) : Cursor :=
  count.repeat step c

/-- The place where `rest` is left. -/
def goTo (c : Cursor) (rest : List Char) : Cursor :=
  c.forward (c.rest.length - rest.length)

/-- The place of the next character that is no blank and in no comment. Tabs count as blanks where
`tabs` says so: up to the end of the line, and in brackets everywhere. -/
def skipFrom (inBrackets : Bool) : (tabs comment : Bool) → (line column : Nat) → List Char →
    Nat × Nat × List Char
  | _, _, line, column, [] => (line, column, [])
  | tabs, comment, line, column, c :: rest =>
    if c = '\n' then skipFrom inBrackets inBrackets false (line + 1) 0 rest
    else if comment || c = ' ' || (c = '\t' && tabs) then
      skipFrom inBrackets tabs comment line (column + 1) rest
    else if c = '#' then skipFrom inBrackets tabs true line (column + 1) rest
    else (line, column, c :: rest)

/-- The place of the next character that counts. -/
def skip (c : Cursor) (tabs : Bool) (inBrackets : Bool := false) : Cursor :=
  let (line, column, rest) := skipFrom inBrackets (tabs || inBrackets) false c.line c.column c.rest
  { c with rest, line, column }

end Cursor

/-- Whether a text is at a blank, a line break or its end. -/
def atGap (s : List Char) : Bool :=
  (s.head?.map fun c => isSpace c || c = '\n').getD true

/-- Whether a text begins with a mark that separates documents. -/
def atMark (s : List Char) : Bool :=
  (['-', '-', '-'].isPrefixOf s || ['.', '.', '.'].isPrefixOf s) && atGap (s.drop 3)

/-- Whether a document ends at a place. -/
def Cursor.ended (c : Cursor) : Bool :=
  c.rest.isEmpty || (c.column = 0 && atMark c.rest)

def atDash (s : List Char) : Bool :=
  s.head? = some '-' && atGap (s.drop 1)

def atQuestion (s : List Char) : Bool :=
  s.head? = some '?' && atGap (s.drop 1)

/-- Whether the colon between a key and its value is at a text. -/
def atColon (s : List Char) : Bool :=
  s.head? = some ':' && atGap (s.drop 1)

/-! ## Plain texts -/

/-- The characters that end a plain text in brackets. -/
def bracketMarks : List Char :=
  [',', '[', ']', '\x7b', '\x7d']

/-- Whether a plain text can begin with a text. -/
def beginsPlain (inBrackets : Bool) (s : List Char) : Bool :=
  match s with
  | [] => false
  | c :: rest =>
    if isSpace c || c = '\n' then false
    else if c = '-' then !atGap rest
    else if c = '?' || c = ':' then !inBrackets && !atGap rest
    else !headIndicators.contains c

/-- Whether a text in brackets has a colon before a mark, where it is neither text nor ends a key. -/
def atStrayColon (s : List Char) : Bool :=
  match s with
  | ':' :: c :: _ => c = '?' || bracketMarks.contains c
  | _ => false

/-- The characters of a plain text up to the end of the line, and what follows them. -/
def plainLine (inBrackets : Bool) (afterBlank : Bool) : List Char → List Char × List Char
  | [] => ([], [])
  | c :: rest =>
    if c = '\n' || (c = ':' && atGap rest) || (c = '#' && afterBlank)
        || (inBrackets && atStrayColon (c :: rest))
        || (inBrackets && bracketMarks.contains c) then ([], c :: rest)
    else
      let p := plainLine inBrackets (isSpace c) rest
      (c :: p.1, p.2)

def dropSpaces (s : List Char) : List Char :=
  (s.reverse.dropWhile isSpace).reverse

/-- Reads a plain text whose further lines are indented by `least` or more; gives the place behind it.
The first argument bounds the number of lines. -/
def plainText (inBrackets : Bool) (least : Nat) : Nat → Cursor → List Char × Cursor
  | 0, c => ([], c)
  | lines + 1, c =>
    let (raw, rest) := plainLine inBrackets false c.rest
    let text := dropSpaces raw
    let here := c.goTo rest
    let next := here.rest.dropWhile fun d => isSpace d || d = '\n'
    let there := here.goTo next
    let goesOn := rest.head? = some '\n' && !there.ended && (inBrackets || least ≤ there.column)
      && next.head? != some '#' && !(plainLine inBrackets false next).1.isEmpty
    if goesOn then
      let breaks := there.line - here.line
      let (more, last) := plainText inBrackets least lines there
      (text ++ (if breaks = 1 then [' '] else List.replicate (breaks - 1) '\n') ++ more, last)
    else (text, here)

/-! ## Properties -/

/-- What may stand before a value. -/
structure Properties where
  anchor : Option String := none
  tag : Option String := none

def nameAfter (s : List Char) : List Char :=
  s.takeWhile fun c => !isSpace c && c != '\n' && !bracketMarks.contains c

def isTextTag (tag : String) : Bool :=
  tag = "!str" || tag = "<tag:yaml.org,2002:str>"

/-- A scalar without quotes under some properties. -/
def plainValue (p : Properties) (text : List Char) : Value :=
  let s := String.ofList text
  if (p.tag.map isTextTag).getD false then .ofText s else .scalar (resolve s) (some s)

/-- An empty place under some properties. -/
def emptyValue (p : Properties) : Value :=
  plainValue p []

/-- The cursor after a value that has an anchor, perhaps. -/
def Cursor.note (c : Cursor) (p : Properties) (v : Value) : Cursor :=
  match p.anchor with
  | some name => { c with anchors := (name, v) :: c.anchors }
  | none => c

/-- Reads an anchor and a tag, of each at most one. The place is that of what follows them; whether it
is on a further line tells `crossed`. -/
def properties (inBrackets : Bool) : (left : Nat) → Cursor → Properties →
    Option (Properties × Cursor)
  | 0, c, p => some (p, c)
  | left + 1, c, p =>
    match c.rest with
    | '&' :: rest =>
      let name := nameAfter rest
      if name = [] ∨ p.anchor.isSome then none
      else properties inBrackets left ((c.forward (name.length + 1)).skip true inBrackets)
        { p with anchor := some (String.ofList name) }
    | '!' :: rest =>
      let name := nameAfter rest
      if p.tag.isSome then none
      else properties inBrackets left ((c.forward (name.length + 1)).skip true inBrackets)
        { p with tag := some (String.ofList name) }
    | _ => some (p, c)

/-! ## Scalars -/

structure ScalarAt where
  value : Value
  mayBeKey : Bool
  after : Cursor

/-- Reads a scalar that is quoted, plain or stands for an anchor. -/
def scalarAt? (inBrackets : Bool) (least : Nat) (p : Properties) (c : Cursor) : Option ScalarAt :=
  let quoted (r : List Char × List Char) : ScalarAt :=
    let after := c.goTo r.2
    ⟨.ofText (String.ofList r.1), after.line = c.line, after⟩
  match c.rest with
  | '\'' :: rest => (singleQuoted? rest).map quoted
  | '"' :: rest => (doubleQuoted? rest).map quoted
  | '*' :: rest =>
    let name := nameAfter rest
    (c.anchors.find? (·.1 = String.ofList name)).map fun a =>
      ⟨a.2, true, c.forward (name.length + 1)⟩
  | s =>
    if beginsPlain inBrackets s then
      let (text, after) := plainText inBrackets least (s.length + 1) c
      if inBrackets && atStrayColon after.rest then none
      else some ⟨plainValue p text, after.line = c.line, after⟩
    else none

/-! ## Brackets -/

mutual

/-- Reads a value in brackets. -/
def bracketed : Nat → Cursor → Option (Value × Cursor)
  | 0, _ => none
  | fuel + 1, c => do
    let (p, c) ← properties true 2 c {}
    match c.rest with
    | '[' :: _ =>
      let (items, c) ← bracketItems fuel (c.step.skip true true)
      let v := Value.list items
      some (v, c.note p v)
    | '\x7b' :: _ =>
      let (fields, c) ← bracketFields fuel (c.step.skip true true)
      let v := Value.record fields
      some (v, c.note p v)
    | s =>
      if (s.head?.map fun d => d = ',' || d = ']' || d = '\x7d' || d = ':').getD false then
        let v := emptyValue p
        some (v, c.note p v)
      else
        let r ← scalarAt? true 0 p c
        some (r.value, r.after.note p r.value)

/-- Reads a value and what a colon behind it leads to. A key that is not marked as one ends on the line
of the colon and begins there. -/
def bracketPair (fuel : Nat) (start : Cursor) : Option ((Value × Option Value) × Cursor) :=
  match fuel with
  | 0 => none
  | fuel + 1 => do
    let isMarked := start.rest.head? = some '?'
    let (k, c) ← bracketed fuel (if isMarked then start.step.skip true true else start)
    let c := c.skip true true
    if c.rest.head? = some ':' && (isMarked || c.line = start.line) then
      let (v, c) ← bracketed fuel (c.step.skip true true)
      some ((k, some v), c.skip true true)
    else some ((k, if isMarked then some (emptyValue {}) else none), c)

/-- Reads the items up to a closing bracket. A key and its value make a record. -/
def bracketItems : Nat → Cursor → Option (List Value × Cursor)
  | 0, _ => none
  | fuel + 1, c =>
    match c.rest with
    | ']' :: _ => some ([], c.step)
    | ',' :: _ => none
    | _ => do
      let ((k, w), c) ← bracketPair fuel c
      let v := match w with
        | some w => Value.record [(k, w)]
        | none => k
      match c.rest with
      | ',' :: _ => do
        let (rest, c) ← bracketItems fuel (c.step.skip true true)
        some (v :: rest, c)
      | ']' :: _ => some ([v], c.step)
      | _ => none

/-- Reads the fields up to a closing brace. A key without a value has an empty one. -/
def bracketFields : Nat → Cursor → Option (List (Value × Value) × Cursor)
  | 0, _ => none
  | fuel + 1, c =>
    match c.rest with
    | '\x7d' :: _ => some ([], c.step)
    | ',' :: _ => none
    | _ => do
      let ((k, w), c) ← bracketPair fuel c
      let v := w.getD (emptyValue {})
      match c.rest with
      | ',' :: _ => do
        let (rest, c) ← bracketFields fuel (c.step.skip true true)
        some ((k, v) :: rest, c)
      | '\x7d' :: _ => some ([(k, v)], c.step)
      | _ => none

end

/-! ## Columns -/

/-- Where a value that is not in brackets stands. -/
structure Context where
  /-- The column of what the value belongs to, plus one, or zero for a whole document. -/
  least : Nat
  /-- Whether the value is on the line of its key, so that no list or record can begin there. -/
  onLine : Bool
  /-- Whether a list may begin in the column of what it belongs to. -/
  listBelow : Bool

mutual

/-- Reads a value. The place is that of the next character that counts; the place behind the value is
not skipped on. -/
def block : Nat → Context → Cursor → Option (Value × Cursor)
  | 0, _, _ => none
  | fuel + 1, x, start => do
    let (p, c) ← properties false 2 start {}
    let onLine := x.onLine && c.line = start.line
    let isBelow := x.listBelow && start.line ≠ c.line && c.column + 1 = x.least && atDash c.rest
    if c.ended || (c.column < x.least && !isBelow) then
      let v := emptyValue p
      some (v, start.note p v)
    else if atDash c.rest then
      if onLine then none
      else do
        let (items, c) ← blockItems fuel c.column c
        let v := Value.list items
        some (v, c.note p v)
    else if atQuestion c.rest then
      if onLine then none
      else do
        let (fields, c) ← blockFields fuel c.column c
        let v := Value.record fields
        some (v, c.note p v)
    else
      match c.rest with
      | '|' :: _ | '>' :: _ =>
        let (text, rest) ← blockText? (x.least - 1) c.rest
        let v := Value.ofText (String.ofList text)
        some (v, (c.goTo rest).note p v)
      | '[' :: _ | '\x7b' :: _ =>
        let (v, c) ← bracketed fuel c
        if atColon (c.rest.dropWhile isSpace) then none
        else some (v, c.note p v)
      | _ =>
        let r ← scalarAt? false x.least p c
        let behind := r.after.rest.dropWhile isSpace
        if atColon behind then
          if onLine || !r.mayBeKey then none
          else do
            let keyed := if c.line = start.line then r.after.note p r.value else r.after
            let column := if c.line = start.line then start.column else c.column
            let (fields, after) ← blockValue fuel column r.value (keyed.goTo behind)
            let v := Value.record fields
            some (v, if c.line = start.line then after else after.note p v)
        else some (r.value, r.after.note p r.value)

/-- Reads the items of a list whose dashes are in a column, from a dash on. -/
def blockItems : Nat → (column : Nat) → Cursor → Option (List Value × Cursor)
  | 0, _, _ => none
  | fuel + 1, column, c => do
    let dash := c.step
    let here := dash.skip false
    let (v, after) ←
      if here.ended || here.column ≤ column then some (emptyValue {}, dash)
      else block fuel ⟨column + 1, false, false⟩ here
    let next := after.skip true
    if next.ended then some ([v], next)
    else if next.line = after.line && next.column ≠ 0 then none
    else if next.column = column && atDash next.rest then do
      let (rest, c) ← blockItems fuel column next
      some (v :: rest, c)
    else if next.column ≤ column then some ([v], after)
    else none

/-- Reads the fields of a record whose keys are in a column, from a key on. -/
def blockFields : Nat → (column : Nat) → Cursor → Option (List (Value × Value) × Cursor)
  | 0, _, _ => none
  | fuel + 1, column, c => do
    if atQuestion c.rest then
      let mark := c.step
      let here := mark.skip false
      let (k, after) ←
        if here.ended || here.column ≤ column then some (emptyValue {}, mark)
        else block fuel ⟨column + 1, false, false⟩ here
      let next := after.skip true
      if !next.ended && next.column = column && atColon next.rest then
        blockValue fuel column k next
      else blockMore fuel column k (emptyValue {}) after
    else
      let (p, here) ← properties false 2 c {}
      let r ← scalarAt? false (column + 1) p here
      let behind := r.after.rest.dropWhile isSpace
      if here.line = c.line && r.mayBeKey && atColon behind then
        blockValue fuel column r.value ((r.after.note p r.value).goTo behind)
      else none

/-- Reads the value of a key, from the colon on, and the further fields of the record. -/
def blockValue : Nat → (column : Nat) → (key : Value) → Cursor →
    Option (List (Value × Value) × Cursor)
  | 0, _, _, _ => none
  | fuel + 1, column, key, c => do
    let colon := c.step
    let here := colon.skip true
    let below := !here.ended && here.line ≠ colon.line && here.column = column && atDash here.rest
    let (v, after) ←
      if below then do
        let (items, after) ← blockItems fuel column here
        some (Value.list items, after)
      else if here.ended || here.column ≤ column then some (emptyValue {}, colon)
      else block fuel ⟨column + 1, here.line = colon.line, true⟩ here
    blockMore fuel column key v after

/-- Reads what follows a field: further fields, or the end of the record. -/
def blockMore : Nat → (column : Nat) → (key : Value) → Value → Cursor →
    Option (List (Value × Value) × Cursor)
  | 0, _, _, _, _ => none
  | fuel + 1, column, key, v, after => do
    let next := after.skip true
    if next.ended then some ([(key, v)], next)
    else if next.line = after.line && next.column ≠ 0 then none
    else if next.column = column then do
      let (rest, c) ← blockFields fuel column next
      some ((key, v) :: rest, c)
    else if next.column < column then some ([(key, v)], after)
    else none

end

/-! ## Documents -/

/-- A text whose lines all end in line feeds. -/
def normalLines : List Char → List Char
  | '\r' :: '\n' :: rest => '\n' :: normalLines rest
  | '\r' :: rest => '\n' :: normalLines rest
  | '\x85' :: rest => '\n' :: normalLines rest
  | c :: rest => c :: normalLines rest
  | [] => []

/-- Whether a character may occur in a document. -/
def isAllowed (c : Char) : Bool :=
  c = '\t' || c = '\r' || c = '\x85' || isShown c

def dropMark (s : List Char) : List Char :=
  match s with
  | '\ufeff' :: rest => rest
  | s => s

/-- The words of a line in front of a comment. -/
def wordsOf (line : List Char) : List (List Char) :=
  let words := (line.map fun c => if c = '\t' then ' ' else c).splitOn ' '
  (words.filter (· ≠ [])).takeWhile fun w => w.head? ≠ some '#'

/-- Whether the words behind the sign of a directive make one: the version of the language, or a name
for a family of tags. -/
def isDirective (words : List (List Char)) : Bool :=
  match words.map String.ofList with
  | ["YAML", version] => version = "1.1" || version = "1.2"
  | ["TAG", handle, _] => handle.toList.head? = some '!' && handle.toList.getLast? = some '!'
  | _ => false

/-- The place behind the lines of directives, of which there are at most so many. -/
def skipDirectives : Nat → Cursor → Option Cursor
  | 0, c => some c
  | lines + 1, c =>
    if c.column = 0 && c.rest.head? = some '%' then
      if isDirective (wordsOf ((c.rest.drop 1).takeWhile (· != '\n'))) then
        skipDirectives lines ((c.goTo (c.rest.dropWhile (· != '\n'))).skip false)
      else none
    else some c

/-- Whether a text begins with the mark at the end of a document. -/
def atEndMark (s : List Char) : Bool :=
  ['.', '.', '.'].isPrefixOf s && atGap (s.drop 3)

/-- Nothing but an end mark and comments may follow the document. -/
def atEnd (c : Cursor) : Bool :=
  let c := c.skip true
  if c.column = 0 && atEndMark c.rest then
    ((c.forward 3).skip true).rest.isEmpty
  else c.rest.isEmpty

/-- The value of the only document in a text. Directives need a mark behind them. -/
def read? (text : String) : Option Value :=
  let s := dropMark text.toList
  if !s.all isAllowed then none
  else do
    let s := normalLines s
    let fuel := 4 * s.length + 8
    let first : Cursor := Cursor.skip { rest := s } false
    let c ← skipDirectives s.length first
    let marked := c.column = 0 && ['-', '-', '-'].isPrefixOf c.rest && atGap (c.rest.drop 3)
    if !marked && (c.line ≠ first.line || (c.column = 0 && atEndMark c.rest)) then none
    else
      let start := if marked then (c.forward 3).skip true else c
      let (v, after) ← block fuel ⟨0, marked && start.line = c.line, false⟩ start
      if atEnd after then some v else none

end VirtHost.Yaml
