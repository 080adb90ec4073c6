import VirtHost.Text.Numeral

/-! # Reading quoted texts

* `foldBreaks`: blanks and line breaks between two characters of a text. One line break stands for a
  blank; of more, each but the first stands for itself; blanks beside a line break do not count.
* `singleQuoted?`: a text behind a single quote, in which two quotes stand for one.
* `doubleQuoted?`: a text behind a double quote, with escapes.
-/

namespace VirtHost.Yaml
open Text
set_option autoImplicit false

def isSpace (c : Char) : Bool :=
  c = ' ' || c = '\t'

/-- The text that a run of blanks and line breaks stands for, which is given last one first. Behind an
escaped line break each line break stands for itself. -/
def foldBreaks (escaped : Bool) (run : List Char) : List Char :=
  let breaks := run.count '\n'
  if escaped then List.replicate breaks '\n'
  else if breaks = 0 then run.reverse
  else if breaks = 1 then [' ']
  else List.replicate (breaks - 1) '\n'

/-! ## Single quotes -/

/-- The text up to a closing single quote, and what follows it; `run` holds the blanks and line breaks
just passed, last one first. -/
def singleQuotedFrom (run : List Char) : List Char → Option (List Char × List Char)
  | [] => none
  | '\'' :: '\'' :: rest =>
    (singleQuotedFrom [] rest).map fun p => (foldBreaks false run ++ '\'' :: p.1, p.2)
  | '\'' :: rest => some (foldBreaks false run, rest)
  | c :: rest =>
    if isSpace c || c = '\n' then singleQuotedFrom (c :: run) rest
    else (singleQuotedFrom [] rest).map fun p => (foldBreaks false run ++ c :: p.1, p.2)

/-- The text behind an opening single quote, and what follows the closing one. -/
def singleQuoted? (s : List Char) : Option (List Char × List Char) :=
  singleQuotedFrom [] s

/-! ## Double quotes -/

/-- The character that a letter behind a backslash stands for. -/
def escaped? (letter : Char) : Option Char :=
  match letter with
  | '0' => some '\x00'
  | 'a' => some '\x07'
  | 'b' => some '\x08'
  | 't' => some '\t'
  | '\t' => some '\t'
  | 'n' => some '\n'
  | 'v' => some '\x0b'
  | 'f' => some '\x0c'
  | 'r' => some '\r'
  | 'e' => some '\x1b'
  | ' ' => some ' '
  | '"' => some '"'
  | '/' => some '/'
  | '\\' => some '\\'
  | 'N' => some '\x85'
  | '_' => some '\xa0'
  | 'L' => some '\u2028'
  | 'P' => some '\u2029'
  | _ => none

/-- The number of hexadecimal digits that follow a letter behind a backslash. -/
def escapeWidth? (letter : Char) : Option Nat :=
  match letter with
  | 'x' => some 2
  | 'u' => some 4
  | 'U' => some 8
  | _ => none

/-- Where the reading of a text between double quotes is. -/
inductive QuoteState
  /-- Behind blanks and line breaks, last one first, and perhaps an escaped line break before them. -/
  | between (escaped : Bool) (run : List Char)
  | escape
  /-- Among the hexadecimal digits of a character, of which `missing + 1` are to come. -/
  | code (missing value : Nat)

def charOf? (n : Nat) : Option Char :=
  if n.isValidChar then some (Char.ofNat n) else none

/-- The text up to a closing double quote, and what follows it. -/
def doubleQuotedFrom : QuoteState → List Char → Option (List Char × List Char)
  | _, [] => none
  | .between escaped run, c :: rest =>
    let before := foldBreaks escaped run
    if c = '"' then some (before, rest)
    else if c = '\\' then
      (doubleQuotedFrom .escape rest).map fun p => (before ++ p.1, p.2)
    else if isSpace c || c = '\n' then doubleQuotedFrom (.between escaped (c :: run)) rest
    else (doubleQuotedFrom (.between false []) rest).map fun p => (before ++ c :: p.1, p.2)
  | .escape, c :: rest =>
    if c = '\n' then doubleQuotedFrom (.between true []) rest
    else
      match escapeWidth? c with
      | some width => doubleQuotedFrom (.code (width - 1) 0) rest
      | none =>
        match escaped? c with
        | some d => (doubleQuotedFrom (.between false []) rest).map fun p => (d :: p.1, p.2)
        | none => none
  | .code missing value, c :: rest =>
    match digitValue? 16 c with
    | none => none
    | some digit =>
      let value := value * 16 + digit
      match missing with
      | missing + 1 => doubleQuotedFrom (.code missing value) rest
      | 0 =>
        match charOf? value with
        | some d => (doubleQuotedFrom (.between false []) rest).map fun p => (d :: p.1, p.2)
        | none => none

/-- The text behind an opening double quote, and what follows the closing one. -/
def doubleQuoted? (s : List Char) : Option (List Char × List Char) :=
  doubleQuotedFrom (.between false []) s

end VirtHost.Yaml
