import VirtHost.Yaml.Plain

/-! # How texts are written

A text is written plain where that is read back as the same text, else between single quotes, and
between double quotes with escapes if it has characters that cannot be shown. Texts of several lines
are written as literal blocks.

* `Features.of`: what there is in a text that forbids some style.
* `scalar`: a text as the value of a field or as an item.
* `isSimpleKey`, `key`: a text as the name of a field.
-/

namespace VirtHost.Yaml
open Text
set_option autoImplicit false

/-! ## Characters -/

def isBreak (c : Char) : Bool :=
  c = '\n' || c = '\r' || c = '\x85' || c = '\u2028' || c = '\u2029'

/-- Whether a character stands for a place between words or lines. -/
def isGap (c : Char) : Bool :=
  c = ' ' || c = '\t' || isBreak c

/-- Whether a character can be shown as it is. -/
def isShown (c : Char) : Bool :=
  let n := c.toNat
  n = 0x0a || (0x20 ≤ n && n ≤ 0x7e) || (0xa0 ≤ n && n ≤ 0xfffd && n ≠ 0xfeff) || 0x10000 ≤ n

/-- The characters that mean something at the head of a plain text. -/
def headIndicators : List Char :=
  ['#', ',', '[', ']', '\x7b', '\x7d', '&', '*', '!', '|', '>', '\'', '"', '%', '@', Char.ofNat 0x60]

/-! ## What is in a text -/

/-- What there is in a text that forbids some style. -/
structure Features where
  /-- It would be taken for something else without quotes. -/
  indicators : Bool
  breaks : Bool
  /-- There are characters that cannot be shown. -/
  hidden : Bool
  /-- It begins or ends with a blank or a line break. -/
  loose : Bool
  trailingSpace : Bool
  /-- A blank follows a line break. -/
  breakSpace : Bool
  /-- A line break follows a blank. -/
  spaceBreak : Bool
  deriving DecidableEq

/-- Whether the first element of some pair of neighbours satisfies `p` and the second `q`. -/
def hasPair (p q : Char → Bool) (s : List Char) : Bool :=
  (s.zip s.tail).any fun pair => p pair.1 && q pair.2

/-- Whether a colon in the text would end a key, or a number sign would begin a comment. -/
def hasInnerIndicator (s : List Char) : Bool :=
  hasPair (· = ':') isGap s || s.getLast? = some ':' || hasPair isGap (· = '#') s

/-- Whether the beginning of the text means something. -/
def hasHeadIndicator (s : List Char) : Bool :=
  match s with
  | [] => false
  | c :: rest =>
    headIndicators.contains c
      || ((c = '?' || c = ':' || c = '-') && (rest.head?.map isGap).getD true)
      || ['-', '-', '-'].isPrefixOf s || ['.', '.', '.'].isPrefixOf s

/-- What there is in a text. -/
def Features.of (s : List Char) : Features where
  indicators := hasHeadIndicator s || hasInnerIndicator s
  breaks := s.any isBreak
  hidden := !s.all isShown
  loose := (s.head?.map fun c => c = ' ' || isBreak c).getD false
    || (s.getLast?.map fun c => c = ' ' || isBreak c).getD false
  trailingSpace := s.getLast? = some ' '
  breakSpace := hasPair isBreak (· = ' ') s
  spaceBreak := hasPair (· = ' ') isBreak s

namespace Features

/-- Whether the text may be written without quotes. -/
def allowsPlain (f : Features) : Bool :=
  !(f.indicators || f.breaks || f.hidden || f.loose)

/-- Whether the text may be written between single quotes. -/
def allowsSingle (f : Features) : Bool :=
  !(f.breakSpace || f.spaceBreak || f.hidden)

/-- Whether the text may be written as a block. -/
def allowsBlock (f : Features) : Bool :=
  !(f.trailingSpace || f.spaceBreak || f.hidden)

end Features

/-! ## The styles -/

/-- The text after line breaks are followed by an indentation; `broken` tells that a line break has
just been written. -/
def indented (indent : Nat) (broken : Bool) : List Char → List Char
  | [] => []
  | c :: rest =>
    if isBreak c then c :: indented indent true rest
    else if broken then List.replicate indent ' ' ++ c :: indented indent false rest
    else c :: indented indent false rest

def endsWithBreak (s : List Char) : Bool :=
  (s.getLast?.map isBreak).getD false

/-- A text between single quotes, of which those inside are doubled. -/
def singleQuoted (indent : Nat) (s : List Char) : List Char :=
  '\'' :: indented indent false (s.flatMap fun c => if c = '\'' then ['\'', '\''] else [c])
    ++ (if endsWithBreak s then List.replicate indent ' ' else []) ++ ['\'']

def upperHex (width n : Nat) : List Char :=
  (hexadecimal width n).map Char.toUpper

/-- The letter that stands for a character behind a backslash. -/
def escapeLetter? (c : Char) : Option Char :=
  match c.toNat with
  | 0x00 => some '0'
  | 0x07 => some 'a'
  | 0x08 => some 'b'
  | 0x09 => some 't'
  | 0x0a => some 'n'
  | 0x0b => some 'v'
  | 0x0c => some 'f'
  | 0x0d => some 'r'
  | 0x1b => some 'e'
  | 0x22 => some '"'
  | 0x5c => some '\\'
  | 0x85 => some 'N'
  | 0xa0 => some '_'
  | 0x2028 => some 'L'
  | 0x2029 => some 'P'
  | _ => none

def doubleQuotedChar (c : Char) : List Char :=
  if isShown c && !isBreak c && c ≠ '"' && c ≠ '\\' then [c]
  else
    match escapeLetter? c with
    | some letter => ['\\', letter]
    | none =>
      if c.toNat ≤ 0xff then '\\' :: 'x' :: upperHex 2 c.toNat
      else if c.toNat ≤ 0xffff then '\\' :: 'u' :: upperHex 4 c.toNat
      else '\\' :: 'U' :: upperHex 8 c.toNat

def doubleQuoted (s : List Char) : List Char :=
  '"' :: s.flatMap doubleQuotedChar ++ ['"']

/-- How the end of a block is marked: it has no line break, one, or more. -/
def chompMark (s : List Char) : List Char :=
  match s.reverse with
  | [] => ['-']
  | [c] => if isBreak c then ['+'] else ['-']
  | c :: d :: _ => if !isBreak c then ['-'] else if isBreak d then ['+'] else []

/-- A text of several lines as a block, without the line break at its end. A first line that begins
with a blank needs to be told how far the block is indented. -/
def literal (indent : Nat) (s : List Char) : List Char :=
  let hint := if (s.head?.map fun c => c = ' ' || isBreak c).getD false then ['2'] else []
  '|' :: hint ++ chompMark s ++ '\n'
    :: indented indent true (if s.getLast? = some '\n' then s.dropLast else s)

def quoted (indent : Nat) (s : List Char) : List Char :=
  if (Features.of s).allowsSingle then singleQuoted indent s else doubleQuoted s

/-- A text as the value of a field or as an item, with so much indentation for further lines. -/
def scalar (indent : Nat) (text : String) : List Char :=
  let s := text.toList
  if s.contains '\n' then
    if (Features.of s).allowsBlock then literal indent s else doubleQuoted s
  else if needsQuotes text || !(Features.of s).allowsPlain then quoted indent s
  else s

/-- Whether a text may be the name of a field on the line of its value. -/
def isSimpleKey (text : String) : Bool :=
  text.utf8ByteSize ≤ 128 && !text.toList.any isBreak

end VirtHost.Yaml
