/-! # Searching, splitting and replacing

* `contains`, `startsWith`: one text inside or at the head of another.
* `splitOnce`, `splitLast`: the two sides of the first or last occurrence of a character.
* `lines`: the lines of a text, each without its line break.
* `matchesOf`: all non-overlapping matches of a pattern, from left to right.
* `replaceAll`: every occurrence of one text replaced by another, from left to right.
-/

namespace VirtHost.Text
set_option autoImplicit false

/-! ## Occurrence -/

def contains (needle : List Char) : List Char → Bool
  | [] => needle.isEmpty
  | c :: rest => needle.isPrefixOf (c :: rest) || contains needle rest

/-- What follows `head` when the text begins with it. -/
def dropHead? : List Char → List Char → Option (List Char)
  | [], s => some s
  | _ :: _, [] => none
  | h :: head, c :: s => if h = c then dropHead? head s else none

def startsWith (s head : String) : Bool :=
  head.toList.isPrefixOf s.toList

def includes (s needle : String) : Bool :=
  contains needle.toList s.toList

/-! ## Splitting -/

def splitOnce (sep : Char) : List Char → Option (List Char × List Char)
  | [] => none
  | c :: rest =>
    if c = sep then some ([], rest)
    else (splitOnce sep rest).map fun p => (c :: p.1, p.2)

def splitLast (sep : Char) (s : List Char) : Option (List Char × List Char) :=
  (splitOnce sep s.reverse).map fun p => (p.2.reverse, p.1.reverse)

/-- The text up to the first `sep`, or all of it. -/
def upTo (sep : Char) (s : List Char) : List Char :=
  s.takeWhile (· != sep)

/-- A line without a carriage return at its end. -/
def dropReturn (line : List Char) : List Char :=
  if line.getLast? = some '\r' then line.dropLast else line

/-- The lines of a text. A line feed ends a line, together with a carriage return before it; what
follows the last line feed is a line unless it is empty. -/
def lines (s : List Char) : List (List Char) :=
  let pieces := s.splitOn '\n'
  pieces.dropLast.map dropReturn ++ (pieces.getLast?.toList.filter fun l => !l.isEmpty)

def join (sep : List Char) (parts : List (List Char)) : List Char :=
  sep.intercalate parts

/-! ## Matches -/

/-- All matches of a pattern that reports, for the text at hand, what it found and how many
characters it took; the first argument counts the characters of the last match still to be passed.
-/
def matchesFrom {α : Type} (pattern : List Char → Option (α × Nat)) : Nat → List Char → List α
  | _, [] => []
  | skip + 1, _ :: rest => matchesFrom pattern skip rest
  | 0, c :: rest =>
    match pattern (c :: rest) with
    | some (found, length) => found :: matchesFrom pattern (length - 1) rest
    | none => matchesFrom pattern 0 rest

def matchesOf {α : Type} (pattern : List Char → Option (α × Nat)) (s : List Char) : List α :=
  matchesFrom pattern 0 s

/-! ## Replacement -/

/-- Replacement with `skip` characters of the last occurrence still to be passed. -/
def replaceFrom (old new : List Char) : Nat → List Char → List Char
  | _, [] => []
  | skip + 1, _ :: rest => replaceFrom old new skip rest
  | 0, c :: rest =>
    if old.isPrefixOf (c :: rest) then new ++ replaceFrom old new (old.length - 1) rest
    else c :: replaceFrom old new 0 rest

/-- The text with every occurrence of the non-empty text `old` replaced by `new`, from left to
right. -/
def replaceAll (old new s : List Char) : List Char :=
  replaceFrom old new 0 s

end VirtHost.Text
