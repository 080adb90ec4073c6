/-! # Words of a command line

`words?` splits a command line into words at blanks and line breaks.

Between single quotes every character stands for itself. Between double quotes a backslash takes the
meaning from another backslash, a double quote, a dollar sign and a backtick, and elsewhere from every
character. An escaped line break is nothing at all. A number sign at the head of a word begins a
comment that goes to the end of the line. A quote that is not closed and a backslash at the end are
errors.
-/

namespace VirtHost.Shell
set_option autoImplicit false

/-- Where in a command line a character stands. -/
inductive Place
  | gap
  | comment
  | word
  | single
  | double
  | escape
  | doubleEscape
  deriving DecidableEq

def isGap (c : Char) : Bool :=
  c = ' ' || c = '\t' || c = '\n'

/-- Whether a backslash between double quotes takes the meaning from a character. -/
def isEscapable (c : Char) : Bool :=
  c = '$' || c = '\x60' || c = '"' || c = '\\'

/-- Puts a character before the first word. -/
def extend (c : Char) : List (List Char) → List (List Char)
  | [] => [[c]]
  | w :: ws => (c :: w) :: ws

/-- The words from a place on. Inside a word the first of them is the rest of that word. -/
def wordsFrom : Place → List Char → Option (List (List Char))
  | .gap, [] => some []
  | .comment, [] => some []
  | .word, [] => some [[]]
  | _, [] => none
  | .comment, c :: rest => wordsFrom (if c = '\n' then .gap else .comment) rest
  | .single, c :: rest =>
    if c = '\'' then wordsFrom .word rest else (wordsFrom .single rest).map (extend c)
  | .double, c :: rest =>
    if c = '"' then wordsFrom .word rest
    else if c = '\\' then wordsFrom .doubleEscape rest
    else (wordsFrom .double rest).map (extend c)
  | .doubleEscape, c :: rest =>
    if c = '\n' then wordsFrom .double rest
    else if isEscapable c then (wordsFrom .double rest).map (extend c)
    else (wordsFrom .double rest).map fun ws => extend '\\' (extend c ws)
  | .escape, c :: rest =>
    if c = '\n' then wordsFrom .word rest else (wordsFrom .word rest).map (extend c)
  | place, c :: rest =>
    if isGap c then
      if place = .gap then wordsFrom .gap rest else (wordsFrom .gap rest).map ([] :: ·)
    else if c = '#' ∧ place = .gap then wordsFrom .comment rest
    else if c = '\'' then wordsFrom .single rest
    else if c = '"' then wordsFrom .double rest
    else if c = '\\' then wordsFrom .escape rest
    else (wordsFrom .word rest).map (extend c)

def words? (line : String) : Option (List String) :=
  (wordsFrom .gap line.toList).map (·.map String.ofList)

end VirtHost.Shell
