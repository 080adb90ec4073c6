/-! # Quoting a word

`quoted?` writes a text so that a shell reads it back as one word. The text is cut into chunks, each as
long as one way of writing can hold it: plain, between single quotes or between double quotes, in that
order of preference. No text with a NUL can be written.
-/

namespace VirtHost.Shell
set_option autoImplicit false

/-- The ways in which a chunk of a word can be written. -/
structure Ways where
  plain : Bool
  single : Bool
  double : Bool
  deriving DecidableEq

namespace Ways

def inter (v w : Ways) : Ways :=
  ⟨v.plain && w.plain, v.single && w.single, v.double && w.double⟩

def isNone (w : Ways) : Bool :=
  !w.plain && !w.single && !w.double

end Ways

def isPlain (c : Char) : Bool :=
  c.isAlphanum || ['+', '-', '.', '/', ':', '@', ']', '_'].contains c

/-- The ways of writing a character inside a chunk. -/
def waysOf (c : Char) : Ways where
  plain := isPlain c
  single := c != '\'' && c != '^' && c != '\\'
  double := c != '\x60' && c != '$' && c != '!' && c != '^'

/-- The ways of writing a character at the head of a chunk: there single quotes can hold a caret. -/
def waysOfHead (c : Char) : Ways :=
  if c = '^' then ⟨false, true, false⟩ else waysOf c

def doubleChar (c : Char) : List Char :=
  if c = '"' ∨ c = '\\' then ['\\', c] else [c]

/-- A chunk in the first way of some. -/
def writeChunk (ways : Ways) (chunk : List Char) : List Char :=
  if ways.plain then chunk
  else if ways.single then '\'' :: chunk ++ ['\'']
  else '"' :: chunk.flatMap doubleChar ++ ['"']

/-- The rest of a text behind a chunk that can be written in some ways, which is given last character
first. -/
def writeFrom (ways : Ways) (chunk : List Char) : List Char → List Char
  | [] => writeChunk ways chunk.reverse
  | c :: rest =>
    let both := ways.inter (waysOf c)
    if both.isNone then writeChunk ways chunk.reverse ++ writeFrom (waysOfHead c) [c] rest
    else writeFrom both (c :: chunk) rest

def quoted? (text : String) : Option String :=
  match text.toList with
  | [] => some "''"
  | c :: rest =>
    if '\x00' ∈ c :: rest then none
    else some (String.ofList (writeFrom (waysOfHead c) [c] rest))

end VirtHost.Shell
