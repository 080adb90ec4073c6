import VirtHost.Pci

/-! # Grammars of command lines

A grammar names the parameters of a command and says which of them go together.

* `Kind`, `Kind.read`: what kind of value a parameter takes.
* `Parameter`: a flag, an option with a value, or a value by position.
* `Grammar`, `Grammar.read`: reads words up to the name of a subcommand. A word that belongs to no
  parameter is refused at once; the value of an option or a position is read when the next parameter
  comes, or at the end.
* `Grammar.check`: which parameters exclude and which need each other.
-/

namespace VirtHost.Cli
open Text
set_option autoImplicit false

/-! ## Refusals -/

/-- Why a command line is refused, or not a command to run. -/
inductive Refusal
  | help
  | version
  /-- There are no words at all. -/
  | nothingGiven
  | missingSubcommand
  | invalidSubcommand
  | unknownArgument
  /-- A flag is given a value. -/
  | tooManyValues
  /-- An option has no value, or a path is empty. -/
  | invalidValue
  /-- A value is not of its kind. Numbers and addresses of devices tell why. -/
  | valueValidation (detail : Option String)
  /-- A parameter is given twice or beside one that excludes it. -/
  | argumentConflict
  | missingRequired
  deriving DecidableEq

/-! ## Values -/

/-- What kind of value a parameter takes. -/
inductive Kind
  | text
  /-- A text that is not empty. -/
  | path
  /-- A decimal number up to a limit. -/
  | natural (limit : Nat)
  /-- A number of so many bits, in decimal or behind `0x` in hexadecimal. -/
  | number (bits : Nat)
  | address
  deriving DecidableEq

inductive Argument
  | given
  | text (s : String)
  | number (n : Nat)
  | address (a : Pci.Address)
  deriving DecidableEq

/-- A number of 64 bits, in decimal or behind `0x` in hexadecimal. -/
def readNumber (s : List Char) : Except NumeralError Nat :=
  match s with
  | '0' :: 'x' :: digits => readNumeral 16 limit64 digits
  | '0' :: 'X' :: digits => readNumeral 16 limit64 digits
  | s => readNumeral 10 limit64 s

def readBits (bits : Nat) (s : String) : Except String Nat :=
  match readNumber s.toList with
  | .error e => .error ("invalid number '" ++ s ++ "': " ++ e.message)
  | .ok n =>
    if n < Nat.pow 2 bits then .ok n
    else .error ("'" ++ s ++ "' does not fit in " ++ decimal bits ++ " bits")

def Kind.read (k : Kind) (s : String) : Except Refusal Argument :=
  match k with
  | .text => .ok (.text s)
  | .path => if s = "" then .error .invalidValue else .ok (.text s)
  | .natural limit =>
    match readNumeral? 10 limit s.toList with
    | some n => .ok (.number n)
    | none => .error (.valueValidation none)
  | .number bits => ((readBits bits s).map .number).mapError fun why => .valueValidation (some why)
  | .address => ((Pci.Address.parse s).map .address).mapError fun e => .valueValidation (some e.message)

/-! ## Grammars -/

/-- How a parameter is given. -/
inductive Form
  | flag
  /-- By its name and a value. -/
  | option (kind : Kind)
  /-- By a value at its place. -/
  | positional (kind : Kind)
  /-- By its name alone, and nothing else counts. -/
  | stop (refusal : Refusal)
  deriving DecidableEq

/-- A parameter of a command. The name of an option follows two dashes, its letter follows one. -/
structure Parameter where
  name : String
  form : Form
  letter : Option Char := none
  deriving DecidableEq

/-- The parameters of a command and what is said about them. -/
structure Grammar where
  parameters : List Parameter
  subcommands : List String := []
  /-- Pairs of which one may be given only. -/
  exclusive : List (String × String) := []
  required : List String := []
  /-- The first of each pair has to be given if the second is not. -/
  requiredUnless : List (String × String) := []
  /-- The first of each pair needs the second. -/
  needs : List (String × String) := []
  deriving DecidableEq

/-- The parameters that were given, last one first. -/
abbrev Matches :=
  List (String × Argument)

def Matches.get? (m : Matches) (name : String) : Option Argument :=
  (m.find? (·.1 = name)).map (·.2)

def Matches.has (m : Matches) (name : String) : Bool :=
  (m.get? name).isSome

namespace Grammar

/-- The parameter with a name, which is no position. -/
def named? (g : Grammar) (name : String) : Option Parameter :=
  g.parameters.find? fun p =>
    p.name = name && match p.form with
      | .positional _ => false
      | _ => true

def lettered? (g : Grammar) (c : Char) : Option Parameter :=
  g.parameters.find? (·.letter = some c)

/-- The names and kinds of the positions, in order. -/
def positions (g : Grammar) : List (String × Kind) :=
  g.parameters.filterMap fun p =>
    match p.form with
    | .positional kind => some (p.name, kind)
    | _ => none

/-! ## Reading words -/

/-- What has been read: the parameters so far, the one whose value is still to be read, with its word
if that has come, the number of positions filled, and whether only positions follow. -/
structure Progress where
  done : Matches := []
  pending : Option (String × Kind × Option String) := none
  filled : Nat := 0
  onlyPositions : Bool := false

namespace Progress

/-- A parameter is given, which may not have been before. -/
def record (p : Progress) (name : String) (value : Except Refusal Argument) :
    Except Refusal Progress :=
  if p.done.has name then .error .argumentConflict
  else value.map fun v => { p with done := (name, v) :: p.done }

/-- The value that is still to be read is read. -/
def settle (p : Progress) : Except Refusal Progress :=
  match p.pending with
  | none => .ok p
  | some (_, _, none) => .error .invalidValue
  | some (name, kind, some word) => { p with pending := none }.record name (kind.read word)

/-- Whether the next word is the value of an option. -/
def awaitsValue (p : Progress) : Bool :=
  match p.pending with
  | some (_, _, none) => true
  | _ => false

/-- A flag is given, or a parameter that ends everything. -/
def flag (p : Progress) (name : String) (outcome : Except Refusal Argument) :
    Except Refusal Progress := do
  let p ← p.settle
  p.record name outcome

/-- An option is given with its value, or with the value to come. -/
def option (p : Progress) (name : String) (kind : Kind) (value : Option String) :
    Except Refusal Progress := do
  let p ← p.settle
  match value with
  | some word => p.record name (kind.read word)
  | none => .ok { p with pending := some (name, kind, none) }

end Progress

/-- A word that is the value of an option or a position. -/
def readValue (g : Grammar) (p : Progress) (word : String) : Except Refusal Progress :=
  match p.pending with
  | some (name, kind, none) =>
    if p.onlyPositions then place else .ok { p with pending := some (name, kind, some word) }
  | _ => place
where
  /-- The word is the value of the next position. -/
  place : Except Refusal Progress :=
    match g.positions[p.filled]? with
    | some (name, kind) => do
      let p ← p.settle
      .ok { p with pending := some (name, kind, some word), filled := p.filled + 1 }
    | none =>
      .error (if g.subcommands = [] ∨ (p.onlyPositions ∧ word ∈ g.subcommands) then .unknownArgument
        else .invalidSubcommand)

/-- A word that begins with two dashes: the name, and the value behind a sign of equality. -/
def readLong (g : Grammar) (p : Progress) (name : String) (value : Option String) :
    Except Refusal Progress :=
  match g.named? name with
  | none => .error .unknownArgument
  | some parameter =>
    match parameter.form, value with
    | .flag, none => p.flag name (.ok .given)
    | .stop refusal, none => p.flag name (.error refusal)
    | .option kind, value => p.option name kind value
    | _, _ => .error .tooManyValues

/-- The letters after one dash. The first option among them takes the rest for its value, if there is
a rest. -/
def readLetters (g : Grammar) (p : Progress) : List Char → Except Refusal Progress
  | [] => .ok p
  | c :: rest =>
    match g.lettered? c with
    | none => .error .unknownArgument
    | some parameter =>
      match parameter.form with
      | .option kind =>
        p.option parameter.name kind <|
          match rest with
          | [] => none
          | '=' :: value => some (String.ofList value)
          | value => some (String.ofList value)
      | .stop refusal => p.flag parameter.name (.error refusal)
      | _ => do
        let p ← p.flag parameter.name (.ok .given)
        readLetters g p rest

/-- One word that is not the name of a subcommand. -/
def readWord (g : Grammar) (p : Progress) (word : String) : Except Refusal Progress :=
  if p.onlyPositions then readValue g p word
  else
    match word.toList with
    | ['-', '-'] => .ok { p with onlyPositions := true }
    | '-' :: '-' :: long =>
      match splitOnce '=' long with
      | some (name, value) => readLong g p (String.ofList name) (some (String.ofList value))
      | none => readLong g p (String.ofList long) none
    | '-' :: c :: letters => readLetters g p (c :: letters)
    | _ => readValue g p word

/-- Whether a word names a subcommand where it stands. -/
def isSubcommand (g : Grammar) (p : Progress) (word : String) : Bool :=
  !p.onlyPositions && !p.awaitsValue && g.subcommands.contains word

/-- The words up to the name of a subcommand, then that name and the words after it. -/
def readWords (g : Grammar) : Progress → List String →
    Except Refusal (Progress × Option (String × List String))
  | p, [] => .ok (p, none)
  | p, word :: rest =>
    if g.isSubcommand p word then .ok (p, some (word, rest))
    else do
      let p ← g.readWord p word
      readWords g p rest

/-! ## What goes together -/

/-- Whether a parameter is excluded by one that was given. -/
def isExcluded (g : Grammar) (m : Matches) (name : String) : Bool :=
  g.exclusive.any fun pair =>
    (pair.1 = name && m.has pair.2) || (pair.2 = name && m.has pair.1)

/-- Whether a parameter was given or cannot be. -/
def isSatisfied (g : Grammar) (m : Matches) (name : String) : Bool :=
  m.has name || g.isExcluded m name

/-- Refuses parameters that exclude each other, and then the lack of ones that are needed. What is
excluded by another parameter is not needed. -/
def check (g : Grammar) (m : Matches) : Except Refusal Unit :=
  if g.exclusive.any fun pair => m.has pair.1 && m.has pair.2 then .error .argumentConflict
  else if g.required.all (g.isSatisfied m)
      && (g.needs.all fun pair => !m.has pair.1 || g.isSatisfied m pair.2)
      && (g.requiredUnless.all fun pair => m.has pair.1 || m.has pair.2) then .ok ()
  else .error .missingRequired

/-- The parameters in the words of a command without subcommands. -/
def read (g : Grammar) (words : List String) : Except Refusal Matches := do
  let (p, _) ← g.readWords {} words
  let p ← p.settle
  g.check p.done
  .ok p.done

end Grammar
end VirtHost.Cli
