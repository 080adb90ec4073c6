import VirtHost.Data.Document
import VirtHost.Machine.Files
import VirtHost.Text.Numeral

/-! # Tools

The programs of a simulated machine: what each prints and reads, its return code, and the time it
takes.

* `Effect`: what a program does.
* `Tool.echo`, `Tool.printf`, `Tool.cat`, `Tool.tr`, `Tool.sleep`, `Tool.argv`: the programs.
* `Tool.named?`: the program with a name.
-/

namespace VirtHost.Machine
open Text.Utf8 (encode)
set_option autoImplicit false

/-- What a program does. -/
structure Effect where
  output : List UInt8 := []
  errors : List UInt8 := []
  code : Nat := 0
  /-- Whether it reads its input to the end. -/
  reads : Bool := false
  time : Nat := 0
  deriving DecidableEq

/-- The path of what is always empty. -/
def nullPath : String := "/dev/null"

def Effect.complaint (message : String) (code : Nat := 1) : Effect where
  errors := encode (message ++ "\n")
  code

namespace Tool

/-! ## Escapes -/

/-- The character that a letter behind a backslash stands for. -/
def escapedLetter? (c : Char) : Option Char :=
  match c with
  | 'a' => some '\x07'
  | 'b' => some '\x08'
  | 'f' => some '\x0c'
  | 'n' => some '\n'
  | 'r' => some '\r'
  | 't' => some '\t'
  | 'v' => some '\x0b'
  | '\\' => some '\\'
  | _ => none

def isOctal (c : Char) : Bool :=
  '0' ≤ c && c ≤ '7'

def valueOf (base : Nat) (digits : List Char) : Nat :=
  digits.foldl (fun n c => n * base + (Text.digitValue? base c).getD 0) 0

/-- Which escapes are known besides the letters. -/
structure Escapes where
  /-- Whether an octal number needs no zero in front of it. -/
  bareOctal : Bool
  hexadecimal : Bool

/-- What an escape behind a backslash stands for, and what follows it. A `c` ends everything. -/
def Escapes.read (e : Escapes) (s : List Char) : Option (List UInt8) × List Char :=
  match s with
  | [] => (some (encode "\\"), [])
  | c :: rest =>
    match escapedLetter? c with
    | some d => (some (encode (String.singleton d)), rest)
    | none =>
      if c = 'c' then (none, [])
      else if e.bareOctal && isOctal c then
        let digits := (s.take 3).takeWhile isOctal
        (some [UInt8.ofNat (valueOf 8 digits)], s.drop digits.length)
      else if c = '0' then
        let digits := (rest.take 3).takeWhile isOctal
        (some [UInt8.ofNat (valueOf 8 digits)], rest.drop digits.length)
      else
        let digits := (rest.take 2).takeWhile fun d => (Text.digitValue? 16 d).isSome
        if e.hexadecimal && c = 'x' && digits ≠ [] then
          (some [UInt8.ofNat (valueOf 16 digits)], rest.drop digits.length)
        else if e.bareOctal && c = '"' then (some (encode "\""), rest)
        else (some (encode (String.ofList ['\\', c])), rest)

/-- The octets of a text with escapes, and whether it ended early. The first argument bounds the number
of steps. -/
def Escapes.expand (e : Escapes) : Nat → List Char → List UInt8 × Bool
  | 0, _ => ([], false)
  | _ + 1, [] => ([], false)
  | fuel + 1, '\\' :: rest =>
    match e.read rest with
    | (none, _) => ([], true)
    | (some octets, after) =>
      let p := e.expand fuel after
      (octets ++ p.1, p.2)
  | fuel + 1, c :: rest =>
    let p := e.expand fuel rest
    (encode (String.singleton c) ++ p.1, p.2)

/-! ## Printing -/

/-- Prints its arguments with blanks between them. A leading `-n` leaves out the line break; `-e` and
`-E` say whether there are escapes, where these options are known. -/
def echo (options escapes : Bool) : List String → Effect
  | args =>
    let isOption (s : String) : Bool :=
      match s.toList with
      | '-' :: letters =>
        letters ≠ [] && letters.all fun c => c = 'n' || (options && (c = 'e' || c = 'E'))
      | _ => false
    let given := if options then args.takeWhile isOption else (args.take 1).filter (· = "-n")
    let letters := given.flatMap fun s => s.toList.drop 1
    let texts := args.drop given.length
    let line := String.intercalate " " texts
    let isEscaped : Bool :=
      ((letters.filter (· != 'n')).getLast?.map (· == 'e')).getD escapes
    let (octets, isCut) :=
      if isEscaped then
        ({ bareOctal := false, hexadecimal := options } : Escapes).expand (line.length + 1)
          line.toList
      else (encode line, false)
    { output := octets ++ if isCut || letters.contains 'n' then [] else encode "\n" }

/-- Pads a text to a width. -/
def pad (left zero : Bool) (width : Nat) (s : List UInt8) : List UInt8 :=
  if left then s ++ List.replicate (width - s.length) 0x20
  else List.replicate (width - s.length) (if zero then 0x30 else 0x20) ++ s

def integerOf (s : String) : Int :=
  match s.toList with
  | '-' :: digits => -Int.ofNat (valueOf 10 (digits.takeWhile Char.isDigit))
  | '+' :: digits => Int.ofNat (valueOf 10 (digits.takeWhile Char.isDigit))
  | digits => Int.ofNat (valueOf 10 (digits.takeWhile Char.isDigit))

/-- The octets of an argument under the letter of a directive, and whether they end everything. -/
def directive? (e : Escapes) (letter : Char) (argument : String) : Option (List UInt8 × Bool) :=
  let base (n : Nat) : List UInt8 :=
    encode (String.ofList (Text.digitsOf n (integerOf argument).toNat))
  if letter = 's' then some (encode argument, false)
  else if letter = 'b' then
    some (e.expand (argument.length + 1) argument.toList)
  else if letter = 'c' then some (encode (String.ofList (argument.toList.take 1)), false)
  else if letter = 'd' ∨ letter = 'i' ∨ letter = 'u' then
    some (encode (Text.signedDecimal (integerOf argument)), false)
  else if letter = 'x' then some (base 16, false)
  else if letter = 'o' then some (base 8, false)
  else none

/-- What was printed by one use of a format, and what is left to do. -/
structure Printed where
  octets : List UInt8 := []
  arguments : List String
  /-- Whether an argument was used. -/
  used : Bool := false
  /-- Whether nothing more is printed. -/
  isCut : Bool := false

/-- Prints arguments by a format once. The first argument bounds the number of steps. -/
def printOnce (e : Escapes) : Nat → List Char → Printed → Printed
  | 0, _, p => p
  | _ + 1, [], p => p
  | fuel + 1, '\\' :: rest, p =>
    match e.read rest with
    | (none, _) => { p with isCut := true }
    | (some octets, after) => printOnce e fuel after { p with octets := p.octets ++ octets }
  | fuel + 1, '%' :: '%' :: rest, p =>
    printOnce e fuel rest { p with octets := p.octets ++ encode "%" }
  | fuel + 1, '%' :: rest, p =>
    let flags := rest.takeWhile fun c => c = '-' || c = '0'
    let afterFlags := rest.drop flags.length
    let digits := afterFlags.takeWhile Char.isDigit
    match afterFlags.drop digits.length with
    | [] => { p with isCut := true }
    | letter :: after =>
      match directive? e letter (p.arguments.headD "") with
      | none => { p with isCut := true }
      | some (octets, isCut) =>
        let padded := pad (flags.contains '-') (flags.contains '0') (valueOf 10 digits) octets
        let next := { p with
          octets := p.octets ++ padded
          arguments := p.arguments.tail
          used := true
          isCut }
        if isCut then next else printOnce e fuel after next
  | fuel + 1, c :: rest, p =>
    printOnce e fuel rest { p with octets := p.octets ++ encode (String.singleton c) }

/-- Prints arguments by a format until there are none left. The first argument bounds the number of
uses. -/
def printAll (e : Escapes) (format : List Char) : Nat → List String → List UInt8
  | 0, _ => []
  | uses + 1, arguments =>
    let p := printOnce e (format.length + 1) format { arguments }
    p.octets
      ++ if p.isCut || !p.used || p.arguments = [] then [] else printAll e format uses p.arguments

/-- Prints its arguments by a format. The command of a shell knows no hexadecimal escapes. -/
def printf (inShell : Bool) : List String → Effect
  | [] =>
    if inShell then .complaint "sh: 1: printf: usage: printf format [arg ...]" 2
    else .complaint "printf: missing operand\nTry 'printf --help' for more information."
  | format :: arguments =>
    { output := printAll { bareOctal := true, hexadecimal := !inShell } format.toList
        (arguments.length + 1) arguments }

/-- Prints its arguments as a list on one line. -/
def argv (arguments : List String) : Effect where
  output := encode ((Data.Document.list (arguments.map .text)).line ++ "\n")

/-! ## Reading -/

/-- Prints files one after the other. A dash stands for the input. -/
def cat (files : Files) (input : List UInt8) (arguments : List String) : Effect :=
  let arguments := if arguments = [] then ["-"] else arguments
  arguments.foldl (fun e name =>
    if name = "-" then { e with output := e.output ++ input, reads := true }
    else if name = nullPath then e
    else
      match files.readBytes name with
      | .ok content => { e with output := e.output ++ content }
      | .error cause =>
        let why := match cause with
          | .isDirectory => "Is a directory"
          | .notDirectory => "Not a directory"
          | _ => "No such file or directory"
        { e with errors := e.errors ++ encode ("cat: " ++ name ++ ": " ++ why ++ "\n"), code := 1 }) {}

def classOctets? (name : List Char) : Option (List UInt8) :=
  let among (p : Char → Bool) : List UInt8 :=
    (List.range 128).filterMap fun n => if p (Char.ofNat n) then some (UInt8.ofNat n) else none
  match String.ofList name with
  | "lower" => some (among Char.isLower)
  | "upper" => some (among Char.isUpper)
  | "digit" => some (among Char.isDigit)
  | "alpha" => some (among Char.isAlpha)
  | "alnum" => some (among Char.isAlphanum)
  | "space" => some [0x09, 0x0a, 0x0b, 0x0c, 0x0d, 0x20]
  | "blank" => some [0x09, 0x20]
  | _ => none

/-- The octets between two, both of them included. -/
def octetsBetween (first last : UInt8) : List UInt8 :=
  (List.range (last.toNat + 1 - first.toNat)).map fun n => UInt8.ofNat (first.toNat + n)

/-- The octets of a set with ranges, classes and escapes. The first argument bounds the number of
steps. -/
def octetSet : Nat → List Char → List UInt8
  | 0, _ => []
  | _ + 1, [] => []
  | fuel + 1, '[' :: ':' :: rest =>
    match Text.splitOnce ':' rest with
    | some (name, ']' :: after) =>
      match classOctets? name with
      | some octets => octets ++ octetSet fuel after
      | none => octetSet fuel after
    | _ => encode "[:" ++ octetSet fuel rest
  | fuel + 1, '\\' :: rest =>
    match ({ bareOctal := true, hexadecimal := false } : Escapes).read rest with
    | (none, _) => []
    | (some octets, after) => octets ++ octetSet fuel after
  | fuel + 1, first :: '-' :: last :: rest =>
    if first.toNat < 128 ∧ last.toNat < 128 then
      octetsBetween (UInt8.ofNat first.toNat) (UInt8.ofNat last.toNat) ++ octetSet fuel rest
    else encode (String.ofList [first, '-', last]) ++ octetSet fuel rest
  | fuel + 1, c :: rest => encode (String.singleton c) ++ octetSet fuel rest

def setOf (s : String) : List UInt8 :=
  octetSet (s.length + 1) s.toList

/-- Puts octets of one set in place of those of another, the last one where the set is too short. -/
def substitute (set1 set2 : List UInt8) (input : List UInt8) : List UInt8 :=
  input.map fun b =>
    match set1.findIdx? (· = b) with
    | some i => (set2[i]?).getD (set2.getLastD b)
    | none => b

/-- The octets without repetitions of those of a set. -/
def squeeze (set : List UInt8) : List UInt8 → List UInt8
  | a :: b :: rest =>
    if a = b ∧ a ∈ set then squeeze set (b :: rest) else a :: squeeze set (b :: rest)
  | s => s

/-- Replaces, deletes or squeezes octets of its input. -/
def tr (input : List UInt8) : List String → Effect
  | ["-d", set] => { output := input.filter fun b => !(setOf set).contains b, reads := true }
  | ["-s", set] => { output := squeeze (setOf set) input, reads := true }
  | [set1, set2] => { output := substitute (setOf set1) (setOf set2) input, reads := true }
  | [] => .complaint "tr: missing operand\nTry 'tr --help' for more information."
  | args => .complaint ("tr: missing operand after '" ++ args.headD ""
    ++ "'\nTry 'tr --help' for more information.")

/-! ## Waiting -/

/-- The milliseconds that an argument denotes: a decimal number, perhaps with the letter of a unit. -/
def millisOf? (s : String) : Option Nat :=
  let whole := s.toList.takeWhile Char.isDigit
  let behind := s.toList.drop whole.length
  let places := match behind with
    | '.' :: rest => rest.takeWhile Char.isDigit
    | _ => []
  let unit := match behind with
    | '.' :: rest => rest.drop places.length
    | rest => rest
  let millis := valueOf 10 whole * 1000 + valueOf 10 ((places ++ ['0', '0', '0']).take 3)
  if whole = [] ∧ places = [] then none
  else
    match unit with
    | [] => some millis
    | ['s'] => some millis
    | ['m'] => some (millis * 60)
    | ['h'] => some (millis * 3600)
    | ['d'] => some (millis * 86400)
    | _ => none

/-- Lets as much time pass as its arguments say together. -/
def sleep (arguments : List String) : Effect :=
  match arguments, arguments.mapM millisOf? with
  | [], _ => .complaint "sleep: missing operand\nTry 'sleep --help' for more information."
  | _, some times => { time := times.foldr (· + ·) 0 }
  | _, none =>
    .complaint ("sleep: invalid time interval '"
      ++ ((arguments.find? fun s => (millisOf? s).isNone).getD "")
      ++ "'\nTry 'sleep --help' for more information.")

/-! ## Names -/

/-- The name of a program without the directory in which the system keeps it. -/
def baseName (program : String) : String :=
  ((["/usr/bin/", "/bin/"].findSome? fun d => Text.dropHead? d.toList program.toList).map
    String.ofList).getD program

/-- The program with a name. -/
def named? (name : String) : Option (Files → List UInt8 → List String → Effect) :=
  match name with
  | "argv" => some fun _ _ => argv
  | "echo" => some fun _ _ => echo true false
  | "printf" => some fun _ _ => printf false
  | "cat" => some cat
  | "tr" => some fun _ => tr
  | "sleep" => some fun _ _ => sleep
  | "true" => some fun _ _ _ => {}
  | "false" => some fun _ _ _ => { code := 1 }
  | _ => none

end Tool
end VirtHost.Machine
