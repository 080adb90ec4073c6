import VirtHost.Machine.Script
import VirtHost.Machine.Tool

/-! # A shell

* `World`: what a script acts on.
* `World.fieldsOf`: words of a script with the values of variables in place of their names.
* `Script.run`: what a script does to the world, and how it goes on.
* `shell`: a shell with its arguments.
-/

namespace VirtHost.Machine
open Text.Utf8 (encode)
set_option autoImplicit false

/-! ## The world of a script -/

/-- What a script acts on. -/
structure World where
  files : Files
  input : List UInt8 := []
  output : List UInt8 := []
  errors : List UInt8 := []
  /-- What is on its way from one command of a pipeline to the next. -/
  pipe : List UInt8 := []
  bindings : List (String × String) := []
  /-- The name of the shell and its arguments. -/
  arguments : List String := ["sh"]
  status : Nat := 0
  /-- The milliseconds that have passed, and how many may pass. -/
  clock : Nat := 0
  limit : Option Nat := none

/-- How a script goes on. -/
inductive Flow
  | onward
  | exits
  | killed
  | late
  deriving DecidableEq

/-- Where something is printed. -/
inductive Sink
  | output
  | errors
  | pipe
  | file (path : String)
  | nowhere
  deriving DecidableEq

/-- Where a command prints its output and its complaints. -/
structure Sinks where
  out : Sink := .output
  err : Sink := .errors
  deriving DecidableEq

namespace World

def emit (w : World) (sink : Sink) (octets : List UInt8) : World :=
  match sink with
  | .output => { w with output := w.output ++ octets }
  | .errors => { w with errors := w.errors ++ octets }
  | .pipe => { w with pipe := w.pipe ++ octets }
  | .nowhere => w
  | .file path =>
    match w.files.readBytes path with
    | .error _ => w
    | .ok content =>
      match w.files.writeBytes path (content ++ octets) with
      | .error _ => w
      | .ok files => { w with files }

/-- Ends a command with a complaint of the shell. -/
def complain (w : World) (sinks : Sinks) (message : String) (status : Nat) : World :=
  { w.emit sinks.err (encode ("sh: 1: " ++ message ++ "\n")) with status }

/-- Whether no more time is left after some milliseconds. -/
def isLate (w : World) (time : Nat) : Bool :=
  match w.limit with
  | some limit => limit ≤ w.clock + time
  | none => false

/-- Lets a program take effect. -/
def take (w : World) (sinks : Sinks) (e : Effect) : Flow × World :=
  if w.isLate e.time then (.late, w)
  else
    let printed := (w.emit sinks.out e.output).emit sinks.err e.errors
    (.onward, { printed with
      status := e.code
      clock := w.clock + e.time
      input := if e.reads then [] else w.input })

/-! ## Words -/

def processNumber : String := "4711"

def valueOf (w : World) (name : String) : String :=
  if name = "$" then processNumber
  else if name = "?" then Text.decimal w.status
  else if name = "#" then Text.decimal (w.arguments.length - 1)
  else if name = "@" ∨ name = "*" then String.intercalate " " w.arguments.tail
  else
    match Text.readNumeral? 10 Text.limit32 name.toList with
    | some n => (w.arguments[n]?).getD ""
    | none => ((w.bindings.find? (·.1 = name)).map (·.2)).getD ""

/-- Fields that are complete, and the one that is being made. -/
abbrev Fields :=
  List (List Char) × Option (List Char)

def append (f : Fields) (s : List Char) : Fields :=
  (f.1, some (f.2.getD [] ++ s))

def appendSplit (f : Fields) (s : List Char) : Fields :=
  s.foldl (fun f c =>
    if c = ' ' ∨ c = '\t' ∨ c = '\n' then (f.1 ++ f.2.toList, none) else append f [c]) f

/-- The fields that a word stands for. -/
def fieldsOf (w : World) (word : Word) : List String :=
  let f : Fields := word.foldl (fun f piece =>
    match piece with
    | .text s => append f s
    | .parameter name true => append f (w.valueOf name).toList
    | .parameter name false => appendSplit f (w.valueOf name).toList) ([], none)
  (f.1 ++ f.2.toList).map String.ofList

def textOf (w : World) (word : Word) : String :=
  String.join (word.map fun
    | .text s => String.ofList s
    | .parameter name _ => w.valueOf name)

def assign (w : World) (assignments : List (String × Word)) : World :=
  assignments.foldl (fun w a =>
    { w with bindings := (a.1, w.textOf a.2) :: w.bindings.filter (·.1 ≠ a.1) }) w

/-! ## Redirections -/

/-- Opens a file for printing. -/
def create (w : World) (path : String) (append : Bool) : Except String (Sink × World) :=
  if path = nullPath then .ok (.nowhere, w)
  else
    let content := if append then ((w.files.readBytes path).toOption).getD [] else []
    match w.files.writeBytes path content with
    | .ok files => .ok (.file path, { w with files })
    | .error .isDirectory => .error ("cannot create " ++ path ++ ": Is a directory")
    | .error _ => .error ("cannot create " ++ path ++ ": Directory nonexistent")

def redirect (w : World) (sinks : Sinks) (r : Redirection) : Except String (Sinks × World) :=
  match r with
  | .input file =>
    let path := w.textOf file
    if path = nullPath then .ok (sinks, { w with input := [] })
    else
      match w.files.readBytes path with
      | .ok content => .ok (sinks, { w with input := content })
      | .error .isDirectory => .ok (sinks, { w with input := [] })
      | .error _ => .error ("cannot open " ++ path ++ ": No such file")
  | .output descriptor file append => do
    let (sink, w) ← w.create (w.textOf file) append
    .ok (if descriptor = 2 then { sinks with err := sink } else { sinks with out := sink }, w)
  | .same descriptor source =>
    let sink := if source = 2 then sinks.err else sinks.out
    .ok (if descriptor = 2 then { sinks with err := sink }
      else if descriptor = 1 then { sinks with out := sink } else sinks, w)

def redirectAll (w : World) (sinks : Sinks) :
    List Redirection → Except String (Sinks × World)
  | [] => .ok (sinks, w)
  | r :: rest => do
    let (sinks, w) ← w.redirect sinks r
    redirectAll w sinks rest

/-! ## Commands of the shell itself -/

/-- Whether a condition holds; none if it is no condition. -/
def test? (w : World) : List String → Option Bool
  | [] => some false
  | ["!", s] => some (s = "")
  | [s] => some (s ≠ "")
  | ["-e", path] => some (((w.files.fileExists path).toOption).getD false)
  | ["-f", path] => some (w.files.readBytes path).isOk
  | ["-d", path] => some (w.files.readBytes path matches .error .isDirectory)
  | ["-n", s] => some (s ≠ "")
  | ["-z", s] => some (s = "")
  | [a, op, b] =>
    let m := Tool.integerOf a
    let n := Tool.integerOf b
    match op with
    | "=" => some (a = b)
    | "!=" => some (a ≠ b)
    | "-eq" => some (m = n)
    | "-ne" => some (m ≠ n)
    | "-lt" => some (m < n)
    | "-le" => some (m ≤ n)
    | "-gt" => some (n < m)
    | "-ge" => some (n ≤ m)
    | _ => none
  | _ => none

/-- Ends with the outcome of a condition. -/
def runTest (w : World) (sinks : Sinks) (arguments : List String) : Flow × World :=
  match w.test? arguments with
  | some holds => (.onward, { w with status := if holds then 0 else 1 })
  | none => (.onward, w.complain sinks "test: unexpected operator" 2)

/-- Sends a signal to a process. Only the shell itself can be reached. -/
def runKill (w : World) (sinks : Sinks) (arguments : List String) : Flow × World :=
  if arguments.getLast? = some processNumber then
    if arguments.contains "-0" then (.onward, { w with status := 0 }) else (.killed, w)
  else (.onward, w.complain sinks "kill: No such process" 1)

def runExit (w : World) (sinks : Sinks) (arguments : List String) : Flow × World :=
  match arguments with
  | [] => (.exits, w)
  | code :: _ =>
    match Text.readNumeral? 10 Text.limit32 code.toList with
    | some n => (.exits, { w with status := n % 256 })
    | none => (.exits, w.complain sinks ("exit: Illegal number: " ++ code) 2)

/-! ## Programs -/

/-- Runs a program or a command of the shell. The first argument runs another shell. -/
def runProgram (nested : Sinks → List String → World → Flow × World) (sinks : Sinks) (name : String)
    (arguments : List String) (w : World) : Flow × World :=
  match name with
  | "exit" => w.runExit sinks arguments
  | "kill" => w.runKill sinks arguments
  | ":" => (.onward, { w with status := 0 })
  | "test" => w.runTest sinks arguments
  | "[" => w.runTest sinks arguments.dropLast
  | "echo" => w.take sinks (Tool.echo false true arguments)
  | "printf" => w.take sinks (Tool.printf true arguments)
  | "sh" => nested sinks arguments w
  | "/bin/sh" => nested sinks arguments w
  | name =>
    match Tool.named? (Tool.baseName name) with
    | some tool => w.take sinks (tool w.files w.input arguments)
    | none =>
      if name.toList.contains '/' ∧ ((w.files.fileExists name).toOption).getD false then
        (.onward, w.complain sinks (name ++ ": Permission denied") 126)
      else (.onward, w.complain sinks (name ++ ": not found") 127)

end World

/-! ## Scripts -/

namespace Script

/-- Runs something under redirections; a failed one ends it. The input stays as it was. -/
def under (w : World) (sinks : Sinks) (redirections : List Redirection)
    (body : Sinks → World → Flow × World) : Flow × World :=
  match w.redirectAll sinks redirections with
  | .error message => (.onward, w.complain sinks message 2)
  | .ok (inner, opened) =>
    let (flow, after) := body inner opened
    (flow, if redirections.any (fun | .input _ => true | _ => false) then
      { after with input := w.input } else after)

/-- Runs a script. The first argument runs another shell. -/
def run (nested : Sinks → List String → World → Flow × World) :
    Script → Sinks → World → Flow × World
  | nothing, _, w => (.onward, w)
  | simple assignments words redirections, sinks, w =>
    under w sinks redirections fun sinks w =>
      match words.flatMap w.fieldsOf with
      | [] => (.onward, { w.assign assignments with status := 0 })
      | "exec" :: name :: arguments =>
        match w.runProgram nested sinks name arguments with
        | (.onward, w) => (.exits, w)
        | outcome => outcome
      | name :: arguments => w.runProgram nested sinks name arguments
  | group body redirections, sinks, w =>
    under w sinks redirections fun sinks w => run nested body sinks w
  | subshell body redirections, sinks, w =>
    under w sinks redirections fun sinks inner =>
      match run nested body sinks inner with
      | (.exits, after) => (.onward, { after with bindings := w.bindings })
      | (flow, after) => (flow, { after with bindings := w.bindings })
  | pipe first second, sinks, w =>
    match run nested first { sinks with out := .pipe } { w with pipe := [] } with
    | (.killed, after) => (.killed, after)
    | (.late, after) => (.late, after)
    | (_, between) =>
      let started :=
        { between with pipe := w.pipe, input := between.pipe, bindings := w.bindings }
      match run nested second sinks started with
      | (.killed, after) => (.killed, after)
      | (.late, after) => (.late, after)
      | (_, after) => (.onward, { after with input := between.input, bindings := w.bindings })
  | both first second, sinks, w =>
    match run nested first sinks w with
    | (.onward, after) => if after.status = 0 then run nested second sinks after else (.onward, after)
    | outcome => outcome
  | either first second, sinks, w =>
    match run nested first sinks w with
    | (.onward, after) => if after.status = 0 then (.onward, after) else run nested second sinks after
    | outcome => outcome
  | negated body, sinks, w =>
    match run nested body sinks w with
    | (.onward, after) => (.onward, { after with status := if after.status = 0 then 1 else 0 })
    | outcome => outcome
  | sequence first second, sinks, w =>
    match run nested first sinks w with
    | (.onward, after) => run nested second sinks after
    | outcome => outcome

end Script

/-- What a shell runs: the text behind `-c`, with the arguments that follow it, or else its input. -/
def scriptOf (arguments : List String) (w : World) : String × World :=
  match arguments with
  | "-c" :: text :: [] => (text, w)
  | "-c" :: text :: arguments => (text, { w with arguments })
  | _ => (Text.Utf8.decodeLossy w.input, { w with input := [] })

/-- Runs a shell with its arguments. The first argument bounds the depth of shells in shells. -/
def shell : Nat → Sinks → List String → World → Flow × World
  | 0, sinks, _, w => (.onward, w.complain sinks "too many shells" 2)
  | depth + 1, sinks, arguments, w =>
    let (text, inner) := scriptOf arguments w
    match Script.read text with
    | .error e => (.onward, w.complain sinks e.message 2)
    | .ok script =>
      let back (after : World) : World :=
        { after with bindings := w.bindings, arguments := w.arguments }
      match script.run (shell depth) sinks { inner with bindings := [], status := 0 } with
      | (.late, after) => (.late, back after)
      | (.killed, after) => (.onward, { back after with status := 137 })
      | (_, after) => (.onward, back after)

end VirtHost.Machine
