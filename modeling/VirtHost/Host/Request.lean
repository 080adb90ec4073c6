import VirtHost.Error

/-! # Requests to a host

Everything that is done on a host is one of a few requests, each with a reply of its own type.

* `Options`: how a command is run, and which return codes count as success.
* `Completion`: what a finished command leaves behind; `Completion.check` turns an unexpected return
  code into an error.
* `Request`, `Request.Reply`: what is asked for, and the type of the answer.
-/

namespace VirtHost.Host
set_option autoImplicit false

/-! ## Commands -/

/-- How a command is run. -/
structure Options where
  /-- Whether a shell runs the command, so that redirections and pipes work. -/
  shell : Bool := false
  /-- The return codes that count as success; without them every code does. -/
  expected : Option (List Int) := some [0]
  /-- The time after which the command is given up. -/
  timeout : Option Duration := none
  deriving DecidableEq

namespace Options

def inShell (o : Options) : Options :=
  { o with shell := true }

def anyCode (o : Options) : Options :=
  { o with expected := none }

def expecting (o : Options) (codes : List Int) : Options :=
  { o with expected := some codes }

def within (o : Options) (limit : Duration) : Options :=
  { o with timeout := some limit }

def accepts (o : Options) (code : Int) : Bool :=
  match o.expected with
  | none => true
  | some codes => codes.contains code

end Options

structure Completion where
  command : String
  code : Int
  stdout : String
  stderr : String
  deriving DecidableEq

namespace Completion

def failure (c : Completion) : Error :=
  .execution c.command c.code c.stdout c.stderr

/-- A return code that does not count as success is an error. -/
def check (c : Completion) (options : Options) : Except Error Completion :=
  if options.accepts c.code then .ok c else .error c.failure

end Completion

/-! ## Requests -/

/-- What a host can be asked for. -/
inductive Request
  /-- Runs a command to its end. -/
  | execute (command : String) (options : Options)
  /-- Starts a command in the background. -/
  | start (command : String) (shell : Bool)
  /-- Asks whether a process that was started is still running. -/
  | isRunning (process : Nat)
  | read (path : String)
  | write (path content : String)
  | fileExists (path : String)
  | sleep (time : Duration)
  /-- Asks for a UUID that was never given out before. -/
  | freshUuid
  /-- Reads a file of the machine on which this program runs. -/
  | readLocal (path : String)
  deriving DecidableEq

/-- The type of the answer to a request. A completion is answered whatever its return code is. -/
abbrev Request.Reply : Request → Type
  | .execute _ _ => Except Error Completion
  | .start _ _ => Except Error Nat
  | .isRunning _ => Except Error Bool
  | .read _ => Except Error String
  | .write _ _ => Except Error Unit
  | .fileExists _ => Except Error Bool
  | .sleep _ => Unit
  | .freshUuid => String
  | .readLocal _ => Except FileError String

end VirtHost.Host

namespace VirtHost

/-- A host: how it answers each request in each of its states, and the state that follows. -/
abbrev Host (σ : Type) :=
  σ → (request : Host.Request) → request.Reply × σ

/-- A host that also keeps the requests it was asked, last one first. -/
def Host.recording {σ : Type} (host : Host σ) : Host (σ × List Host.Request) :=
  fun state request =>
    let (reply, next) := host state.1 request
    (reply, next, request :: state.2)

end VirtHost
