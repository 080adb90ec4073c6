import VirtHost.Duration
import VirtHost.Error

/-! # Machines

A machine runs programs and keeps files. Everything that is asked of it is one of a few requests, each
with a reply of its own type.

* `Invocation`: a program, its arguments and what it reads.
* `Ending`: how a program ended and what it printed.
* `Request`, `Request.Reply`: what is asked for, and the type of the answer.
* `Machine`: how a machine answers in each of its states.
-/

namespace VirtHost.Machine
set_option autoImplicit false

/-- A program with its arguments and what it reads. -/
structure Invocation where
  program : String
  arguments : List String
  input : List UInt8 := []
  deriving DecidableEq

/-- How a program ended and what it printed. One that was killed has no return code. -/
structure Ending where
  code : Option Int
  stdout : List UInt8
  stderr : List UInt8
  deriving DecidableEq

/-- What a machine can be asked for. -/
inductive Request
  /-- Runs a program to its end, unless that takes too long. -/
  | run (invocation : Invocation) (limit : Option Duration)
  /-- Starts a program in the background; what it prints is lost. -/
  | start (invocation : Invocation)
  | isRunning (process : Nat)
  | read (path : String)
  | write (path content : String)
  | fileExists (path : String)
  | sleep (time : Duration)
  /-- Asks for a UUID that was never given out before. -/
  | freshUuid
  deriving DecidableEq

/-- The type of the answer to a request. There is no ending if the time is over. -/
abbrev Request.Reply : Request → Type
  | .run _ _ => Except FileError (Option Ending)
  | .start _ => Except FileError Nat
  | .isRunning _ => Except FileError Bool
  | .read _ => Except FileError String
  | .write _ _ => Except FileError Unit
  | .fileExists _ => Except FileError Bool
  | .sleep _ => Unit
  | .freshUuid => String

end VirtHost.Machine

namespace VirtHost

/-- A machine: how it answers each request in each of its states, and the state that follows. -/
abbrev Machine (σ : Type) :=
  σ → (request : Machine.Request) → request.Reply × σ

end VirtHost
