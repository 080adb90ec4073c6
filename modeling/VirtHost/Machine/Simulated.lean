import VirtHost.Machine.Basic
import VirtHost.Machine.Shell
import VirtHost.Text.Numeral

/-! # A simulated machine

A machine in memory with files, a shell and a few tools. Its client of the secure shell answers every
command in the same way. A program that is started in the background has ended when it is asked for.

* `Simulated`: the state.
* `Simulated.machine`: the machine.
-/

namespace VirtHost.Machine
set_option autoImplicit false

structure Simulated where
  files : Files := {}
  /-- How the client of the secure shell ends, and what it prints. -/
  remote : Ending := ⟨some 0, [], []⟩
  /-- The last invocation of the client. -/
  sent : Option Invocation := none
  started : Nat := 0
  clock : Duration := ⟨0⟩
  uuids : Nat := 0

namespace Simulated

/-! ## Programs -/

/-- Whether a text of an invocation has a NUL, with which no program can be run. -/
def hasNul (i : Invocation) : Bool :=
  (i.program :: i.arguments).any fun s => s.toList.contains '\x00'

/-- How many shells may run in one another. -/
def shellDepth : Nat := 20

/-- The ending of what ran, if it was not too late. -/
def ending (s : Simulated) : Flow × World → Except FileError (Option Ending) × Simulated
  | (.late, w) => (.ok none, { s with files := w.files })
  | (.killed, w) => (.ok (some ⟨none, w.output, w.errors⟩), { s with files := w.files })
  | (_, w) =>
    (.ok (some ⟨some w.status, w.output, w.errors⟩), { s with files := w.files })

/-- Runs the shell. A shell that is killed has no return code. -/
def runShell (s : Simulated) (i : Invocation) (limit : Option Duration) :
    Except FileError (Option Ending) × Simulated :=
  let w : World := { files := s.files, input := i.input, limit := limit.map (·.millis) }
  let (text, w) := scriptOf i.arguments w
  match Script.read text with
  | .error e => s.ending (.onward, w.complain {} e.message 2)
  | .ok script =>
    if w.isLate 0 then (.ok none, s) else s.ending (script.run (shell shellDepth) {} w)

/-- Why there is no program with a name. -/
def missingProgram (s : Simulated) (name : String) : FileError :=
  if name.toList.contains '/' then
    match s.files.readBytes name with
    | .ok _ => .reported "Permission denied (os error 13)"
    | .error .isDirectory => .reported "Permission denied (os error 13)"
    | .error cause => cause
  else .missing

def run (s : Simulated) (i : Invocation) (limit : Option Duration) :
    Except FileError (Option Ending) × Simulated :=
  if hasNul i then (.error .nulInArgument, s)
  else
    let name := Tool.baseName i.program
    if name = "sh" then s.runShell i limit
    else if name = "ssh" then
      (.ok (if limit = some ⟨0⟩ then none else some s.remote), { s with sent := some i })
    else
      match Tool.named? name with
      | none => (.error (s.missingProgram i.program), s)
      | some tool =>
        let w : World := { files := s.files, limit := limit.map (·.millis) }
        s.ending (w.take {} (tool s.files i.input i.arguments))

def start (s : Simulated) (i : Invocation) : Except FileError Nat × Simulated :=
  match s.run i none with
  | (.error cause, next) => (.error cause, next)
  | (.ok _, next) => (.ok next.started, { next with started := next.started + 1 })

/-! ## The machine -/

def write (s : Simulated) (path content : String) : Except FileError Unit × Simulated :=
  match s.files.write path content with
  | .error cause => (.error cause, s)
  | .ok files => (.ok (), { s with files })

/-- How the simulated machine answers. -/
def machine : Machine Simulated := fun s request =>
  match request with
  | .run invocation limit => s.run invocation limit
  | .start invocation => s.start invocation
  | .isRunning _ => (.ok false, s)
  | .read path => (s.files.read path, s)
  | .write path content => s.write path content
  | .fileExists path => (s.files.fileExists path, s)
  | .sleep time => ((), { s with clock := ⟨s.clock.millis + time.millis⟩ })
  | .freshUuid => (uuidOf s.uuids, { s with uuids := s.uuids + 1 })

end Simulated
end VirtHost.Machine
