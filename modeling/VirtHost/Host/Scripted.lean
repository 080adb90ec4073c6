import VirtHost.Host.Program
import VirtHost.Machine.Files
import VirtHost.Text.Numeral
import VirtHost.Text.Scan

/-! # A scripted host

A host that answers commands from rules. A rule answers the commands that begin with its text. Rules
for one use come first, in the order in which they were added, and are used up; then come the lasting
rules. Any other command succeeds without output.

* `Scripted.runCommand`: the completion of a command, and the host without the rule it used up.
* `Scripted.answer`: the host as a `Host`.

Files are kept by their path. A process that is started takes the next entry of a queue and reports
that it is running as often as the entry says. The clock moves only when time is slept.
-/

namespace VirtHost.Host
set_option autoImplicit false

/-- How the commands that begin with a text are answered. -/
structure Rule where
  head : String
  code : Int := 0
  stdout : String := ""
  stderr : String := ""
  /-- Whether the rule answers one command only. -/
  once : Bool := false
  deriving DecidableEq

namespace Rule

/-- Whether the rule answers a command. -/
def matchesCommand (r : Rule) (command : String) : Bool :=
  Text.startsWith command r.head

def completion (r : Rule) (command : String) : Completion :=
  ⟨command, r.code, r.stdout, r.stderr⟩

end Rule

structure Call where
  command : String
  options : Options
  deriving DecidableEq

/-- The state of a scripted host. -/
structure Scripted where
  rules : List Rule := []
  /-- The commands so far, in order. -/
  calls : List Call := []
  /-- The files of the host by their path. -/
  files : List (String × String) := []
  /-- How often each process that is started next reports that it is running. -/
  queue : List Nat := []
  /-- How often each started process will still report that it is running. -/
  processes : List Nat := []
  /-- The time slept so far. -/
  clock : Duration := ⟨0⟩
  uuids : Nat := 0
  /-- The files of the machine on which the program runs. -/
  localFiles : Machine.Files := {}

namespace Scripted

/-! ## Rules -/

/-- The completion of a command, and the rules that remain. -/
def replyFrom (rules : List Rule) (command : String) : Completion × List Rule :=
  match rules.find? fun r => r.once && r.matchesCommand command with
  | some r => (r.completion command,
      rules.eraseP fun r => r.once && r.matchesCommand command)
  | none =>
    match rules.find? fun r => !r.once && r.matchesCommand command with
    | some r => (r.completion command, rules)
    | none => (⟨command, 0, "", ""⟩, rules)

def runCommand (s : Scripted) (command : String) (options : Options) : Completion × Scripted :=
  let (completion, rules) := replyFrom s.rules command
  (completion, { s with rules, calls := s.calls ++ [⟨command, options⟩] })

/-! ## Processes -/

/-- A process is noted and started; the queue gives the number of its checks. -/
def startProcess (s : Scripted) (command : String) (shell : Bool) : Nat × Scripted :=
  (s.processes.length,
    { s with
      calls := s.calls ++ [⟨command, { shell }⟩]
      queue := s.queue.tail
      processes := s.processes ++ [s.queue.headD 0] })

/-- Whether a process is running, and the host with one check of it less to come. -/
def checkProcess (s : Scripted) (process : Nat) : Bool × Scripted :=
  match s.processes[process]? with
  | some (checks + 1) => (true, { s with processes := s.processes.set process checks })
  | _ => (false, s)

/-! ## Files -/

def file? (s : Scripted) (path : String) : Option String :=
  (s.files.find? (·.1 = path)).map (·.2)

def addFile (s : Scripted) (path content : String) : Scripted :=
  { s with files := (path, content) :: s.files.filter (·.1 ≠ path) }

/-! ## The host -/

/-- How the scripted host answers. -/
def answer : Host Scripted := fun s request =>
  match request with
  | .execute command options =>
    let (completion, next) := s.runCommand command options
    (.ok completion, next)
  | .start command shell =>
    let (process, next) := s.startProcess command shell
    (.ok process, next)
  | .isRunning process =>
    let (running, next) := s.checkProcess process
    (.ok running, next)
  | .read path => ((s.file? path).elim (.error (.fileNotFound path)) .ok, s)
  | .write path content => (.ok (), s.addFile path content)
  | .fileExists path => (.ok (s.file? path).isSome, s)
  | .sleep time => ((), { s with clock := ⟨s.clock.millis + time.millis⟩ })
  | .freshUuid => (uuidOf s.uuids, { s with uuids := s.uuids + 1 })
  | .readLocal path => (s.localFiles.read path, s)

end Scripted
end VirtHost.Host
