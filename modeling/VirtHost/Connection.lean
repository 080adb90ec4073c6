import VirtHost.Host.Program
import VirtHost.Machine.Basic
import VirtHost.Shell.Quoting
import VirtHost.Shell.Words
import VirtHost.Text.Utf8

/-! # Connections

A host is reached directly, or through the client of the secure shell. Either way a connection makes a
host of the machine on which the program runs.

* `directInvocation`: the program that a command names, or a shell that runs it.
* `Remote.invocation`: the client of the secure shell with a command for the remote host. The shell of
  the remote host reads the command in any case.
* `Service`: an answer that is already known, or one request to the machine and what its reply means.
* `Connection.serve`: how a request to the host is served. Files of a remote host are reached by
  commands.
* `Connection.host`: the host.
-/

namespace VirtHost
open Machine (Invocation Ending)
set_option autoImplicit false

/-- How a host is reached through the client of the secure shell. -/
structure Remote where
  host : String
  user : Option String := none
  port : UInt16 := 22
  /-- Options of the client beyond those that it always gets. -/
  options : List String := []
  deriving DecidableEq

inductive Connection
  /-- It is the machine on which the program runs. -/
  | direct
  | ssh (remote : Remote)
  deriving DecidableEq

/-! ## Commands -/

/-- What is run for a command on this machine. -/
def directInvocation (command : String) (shell : Bool) : Except Error Invocation :=
  if shell then .ok ⟨"sh", ["-c", command], []⟩
  else
    match Shell.words? command with
    | none => .error (.parse ("Cannot split command: " ++ command))
    | some [] => .error (.parse "Empty command")
    | some (program :: arguments) => .ok ⟨program, arguments, []⟩

namespace Remote

def target (r : Remote) : String :=
  match r.user with
  | some user => user ++ "@" ++ r.host
  | none => r.host

/-- What is run for a command on the remote host. The client never asks for a password. -/
def invocation (r : Remote) (command : String) (input : List UInt8 := []) : Invocation where
  program := "ssh"
  arguments :=
    ("BatchMode=yes" :: r.options).flatMap (fun option => ["-o", option])
      ++ ["-p", Text.decimal r.port.toNat, r.target, "--", command]
  input

def quotedPath (path : String) : Except Error String :=
  match Shell.quoted? path with
  | some word => .ok word
  | none => .error (.parse ("Cannot quote path: " ++ path))

end Remote

/-! ## Services -/

/-- An answer that is already known, or one request to the machine and what its reply means. -/
inductive Service (α : Type)
  | settled (answer : α)
  | ask (request : Machine.Request) (answer : request.Reply → α)

namespace Service

/-- The answer on a machine in one of its states, and the state that follows. -/
def on {α σ : Type} (m : Machine σ) (s : σ) : Service α → α × σ
  | settled answer => (answer, s)
  | ask request answer => ((answer (m s request).1), (m s request).2)

def map {α β : Type} (f : α → β) : Service α → Service β
  | settled answer => settled (f answer)
  | ask request answer => ask request fun reply => f (answer reply)

/-- The completion of a command whose program ended. A program that was killed has the code -1. -/
def completion (command : String) (e : Ending) : Host.Completion :=
  ⟨command, e.code.getD (-1), Text.Utf8.decodeLossy e.stdout, Text.Utf8.decodeLossy e.stderr⟩

def run (command : String) (limit : Option Duration) :
    Except Error Invocation → Service (Except Error Host.Completion)
  | .error e => settled (.error e)
  | .ok invocation => ask (.run invocation limit) fun
    | .error cause => .error (.file cause)
    | .ok none => .error (.timeout command (limit.getD ⟨0⟩))
    | .ok (some ending) => .ok (completion command ending)

def start : Except Error Invocation → Service (Except Error Nat)
  | .error e => settled (.error e)
  | .ok invocation => ask (.start invocation) fun reply => reply.mapError .file

end Service

/-! ## This machine -/

namespace Connection

/-- How the machine itself serves as a host. -/
def serveDirect : (request : Host.Request) → Service request.Reply
  | .execute command options =>
    .run command options.timeout (directInvocation command options.shell)
  | .start command shell => .start (directInvocation command shell)
  | .isRunning process => .ask (.isRunning process) fun reply => reply.mapError .file
  | .read path => .ask (.read path) fun reply => reply.mapError .file
  | .write path content => .ask (.write path content) fun reply => reply.mapError .file
  | .fileExists path => .ask (.fileExists path) fun reply => reply.mapError .file
  | .sleep time => .ask (.sleep time) id
  | .freshUuid => .ask .freshUuid id
  | .readLocal path => .ask (.read path) id

/-! ## Other hosts -/

/-- Runs a command that ends with a path on a remote host. -/
def runOnPath (r : Remote) (command path : String) (input : List UInt8) :
    Service (Except Error Host.Completion) :=
  match Remote.quotedPath path with
  | .error e => .settled (.error e)
  | .ok word => .run (command ++ word) none (.ok (r.invocation (command ++ word) input))

/-- How a remote host is served. -/
def serveRemote (r : Remote) : (request : Host.Request) → Service request.Reply
  | .execute command options => .run command options.timeout (.ok (r.invocation command))
  | .start command _ => .start (.ok (r.invocation command))
  | .isRunning process => .ask (.isRunning process) fun reply => reply.mapError .file
  | .read path =>
    (runOnPath r "cat " path []).map fun reply => (reply.bind fun c => c.check {}).map (·.stdout)
  | .write path content =>
    (runOnPath r "cat > " path (Text.Utf8.encode content)).map fun reply =>
      (reply.bind fun c => c.check {}).map fun _ => ()
  | .fileExists path =>
    (runOnPath r "test -e " path []).map fun reply => reply.map fun c => c.code == 0
  | .sleep time => .ask (.sleep time) id
  | .freshUuid => .ask .freshUuid id
  | .readLocal path => .ask (.read path) id

/-! ## Any host -/

/-- How the host behind a connection is served. -/
def serve : Connection → (request : Host.Request) → Service request.Reply
  | .direct => serveDirect
  | .ssh r => serveRemote r

def host {σ : Type} (m : Machine σ) (c : Connection) : Host σ := fun s request =>
  (c.serve request).on m s

end Connection
end VirtHost
