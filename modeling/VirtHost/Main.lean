import VirtHost.Cli.Config
import VirtHost.Cli.Run
import VirtHost.Connection
import VirtHost.Text.Numeral

/-! # The program

Carries out a command line. Files are those of this machine. Programs are run by a relay: a line on the
standard output that begins with a question mark asks for one, and a line on the standard input tells
how it ended. What the command has to say follows when it is done.

* `Relay`: the lines of the relay.
* `carryOut`: a program over a host, request by request.
* `main`: the command line.
-/

namespace VirtHost
open Data (Document Shape)
set_option autoImplicit false

namespace Relay

/-! ## Lines -/

/-- What a line of the relay may say about a program. -/
structure Report where
  code : Option Int := none
  stdout : String := ""
  stderr : String := ""
  /-- Whether the time was over. -/
  late : Bool := false
  /-- Whether there is no such program. -/
  missing : Bool := false

def reportShape : Shape Report where
  base := {}
  fields :=
    [.of "code" (Data.Value.optional? Data.returnCode?) fun v r => { r with code := v },
     Data.textField "stdout" fun v r => { r with stdout := v },
     Data.textField "stderr" fun v r => { r with stderr := v },
     .of "late" Data.Value.flag? fun v r => { r with late := v },
     .of "missing" Data.Value.flag? fun v r => { r with missing := v }]

/-- What a report says. -/
def Report.result (r : Report) : Except FileError (Option Machine.Ending) :=
  if r.missing then .error .missing
  else if r.late then .ok none
  else .ok (some ⟨r.code, Text.Utf8.encode r.stdout, Text.Utf8.encode r.stderr⟩)

/-- The request to run a program. -/
def requestLine (verb : String) (i : Machine.Invocation) (limit : Option Duration) : String :=
  (Document.record
    ([(verb, .list ((i.program :: i.arguments).map .text)),
      ("input", .text (Text.Utf8.decodeLossy i.input))]
    ++ (limit.map fun d => ("limit_ms", Document.text (Text.decimal d.millis))).toList)).line

/-! ## Exchange -/

/-- Sends a request and waits for the report on it. -/
def exchange (request : String) : IO Report := do
  let output ← IO.getStdout
  output.putStrLn ("? " ++ request)
  output.flush
  let line ← (← IO.getStdin).getLine
  match (Yaml.read? line).bind reportShape.read? with
  | some report => pure report
  | none => throw (IO.userError "no report")

/-- The cause of a failed access to a file. -/
def fileError : IO.Error → FileError
  | .noFileOrDirectory .. => .missing
  | e => .reported (toString e)

/-- An access to a file. -/
def access {α : Type} (action : IO α) : IO (Except FileError α) := do
  match ← action.toBaseIO with
  | .ok a => pure (.ok a)
  | .error e => pure (.error (fileError e))

def readText (path : String) : IO (Except FileError String) := do
  let content ← access (IO.FS.readBinFile path)
  pure (content.bind fun octets =>
    match Text.Utf8.decodeStrict octets.toList with
    | some text => .ok text
    | none => .error .notText)

/-- How this machine answers with the help of the relay. -/
def answer : (request : Machine.Request) → IO request.Reply
  | .run invocation limit => do
    let report ← exchange (requestLine "run" invocation limit)
    pure report.result
  | .start invocation => do
    let report ← exchange (requestLine "start" invocation none)
    pure (report.result.map fun e => ((e.bind (·.code)).getD 0).toNat)
  | .isRunning process => do
    let report ← exchange (Document.record [("is_running", .text (Text.decimal process))]).line
    pure (report.result.map fun e => ((e.bind (·.code)).getD 0) != 0)
  | .read path => readText path
  | .write path content => access (IO.FS.writeFile path content)
  | .fileExists path => do
    let content ← access (IO.FS.readBinFile path)
    pure (.ok (match content with
      | .error .missing => false
      | _ => true))
  | .sleep time => IO.sleep (UInt32.ofNat (min time.millis Text.limit32))
  | .freshUuid => do
    let n ← IO.rand 0 (Nat.pow 16 15 - 1)
    pure (uuidOf n)

end Relay

/-- Carries out a program, request by request. -/
partial def carryOut {α : Type} (c : Connection) : Program α → IO α
  | .done result => pure result
  | .ask request next =>
    match c.serve request with
    | .settled reply => carryOut c (next reply)
    | .ask question reply => do
      let given ← Relay.answer question
      carryOut c (next (reply given))
  | .again body next => do
    match ← carryOut c body with
    | some result => carryOut c (next result)
    | none => carryOut c (.again body next)

def standardPath : String := "/etc/virthost/virthost.yaml"

/-- Tells why something failed, from the outermost message to the cause. -/
def complain (messages : List String) : IO UInt32 := do
  let output ← IO.getStderr
  for message in messages do
    output.putStrLn message
  pure 1

/-- Carries out a command that has been read. -/
def runInvocation (i : Cli.Invocation) : IO UInt32 := do
  match ← carryOut .direct (Cli.Config.resolve standardPath i.globals) with
  | .error e => complain (e.message :: (e.cause?.map Error.message).toList)
  | .ok config =>
    let h := Hypervisor.ofSettings config.settings
    match ← carryOut config.connection (Cli.run h i.command).run with
    | .error (.operation _ (.outOfMemory entries)) => do
      let _ ← complain [(Error.outOfMemory entries).message]
      pure 101
    | .error failure => complain failure.chain
    | .ok result => do
      (← IO.getStdout).putStr (Cli.output i.globals.json result)
      pure 0

end VirtHost

/-- The command line. A command line that cannot be read has the return code 2. -/
def main (arguments : List String) : IO UInt32 := do
  let environment ← IO.getEnv "VIRTHOST_CONFIG"
  match VirtHost.Cli.Invocation.read environment arguments with
  | .error .help => pure 0
  | .error .version => pure 0
  | .error _ => pure 2
  | .ok i => VirtHost.runInvocation i
