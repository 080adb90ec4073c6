import VirtHost.Host.Request

/-! # Programs over a host

A program is a tree: it is done, or it asks one request and goes on with the reply, or it repeats a
program until that gives a result. What it does on every possible host can be read off the tree.

* `Program.bind`, `Program.bind_assoc`: one program after another.
* `Program.run`: the result of a program on a host, and the state in which it leaves the host. A
  repetition that gives no result within a number of rounds leaves the run without a result.
* `Action`: a program that may fail.
-/

namespace VirtHost
set_option autoImplicit false

/-- A program over a host with a result of type `α`. -/
inductive Program : Type → Type 1
  | done {α : Type} (result : α) : Program α
  | ask {α : Type} (request : Host.Request) (next : request.Reply → Program α) : Program α
  | again {α β : Type} (body : Program (Option β)) (next : β → Program α) : Program α

namespace Program

/-! ## Sequence -/

/-- A program followed by another one that depends on its result. -/
def bind {α β : Type} : Program α → (α → Program β) → Program β
  | done result, f => f result
  | ask request next, f => ask request fun reply => (next reply).bind f
  | again body next, f => again body fun result => (next result).bind f

instance : Monad Program where
  pure := done
  bind := bind

/-- Three programs in a row may be grouped either way. -/
theorem bind_assoc {α β γ : Type} (p : Program α) (f : α → Program β) (g : β → Program γ) :
    (p.bind f).bind g = p.bind fun a => (f a).bind g := by
  induction p with
  | done result => rfl
  | ask request next ih => simp only [bind]; congr; funext reply; exact ih reply f
  | again body next _ ih => simp only [bind]; congr; funext result; exact ih result f

/-- A program followed by nothing is itself. -/
theorem bind_done {α : Type} (p : Program α) : p.bind done = p := by
  induction p with
  | done result => rfl
  | ask request next ih => simp only [bind]; congr; funext reply; exact ih reply
  | again body next _ ih => simp only [bind]; congr; funext result; exact ih result

/-! ## Runs -/

/-- Repeats a step until it gives a result, at most `rounds` times. -/
def repeatStep {β σ : Type} (step : σ → Option (Option β × σ)) : Nat → σ → Option (β × σ)
  | 0, _ => none
  | rounds + 1, s =>
    match step s with
    | none => none
    | some (none, next) => repeatStep step rounds next
    | some (some result, next) => some (result, next)

/-- The result of a program on a host that is in state `s`, and the state after it, if no repetition
needs more than `rounds` rounds. -/
def run {σ : Type} (host : Host σ) (rounds : Nat) {α : Type} : Program α → σ → Option (α × σ)
  | done result, s => some (result, s)
  | ask request next, s =>
    let (reply, s) := host s request
    run host rounds (next reply) s
  | again body next, s =>
    match repeatStep (run host rounds body) rounds s with
    | none => none
    | some (result, s) => run host rounds (next result) s

/-- A run of two programs in a row is the run of the second one after that of the first. -/
theorem run_bind {σ : Type} (host : Host σ) (rounds : Nat) {α β : Type} (p : Program α)
    (f : α → Program β) (s : σ) :
    run host rounds (p.bind f) s
      = (run host rounds p s).bind fun r => run host rounds (f r.1) r.2 := by
  induction p generalizing s with
  | done result => rfl
  | ask request next ih => simp only [bind, run]; exact ih _ _ _
  | again body next _ ih =>
    simp only [bind, run]
    cases repeatStep (run host rounds body) rounds s with
    | none => rfl
    | some r => exact ih _ _ _

end Program

/-! ## Programs that may fail -/

/-- A program that gives a result or fails. -/
abbrev Action (α : Type) :=
  ExceptT Error Program α

namespace Action

def attempt {α : Type} (a : Action α) : Program (Except Error α) :=
  ExceptT.run a

/-- A program as an action that does not fail. -/
def ofProgram {α : Type} (p : Program α) : Action α :=
  ExceptT.lift p

/-- A request whose reply may be an error. -/
def ofReply {α : Type} (p : Program (Except Error α)) : Action α :=
  ExceptT.mk p

/-- An action whose error is changed. -/
def withError {α : Type} (f : Error → Error) (a : Action α) : Action α :=
  ExceptT.mk ((·.mapError f) <$> a.attempt)

def ofExcept {α : Type} (e : Except Error α) : Action α :=
  ExceptT.mk (.done e)

end Action

/-! ## One request each -/

namespace Host

/-- Runs a command. A return code that does not count as success is an error. -/
def execute (command : String) (options : Options := {}) : Action Completion :=
  Action.ofReply (.ask (.execute command options) fun reply =>
    .done (reply.bind fun completion => completion.check options))

def start (command : String) (shell : Bool := false) : Action Nat :=
  Action.ofReply (.ask (.start command shell) .done)

def isRunning (process : Nat) : Action Bool :=
  Action.ofReply (.ask (.isRunning process) .done)

def read (path : String) : Action String :=
  Action.ofReply (.ask (.read path) .done)

def write (path content : String) : Action Unit :=
  Action.ofReply (.ask (.write path content) .done)

def fileExists (path : String) : Action Bool :=
  Action.ofReply (.ask (.fileExists path) .done)

def sleep (time : Duration) : Action Unit :=
  Action.ofProgram (.ask (.sleep time) .done)

/-- A UUID that was never given out before. -/
def freshUuid : Action String :=
  Action.ofProgram (.ask .freshUuid .done)

def readLocal (path : String) : Program (Except FileError String) :=
  .ask (.readLocal path) .done

/-- The content of a local file that was asked for by name. -/
def readLocalFile (path : String) : Action String :=
  Action.ofReply (.ask (.readLocal path) fun reply =>
    .done (reply.mapError fun
      | .missing => .fileNotFound path
      | cause => .file cause))

/-- The path of `name` in the directory `base`, with one slash between them. -/
def joinPath (base name : String) : String :=
  String.ofList ((base.toList.reverse.dropWhile (· = '/')).reverse
    ++ '/' :: name.toList.dropWhile (· = '/'))

end Host
end VirtHost
