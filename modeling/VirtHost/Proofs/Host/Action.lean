import VirtHost.Hypervisor.Basic
import VirtHost.Proofs.Host.Fallible

/-! # Runs of actions

An action is a program with a result or an error. One rule for each way of building an action says
what its runs are.

* `Action.Runs`, `Action.Returns`, `Action.Finite`, `Action.Uses`: the notions for programs, read for
  actions.
* `Action.runs_bind`: an error ends a sequence, and a result is passed on.
* `Action.runs_execute`: a command is one exchange; `Host.Options.outcome` is what becomes of the reply.
* `commandsOf`: the commands of some exchanges, in order.
-/

namespace VirtHost
set_option autoImplicit false

/-! ## Commands -/

/-- A command, how it was run, and the reply to it. -/
def Exchange.ran (command : String) (options : Host.Options) (reply : Except Error Host.Completion) :
    Exchange :=
  ⟨.execute command options, reply⟩

/-- Not an exchange in which a file could not be read or written. -/
def Exchange.Served : Exchange → Prop
  | ⟨.read _, reply⟩ => ∃ text, reply = .ok text
  | ⟨.write _ _, reply⟩ => reply = .ok ()
  | ⟨.readLocal _, reply⟩ => ∃ text, reply = .ok text
  | _ => True

/-- The command that an exchange runs to its end, if it runs one. -/
def Exchange.command? (e : Exchange) : Option String :=
  match e.request with
  | .execute command _ => some command
  | _ => none

@[simp] theorem Exchange.command?_ran (command : String) (options : Host.Options)
    (reply : Except Error Host.Completion) : (ran command options reply).command? = some command :=
  rfl

/-- The commands of some exchanges, in order. -/
def commandsOf (t : List Exchange) : List String :=
  t.filterMap Exchange.command?

@[simp] theorem commandsOf_nil : commandsOf [] = [] := rfl

@[simp] theorem commandsOf_append (t u : List Exchange) :
    commandsOf (t ++ u) = commandsOf t ++ commandsOf u :=
  List.filterMap_append

@[simp] theorem commandsOf_ran (command : String) (options : Host.Options)
    (reply : Except Error Host.Completion) (t : List Exchange) :
    commandsOf (Exchange.ran command options reply :: t) = command :: commandsOf t := by
  simp [commandsOf]

/-- What becomes of the reply to a command: a completion with an unexpected code is an error. -/
def Host.Options.outcome (o : Host.Options) (reply : Except Error Host.Completion) :
    Except Error Host.Completion :=
  reply.bind fun completion => completion.check o

/-- A command was run and ended with code zero. -/
def Host.Succeeded (reply : Except Error Host.Completion) : Prop :=
  ∃ c, reply = .ok c ∧ c.code = 0

@[simp] theorem Host.succeeded_ok {c : Host.Completion} : Host.Succeeded (.ok c) ↔ c.code = 0 := by
  simp [Host.Succeeded]

theorem Host.Options.outcome_eq_ok_iff_accepts {o : Host.Options}
    {reply : Except Error Host.Completion} {c : Host.Completion} :
    o.outcome reply = .ok c ↔ reply = .ok c ∧ o.accepts c.code = true := by
  cases reply with
  | error e => simp [Host.Options.outcome, Except.bind]
  | ok d =>
    simp only [Host.Options.outcome, Except.bind, Host.Completion.check]
    split
    · rename_i haccepts
      simp only [Except.ok.injEq]
      constructor
      · rintro rfl
        exact ⟨rfl, haccepts⟩
      · rintro ⟨rfl, -⟩
        rfl
    · rename_i hrejects
      simp only [Except.ok.injEq, reduceCtorEq, false_iff]
      rintro ⟨rfl, haccepts⟩
      exact hrejects haccepts

theorem Host.Options.outcome_anyCode (o : Host.Options) (reply : Except Error Host.Completion) :
    o.anyCode.outcome reply = reply := by
  cases reply with
  | error e => rfl
  | ok c => rfl

theorem Host.Options.outcome_eq_ok_iff {o : Host.Options} (ho : o.expected = some [0])
    {reply : Except Error Host.Completion} {c : Host.Completion} :
    o.outcome reply = .ok c ↔ reply = .ok c ∧ c.code = 0 := by
  rw [outcome_eq_ok_iff_accepts]
  simp [Host.Options.accepts, ho]

theorem Host.Options.exists_outcome_eq_ok_iff {o : Host.Options} (ho : o.expected = some [0])
    {reply : Except Error Host.Completion} :
    (∃ c, o.outcome reply = .ok c) ↔ Host.Succeeded reply :=
  exists_congr fun _ => outcome_eq_ok_iff ho

theorem Host.Options.not_succeeded {o : Host.Options} (ho : o.expected = some [0])
    {reply : Except Error Host.Completion} {e : Error} (he : o.outcome reply = .error e) :
    ¬ Host.Succeeded reply := by
  intro hreply
  obtain ⟨c, hc⟩ := (exists_outcome_eq_ok_iff ho).2 hreply
  rw [hc] at he
  cases he

/-- What is done with the result of a command that has to end with code zero succeeds if it does. -/
theorem Host.Options.map_outcome_eq_ok_iff {o : Host.Options} (ho : o.expected = some [0])
    {reply : Except Error Host.Completion} :
    ((o.outcome reply).map fun _ => ()) = .ok () ↔ Host.Succeeded reply := by
  cases hreply : o.outcome reply with
  | error e => simp [Except.map, not_succeeded ho hreply]
  | ok c => simpa [Except.map] using ⟨c, (outcome_eq_ok_iff ho).1 hreply⟩

/-- The reply of a command that succeeds with some output. -/
def Host.printed (stdout : String) : Except Error Host.Completion :=
  .ok ⟨"", 0, stdout, ""⟩

/-- The reply of a command that fails with some error output. -/
def Host.refused (stderr : String) : Except Error Host.Completion :=
  .ok ⟨"", 1, "", stderr⟩

namespace Action
variable {α β : Type} {t : List Exchange}

/-! ## Notions -/

/-- With the exchanges `t` the action gives the result or the error `r`. -/
def Runs (a : Action α) (t : List Exchange) (r : Except Error α) : Prop :=
  a.attempt.Runs t r

/-- The action gives a result or an error on a host in a state. -/
def Returns {σ : Type} (host : Host σ) (s : σ) (a : Action α) : Prop :=
  Program.Returns host s a.attempt

/-- The action has no repetitions. -/
def Finite (a : Action α) : Prop :=
  a.attempt.Finite

/-- Two runs in which the same requests got the same replies are the same run. -/
theorem Runs.unique {a : Action α} {t t' u v : List Exchange} {r r' : Except Error α}
    (h : a.Runs t r) (h' : a.Runs t' r') (e : t ++ u = t' ++ v) : t = t' ∧ r = r' :=
  Program.Runs.unique h h' e

theorem runs_of_play {a : Action α} {r : Except Error α} (h : a.attempt.play t = some r) :
    a.Runs t r :=
  Program.runs_of_play h

/-! ## Runs -/

theorem runs_pure {a : α} {r : Except Error α} : (pure a : Action α).Runs t r ↔ t = [] ∧ r = .ok a :=
  Iff.rfl

theorem runs_throw {e : Error} {r : Except Error α} :
    (throw e : Action α).Runs t r ↔ t = [] ∧ r = .error e :=
  Iff.rfl

theorem runs_bind {a : Action α} {f : α → Action β} {r : Except Error β} :
    (a >>= f).Runs t r ↔ (∃ e, a.Runs t (.error e) ∧ r = .error e) ∨
      ∃ u v x, t = u ++ v ∧ a.Runs u (.ok x) ∧ (f x).Runs v r :=
  Program.runs_except_bind

theorem runs_bind_ok {a : Action α} {f : α → Action β} {y : β} :
    (a >>= f).Runs t (.ok y) ↔ ∃ u v x, t = u ++ v ∧ a.Runs u (.ok x) ∧ (f x).Runs v (.ok y) := by
  rw [runs_bind]
  constructor
  · rintro (⟨e, -, hy⟩ | hrest)
    · cases hy
    · exact hrest
  · exact .inr

theorem runs_bind_pure {a : Action α} {f : α → β} {r : Except Error β} :
    (a >>= fun x => pure (f x)).Runs t r ↔ ∃ o, a.Runs t o ∧ r = o.map f :=
  Program.runs_except_bind_pure

theorem runs_ofExcept {e : Except Error α} {r : Except Error α} :
    (ofExcept e).Runs t r ↔ t = [] ∧ r = e :=
  Iff.rfl

theorem runs_bind_ofExcept {a : Action α} {f : α → Except Error β} {r : Except Error β} :
    (a >>= fun x => ofExcept (f x)).Runs t r ↔ ∃ o, a.Runs t o ∧ r = o.bind f := by
  rw [runs_bind]
  constructor
  · rintro (⟨e, he, rfl⟩ | ⟨u, v, x, rfl, hu, rfl, rfl⟩)
    · exact ⟨.error e, he, rfl⟩
    · exact ⟨.ok x, by simpa using hu, rfl⟩
  · rintro ⟨o, ho, rfl⟩
    cases o with
    | error e => exact .inl ⟨e, ho, rfl⟩
    | ok x => exact .inr ⟨t, [], x, by simp, ho, rfl, rfl⟩

section
variable {ρ : Type} {a : Action α} {asked : ρ → List Exchange} {outcome : ρ → Except Error α}

theorem runs_bind_pure_of (ha : ∀ {t o}, a.Runs t o ↔ ∃ reply, t = asked reply ∧ o = outcome reply)
    {f : α → β} {r : Except Error β} :
    (a >>= fun x => pure (f x)).Runs t r ↔
      ∃ reply, t = asked reply ∧ r = (outcome reply).map f := by
  rw [runs_bind_pure]
  constructor
  · rintro ⟨o, ho, rfl⟩
    obtain ⟨reply, rfl, rfl⟩ := ha.1 ho
    exact ⟨reply, rfl, rfl⟩
  · rintro ⟨reply, rfl, rfl⟩
    exact ⟨_, ha.2 ⟨reply, rfl, rfl⟩, rfl⟩

theorem runs_bind_ofExcept_of
    (ha : ∀ {t o}, a.Runs t o ↔ ∃ reply, t = asked reply ∧ o = outcome reply)
    {f : α → Except Error β} {r : Except Error β} :
    (a >>= fun x => ofExcept (f x)).Runs t r ↔
      ∃ reply, t = asked reply ∧ r = (outcome reply).bind f := by
  rw [runs_bind_ofExcept]
  constructor
  · rintro ⟨o, ho, rfl⟩
    obtain ⟨reply, rfl, rfl⟩ := ha.1 ho
    exact ⟨reply, rfl, rfl⟩
  · rintro ⟨reply, rfl, rfl⟩
    exact ⟨_, ha.2 ⟨reply, rfl, rfl⟩, rfl⟩

end

theorem runs_ofProgram {p : Program α} {r : Except Error α} :
    (ofProgram p).Runs t r ↔ ∃ a, p.Runs t a ∧ r = .ok a :=
  Program.runs_except_lift

theorem runs_ofProgram_attempt_bind {a : Action α} {f : Except Error α → Action β}
    {r : Except Error β} :
    (ofProgram a.attempt >>= f).Runs t r ↔
      ∃ u v o, t = u ++ v ∧ a.Runs u o ∧ (f o).Runs v r := by
  rw [runs_bind]
  constructor
  · rintro (⟨e, he, rfl⟩ | ⟨u, v, o, rfl, hu, hv⟩)
    · obtain ⟨o, -, ho⟩ := runs_ofProgram.1 he
      cases ho
    · obtain ⟨o', ho', ho⟩ := runs_ofProgram.1 hu
      cases ho
      exact ⟨u, v, o, rfl, ho', hv⟩
  · rintro ⟨u, v, o, rfl, hu, hv⟩
    exact .inr ⟨u, v, o, rfl, runs_ofProgram.2 ⟨o, hu, rfl⟩, hv⟩

theorem runs_withError {f : Error → Error} {a : Action α} {r : Except Error α} :
    (withError f a).Runs t r ↔ ∃ o, a.Runs t o ∧ r = o.mapError f :=
  Program.runs_mapError

theorem runs_tryCatch {a : Action α} {f : Error → Action α} {r : Except Error α} :
    (tryCatch a f).Runs t r ↔ (∃ x, a.Runs t (.ok x) ∧ r = .ok x) ∨
      ∃ u v e, t = u ++ v ∧ a.Runs u (.error e) ∧ (f e).Runs v r :=
  Program.runs_except_tryCatch

theorem runs_map {f : α → β} {a : Action α} {r : Except Error β} :
    (f <$> a).Runs t r ↔ ∃ o, a.Runs t o ∧ r = o.map f :=
  runs_bind_pure

/-! ## One request each -/

theorem runs_execute {command : String} {options : Host.Options}
    {r : Except Error Host.Completion} :
    (Host.execute command options).Runs t r ↔
      ∃ reply, t = [.ran command options reply] ∧ r = options.outcome reply := by
  constructor
  · rintro ⟨reply, rest, rfl, rfl, rfl⟩
    exact ⟨reply, rfl, rfl⟩
  · rintro ⟨reply, rfl, rfl⟩
    exact ⟨reply, [], rfl, rfl, rfl⟩

theorem runs_execute_anyCode {command : String} {options : Host.Options}
    {r : Except Error Host.Completion} :
    (Host.execute command options.anyCode).Runs t r ↔ t = [.ran command options.anyCode r] := by
  rw [runs_execute]
  constructor
  · rintro ⟨reply, rfl, rfl⟩
    rw [Host.Options.outcome_anyCode]
  · rintro rfl
    exact ⟨r, rfl, (Host.Options.outcome_anyCode options r).symm⟩

theorem runs_perform {command : String} {options : Host.Options} {r : Except Error Unit} :
    (Hypervisor.perform command options).Runs t r ↔
      ∃ reply, t = [.ran command options reply] ∧ r = (options.outcome reply).map fun _ => () :=
  runs_bind_pure_of runs_execute

theorem runs_perform_succeeded {command : String} {options : Host.Options}
    (ho : options.expected = some [0]) {r : Except Error Unit}
    (hrun : (Hypervisor.perform command options).Runs t r) :
    ∃ reply, t = [.ran command options reply] ∧ (r = .ok () ↔ Host.Succeeded reply) := by
  obtain ⟨reply, rfl, rfl⟩ := runs_perform.1 hrun
  exact ⟨reply, rfl, Host.Options.map_outcome_eq_ok_iff ho⟩

theorem runs_write {path content : String} {r : Except Error Unit} :
    (Host.write path content).Runs t r ↔ t = [⟨.write path content, r⟩] := by
  constructor
  · rintro ⟨reply, rest, rfl, rfl, rfl⟩
    rfl
  · rintro rfl
    exact ⟨r, [], rfl, rfl, rfl⟩

theorem runs_fileExists {path : String} {r : Except Error Bool} :
    (Host.fileExists path).Runs t r ↔ t = [⟨.fileExists path, r⟩] := by
  constructor
  · rintro ⟨reply, rest, rfl, rfl, rfl⟩
    rfl
  · rintro rfl
    exact ⟨r, [], rfl, rfl, rfl⟩

theorem runs_start {command : String} {shell : Bool} {r : Except Error Nat} :
    (Host.start command shell).Runs t r ↔ t = [⟨.start command shell, r⟩] := by
  constructor
  · rintro ⟨reply, rest, rfl, rfl, rfl⟩
    rfl
  · rintro rfl
    exact ⟨r, [], rfl, rfl, rfl⟩

theorem runs_isRunning {process : Nat} {r : Except Error Bool} :
    (Host.isRunning process).Runs t r ↔ t = [⟨.isRunning process, r⟩] := by
  constructor
  · rintro ⟨reply, rest, rfl, rfl, rfl⟩
    rfl
  · rintro rfl
    exact ⟨r, [], rfl, rfl, rfl⟩

theorem runs_freshUuid {r : Except Error String} :
    Host.freshUuid.Runs t r ↔ ∃ uuid, t = [⟨.freshUuid, uuid⟩] ∧ r = .ok uuid := by
  refine runs_ofProgram.trans ?_
  constructor
  · rintro ⟨uuid, ⟨reply, rest, rfl, rfl, rfl⟩, rfl⟩
    exact ⟨uuid, rfl, rfl⟩
  · rintro ⟨uuid, rfl, rfl⟩
    exact ⟨uuid, ⟨uuid, [], rfl, rfl, rfl⟩, rfl⟩

/-! ## Results on hosts -/

variable {σ : Type} {host : Host σ} {s : σ}

theorem run_bind {a : Action α} {f : α → Action β} {rounds : Nat} :
    (a >>= f).attempt.run host rounds s = (a.attempt.run host rounds s).bind fun r =>
      match r.1 with
      | .ok x => (f x).attempt.run host rounds r.2
      | .error e => some (.error e, r.2) := by
  refine (Program.run_bind host rounds a.attempt (ExceptT.bindCont f) s).trans ?_
  cases a.attempt.run host rounds s with
  | none => rfl
  | some r =>
    obtain ⟨o, s'⟩ := r
    cases o <;> rfl

theorem run_bind_of_ok {a : Action α} {f : α → Action β} {rounds : Nat} {s' : σ} {x : α}
    (h : a.attempt.run host rounds s = some (.ok x, s')) :
    (a >>= f).attempt.run host rounds s = (f x).attempt.run host rounds s' := by
  rw [run_bind, h]
  rfl

theorem run_execute {command : String} {options : Host.Options} {rounds : Nat} :
    (Host.execute command options).attempt.run host rounds s =
      some (options.outcome (host s (.execute command options)).1,
        (host s (.execute command options)).2) :=
  rfl

theorem returns_bind {a : Action α} {f : α → Action β} (h : a.Returns host s)
    (hf : ∀ t x s', a.Runs t (.ok x) → host.Answers s t s' → (f x).Returns host s') :
    (a >>= f).Returns host s := by
  refine Program.returns_bind (p := a.attempt) h fun t o s' ht hs' => ?_
  cases o with
  | error e => exact Program.returns_done _
  | ok x => exact hf t x s' ht hs'

theorem Finite.returns {a : Action α} (h : a.Finite) (host : Host σ) (s : σ) : a.Returns host s :=
  Program.Finite.returns h host s

theorem Finite.exists_run {a : Action α} (h : a.Finite) (host : Host σ) (rounds : Nat) (s : σ) :
    ∃ r s', a.attempt.run host rounds s = some (r, s') :=
  Program.Finite.exists_run h host rounds s

theorem finite_pure (a : α) : (pure a : Action α).Finite := trivial

theorem finite_throw (e : Error) : (throw e : Action α).Finite := trivial

theorem finite_ofExcept (e : Except Error α) : (ofExcept e).Finite := trivial

theorem Finite.bind {a : Action α} {f : α → Action β} (h : a.Finite) (hf : ∀ x, (f x).Finite) :
    (a >>= f).Finite :=
  Program.Finite.except_bind h hf

theorem Finite.ofProgram {p : Program α} (h : p.Finite) : (ofProgram p).Finite :=
  Program.Finite.bind h fun _ => trivial

theorem Finite.withError {a : Action α} (h : a.Finite) (f : Error → Error) :
    (withError f a).Finite :=
  Program.Finite.bind (p := a.attempt) h fun _ => trivial

theorem finite_execute (command : String) (options : Host.Options) :
    (Host.execute command options).Finite :=
  fun _ => trivial

theorem finite_perform (command : String) (options : Host.Options) :
    (Hypervisor.perform command options).Finite :=
  (finite_execute command options).bind fun _ => trivial

theorem finite_write (path content : String) : (Host.write path content).Finite :=
  fun _ => trivial

/-! ## Requests -/

/-- Every request of the action is allowed. -/
def Uses (allowed : Host.Request → Prop) (a : Action α) : Prop :=
  a.attempt.Uses allowed

variable {allowed : Host.Request → Prop}

theorem Uses.of_runs {a : Action α} {r : Except Error α} (h : a.Uses allowed) (ht : a.Runs t r) :
    ∀ e ∈ t, allowed e.request :=
  Program.Uses.of_runs h ht

theorem Uses.mono {allowed' : Host.Request → Prop} {a : Action α} (h : a.Uses allowed)
    (himp : ∀ request, allowed request → allowed' request) : a.Uses allowed' :=
  Program.Uses.mono h himp

theorem uses_pure (x : α) : (pure x : Action α).Uses allowed := trivial

theorem uses_throw (e : Error) : (throw e : Action α).Uses allowed := trivial

theorem Uses.bind {a : Action α} {f : α → Action β} (h : a.Uses allowed)
    (hf : ∀ x, (f x).Uses allowed) : (a >>= f).Uses allowed :=
  Program.Uses.except_bind h hf

theorem Uses.tryCatch {a : Action α} {f : Error → Action α} (h : a.Uses allowed)
    (hf : ∀ e, (f e).Uses allowed) : (tryCatch a f).Uses allowed :=
  Program.Uses.except_tryCatch h hf

theorem Uses.ofProgram {p : Program α} (h : p.Uses allowed) : (ofProgram p).Uses allowed :=
  Program.Uses.except_lift h

theorem uses_execute {command : String} {options : Host.Options}
    (h : allowed (.execute command options)) : (Host.execute command options).Uses allowed :=
  ⟨h, fun _ => trivial⟩

theorem uses_perform {command : String} {options : Host.Options}
    (h : allowed (.execute command options)) :
    (Hypervisor.perform command options).Uses allowed :=
  (uses_execute h).bind fun _ => uses_pure ()

end Action
end VirtHost
