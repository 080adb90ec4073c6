import VirtHost.Proofs.Host.Action

/-! # Commands in turn

* `InTurn`: some commands are run in order, each only if the one before it ended with code zero.
* `InTurn.commandsOf_prefix`, `InTurn.lt_length_iff`: which of them are run.
* `InTurn.eq_ok_iff`, `InTurn.eq_error`: what comes of them.
* `Action.RunsCommand`, `InTurn.bind`: actions that run one command each.
-/

namespace VirtHost
open Host (Succeeded)
set_option autoImplicit false

/-- The reply to the command that an exchange runs to its end. -/
def Exchange.reply? : Exchange → Option (Except Error Host.Completion)
  | ⟨.execute _ _, reply⟩ => some reply
  | _ => none

/-- The replies to the commands of some exchanges, in order. -/
def repliesOf (t : List Exchange) : List (Except Error Host.Completion) :=
  t.filterMap Exchange.reply?

@[simp] theorem repliesOf_nil : repliesOf [] = [] := rfl

@[simp] theorem repliesOf_ran (command : String) (options : Host.Options)
    (reply : Except Error Host.Completion) (t : List Exchange) :
    repliesOf (.ran command options reply :: t) = reply :: repliesOf t := by
  simp [repliesOf, Exchange.ran, Exchange.reply?]

theorem commandsOf_cons_of_none {e : Exchange} (he : e.command? = none) (t : List Exchange) :
    commandsOf (e :: t) = commandsOf t := by
  simp [commandsOf, he]

theorem repliesOf_cons_of_none {e : Exchange} (he : e.command? = none) (t : List Exchange) :
    repliesOf (e :: t) = repliesOf t := by
  obtain ⟨request, reply⟩ := e
  cases request with
  | execute command options => simp [Exchange.command?] at he
  | _ => rfl

theorem length_repliesOf (t : List Exchange) : (repliesOf t).length = (commandsOf t).length := by
  induction t with
  | nil => rfl
  | cons e t ih =>
    obtain ⟨request, reply⟩ := e
    cases request with
    | execute command options =>
      change (repliesOf (.ran command options reply :: t)).length =
        (commandsOf (.ran command options reply :: t)).length
      rw [repliesOf_ran, commandsOf_ran, List.length_cons, List.length_cons, ih]
    | _ =>
      rw [repliesOf_cons_of_none rfl, commandsOf_cons_of_none rfl]
      exact ih

/-- The exchanges and the result of some commands, each of which is only run if the one before it
ended with code zero. Other requests may be made in between. -/
inductive InTurn {α : Type} (result : α) : List String → List Exchange → Except Error α → Prop
  | done : InTurn result [] [] (.ok result)
  | failed {command : String} {commands : List String} {options : Host.Options}
      {reply : Except Error Host.Completion} {e : Error} (hreply : ¬ Succeeded reply)
      (he : ({} : Host.Options).outcome reply = .error e) :
      InTurn result (command :: commands) [.ran command options reply] (.error e)
  | succeeded {command : String} {commands : List String} {options : Host.Options}
      {reply : Except Error Host.Completion} {t : List Exchange} {r : Except Error α}
      (hreply : Succeeded reply) (hrest : InTurn result commands t r) :
      InTurn result (command :: commands) (.ran command options reply :: t) r
  | between {commands : List String} {e : Exchange} {t : List Exchange} {r : Except Error α}
      (he : e.command? = none) (hrest : InTurn result commands t r) :
      InTurn result commands (e :: t) r

namespace InTurn
variable {α : Type} {result : α} {commands : List String} {t : List Exchange} {r : Except Error α}

theorem commandsOf_prefix (h : InTurn result commands t r) : commandsOf t <+: commands := by
  induction h with
  | done => exact List.nil_prefix
  | failed _ _ =>
    rw [commandsOf_ran, commandsOf_nil]
    exact List.cons_prefix_cons.2 ⟨rfl, List.nil_prefix⟩
  | succeeded _ _ ih =>
    rw [commandsOf_ran]
    exact List.cons_prefix_cons.2 ⟨rfl, ih⟩
  | between he _ ih =>
    rw [commandsOf_cons_of_none he]
    exact ih

theorem lt_length_iff (h : InTurn result commands t r) (k : Nat) :
    k < (repliesOf t).length ↔
      k < commands.length ∧ ∀ reply ∈ (repliesOf t).take k, Succeeded reply := by
  induction h generalizing k with
  | done => simp
  | failed hreply _ =>
    cases k with
    | zero => simp
    | succ k => simp [hreply]
  | succeeded hreply _ ih =>
    cases k with
    | zero => simp
    | succ k => simp [hreply, ih k]
  | between he _ ih =>
    rw [repliesOf_cons_of_none he]
    exact ih k

/-- The result is the expected one if all commands were run and ended with code zero. -/
theorem eq_ok_iff (h : InTurn result commands t r) :
    r = .ok result ↔
      (repliesOf t).length = commands.length ∧ ∀ reply ∈ repliesOf t, Succeeded reply := by
  induction h with
  | done => simp
  | failed hreply _ => simp [hreply]
  | succeeded hreply _ ih => simp [hreply, ih]
  | between he _ ih =>
    rw [repliesOf_cons_of_none he]
    exact ih

/-- An error is that of the last command that was run. -/
theorem eq_error (h : InTurn result commands t r) {e : Error} (he : r = .error e) :
    ∃ reply, (repliesOf t).getLast? = some reply ∧ ({} : Host.Options).outcome reply = .error e := by
  induction h with
  | done => cases he
  | @failed _ _ _ reply _ _ houtcome =>
    cases he
    exact ⟨reply, by simp, houtcome⟩
  | succeeded _ _ ih =>
    obtain ⟨reply, hlast, houtcome⟩ := ih he
    refine ⟨reply, ?_, houtcome⟩
    rw [repliesOf_ran, List.getLast?_cons, hlast]
    rfl
  | between hother _ ih =>
    rw [repliesOf_cons_of_none hother]
    exact ih he

end InTurn

/-! ## Actions -/

/-- The action runs one command, and succeeds if that ends with code zero. -/
def Action.RunsCommand {α : Type} (a : Action α) (command : String) : Prop :=
  ∀ t r, a.Runs t r → ∃ options reply, t = [.ran command options reply] ∧
    ((∃ x, r = .ok x ∧ Succeeded reply) ∨
      ∃ e, r = .error e ∧ ¬ Succeeded reply ∧ ({} : Host.Options).outcome reply = .error e)

/-- The reply to a command that has to end with code zero is treated alike whatever else is asked of
the command. -/
theorem Host.Options.outcome_eq {o : Host.Options} (ho : o.expected = some [0])
    (reply : Except Error Host.Completion) : o.outcome reply = ({} : Host.Options).outcome reply := by
  cases reply with
  | error e => rfl
  | ok c => simp [outcome, Except.bind, Host.Completion.check, accepts, ho]

theorem Action.runsCommand_execute {command : String} {options : Host.Options}
    (ho : options.expected = some [0]) : (Host.execute command options).RunsCommand command := by
  intro t r hrun
  obtain ⟨reply, rfl, rfl⟩ := Action.runs_execute.1 hrun
  refine ⟨options, reply, rfl, ?_⟩
  cases hreply : options.outcome reply with
  | ok c => exact .inl ⟨c, rfl, c, (Host.Options.outcome_eq_ok_iff ho).1 hreply⟩
  | error e =>
    have hdefault := Host.Options.outcome_eq ho reply
    exact .inr ⟨e, rfl, Host.Options.not_succeeded ho hreply, by rw [← hdefault, hreply]⟩

theorem Action.RunsCommand.map {α β : Type} {a : Action α} {command : String}
    (ha : a.RunsCommand command) (f : α → β) : (a >>= fun x => pure (f x)).RunsCommand command := by
  intro t r hrun
  obtain ⟨o, ho, rfl⟩ := Action.runs_bind_pure.1 hrun
  obtain ⟨options, reply, rfl, ⟨x, rfl, hreply⟩ | ⟨e, rfl, hreply⟩⟩ := ha t o ho
  · exact ⟨options, reply, rfl, .inl ⟨f x, rfl, hreply⟩⟩
  · exact ⟨options, reply, rfl, .inr ⟨e, rfl, hreply⟩⟩

theorem Action.runsCommand_perform {command : String} {options : Host.Options}
    (ho : options.expected = some [0]) :
    (Hypervisor.perform command options).RunsCommand command :=
  (runsCommand_execute ho).map fun _ => ()

theorem InTurn.bind {α β : Type} {result : β} {a : Action α} {f : α → Action β} {command : String}
    {commands : List String} {t : List Exchange} {r : Except Error β} (ha : a.RunsCommand command)
    (hf : ∀ x v, (f x).Runs v r → InTurn result commands v r) (hrun : (a >>= f).Runs t r) :
    InTurn result (command :: commands) t r := by
  rcases Action.runs_bind.1 hrun with ⟨e, he, rfl⟩ | ⟨u, v, x, rfl, hu, hv⟩
  · obtain ⟨options, reply, rfl, ⟨x, hx, -⟩ | ⟨e', he', hreply, houtcome⟩⟩ := ha t _ he
    · cases hx
    · cases he'
      exact .failed hreply houtcome
  · obtain ⟨options, reply, rfl, ⟨x', -, hreply⟩ | ⟨e', he', -⟩⟩ := ha u _ hu
    · exact .succeeded hreply (hf x v hv)
    · cases he'

end VirtHost
