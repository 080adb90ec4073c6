import VirtHost.Proofs.Host.Action
import VirtHost.Virsh

/-! # Runs of virsh

Every subcommand is one exchange with the options of the tool, and succeeds if it ends with code zero.

* `Virsh.runs_status`, `Virsh.runs_domain`: what is read from the reply to a query.
* `Virsh.runs_list`: a list of virtual machines is empty if it could not be read.
-/

namespace VirtHost.Virsh
set_option autoImplicit false

variable {v : Virsh} {t : List Exchange}

/-- The exchange of a subcommand. -/
def ran (v : Virsh) (arguments : String) (reply : Except Error Host.Completion) : Exchange :=
  .ran ("virsh " ++ arguments) v.options reply

/-- What becomes of the reply to a subcommand. -/
def outcome (v : Virsh) (reply : Except Error Host.Completion) : Except Error Host.Completion :=
  v.options.outcome reply

theorem outcome_eq_ok_iff {reply : Except Error Host.Completion} {c : Host.Completion} :
    v.outcome reply = .ok c ↔ reply = .ok c ∧ c.code = 0 :=
  Host.Options.outcome_eq_ok_iff rfl

theorem not_succeeded {reply : Except Error Host.Completion} {e : Error}
    (he : v.outcome reply = .error e) : ¬ Host.Succeeded reply :=
  Host.Options.not_succeeded rfl he

@[simp] theorem command?_ran (v : Virsh) (arguments : String)
    (reply : Except Error Host.Completion) :
    (v.ran arguments reply).command? = some ("virsh " ++ arguments) :=
  rfl

theorem runs_command {arguments : String} {r : Except Error Host.Completion} :
    (v.command arguments).Runs t r ↔ ∃ reply, t = [v.ran arguments reply] ∧ r = v.outcome reply :=
  Action.runs_execute

theorem runs_perform {arguments : String} {r : Except Error Unit} :
    (v.perform arguments).Runs t r ↔
      ∃ reply, t = [v.ran arguments reply] ∧ r = (v.outcome reply).map fun _ => () :=
  Action.runs_perform

theorem runs_status {name : String} {r : Except Error Vm.Status} :
    (v.status name).Runs t r ↔ ∃ reply, t = [v.ran ("dominfo " ++ name) reply] ∧
      r = (v.outcome reply).map fun c => Listing.status c.stdout :=
  Action.runs_bind_pure_of runs_command

theorem runs_status_map {α : Type} {name : String} {f : Vm.Status → α} {r : Except Error α} :
    (v.status name >>= fun status => pure (f status)).Runs t r ↔
      ∃ reply, t = [v.ran ("dominfo " ++ name) reply] ∧
        r = (v.outcome reply).map fun c => f (Listing.status c.stdout) := by
  have hmap (reply : Except Error Host.Completion) :
      ((v.outcome reply).map fun c => Listing.status c.stdout).map f =
        (v.outcome reply).map fun c => f (Listing.status c.stdout) := by
    cases v.outcome reply <;> rfl
  simp only [← hmap]
  exact Action.runs_bind_pure_of runs_status

/-- The domain XML in the reply to a query for it. -/
def domainIn (v : Virsh) (reply : Except Error Host.Completion) : Except Error Xml.Node :=
  (v.outcome reply).bind fun c => Xml.parse c.stdout

theorem runs_domain {name : String} {r : Except Error Xml.Node} :
    (v.domain name).Runs t r ↔
      ∃ reply, t = [v.ran ("dumpxml " ++ name) reply] ∧ r = v.domainIn reply :=
  Action.runs_bind_ofExcept_of runs_command

theorem finite_domain (v : Virsh) (name : String) : (v.domain name).Finite :=
  (Action.finite_execute _ _).bind fun _ => Action.finite_ofExcept _

/-! ## Soft subcommands -/

/-- The exchange of a subcommand that may fail. -/
def asked (v : Virsh) (arguments : String) (reply : Except Error Host.Completion) : Exchange :=
  .ran ("virsh " ++ arguments) v.options.anyCode reply

/-- The virtual machines in the reply to a query for their list. A query that failed tells none. -/
def listed : Except Error Host.Completion → List Vm.Entry
  | .ok c => if c.code = 0 then Listing.vms c.stdout else []
  | .error _ => []

theorem listed_of_not_succeeded {reply : Except Error Host.Completion}
    (hreply : ¬ Host.Succeeded reply) : listed reply = [] := by
  cases reply with
  | error e => rfl
  | ok c =>
    have hcode : ¬ c.code = 0 := fun hcode => hreply (Host.succeeded_ok.2 hcode)
    rw [listed, if_neg hcode]

theorem runs_output? {arguments : String} {o : Option String} :
    (v.output? arguments).Runs t o ↔ ∃ reply, t = [v.asked arguments reply] ∧
      o = match reply with
        | .ok c => if c.code = 0 then some c.stdout else none
        | .error _ => none := by
  refine Program.runs_bind.trans ?_
  constructor
  · rintro ⟨u, w, r, rfl, hu, hw⟩
    obtain ⟨reply, rfl, rfl⟩ := Action.runs_execute.1 hu
    rw [Host.Options.outcome_anyCode] at hw
    refine ⟨reply, ?_⟩
    rcases reply with e | c
    all_goals
      obtain ⟨rfl, rfl⟩ := hw
      exact ⟨rfl, rfl⟩
  · rintro ⟨reply, rfl, rfl⟩
    refine ⟨_, [], reply, rfl, Action.runs_execute.2 ⟨reply, rfl, ?_⟩, ?_⟩
    · rw [Host.Options.outcome_anyCode]
    · rcases reply with e | c <;> exact ⟨rfl, rfl⟩

/-- The query for a list of virtual machines. -/
def listArguments (all : Bool) : String :=
  if all then "list --all" else "list"

theorem runs_list {all : Bool} {vms : List Vm.Entry} :
    (v.list all).Runs t vms ↔
      ∃ reply, t = [v.asked (listArguments all) reply] ∧ vms = listed reply := by
  refine Program.runs_bind.trans ?_
  constructor
  · rintro ⟨u, w, o, rfl, hu, hw⟩
    obtain ⟨reply, rfl, rfl⟩ := runs_output?.1 hu
    refine ⟨reply, ?_⟩
    rcases reply with e | c
    · obtain ⟨rfl, rfl⟩ := hw
      exact ⟨rfl, rfl⟩
    · by_cases hcode : c.code = 0
      · simp only [hcode, if_true] at hw
        obtain ⟨rfl, rfl⟩ := hw
        exact ⟨rfl, by rw [listed, if_pos hcode]⟩
      · simp only [hcode, if_false] at hw
        obtain ⟨rfl, rfl⟩ := hw
        exact ⟨rfl, by rw [listed, if_neg hcode]⟩
  · rintro ⟨reply, rfl, rfl⟩
    refine ⟨_, [], _, rfl, runs_output?.2 ⟨reply, rfl, rfl⟩, ?_⟩
    rcases reply with e | c
    · exact ⟨rfl, rfl⟩
    · by_cases hcode : c.code = 0
      · simp only [listed, hcode, if_true]
        exact ⟨rfl, rfl⟩
      · simp only [listed, hcode, if_false]
        exact ⟨rfl, rfl⟩

theorem finite_output? (v : Virsh) (arguments : String) : (v.output? arguments).Finite := by
  refine Program.Finite.bind (Action.finite_execute _ _) fun r => ?_
  rcases r with e | c <;> exact trivial

theorem finite_list (v : Virsh) (all : Bool) : (v.list all).Finite := by
  refine Program.Finite.bind (v.finite_output? _) fun o => ?_
  cases o <;> exact trivial

/-! ## Repetitions -/

theorem finite_command (v : Virsh) (arguments : String) : (v.command arguments).Finite :=
  Action.finite_execute _ _

theorem finite_perform (v : Virsh) (arguments : String) : (v.perform arguments).Finite :=
  Action.finite_perform _ _

theorem finite_status (v : Virsh) (name : String) : (v.status name).Finite :=
  (v.finite_command _).bind fun _ => trivial

variable {allowed : Host.Request → Prop}

theorem uses_command {arguments : String}
    (h : allowed (.execute ("virsh " ++ arguments) v.options)) : (v.command arguments).Uses allowed :=
  Action.uses_execute h

theorem uses_output? {arguments : String}
    (h : allowed (.execute ("virsh " ++ arguments) v.options.anyCode)) :
    (v.output? arguments).Uses allowed := by
  refine Program.Uses.bind (Action.uses_execute h) fun r => ?_
  rcases r with e | c <;> exact trivial

theorem uses_perform {arguments : String}
    (h : allowed (.execute ("virsh " ++ arguments) v.options)) : (v.perform arguments).Uses allowed :=
  Action.uses_perform h

theorem uses_status {name : String}
    (h : allowed (.execute ("virsh " ++ ("dominfo " ++ name)) v.options)) :
    (v.status name).Uses allowed :=
  (Action.uses_execute h).bind fun _ => Action.uses_pure _

end VirtHost.Virsh
