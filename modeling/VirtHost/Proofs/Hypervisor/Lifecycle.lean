import VirtHost.Hypervisor.Lifecycle
import VirtHost.Proofs.Host.Poll
import VirtHost.Proofs.Virsh

/-! # Runs that start and stop

* `Seen`: a report on a virtual machine that shows a state.
* `Powered`: one virtual machine is started or stopped, and waited for.
* `powered_of_runs_stop`, `powered_of_runs_bringUp`: that is what stopping and starting one virtual machine
  do.
* `Powered.seen`: one that was waited for with success was seen in its state.
-/

namespace VirtHost.Hypervisor
open Host (Succeeded)
set_option autoImplicit false

variable {h : Hypervisor} {name : String} {state : Vm.State} {t : List Exchange}

/-! ## Waiting for a state -/

/-- The state in a report on a virtual machine, if the report could be had. -/
def Seen (h : Hypervisor) (name : String) (state : Vm.State) (t : List Exchange) : Prop :=
  ∃ c, h.tool.ran ("dominfo " ++ name) (.ok c) ∈ t ∧ c.code = 0 ∧
    (Listing.status c.stdout).state? = some state

theorem Seen.mono {u : List Exchange} (hseen : h.Seen name state u) (hu : u ⊆ t) :
    h.Seen name state t := by
  obtain ⟨c, hmem, hc⟩ := hseen
  exact ⟨c, hu hmem, hc⟩

theorem runs_isInState {r : Except Error Bool} :
    (h.isInState name state).Runs t r ↔ ∃ reply, t = [h.tool.ran ("dominfo " ++ name) reply] ∧
      r = (h.tool.outcome reply).map fun c =>
        decide ((Listing.status c.stdout).state? = some state) :=
  Virsh.runs_status_map

theorem finite_isInState (h : Hypervisor) (name : String) (state : Vm.State) :
    (h.isInState name state).Finite :=
  (h.tool.finite_status name).bind fun _ => Action.finite_pure _

/-- A virtual machine that is looked at in intervals is not waited for without end. -/
theorem finite_awaitState (hinterval : h.settings.vmStateInterval ≠ 0) (name : String)
    (state : Vm.State) (timeout : Duration) : (h.awaitState name state timeout).Finite :=
  Poll.finite_await (Poll.millis_ne_zero hinterval) (h.finite_isInState name state)

/-- A virtual machine is asked for its state once or more. -/
theorem commandsOf_awaitState {timeout : Duration} {r : Except Error Bool}
    (hrun : (h.awaitState name state timeout).Runs t r) :
    ∃ more, commandsOf t = List.replicate (more + 1) ("virsh " ++ ("dominfo " ++ name)) := by
  refine Poll.Checked.commandsOf_eq (fun u o hcheck => ?_) (Poll.checked_of_runs hrun)
  obtain ⟨reply, rfl, -⟩ := runs_isInState.1 hcheck
  rfl

/-- A virtual machine that reached a state in time was seen in it. -/
theorem seen_of_runs_awaitState {timeout : Duration}
    (hrun : (h.awaitState name state timeout).Runs t (.ok true)) : h.Seen name state t := by
  obtain ⟨u, v, rfl, hcheck⟩ := (Poll.checked_of_runs hrun).exists_last
  obtain ⟨reply, rfl, hreply⟩ := runs_isInState.1 hcheck
  cases ho : h.tool.outcome reply with
  | error e =>
    rw [ho] at hreply
    cases hreply
  | ok c =>
    have hstate : (Listing.status c.stdout).state? = some state := by
      simpa [ho, Except.map] using hreply
    obtain ⟨rfl, hcode⟩ := Virsh.outcome_eq_ok_iff.1 ho
    exact ⟨c, by simp, hcode, hstate⟩

/-! ## One virtual machine -/

/-- One virtual machine is started or stopped by a subcommand, once. If that succeeds, it is asked for
its state until the wait for it is over; it holds if the wait ends with `true`. -/
inductive Powered (h : Hypervisor) (subcommand : String) (state : Vm.State) (vm : Vm.Entry) :
    List Exchange → Bool → Prop
  | refused {reply : Except Error Host.Completion} (hreply : ¬ Succeeded reply) :
      Powered h subcommand state vm [h.tool.ran (subcommand ++ vm.name) reply] false
  | awaited {reply : Except Error Host.Completion} {polls : List Exchange} {o : Except Error Bool}
      {more : Nat} (hreply : Succeeded reply)
      (hpolls : (h.awaitState vm.name state h.stateTimeout).Runs polls o)
      (hcommands : commandsOf polls = List.replicate (more + 1) ("virsh " ++ ("dominfo " ++ vm.name))) :
      Powered h subcommand state vm (h.tool.ran (subcommand ++ vm.name) reply :: polls)
        (decide (o = .ok true))

theorem Powered.seen {subcommand : String} {vm : Vm.Entry}
    (hpowered : Powered h subcommand state vm t true) : h.Seen vm.name state t := by
  generalize hholds : true = holds at hpowered
  cases hpowered with
  | refused _ => cases hholds
  | @awaited _ polls o _ _ hpolls _ =>
    obtain rfl : o = .ok true := by simpa using hholds
    exact (seen_of_runs_awaitState hpolls).mono (List.subset_cons_self _ _)

theorem powered_of_runs {subcommand : String} {vm : Vm.Entry} {o : Except Error Bool}
    (hrun : (h.tool.perform (subcommand ++ vm.name) >>= fun _ =>
      h.awaitState vm.name state h.stateTimeout).Runs t o) :
    Powered h subcommand state vm t (decide (o = .ok true)) := by
  rcases Action.runs_bind.1 hrun with ⟨e, he, rfl⟩ | ⟨u, polls, x, rfl, hu, hpolls⟩
  · obtain ⟨reply, rfl, hreply⟩ := Virsh.runs_perform.1 he
    cases ho : h.tool.outcome reply with
    | error e' => exact .refused (Virsh.not_succeeded ho)
    | ok c =>
      rw [ho] at hreply
      cases hreply
  · obtain ⟨reply, rfl, hreply⟩ := Virsh.runs_perform.1 hu
    obtain ⟨more, hmore⟩ := commandsOf_awaitState hpolls
    cases ho : h.tool.outcome reply with
    | error e =>
      rw [ho] at hreply
      cases hreply
    | ok c => exact .awaited ⟨c, Virsh.outcome_eq_ok_iff.1 ho⟩ hpolls hmore

/-- The subcommand that stops a virtual machine. -/
def stopSubcommand (force : Bool) : String :=
  if force then "destroy " else "shutdown "

theorem powered_of_runs_stop {force : Bool} {vm : Vm.Entry} {o : Except Error Bool}
    (hrun : (h.stop force vm).Runs t o) :
    Powered h (stopSubcommand force) .shutOff vm t (decide (o = .ok true)) := by
  cases force with
  | true => exact powered_of_runs hrun
  | false => exact powered_of_runs hrun

theorem powered_of_runs_bringUp {vm : Vm.Entry} {o : Except Error Bool}
    (hrun : (h.bringUp vm).Runs t o) :
    Powered h "start " .running vm t (decide (o = .ok true)) :=
  powered_of_runs hrun

theorem finite_stop (hinterval : h.settings.vmStateInterval ≠ 0) (force : Bool) (vm : Vm.Entry) :
    (h.stop force vm).Finite := by
  cases force with
  | true => exact Action.Finite.bind (h.tool.finite_perform _) fun _ => finite_awaitState hinterval _ _ _
  | false => exact Action.Finite.bind (h.tool.finite_perform _) fun _ => finite_awaitState hinterval _ _ _

theorem finite_bringUp (hinterval : h.settings.vmStateInterval ≠ 0) (vm : Vm.Entry) :
    (h.bringUp vm).Finite :=
  Action.Finite.bind (h.tool.finite_perform _) fun _ => finite_awaitState hinterval _ _ _

end VirtHost.Hypervisor
