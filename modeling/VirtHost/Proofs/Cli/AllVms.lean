import VirtHost.Proofs.Cli.Job
import VirtHost.Proofs.Hypervisor.Batches

/-! # Whether all virtual machines were stopped or started

* `all_seen_or_unlisted`: what the outcome means, and what the commands of the program make of it.
* `unlisted_succeeds`: a host without a list on which everything is said to be stopped and started.
-/

namespace VirtHost.Cli
open Host (Succeeded)
set_option autoImplicit false

/-- **Stopping and starting all virtual machines.** If the list of virtual machines was read, `true`
means that every one of them was seen off or running. If it could not be read, nothing is done and the
outcome is `true` as well. A command succeeds exactly if the outcome is `true`. -/
theorem all_seen_or_unlisted (h : Hypervisor) :
    (∀ force t, (h.stopAll force).Runs t true →
      ∃ reply rest, t = h.tool.asked "list" reply :: rest ∧
        (Succeeded reply → ∀ vm ∈ Virsh.listed reply, h.Seen vm.name .shutOff rest)) ∧
    (∀ t, h.startAll.Runs t true →
      ∃ reply rest, t = h.tool.asked "list --all" reply :: rest ∧
        (Succeeded reply → ∀ vm ∈ Virsh.listed reply,
          vm.state = .running ∨ h.Seen vm.name .running rest)) ∧
    (∀ reply, ¬ Succeeded reply → ∀ t holds,
      (∀ force, (h.stopAll force).Runs (h.tool.asked "list" reply :: t) holds ↔
        t = [] ∧ holds = true) ∧
      (h.startAll.Runs (h.tool.asked "list --all" reply :: t) holds ↔ t = [] ∧ holds = true)) ∧
    (∀ force t r, (run h (.stopAll force)).Runs t r ↔ ∃ stopped, (h.stopAll force).Runs t stopped ∧
      r = if stopped then .ok none else .error (.unmet "Not every VM stopped")) ∧
    ∀ t r, (run h .startAll).Runs t r ↔ ∃ started, h.startAll.Runs t started ∧
      r = if started then .ok none else .error (.unmet "Not every VM started") := by
  refine ⟨fun _ _ => Hypervisor.seen_of_runs_stopAll, fun _ => Hypervisor.seen_of_runs_startAll, ?_,
    fun _ _ _ => Job.runs_allOrNothing, fun _ _ => Job.runs_allOrNothing⟩
  intro reply hreply t holds
  exact ⟨fun force => Hypervisor.runs_stopAll_unlisted hreply, Hypervisor.runs_startAll_unlisted hreply⟩

/-- Two virtual machines are asked to shut down and are seen off. -/
def stoppingBoth : List Exchange :=
  let tool := ({} : Hypervisor).tool
  [tool.asked "list" (Hypervisor.listOfTwo "running" "running"),
    tool.ran "shutdown a" (Host.printed ""), tool.ran "dominfo a" (Host.printed "State: shut off"),
    tool.ran "shutdown b" (Host.printed ""), tool.ran "dominfo b" (Host.printed "State: shut off")]

/-- Both virtual machines of a list go off, one of them comes up, and a list is refused. -/
theorem all_seen_or_unlisted_two :
    let h : Hypervisor := {}
    let refusal := Host.refused "error: failed to connect to the hypervisor"
    ((h.stopAll false).Runs stoppingBoth true ∧
      ∃ reply rest, stoppingBoth = h.tool.asked "list" reply :: rest ∧
        (Succeeded reply → ∀ vm ∈ Virsh.listed reply, h.Seen vm.name .shutOff rest)) ∧
    (h.startAll.Runs Hypervisor.startingTwo true ∧
      ∃ reply rest, Hypervisor.startingTwo = h.tool.asked "list --all" reply :: rest ∧
        (Succeeded reply → ∀ vm ∈ Virsh.listed reply,
          vm.state = .running ∨ h.Seen vm.name .running rest)) ∧
    ¬ Succeeded refusal ∧ (run h .startAll).Runs [h.tool.asked "list --all" refusal] (.ok none) := by
  intro h refusal
  obtain ⟨hstop, hstart, hunlisted, -, hcommand⟩ := all_seen_or_unlisted h
  have hstopping : (h.stopAll false).Runs stoppingBoth true :=
    Program.runs_of_play (by decide +kernel)
  have hstarting : h.startAll.Runs Hypervisor.startingTwo true :=
    Program.runs_of_play (by decide +kernel)
  have hrefusal : ¬ Succeeded refusal := by simp [refusal, Host.refused]
  have htrue : h.startAll.Runs [h.tool.asked "list --all" refusal] true :=
    (hunlisted refusal hrefusal [] true).2.2 ⟨rfl, rfl⟩
  exact ⟨⟨hstopping, hstop _ _ hstopping⟩, ⟨hstarting, hstart _ hstarting⟩, hrefusal,
    (hcommand _ _).2 ⟨true, htrue, rfl⟩⟩

/-- A host without a list of its virtual machines, on which all of them are said to be stopped and
started. -/
theorem unlisted_succeeds :
    let h : Hypervisor := {}
    let refusal := Host.refused "error: failed to connect to the hypervisor"
    ¬ Succeeded refusal ∧
      (h.stopAll false).Runs [h.tool.asked "list" refusal] true ∧
      h.startAll.Runs [h.tool.asked "list --all" refusal] true ∧
      (run h (.stopAll false)).Runs [h.tool.asked "list" refusal] (.ok none) ∧
      (run h .startAll).Runs [h.tool.asked "list --all" refusal] (.ok none) := by
  intro h refusal
  have hstopped : (h.stopAll false).Runs [h.tool.asked "list" refusal] true :=
    Program.runs_of_play (by decide +kernel)
  have hstarted : h.startAll.Runs [h.tool.asked "list --all" refusal] true :=
    Program.runs_of_play (by decide +kernel)
  exact ⟨by simp [refusal, Host.refused], hstopped, hstarted,
    Job.runs_allOrNothing.2 ⟨true, hstopped, rfl⟩, Job.runs_allOrNothing.2 ⟨true, hstarted, rfl⟩⟩

end VirtHost.Cli
