import VirtHost.Proofs.Hypervisor.Detachment
import VirtHost.Proofs.Hypervisor.Lifecycle

/-! # Batches of virtual machines

* `inOrder_of_runs_list`: the virtual machines of a list are dealt with in the order of the list.
* `seen_of_runs_stopAll`, `seen_of_runs_startAll`: what `true` means if the list could be read.
* `runs_stopAll_unlisted`, `runs_startAll_unlisted`: a list that cannot be read gives `true`.
* `batches_in_order`: what stopping, starting and detaching do to each virtual machine.
-/

namespace VirtHost.Hypervisor
open Host (Succeeded)
set_option autoImplicit false

variable {h : Hypervisor} {force : Bool} {t : List Exchange} {holds : Bool}

/-! ## Stopping and starting -/

theorem inOrder_of_runs_list {all : Bool} {step : Vm.Entry → Action Bool}
    {visit : Vm.Entry → List Exchange → Bool → Prop} (select : List Vm.Entry → List Vm.Entry)
    (hvisit : ∀ vm u o, (step vm).Runs u o → visit vm u (decide (o = .ok true)))
    (hrun : (do
      let vms ← h.tool.list all
      holdsForAll step (select vms) : Program Bool).Runs t holds) :
    ∃ reply rest, t = h.tool.asked (Virsh.listArguments all) reply :: rest ∧
      InOrder visit (select (Virsh.listed reply)) rest holds := by
  obtain ⟨u, rest, vms, rfl, hu, hrest⟩ := Program.runs_bind.1 hrun
  obtain ⟨reply, rfl, rfl⟩ := Virsh.runs_list.1 hu
  refine ⟨reply, rest, rfl, ?_⟩
  have hall : ∀ e ∈ rest, True := fun _ _ => trivial
  refine (runs_holdsForAll.1 hrest).imp ?_ hall
  rintro vm v b ⟨o, ho, rfl⟩ -
  exact hvisit vm v o ho

theorem inOrder_of_runs_stopAll (hrun : (h.stopAll force).Runs t holds) :
    ∃ reply rest, t = h.tool.asked "list" reply :: rest ∧
      InOrder (Powered h (stopSubcommand force) .shutOff) (Virsh.listed reply) rest holds :=
  inOrder_of_runs_list id (fun _ _ _ => powered_of_runs_stop) hrun

theorem inOrder_of_runs_startAll (hrun : h.startAll.Runs t holds) :
    ∃ reply rest, t = h.tool.asked "list --all" reply :: rest ∧
      InOrder (Powered h "start " .running)
        ((Virsh.listed reply).filter fun vm => !vm.state.isRunning) rest holds :=
  inOrder_of_runs_list (List.filter fun vm => !vm.state.isRunning)
    (fun _ _ _ => powered_of_runs_bringUp) hrun

theorem finite_stopAll (hinterval : h.settings.vmStateInterval ≠ 0) (force : Bool) :
    (h.stopAll force).Finite :=
  Program.Finite.bind (h.tool.finite_list false) (finite_holdsForAll (finite_stop hinterval force))

theorem finite_startAll (hinterval : h.settings.vmStateInterval ≠ 0) : h.startAll.Finite :=
  Program.Finite.bind (h.tool.finite_list true) fun _ => finite_holdsForAll (finite_bringUp hinterval) _

/-! ## What the outcome tells -/

/-- If the list was read, every virtual machine in it was seen off. -/
theorem seen_of_runs_stopAll (hrun : (h.stopAll force).Runs t true) :
    ∃ reply rest, t = h.tool.asked "list" reply :: rest ∧
      (Succeeded reply → ∀ vm ∈ Virsh.listed reply, h.Seen vm.name .shutOff rest) := by
  obtain ⟨reply, rest, rfl, hbatch⟩ := inOrder_of_runs_stopAll hrun
  refine ⟨reply, rest, rfl, fun _ vm hvm => ?_⟩
  obtain ⟨u, hu, hpowered⟩ := hbatch.exists_visit hvm
  exact hpowered.seen.mono hu

/-- If the list was read, every virtual machine in it was running or was seen running. -/
theorem seen_of_runs_startAll (hrun : h.startAll.Runs t true) :
    ∃ reply rest, t = h.tool.asked "list --all" reply :: rest ∧
      (Succeeded reply → ∀ vm ∈ Virsh.listed reply,
        vm.state = .running ∨ h.Seen vm.name .running rest) := by
  obtain ⟨reply, rest, rfl, hbatch⟩ := inOrder_of_runs_startAll hrun
  refine ⟨reply, rest, rfl, fun _ vm hvm => ?_⟩
  by_cases hrunning : vm.state = .running
  · exact .inl hrunning
  · have hselected : vm ∈ (Virsh.listed reply).filter fun vm => !vm.state.isRunning :=
      List.mem_filter.2 ⟨hvm, by simpa [Vm.State.isRunning] using hrunning⟩
    obtain ⟨u, hu, hpowered⟩ := hbatch.exists_visit hselected
    exact .inr (hpowered.seen.mono hu)

/-- A batch over a list that cannot be read is over at once, with `true`. -/
theorem runs_list_unlisted {all : Bool} {step : Vm.Entry → Action Bool}
    (select : List Vm.Entry → List Vm.Entry) (hselect : select [] = [])
    {reply : Except Error Host.Completion} (hreply : ¬ Succeeded reply) :
    (do
      let vms ← h.tool.list all
      holdsForAll step (select vms) : Program Bool).Runs
        (h.tool.asked (Virsh.listArguments all) reply :: t) holds ↔ t = [] ∧ holds = true := by
  have hempty : select (Virsh.listed reply) = [] := by
    rw [Virsh.listed_of_not_succeeded hreply, hselect]
  constructor
  · intro hrun
    obtain ⟨u, rest, vms, ht, hu, hrest⟩ := Program.runs_bind.1 hrun
    obtain ⟨reply', rfl, rfl⟩ := Virsh.runs_list.1 hu
    obtain ⟨hasked, rfl⟩ := List.cons.inj ht
    obtain rfl : reply = reply' := by
      simpa [Virsh.asked, Exchange.ran] using hasked
    rw [hempty] at hrest
    exact hrest
  · rintro ⟨rfl, rfl⟩
    refine Program.runs_bind.2 ⟨_, [], _, rfl, Virsh.runs_list.2 ⟨reply, rfl, rfl⟩, ?_⟩
    rw [hempty]
    exact ⟨rfl, rfl⟩

theorem runs_stopAll_unlisted {reply : Except Error Host.Completion} (hreply : ¬ Succeeded reply) :
    (h.stopAll force).Runs (h.tool.asked "list" reply :: t) holds ↔ t = [] ∧ holds = true :=
  runs_list_unlisted id rfl hreply

theorem runs_startAll_unlisted {reply : Except Error Host.Completion} (hreply : ¬ Succeeded reply) :
    h.startAll.Runs (h.tool.asked "list --all" reply :: t) holds ↔ t = [] ∧ holds = true :=
  runs_list_unlisted (List.filter fun vm => !vm.state.isRunning) rfl hreply

/-! ## Detaching -/

theorem inOrder_of_runs_detachAll {names : List String}
    (htemplate : h.settings.templates.virtualFunction = none) (hserved : ∀ e ∈ t, e.Served)
    (hrun : (h.detachAll names).Runs t holds) : InOrder (Swept h) names t holds := by
  refine (runs_holdsForAll.1 hrun).imp ?_ hserved
  rintro name u b ⟨o, ho, rfl⟩ hu
  exact swept_of_runs htemplate hu ho

/-- **Batches.** The virtual machines of a list are stopped or started in the order of the list, those
that are running being left alone when all are started; the devices of some virtual machines are
detached in their order. Nothing is left out after a failure and nothing is done twice. -/
theorem batches_in_order (h : Hypervisor) :
    (∀ force t holds, (h.stopAll force).Runs t holds →
      ∃ reply rest, t = h.tool.asked "list" reply :: rest ∧
        InOrder (Powered h (stopSubcommand force) .shutOff) (Virsh.listed reply) rest holds) ∧
    (∀ t holds, h.startAll.Runs t holds →
      ∃ reply rest, t = h.tool.asked "list --all" reply :: rest ∧
        InOrder (Powered h "start " .running)
          ((Virsh.listed reply).filter fun vm => !vm.state.isRunning) rest holds) ∧
    (h.settings.vmStateInterval ≠ 0 → ∀ {σ : Type} (host : Host σ) rounds s,
      (∀ force, ∃ holds s', (h.stopAll force).run host rounds s = some (holds, s')) ∧
        ∃ holds s', h.startAll.run host rounds s = some (holds, s')) ∧
    (h.settings.templates.virtualFunction = none → ∀ names t holds,
      (h.detachAll names).Runs t holds → (∀ e ∈ t, e.Served) → InOrder (Swept h) names t holds) ∧
    (∀ names {σ : Type} (host : Host σ) rounds s,
      ∃ holds s', (h.detachAll names).run host rounds s = some (holds, s')) ∧
    ∀ xs ys,
      (∀ t holds, (h.detachAll (xs ++ ys)).Runs t holds ↔ ∃ u v first second, t = u ++ v ∧
        (h.detachAll xs).Runs u first ∧ (h.detachAll ys).Runs v second ∧
          holds = (first && second)) ∧
      ∀ {σ : Type} (host : Host σ) rounds s, (h.detachAll (xs ++ ys)).run host rounds s =
        ((h.detachAll xs).run host rounds s).bind fun first =>
          ((h.detachAll ys).run host rounds first.2).map fun second =>
            (first.1 && second.1, second.2) := by
  refine ⟨fun _ _ _ => inOrder_of_runs_stopAll, fun _ _ => inOrder_of_runs_startAll, ?_, ?_, ?_, ?_⟩
  · intro hinterval σ host rounds s
    exact ⟨fun force => (finite_stopAll hinterval force).exists_run host rounds s,
      (finite_startAll hinterval).exists_run host rounds s⟩
  · intro htemplate names t holds hrun hserved
    exact inOrder_of_runs_detachAll htemplate hserved hrun
  · intro names σ host rounds s
    exact (finite_holdsForAll h.finite_detachFrom names).exists_run host rounds s
  · intro xs ys
    exact ⟨fun _ _ => runs_holdsForAll_append, fun host rounds s => run_holdsForAll_append host rounds s⟩

/-! ## A failure in each batch -/

/-- The list of two virtual machines in some states. -/
def listOfTwo (first second : String) : Except Error Host.Completion :=
  Host.printed (" Id   Name   State\n----------\n 1    a      " ++ first ++ "\n 2    b      " ++ second ++ "\n")

/-- The first virtual machine refuses to shut down, the second one goes off. -/
def stoppingTwo : List Exchange :=
  let tool := ({} : Hypervisor).tool
  [tool.asked "list" (listOfTwo "running" "running"), tool.ran "shutdown a" (Host.refused ""),
    tool.ran "shutdown b" (Host.printed ""), tool.ran "dominfo b" (Host.printed "State: shut off")]

/-- The first virtual machine is running, the second one comes up. -/
def startingTwo : List Exchange :=
  let tool := ({} : Hypervisor).tool
  [tool.asked "list --all" (listOfTwo "running" "shut off"), tool.ran "start b" (Host.printed ""),
    tool.ran "dominfo b" (Host.printed "State: running")]

/-- A domain with one device that is passed through. -/
def domainOfOne : String :=
  "<domain><hostdev type='pci'><source><address domain='0' bus='1' slot='2' function='3'/></source>"
    ++ "<address domain='0' bus='0' slot='4' function='0'/></hostdev></domain>"

/-- The first virtual machine cannot be read, the second one loses its device. -/
def detachingTwo : List Exchange :=
  let h : Hypervisor := {}
  [h.tool.ran "dumpxml a" (Host.refused ""), h.tool.ran "dumpxml b" (Host.printed domainOfOne),
    h.writing ⟨0, 1, 2, 3⟩, h.tool.ran "dominfo b" (Host.printed "State: running"),
    h.tool.ran "detach-device b --file /tmp/vf_0000_01_02_3.xml" (Host.printed "")]

/-- Batches that go on after a failure. -/
theorem batches_in_order_two :
    let h : Hypervisor := {}
    ((h.stopAll false).Runs stoppingTwo false ∧
      ∃ reply rest, stoppingTwo = h.tool.asked "list" reply :: rest ∧
        InOrder (Powered h "shutdown " .shutOff) (Virsh.listed reply) rest false) ∧
    (h.startAll.Runs startingTwo true ∧
      ∃ reply rest, startingTwo = h.tool.asked "list --all" reply :: rest ∧
        InOrder (Powered h "start " .running)
          ((Virsh.listed reply).filter fun vm => !vm.state.isRunning) rest true) ∧
    (h.settings.vmStateInterval ≠ 0 ∧
      ∃ holds s', h.startAll.run Host.replaying 0 startingTwo = some (holds, s')) ∧
    (h.settings.templates.virtualFunction = none ∧ (h.detachAll ["a", "b"]).Runs detachingTwo false ∧
      (∀ e ∈ detachingTwo, e.Served) ∧ InOrder (Swept h) ["a", "b"] detachingTwo false) := by
  intro h
  obtain ⟨hstop, hstart, hreturns, hdetach, -, -⟩ := batches_in_order h
  have hstopping : (h.stopAll false).Runs stoppingTwo false :=
    Program.runs_of_play (by decide +kernel)
  have hstarting : h.startAll.Runs startingTwo true := Program.runs_of_play (by decide +kernel)
  have hdetaching : (h.detachAll ["a", "b"]).Runs detachingTwo false :=
    Program.runs_of_play (by decide +kernel)
  have hinterval : h.settings.vmStateInterval ≠ 0 := by decide
  have hserved : ∀ e ∈ detachingTwo, e.Served := by
    intro e he
    simp only [detachingTwo, List.mem_cons, List.not_mem_nil, or_false] at he
    rcases he with rfl | rfl | rfl | rfl | rfl <;> trivial
  exact ⟨⟨hstopping, hstop false _ _ hstopping⟩, ⟨hstarting, hstart _ _ hstarting⟩,
    ⟨hinterval, (hreturns hinterval Host.replaying 0 startingTwo).2⟩,
    rfl, hdetaching, hserved, hdetach rfl _ _ _ hdetaching hserved⟩

end VirtHost.Hypervisor
