import VirtHost.Proofs.Host.Poll
import VirtHost.Proofs.Hypervisor.CommandOptions
import VirtHost.Proofs.Hypervisor.InOrder

/-! # Commands for virtual machines

* `VmOperation`: what a caller can ask about the virtual machines of a host, and do with their power.
* `VmOperation.follows`: the commands for that are run as they are to be run. Only those for all virtual
  machines have texts in them that do not come from the caller.
-/

namespace VirtHost.Hypervisor
open Shell (Plain plain_append)
set_option autoImplicit false

variable {s : Settings} {trusted : Prop}

/-! ## Subcommands of virsh -/

theorem uses_perform {arguments : String} (h : trusted → Plain arguments) :
    ((ofSettings s).tool.perform arguments).Uses (Proper s trusted) :=
  Virsh.uses_perform (proper_virsh rfl rfl h)

theorem uses_command {arguments : String} (h : trusted → Plain arguments) :
    ((ofSettings s).tool.command arguments).Uses (Proper s trusted) :=
  Virsh.uses_command (proper_virsh rfl rfl h)

theorem uses_output? {arguments : String} (h : trusted → Plain arguments) :
    ((ofSettings s).tool.output? arguments).Uses (Proper s trusted) :=
  Virsh.uses_output? (proper_virsh rfl rfl h)

theorem uses_sleep (time : Duration) : (Host.sleep time).Uses (Proper s trusted) :=
  Action.Uses.ofProgram ⟨proper_sleep time, fun _ => trivial⟩

theorem uses_list (all : Bool) : ((ofSettings s).tool.list all).Uses (Proper s trusted) := by
  refine Program.Uses.bind (uses_output? fun _ => ?_) fun o => ?_
  · cases all <;> decide
  · cases o <;> exact trivial

/-- The names in a list of virtual machines are texts of the host. -/
theorem ensures_list (all : Bool) : ((ofSettings s).tool.list all).Ensures
    (fun e => trusted → e.Plain) (Proper s trusted) fun vms => trusted → ∀ vm ∈ vms, Plain vm.name := by
  refine Program.ensures_of_runs (uses_list all) fun t vms hrun hassumed ht => ?_
  obtain ⟨reply, rfl, rfl⟩ := Virsh.runs_list.1 hrun
  have hplain : (Virsh.asked _ _ reply).Plain := hassumed _ (List.mem_singleton.2 rfl) ht
  refine hplain ?_
  cases all
  · exact .inl rfl
  · exact .inr rfl

section
variable {name : String} (hname : trusted → Plain name)
include hname

theorem uses_status : ((ofSettings s).tool.status name).Uses (Proper s trusted) :=
  (uses_command fun ht => plain_append.2 ⟨by decide, hname ht⟩).bind fun _ => Action.uses_pure _

theorem uses_domain : ((ofSettings s).tool.domain name).Uses (Proper s trusted) :=
  (uses_command fun ht => plain_append.2 ⟨by decide, hname ht⟩).bind fun _ => trivial

theorem uses_firstMac : ((ofSettings s).tool.firstMac name).Uses (Proper s trusted) := by
  refine (uses_command fun ht => plain_append.2 ⟨by decide, hname ht⟩).bind fun completion => ?_
  split
  · exact Action.uses_pure _
  · exact Action.uses_throw _

/-! ## Power -/

theorem uses_start : ((ofSettings s).tool.start name).Uses (Proper s trusted) :=
  uses_perform fun ht => plain_append.2 ⟨by decide, hname ht⟩

theorem uses_awaitState (state : Vm.State) (timeout : Duration) :
    ((ofSettings s).awaitState name state timeout).Uses (Proper s trusted) := by
  refine Poll.uses_await ?_ proper_sleep
  exact (uses_status hname).bind fun _ => Action.uses_pure _

end

theorem uses_stop {force : Bool} {vm : Vm.Entry} (hname : trusted → Plain vm.name) :
    ((ofSettings s).stop force vm).Uses (Proper s trusted) := by
  have hawait : ((ofSettings s).awaitShutOff vm.name).Uses (Proper s trusted) :=
    uses_awaitState hname _ _
  cases force with
  | true => exact (uses_perform fun ht => plain_append.2 ⟨by decide, hname ht⟩).bind fun _ => hawait
  | false => exact (uses_perform fun ht => plain_append.2 ⟨by decide, hname ht⟩).bind fun _ => hawait

theorem uses_bringUp {vm : Vm.Entry} (hname : trusted → Plain vm.name) :
    ((ofSettings s).bringUp vm).Uses (Proper s trusted) :=
  (uses_start hname).bind fun _ => uses_awaitState hname _ _

theorem follows_stopAll (force : Bool) : Follows s trusted ((ofSettings s).stopAll force) := by
  refine Program.Ensures.bind ((ensures_list false).mono fun vms hvms => ?_)
  refine Follows.of_uses (uses_holdsForAll fun vm hvm => ?_)
  exact uses_stop fun ht => hvms ht vm hvm

theorem follows_startAll : Follows s trusted (ofSettings s).startAll := by
  refine Program.Ensures.bind ((ensures_list true).mono fun vms hvms => ?_)
  refine Follows.of_uses (uses_holdsForAll fun vm hvm => ?_)
  exact uses_bringUp fun ht => hvms ht vm (List.mem_filter.1 hvm).1

/-! ## Addresses -/

theorem uses_agentQueries {name : String} (hname : Plain name) (mac : String) (tries more : Nat)
    (answered : Bool) :
    ((ofSettings s).tool.agentQueries mac name tries answered more).Uses (Proper s trusted) := by
  induction more generalizing answered with
  | zero => exact Action.uses_throw _
  | succ more ih =>
    have hquery : Proper s trusted (.execute ("virsh " ++ "domifaddr " ++ name ++ " --source agent")
        (ofSettings s).tool.options.anyCode) := by
      rw [String.append_assoc, String.append_assoc]
      exact proper_virsh rfl rfl fun _ => by simp +decide [hname]
    refine (Action.uses_execute hquery).bind fun completion => ?_
    dsimp only
    split
    · exact Action.uses_pure _
    · split
      · exact (uses_sleep _).bind fun _ => ih _
      · exact ih _

theorem uses_leaseQueries {network : String} (hnetwork : trusted → Plain network) (mac : String)
    (more : Nat) : ((ofSettings s).tool.leaseQueries mac network more).Uses (Proper s trusted) := by
  induction more with
  | zero => exact Action.uses_throw _
  | succ more ih =>
    have hleases : ((ofSettings s).tool.leases network).Uses (Proper s trusted) :=
      (uses_command fun ht => plain_append.2 ⟨by decide, hnetwork ht⟩).bind fun _ => Action.uses_pure _
    refine hleases.bind fun table => ?_
    split
    · exact Action.uses_pure _
    · split
      · exact (uses_sleep _).bind fun _ => ih
      · exact ih

/-! ## Operations -/

/-- What can be asked about the virtual machines of a host, and done with their power. The texts of a
caller are plain. -/
inductive VmOperation (h : Hypervisor) : {α : Type} → Program α → Prop
  | list (all : Bool) : VmOperation h (h.tool.list all)
  | status {name : String} (hname : Plain name) : VmOperation h (h.tool.status name).attempt
  | domain {name : String} (hname : Plain name) : VmOperation h (h.tool.domain name).attempt
  | domainText {name : String} (hname : Plain name) : VmOperation h (h.tool.domainText? name)
  | start {name : String} (hname : Plain name) : VmOperation h (h.tool.start name).attempt
  | destroy {name : String} (hname : Plain name) : VmOperation h (h.tool.destroy name).attempt
  | shutdown {name : String} (hname : Plain name) : VmOperation h (h.tool.shutdown name).attempt
  | reboot {name : String} (hname : Plain name) : VmOperation h (h.tool.reboot name).attempt
  | reset {name : String} (hname : Plain name) : VmOperation h (h.tool.reset name).attempt
  | undefine {name : String} (hname : Plain name) : VmOperation h (h.tool.undefine name).attempt
  | setVcpus {name : String} (hname : Plain name) (count : Nat) :
    VmOperation h (h.tool.setVcpus name count).attempt
  | setVcpusLimit {name : String} (hname : Plain name) (count : Nat) :
    VmOperation h (h.tool.setVcpusLimit name count).attempt
  | awaitState {name : String} (hname : Plain name) (state : Vm.State) (timeout : Duration) :
    VmOperation h (h.awaitState name state timeout).attempt
  | awaitRunning {name : String} (hname : Plain name) : VmOperation h (h.awaitRunning name).attempt
  | awaitShutOff {name : String} (hname : Plain name) : VmOperation h (h.awaitShutOff name).attempt
  | stopAll (force : Bool) : VmOperation h (h.stopAll force)
  | startAll : VmOperation h h.startAll
  | firstMac {name : String} (hname : Plain name) : VmOperation h (h.tool.firstMac name).attempt
  | agentAddress {name : String} (hname : Plain name) (mac : String) :
    VmOperation h (h.agentAddress mac name).attempt
  | leasedAddress (mac : String) : VmOperation h (h.leasedAddress mac).attempt
  | managementAddress {name : String} (hname : Plain name) :
    VmOperation h (h.managementAddress name).attempt

theorem VmOperation.follows (hsettings : trusted → s.Plain) {α : Type} {p : Program α}
    (hp : VmOperation (ofSettings s) p) : Follows s trusted p := by
  cases hp with
  | list all => exact .of_uses (uses_list all)
  | status hname => exact .of_uses (uses_status fun _ => hname)
  | domain hname => exact .of_uses (uses_domain fun _ => hname)
  | domainText hname =>
    exact .of_uses (uses_output? fun _ => plain_append.2 ⟨by decide, hname⟩)
  | start hname => exact .of_uses (uses_start fun _ => hname)
  | destroy hname | shutdown hname | reboot hname | reset hname | undefine hname =>
    exact .of_uses (uses_perform fun _ => plain_append.2 ⟨by decide, hname⟩)
  | setVcpus hname count | setVcpusLimit hname count =>
    exact .of_uses (uses_perform fun _ => by simp +decide [hname])
  | awaitState hname state timeout => exact .of_uses (uses_awaitState (fun _ => hname) state timeout)
  | awaitRunning hname | awaitShutOff hname => exact .of_uses (uses_awaitState (fun _ => hname) _ _)
  | stopAll force => exact follows_stopAll force
  | startAll => exact follows_startAll
  | firstMac hname => exact .of_uses (uses_firstMac fun _ => hname)
  | agentAddress hname mac => exact .of_uses (uses_agentQueries hname mac _ _ _)
  | leasedAddress mac => exact .of_uses (uses_leaseQueries (fun ht => (hsettings ht).dhcpNetwork) mac _)
  | @managementAddress name hname =>
    have hmac : ((ofSettings s).tool.firstMac name).Uses (Proper s trusted) :=
      uses_firstMac fun _ => hname
    refine .of_uses (Action.Uses.bind (Program.Uses.mapError hmac) fun mac => ?_)
    exact uses_agentQueries hname mac _ _ _

end VirtHost.Hypervisor
