import VirtHost.Hypervisor.Basic

/-! # Starting and stopping

* `awaitState`, `awaitRunning`, `awaitShutOff`: whether a virtual machine reaches a state in time.
* `stopAll`, `startAll`: every virtual machine is attempted, whatever happens to the others.
* `managementAddress`: the address of a guest.
-/

namespace VirtHost.Hypervisor
set_option autoImplicit false

/-! ## States -/

def isInState (h : Hypervisor) (name : String) (state : Vm.State) : Action Bool := do
  let status ← h.tool.status name
  pure (status.state? = some state)

/-- Whether a virtual machine reaches a state within a time. -/
def awaitState (h : Hypervisor) (name : String) (state : Vm.State) (timeout : Duration) :
    Action Bool :=
  Poll.await ⟨timeout, Duration.ofSeconds h.settings.vmStateInterval⟩ (h.isInState name state)

def awaitRunning (h : Hypervisor) (name : String) : Action Bool :=
  h.awaitState name .running h.stateTimeout

def awaitShutOff (h : Hypervisor) (name : String) : Action Bool :=
  h.awaitState name .shutOff h.stateTimeout

/-! ## All virtual machines -/

/-- Does something for each element; whether it succeeded with `true` for all of them. -/
def holdsForAll {α : Type} (step : α → Action Bool) : List α → Program Bool
  | [] => pure true
  | a :: rest => do
    let outcome ← (step a).attempt
    let others ← holdsForAll step rest
    pure ((match outcome with
      | .ok b => b
      | .error _ => false) && others)

/-- Stops a virtual machine, at once or by asking it, and waits until it is off. -/
def stop (h : Hypervisor) (force : Bool) (vm : Vm.Entry) : Action Bool := do
  if force then h.tool.destroy vm.name else h.tool.shutdown vm.name
  h.awaitShutOff vm.name

/-- Stops every running virtual machine; whether all of them went off. -/
def stopAll (h : Hypervisor) (force : Bool) : Program Bool := do
  let vms ← h.tool.list false
  holdsForAll (h.stop force) vms

/-- Starts a virtual machine and waits until it is running. -/
def bringUp (h : Hypervisor) (vm : Vm.Entry) : Action Bool := do
  h.tool.start vm.name
  h.awaitRunning vm.name

/-- Starts every virtual machine that is not running; whether all of them came up. -/
def startAll (h : Hypervisor) : Program Bool := do
  let vms ← h.tool.list true
  holdsForAll h.bringUp (vms.filter fun vm => !vm.state.isRunning)

/-! ## Management address -/

def agentAddress (h : Hypervisor) (mac name : String) : Action Ipv4 :=
  h.tool.agentAddress mac name h.settings.managementIpTries

/-- The address that the network of the settings has leased to a MAC. -/
def leasedAddress (h : Hypervisor) (mac : String) : Action Ipv4 :=
  h.tool.leasedAddress mac h.settings.dhcpNetwork

/-- The address of a guest, found through the MAC of its first interface. -/
def managementAddress (h : Hypervisor) (name : String) : Action Ipv4 := do
  let mac ← (h.tool.firstMac name).withError fun _ =>
    .notFound ("Cannot find MAC address for VM: " ++ name)
  h.agentAddress mac name

end VirtHost.Hypervisor
