import VirtHost.Hypervisor.Lifecycle
import VirtHost.Xml.Domain

/-! # Devices of virtual machines

* `writeFunctionXml` and its like: the XML of a device, rendered into a file of the host.
* `attachDevice`, `attachFunction` and their like: a device is attached or detached. The change is
  written to the configuration unless the virtual machine is running.
* `detachAll`: every device that is passed through to the given virtual machines.
* What a domain XML says about devices.
-/

namespace VirtHost.Hypervisor
open Text (hexadecimal)
set_option autoImplicit false

/-! ## Device files -/

/-- Writes the XML that passes the function at an address through; gives the path. -/
def writeFunctionXml (h : Hypervisor) (file : String) (pci : Pci.Address) : Action String := do
  let template ← h.template .virtualFunction
  Host.write file (Template.virtualFunction template pci)
  pure file

/-- Writes the XML of a controller; gives the path. -/
def writeControllerXml (h : Hypervisor) (file : String) (pci : Pci.Address)
    (index chassis port : Nat) : Action String := do
  let template ← h.template .controller
  Host.write file (Template.controller template pci index chassis port)
  pure file

/-- Writes the XML of a mediated device; gives the path. -/
def writeMediatedXml (h : Hypervisor) (file uuid : String) : Action String := do
  let template ← h.template .mediated
  Host.write file (Template.mediated template uuid)
  pure file

/-- The name of the device file of a virtual function: the four numbers of its address. -/
def functionFileName (pci : Pci.Address) : String :=
  "vf_" ++ String.ofList (hexadecimal 4 pci.domain.toNat) ++ "_"
    ++ String.ofList (hexadecimal 2 pci.bus.toNat) ++ "_"
    ++ String.ofList (hexadecimal 2 pci.slot.toNat) ++ "_"
    ++ String.ofList (hexadecimal 1 pci.function.toNat) ++ ".xml"

def functionFile (h : Hypervisor) (pci : Pci.Address) : String :=
  h.workFile (functionFileName pci)

/-! ## Attaching and detaching -/

/-- The state of a virtual machine; one that is not reported is `unknown`. -/
def currentState (h : Hypervisor) (name : String) : Action Vm.State := do
  let status ← h.tool.status name
  pure (status.state?.getD (.other "unknown"))

def attachDevice (h : Hypervisor) (name file : String) : Action Unit := do
  let state ← h.currentState name
  h.tool.attachDevice name file state

def detachDevice (h : Hypervisor) (name file : String) : Action Unit := do
  let state ← h.currentState name
  h.tool.detachDevice name file state

def attachFunction (h : Hypervisor) (name : String) (pci : Pci.Address) : Action Unit := do
  let file ← h.writeFunctionXml (h.functionFile pci) pci
  h.attachDevice name file

def detachFunction (h : Hypervisor) (name : String) (pci : Pci.Address) : Action Unit := do
  let file ← h.writeFunctionXml (h.functionFile pci) pci
  h.detachDevice name file

def detachMac (h : Hypervisor) (name mac : String) : Action Unit := do
  let state ← h.currentState name
  h.tool.detachInterface name mac state

/-! ## What a domain says -/

def passthroughs (h : Hypervisor) (name : String) : Action (List Passthrough) := do
  let domain ← h.tool.domain name
  Action.ofExcept (Xml.Domain.passthroughs domain)

def mediatedDevices (h : Hypervisor) (name : String) : Action (List MediatedDevice.Attached) := do
  let domain ← h.tool.domain name
  Action.ofExcept (Xml.Domain.mediatedDevices domain)

/-- The file of the disk of a virtual machine. -/
def diskPath (h : Hypervisor) (name : String) : Action String := do
  let domain ← h.tool.domain name
  match Xml.Domain.diskFile? domain with
  | some file => pure file
  | none => throw (.notFound ("HDD path for " ++ name ++ " not found in dumped xml!"))

/-! ## All devices -/

def detachPassthrough (h : Hypervisor) (name : String) (device : Passthrough) : Action Bool := do
  h.detachFunction name device.host
  pure true

/-- Detaches every device that is passed through to a virtual machine; whether all of them went. -/
def detachFrom (h : Hypervisor) (name : String) : Action Bool := do
  let devices ← h.passthroughs name
  Action.ofProgram (holdsForAll (h.detachPassthrough name) devices)

/-- Detaches every device that is passed through to some virtual machines; whether all of them went.
-/
def detachAll (h : Hypervisor) (names : List String) : Program Bool :=
  holdsForAll h.detachFrom names

end VirtHost.Hypervisor
