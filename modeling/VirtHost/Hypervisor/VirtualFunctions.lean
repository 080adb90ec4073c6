import VirtHost.Command.Host
import VirtHost.Hypervisor.Basic
import VirtHost.Listing.Host

/-! # Virtual functions of a host

A physical function is named by its interface or by its PCI address; either way its device has a
directory, in which the virtual functions are links.

* Enumeration: ids and addresses, and one from the other.
* Counting: `setCount`, `checkCount`. A busy device is set to no virtual functions first.
* Details: what an interface reports, and the driver that holds a virtual function.
-/

namespace VirtHost.Hypervisor
open Text (decimal)
set_option autoImplicit false

/-! ## Enumeration -/

/-- The links that a listing command prints. The listings have patterns, so a shell runs them. -/
def linksOf (command : String) : Action (List VirtualFunction.Link) := do
  let completion ← Host.execute command ({} : Host.Options).inShell
  Action.ofExcept (Listing.virtualFunctionLinks completion.stdout)

/-- The ids of the virtual functions of an interface in ascending order. -/
def functionIds (interface : String) : Action (List Nat) := do
  let links ← linksOf (Command.listVirtualFunctions (Command.interfaceDirectory interface))
  if links.isEmpty then
    throw (.virtualFunction ("Not found VFs for interface " ++ interface ++ "."))
  else pure ((links.map (·.id)).mergeSort fun a b => decide (a ≤ b))

/-- The address of a virtual function in a directory; `owner` names the physical function. -/
def functionAddress (directory owner : String) (id : Nat) : Action Pci.Address := do
  let links ← linksOf (Command.listVirtualFunction directory id)
  match links.head? with
  | some link => pure link.target
  | none => throw (.virtualFunction ("Not found VF " ++ decimal id ++ " for " ++ owner ++ "."))

def addressOfFunction (interface : String) (id : Nat) : Action Pci.Address :=
  functionAddress (Command.interfaceDirectory interface) ("interface " ++ interface) id

def addressOfFunctionAt (pf : Pci.Address) (id : Nat) : Action Pci.Address :=
  functionAddress (Command.deviceDirectory pf) ("PF PCI Address " ++ pf.text) id

def functionAddresses (interface : String) : Action (List Pci.Address) := do
  let links ← linksOf (Command.listVirtualFunctions (Command.interfaceDirectory interface))
  pure (links.map (·.target))

/-- The addresses of the virtual functions of the device at an address. They are on the domain and the
bus of the device; slot and function come from the links. -/
def functionAddressesAt (pf : Pci.Address) : Action (List Pci.Address) := do
  let links ← linksOf (Command.listVirtualFunctions (Command.deviceDirectory pf))
  pure (links.map fun link => { pf with slot := link.target.slot, function := link.target.function })

/-- The id of the virtual function in a directory that has the slot and the function of an address;
`missing` is the wording for none. -/
def functionId (directory missing : String) (pci : Pci.Address) : Action Nat := do
  let links ← linksOf (Command.listVirtualFunctions directory)
  match links.find? fun link =>
      link.target.slot = pci.slot ∧ link.target.function = pci.function with
  | some link => pure link.id
  | none => throw (.virtualFunction missing)

def idOfFunction (interface : String) (pci : Pci.Address) : Action Nat :=
  functionId (Command.interfaceDirectory interface)
    ("Not matched VFs for interface " ++ interface ++ ".") pci

def idOfFunctionAt (pf vf : Pci.Address) : Action Nat :=
  functionId (Command.deviceDirectory pf) ("Not matched VFs for PF PCI Address " ++ pf.text) vf

/-! ## Counting -/

/-- The error output of a device whose virtual functions cannot be changed in one step. -/
def deviceBusy : String :=
  "Device or resource busy"

/-- The error output of a listing without any link. -/
def noSuchFile : String :=
  "No such file or directory"

/-- Writes the number of virtual functions of the device with a directory. If the device is busy, the
number is set to zero and then written once more. -/
def writeCount (h : Hypervisor) (directory : String) (count : Nat) : Action Unit := do
  let options := ({} : Host.Options).inShell.within (Duration.ofSeconds h.settings.sysfsTimeout)
  let completion ←
    Host.execute (Command.setVirtualFunctions directory count) (options.expecting [0, 1])
  if completion.code = 0 then pure ()
  else if Text.includes completion.stderr deviceBusy then
    perform (Command.setVirtualFunctions directory 0) options
    perform (Command.setVirtualFunctions directory count) options
  else throw completion.failure

/-- The number of virtual functions in a directory; a listing without any link counts as zero. -/
def countFunctions (directory : String) : Action Nat := do
  let completion ←
    Host.execute (Command.listVirtualFunctions directory) ({} : Host.Options).inShell.anyCode
  if completion.code = 0 then
    let links ← Action.ofExcept (Listing.virtualFunctionLinks completion.stdout)
    pure links.length
  else if Text.includes completion.stderr noSuchFile then pure 0
  else throw completion.failure

/-- Whether a directory has an expected number of virtual functions; another number is an error. -/
def checkCountIn (directory : String) (count : Nat) : Action Unit := do
  let actual ← countFunctions directory
  if actual = count then pure () else throw (.vfCountMismatch count actual)

def checkCount (interface : String) (count : Nat) : Action Unit :=
  checkCountIn (Command.interfaceDirectory interface) count

def checkCountAt (pf : Pci.Address) (count : Nat) : Action Unit :=
  checkCountIn (Command.deviceDirectory pf) count

/-- Sets the number of virtual functions in a directory and checks it if asked to. -/
def setCountIn (h : Hypervisor) (directory : String) (count : Nat) (check : Bool) :
    Action Unit := do
  h.writeCount directory count
  if check then checkCountIn directory count

/-- A command that fails on an interface tells that there is no such interface. -/
def interfaceError (interface : String) : Error → Error
  | .execution _ _ _ _ => .interfaceNotFound interface
  | error => error

def setCount (h : Hypervisor) (interface : String) (count : Nat) (check : Bool) : Action Unit := do
  (perform (Command.listInterface interface)).withError (interfaceError interface)
  h.setCountIn (Command.interfaceDirectory interface) count check

def setCountAt (h : Hypervisor) (pf : Pci.Address) (count : Nat) (check : Bool) : Action Unit :=
  h.setCountIn (Command.deviceDirectory pf) count check

/-! ## Details -/

def functionDetails (interface : String) : Action (List VirtualFunction.Detail) := do
  let completion ← Host.execute (Command.showLink interface)
  Action.ofExcept (Listing.virtualFunctionDetails completion.stdout)

def idOfMac (interface mac : String) : Action Nat := do
  let mac := Text.lower mac
  let details ← functionDetails interface
  match details.find? (·.mac = mac) with
  | some detail => pure detail.id
  | none =>
    throw (.virtualFunction ("Not found VF with MAC " ++ mac ++ " on interface " ++ interface ++ "."))

/-- Whether a virtual function is held by the driver that passes devices through. -/
def isReadyForPassthrough (interface : String) (id : Nat) : Action Bool := do
  let pci ← addressOfFunction interface id
  let completion ← Host.execute Command.listKernelDevices
  match (Listing.kernelDevices completion.stdout).find? (·.address = pci.shortText) with
  | some device => pure (device.driver = some "vfio-pci")
  | none =>
    throw (.notFound ("VF PCI: " ++ pci.shortText
      ++ " is missing in `lspci -k` output. Cannot check VF attaching state."))

end VirtHost.Hypervisor
