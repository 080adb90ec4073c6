import VirtHost.Device
import VirtHost.Xml.Node

/-! # Devices of a domain

What a domain XML says about the devices of a virtual machine.

* `passthroughs`: the PCI devices that are passed through, with their addresses on either side.
* `mediatedDevices`: the mediated devices with their addresses in the guest.
* `diskFile?`: the file of the first source that is one.
-/

namespace VirtHost.Xml.Domain
set_option autoImplicit false

/-! ## Addresses -/

/-- An address element lacks something. -/
def addressMissing : Error :=
  .notFound "PCI not found in xml!"

def addressOf (address : Option Node) : Except Error Pci.Address :=
  match address with
  | none => .error addressMissing
  | some a =>
    match a.attr? "domain", a.attr? "bus", a.attr? "slot", a.attr? "function" with
    | some domain, some bus, some slot, some function =>
      Pci.Address.ofHexFields domain bus slot function
    | _, _, _, _ => .error addressMissing

/-- The address element of the source of a device. -/
def sourceAddress? (device : Node) : Option Node :=
  device.child? "source" >>= (·.child? "address")

/-! ## Devices -/

def isPassthrough (n : Node) : Bool :=
  (n.name = "hostdev" && n.attr? "type" = some "pci")
    || (n.name = "interface" && n.attr? "type" = some "hostdev")

def isMediated (n : Node) : Bool :=
  n.name = "hostdev" && n.attr? "type" = some "mdev"

def passthroughOf (device : Node) : Except Error Passthrough := do
  let host ← addressOf (sourceAddress? device)
  let guest ← addressOf (device.child? "address")
  pure ⟨host, guest⟩

/-- The UUID and the guest address of a mediated device. -/
def mediatedOf (device : Node) : Except Error MediatedDevice.Attached :=
  match sourceAddress? device >>= (·.attr? "uuid") with
  | none => .error (.notFound "Interface with MDEV does not contains UUID!")
  | some uuid => (addressOf (device.child? "address")).map fun guest => ⟨uuid, guest⟩

/-- The devices of a domain that are passed through, of which there must be one. -/
def passthroughs (domain : Node) : Except Error (List Passthrough) :=
  match domain.descendants.filter isPassthrough with
  | [] => .error (.notFound "Interface with Host VF and VM VF not found in xml!")
  | devices => devices.mapM passthroughOf

/-- The mediated devices of a domain, of which there must be one. -/
def mediatedDevices (domain : Node) : Except Error (List MediatedDevice.Attached) :=
  match domain.descendants.filter isMediated with
  | [] => .error (.notFound "Interface with MDEV not found in xml!")
  | devices => devices.mapM mediatedOf

/-- The file of the first source element that has one. -/
def diskFile? (domain : Node) : Option String :=
  (domain.findAll "source").findSome? (·.attr? "file")

end VirtHost.Xml.Domain
