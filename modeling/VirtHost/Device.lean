import VirtHost.Ipv4
import VirtHost.Pci

/-! # Devices and network data

The records that hosts report about devices, and the entries from which new virtual machines take
their address.
-/

namespace VirtHost
set_option autoImplicit false

namespace VirtualFunction

/-- The link by which a physical function points to one of its virtual functions. -/
structure Link where
  id : Nat
  target : Pci.Address
  deriving DecidableEq

/-- A virtual function as its interface reports it. -/
structure Detail where
  id : Nat
  mac : String
  spoofCheck : Bool
  trust : Bool
  deriving DecidableEq

end VirtualFunction

/-- A device of the host passed through to a guest: its address on either side. -/
structure Passthrough where
  host : Pci.Address
  guest : Pci.Address
  deriving DecidableEq

namespace MediatedDevice

structure Attached where
  uuid : String
  guest : Pci.Address
  deriving DecidableEq

/-- A mediated device created on a parent. -/
structure Handle where
  uuid : String
  parent : Pci.Address
  deriving DecidableEq

end MediatedDevice

/-- A device of the host and the driver that holds it. -/
structure KernelDevice where
  /-- The address as it was printed. -/
  address : String
  driver : Option String
  deriving DecidableEq

namespace Network

/-- An address and a MAC for a new virtual machine. -/
structure Entry where
  ip : Ipv4
  mac : String
  deriving DecidableEq

structure InterfaceAddress where
  mac : String
  protocol : String
  address : String
  deriving DecidableEq

structure Lease where
  mac : String
  ip : Ipv4
  hostname : Option String
  deriving DecidableEq

/-- What is done with a VLAN of a trunk. -/
inductive TrunkAction
  | add
  | remove
  deriving DecidableEq

namespace TrunkAction

def text : TrunkAction → String
  | add => "add"
  | remove => "rem"

def parse (s : String) : Except Error TrunkAction :=
  if s = "add" then .ok add
  else if s = "rem" then .ok remove
  else .error (.unsupportedAction s)

end TrunkAction
end Network
end VirtHost
