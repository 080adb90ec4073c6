import VirtHost.Command.Host
import VirtHost.Hypervisor.Basic

/-! # Networks of a host

* `nameOfAddress`: the name of a virtual machine with a given address.
* `networkDataOf`, `freeNetworkData`: entries of a network-data file, and those that are not in use.
* Bridges, trunks and tag protocols.
-/

namespace VirtHost.Hypervisor
open Text (digitsOf zeroFill)
set_option autoImplicit false

/-! ## Network data -/

/-- One number of an address with three digits. -/
def octetDigits (octet : UInt8) : String :=
  String.ofList (zeroFill 3 (digitsOf 10 octet.toNat))

/-- The name of a virtual machine: `stem` and the last two numbers of its address. -/
def nameOfAddress (ip : Ipv4) (stem : String) : String :=
  stem ++ "-" ++ octetDigits ip.third ++ "-" ++ octetDigits ip.fourth

def networkDataOf (path : String) : Action (List Network.Entry) := do
  let content ← Host.readLocalFile path
  Action.ofExcept (Listing.networkData content)

/-- Whether nothing answers at an address. -/
def isFree (h : Hypervisor) (entry : Network.Entry) : Action Bool := do
  let completion ← Host.execute (Command.ping entry.ip.text) ({} : Host.Options).anyCode
  pure (h.settings.freeCodes.contains completion.code)

/-- The first `count` free entries; entries are probed in order until there are enough. -/
def takeFree (h : Hypervisor) : Nat → List Network.Entry → Action (List Network.Entry)
  | 0, _ => pure []
  | _ + 1, [] => pure []
  | count + 1, entry :: rest => do
    if ← h.isFree entry then
      let others ← takeFree h count rest
      pure (entry :: others)
    else takeFree h (count + 1) rest

/-- Sets room aside for `count` entries. -/
def reserve (h : Hypervisor) (count : Nat) : Action Unit :=
  if count ≤ h.memory.entries then pure () else throw (.outOfMemory count)

/-- The first `count` free entries, of which there must be as many. Room for all of them is set aside
before the first probe. -/
def selectFree (h : Hypervisor) (entries : List Network.Entry) (count : Nat) :
    Action (List Network.Entry) := do
  h.reserve count
  let free ← h.takeFree count entries
  if free.length < count then throw (.networkDataExhausted count free.length)
  else pure free

def freeNetworkData (h : Hypervisor) (path : String) (count : Nat) :
    Action (List Network.Entry) := do
  let entries ← networkDataOf path
  h.selectFree entries count

/-! ## Bridges -/

def createBridge (bridge : String) : Action Unit :=
  perform (Command.addBridge bridge) ({} : Host.Options).inShell

def deleteBridge (bridge : String) : Action Unit :=
  perform (Command.deleteBridge bridge) ({} : Host.Options).inShell

def addInterfaceToBridge (bridge interface : String) : Action Unit :=
  perform (Command.addToBridge bridge interface) ({} : Host.Options).inShell

/-! ## Trunks and tag protocols -/

/-- What a command prints, without the blanks at its ends. -/
def trimmedOutput (command : String) : Action String := do
  let completion ← Host.execute command
  pure (String.ofList (Text.trim completion.stdout.toList))

/-- Does what a word says with a VLAN of the trunk of a virtual function. -/
def setTrunk (interface action : String) (vlan id : Nat) : Action Unit := do
  let action ← Action.ofExcept (Network.TrunkAction.parse action)
  perform (Command.setTrunk interface action vlan id) ({} : Host.Options).inShell

def getTrunk (interface : String) (id : Nat) : Action String :=
  trimmedOutput (Command.getTrunk interface id)

def setTpid (interface tpid : String) : Action Unit :=
  perform (Command.setTpid interface tpid) ({} : Host.Options).inShell

def getTpid (interface : String) : Action String :=
  trimmedOutput (Command.getTpid interface)

end VirtHost.Hypervisor
