import VirtHost.Host.Program
import VirtHost.Listing.Network
import VirtHost.Listing.Vm
import VirtHost.Xml.Document

/-! # Virtual machines through virsh

`Virsh` drives the virtual machines and networks of a host through the command `virsh`. Every command
has the same timeout. An action fails when its command does; the ones that give an `Option`, a list or
a truth value instead of failing are said to be soft.
-/

namespace VirtHost
open Text (decimal)
set_option autoImplicit false

structure Virsh where
  /-- The time that each command may take. -/
  timeout : Duration := Duration.ofSeconds 120
  /-- The pause between two queries for an address. -/
  addressInterval : Duration := Duration.ofSeconds 5
  /-- How often the leases of a network are queried. -/
  leaseTries : Nat := 60
  deriving DecidableEq

namespace Virsh

/-! ## Commands -/

/-- How every command is run. -/
def options (v : Virsh) : Host.Options :=
  { timeout := some v.timeout }

def command (v : Virsh) (arguments : String) : Action Host.Completion :=
  Host.execute ("virsh " ++ arguments) v.options

def perform (v : Virsh) (arguments : String) : Action Unit := do
  let _ ← v.command arguments

/-- The output of a subcommand, if it succeeds. Soft. -/
def output? (v : Virsh) (arguments : String) : Program (Option String) := do
  match ← (Host.execute ("virsh " ++ arguments) v.options.anyCode).attempt with
  | .ok completion => pure (if completion.code = 0 then some completion.stdout else none)
  | .error _ => pure none

/-! ## Inventory -/

def list (v : Virsh) (all : Bool) : Program (List Vm.Entry) := do
  match ← v.output? (if all then "list --all" else "list") with
  | some output => pure (Listing.vms output)
  | none => pure []

def status (v : Virsh) (name : String) : Action Vm.Status := do
  let completion ← v.command ("dominfo " ++ name)
  pure (Listing.status completion.stdout)

def domain (v : Virsh) (name : String) : Action Xml.Node := do
  let completion ← v.command ("dumpxml " ++ name)
  Action.ofExcept (Xml.parse completion.stdout)

/-- The text of the domain XML of a virtual machine. Soft. -/
def domainText? (v : Virsh) (name : String) : Program (Option String) :=
  v.output? ("dumpxml " ++ name)

def define (v : Virsh) (path : String) : Action String := do
  let completion ← v.command ("define " ++ path)
  pure completion.stdout

/-! ## Power -/

def start (v : Virsh) (name : String) : Action Unit :=
  v.perform ("start " ++ name)

def destroy (v : Virsh) (name : String) : Action Unit :=
  v.perform ("destroy " ++ name)

def shutdown (v : Virsh) (name : String) : Action Unit :=
  v.perform ("shutdown " ++ name)

def reboot (v : Virsh) (name : String) : Action Unit :=
  v.perform ("reboot " ++ name)

def reset (v : Virsh) (name : String) : Action Unit :=
  v.perform ("reset " ++ name)

/-- Removes a virtual machine together with its boot variables. -/
def undefine (v : Virsh) (name : String) : Action Unit :=
  v.perform ("undefine --nvram " ++ name)

/-- Sets the number of vCPUs from the next start on. -/
def setVcpus (v : Virsh) (name : String) (count : Nat) : Action Unit :=
  v.perform ("setvcpus " ++ name ++ " " ++ decimal count ++ " --config")

/-- Sets the largest possible number of vCPUs from the next start on. -/
def setVcpusLimit (v : Virsh) (name : String) (count : Nat) : Action Unit :=
  v.perform ("setvcpus " ++ name ++ " " ++ decimal count ++ " --maximum --config")

/-! ## Devices -/

/-- A change of a virtual machine that is not running is written to its configuration. -/
def configFlag (state : Vm.State) : String :=
  if state.isRunning then "" else " --config"

def attachDevice (v : Virsh) (name file : String) (state : Vm.State) : Action Unit :=
  v.perform ("attach-device " ++ name ++ " --file " ++ file ++ configFlag state)

def detachDevice (v : Virsh) (name file : String) (state : Vm.State) : Action Unit :=
  v.perform ("detach-device " ++ name ++ " --file " ++ file ++ configFlag state)

/-- Detaches the passed-through interface with a MAC from a virtual machine in a given state. -/
def detachInterface (v : Virsh) (name mac : String) (state : Vm.State) : Action Unit :=
  v.perform ("detach-interface " ++ name ++ " hostdev --mac " ++ mac ++ configFlag state)

def attachNetwork (v : Virsh) (name network : String) : Program Bool :=
  Option.isSome <$> v.output?
    ("attach-interface " ++ name ++ " network " ++ network ++ " --model virtio --config --live")

/-! ## Networks -/

def createNetwork (v : Virsh) (path : String) : Program Bool :=
  Option.isSome <$> v.output? ("net-create " ++ path)

def destroyNetwork (v : Virsh) (network : String) : Program Bool :=
  Option.isSome <$> v.output? ("net-destroy " ++ network)

def networks (v : Virsh) : Program (List String) := do
  match ← v.output? "net-list --all" with
  | some output => pure (Listing.networks output)
  | none => pure []

def leases (v : Virsh) (network : String) : Action String := do
  let completion ← v.command ("net-dhcp-leases " ++ network)
  pure completion.stdout

/-! ## Management address -/

def firstMac (v : Virsh) (name : String) : Action String := do
  let completion ← v.command ("domiflist " ++ name)
  match Listing.firstInterfaceMac completion.stdout with
  | some mac => pure mac
  | none => throw (.notFound ("Cannot find MAC address for VM: " ++ name))

/-- The first address in a report of a guest that belongs to a MAC and can be reached from elsewhere.
-/
def routableAddress? (mac report : String) : Option Ipv4 :=
  ((Listing.agentAddresses report).filter fun a => a.mac = mac ∧ a.protocol = "ipv4").findSome?
    fun a => (Ipv4.read? a.address.toList).filter fun ip => !ip.isLocal

/-- Queries the guest up to `more` more times, with a pause between two queries. What is found belongs
to `mac` in lower case; `answered` tells whether the guest has answered yet, and `tries` counts all
queries for the error. -/
def agentQueries (v : Virsh) (mac name : String) (tries : Nat) (answered : Bool) :
    Nat → Action Ipv4
  | 0 => throw (if answered then .managementIpUnavailable mac else .vmNotBooted tries)
  | more + 1 => do
    let completion ←
      Host.execute ("virsh domifaddr " ++ name ++ " --source agent") v.options.anyCode
    let answers := completion.code = 0
    match if answers then routableAddress? (Text.lower mac) completion.stdout else none with
    | some ip => pure ip
    | none =>
      if 0 < more then Host.sleep v.addressInterval
      agentQueries v mac name tries (answered || answers) more

/-- The address that a guest reports for a MAC, asked for up to `tries` times. -/
def agentAddress (v : Virsh) (mac name : String) (tries : Nat) : Action Ipv4 :=
  agentQueries v mac name tries false tries

/-- Queries the leases of a network up to `more` more times, with a pause between two queries. -/
def leaseQueries (v : Virsh) (mac network : String) : Nat → Action Ipv4
  | 0 => throw (.managementIpUnavailable mac)
  | more + 1 => do
    let table ← v.leases network
    match (Listing.leases table).find? (·.mac = Text.lower mac) with
    | some lease => pure lease.ip
    | none =>
      if 0 < more then Host.sleep v.addressInterval
      leaseQueries v mac network more

def leasedAddress (v : Virsh) (mac network : String) : Action Ipv4 :=
  leaseQueries v mac network v.leaseTries

end Virsh
end VirtHost
