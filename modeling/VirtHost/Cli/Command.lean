import VirtHost.Cli.Grammar
import VirtHost.Hypervisor.Controllers
import VirtHost.Hypervisor.Network

/-! # Commands

* `Command`: what the program can be asked to do.
* `Globals`: what goes before the name of a command.
* `Invocation.read`: a command line.
* `RunVm.parameters`: the virtual machine that a command asks for, on an entry of network data.
-/

namespace VirtHost.Cli
open Text (limit8 limit16 limit32 limit64)
set_option autoImplicit false

/-! ## Commands -/

/-- A new virtual machine as it is asked for. -/
structure RunVm where
  /-- The file with the network data. -/
  networkData : String
  /-- The first part of the name of the virtual machine. -/
  stem : String
  vcpus : Nat
  memoryMib : Nat
  osVariant : Option String
  legacy : Bool
  bridge : Option String
  disk : Option String
  cloneTo : Option String
  xmlTemplate : Option String
  /-- Whether to wait until the virtual machine is running. -/
  wait : Bool
  deriving DecidableEq

namespace RunVm

def firmware (r : RunVm) : Vm.Firmware :=
  if r.legacy then .legacy else .uefi

def parameters (r : RunVm) (entry : Network.Entry) : Vm.Parameters :=
  let base : Vm.Parameters := {}
  { base with
    name := Hypervisor.nameOfAddress entry.ip r.stem
    vcpus := r.vcpus
    memoryMib := r.memoryMib
    firmware := r.firmware
    mac := some entry.mac
    osVariant := r.osVariant
    bridge := r.bridge.getD base.bridge
    disk := r.disk
    cloneDirectory := r.cloneTo
    xmlTemplate := r.xmlTemplate }

end RunVm

/-- What the program can be asked to do. -/
inductive Command
  | list (all : Bool)
  | status (name : String)
  | stopAll (force : Bool)
  | startAll
  /-- Sets the number of virtual functions of an interface or of the device at an address. -/
  | setFunctions (interface : Option String) (pf : Option Pci.Address) (count : Nat) (noCheck : Bool)
  | freeNetworkData (path : String) (count : Nat)
  | runVm (vm : RunVm)
  /-- Creates a mediated device, and a virtual machine that has it. -/
  | runMediatedVm (vm : RunVm) (parent : Pci.Address) (file : String)
  | attachControllers (name : String) (count : Nat) (layout : ControllerLayout)
  deriving DecidableEq

/-- What goes before the name of a command. -/
structure Globals where
  config : Option String
  logLevel : Option String
  logJson : Bool
  host : Option String
  user : Option String
  port : Option UInt16
  json : Bool
  deriving DecidableEq

structure Invocation where
  globals : Globals
  command : Command
  deriving DecidableEq

/-! ## Grammars -/

def flag (name : String) : Parameter :=
  ⟨name, .flag, none⟩

def option (name : String) (kind : Kind) : Parameter :=
  ⟨name, .option kind, none⟩

def position (name : String) (kind : Kind) : Parameter :=
  ⟨name, .positional kind, none⟩

/-- Every command can be asked for help. -/
def helpFlag : Parameter :=
  ⟨"help", .stop .help, some 'h'⟩

def commandNames : List String :=
  ["list", "status", "stop-all", "start-all", "set-vfs", "free-network-data", "run-vm",
   "run-siov-vm", "attach-pci-controllers"]

/-- What goes before the name of a command. -/
def globalGrammar : Grammar where
  parameters :=
    [⟨"config", .option .text, some 'c'⟩, ⟨"log-level", .option .text, some 'l'⟩, flag "log-json",
     option "host" .text, option "user" .text, option "port" (.natural limit16), flag "json",
     helpFlag, ⟨"version", .stop .version, some 'V'⟩]
  subcommands := commandNames ++ ["help"]

def runVmParameters : List Parameter :=
  [option "network-data" .path, option "prefix" .text, option "cpu" (.natural limit32),
   option "memory" (.natural limit64), option "os-variant" .text, flag "legacy",
   option "bridge" .text, option "disk" .text, option "clone-to" .text,
   option "xml-template" .text, flag "wait", helpFlag]

def grammarOf (name : String) : Grammar :=
  if name = "list" then { parameters := [flag "all", helpFlag] }
  else if name = "status" then
    { parameters := [position "name" .text, helpFlag], required := ["name"] }
  else if name = "stop-all" then { parameters := [flag "force", helpFlag] }
  else if name = "set-vfs" then
    { parameters := [option "interface" .text, option "pf" .address,
        position "count" (.natural limit32), flag "no-check", helpFlag]
      required := ["count"]
      requiredUnless := [("interface", "pf")]
      exclusive := [("interface", "pf")] }
  else if name = "free-network-data" then
    { parameters := [position "network_data" .path, option "count" (.natural limit64), helpFlag]
      required := ["network_data"] }
  else if name = "run-vm" then
    { parameters := runVmParameters
      required := ["network-data"]
      needs := [("clone-to", "disk")]
      exclusive := [("xml-template", "disk")] }
  else if name = "run-siov-vm" then
    { parameters := runVmParameters ++ [option "parent" .address, option "mdev-xml" .text]
      required := ["network-data", "parent"]
      needs := [("clone-to", "disk")]
      exclusive := [("xml-template", "disk")] }
  else if name = "attach-pci-controllers" then
    { parameters := [position "name" .text, option "count" (.natural limit64),
        option "domain" (.number 32), option "first-bus" (.number 8),
        option "first-func" (.number 8), option "first-port" (.number 32),
        option "first-slot" (.number 8), option "first-chassis" (.number 32),
        option "first-index" (.number 32), helpFlag]
      required := ["name"] }
  else { parameters := [helpFlag] }

/-! ## Commands from parameters -/

namespace Matches

def text? (m : Matches) (name : String) : Option String :=
  match m.get? name with
  | some (.text s) => some s
  | _ => none

def number (m : Matches) (name : String) (default : Nat) : Nat :=
  match m.get? name with
  | some (.number n) => n
  | _ => default

def address? (m : Matches) (name : String) : Option Pci.Address :=
  match m.get? name with
  | some (.address a) => some a
  | _ => none

def runVm (m : Matches) : RunVm where
  networkData := (m.text? "network-data").getD ""
  stem := (m.text? "prefix").getD "vm"
  vcpus := m.number "cpu" 2
  memoryMib := m.number "memory" 2048
  osVariant := m.text? "os-variant"
  legacy := m.has "legacy"
  bridge := m.text? "bridge"
  disk := m.text? "disk"
  cloneTo := m.text? "clone-to"
  xmlTemplate := m.text? "xml-template"
  wait := m.has "wait"

def layout (m : Matches) : ControllerLayout :=
  let base : ControllerLayout := {}
  { domain := UInt32.ofNat (m.number "domain" base.domain.toNat)
    firstBus := UInt8.ofNat (m.number "first-bus" base.firstBus.toNat)
    firstFunction := UInt8.ofNat (m.number "first-func" base.firstFunction.toNat)
    firstPort := m.number "first-port" base.firstPort
    firstSlot := UInt8.ofNat (m.number "first-slot" base.firstSlot.toNat)
    firstChassis := m.number "first-chassis" base.firstChassis
    firstIndex := m.number "first-index" base.firstIndex }

/-- The command with a name; what its grammar requires is given. -/
def command (m : Matches) (name : String) : Command :=
  if name = "list" then .list (m.has "all")
  else if name = "status" then .status ((m.text? "name").getD "")
  else if name = "stop-all" then .stopAll (m.has "force")
  else if name = "set-vfs" then
    .setFunctions (m.text? "interface") (m.address? "pf") (m.number "count" 0) (m.has "no-check")
  else if name = "free-network-data" then
    .freeNetworkData ((m.text? "network_data").getD "") (m.number "count" 1)
  else if name = "run-vm" then .runVm m.runVm
  else if name = "run-siov-vm" then
    .runMediatedVm m.runVm ((m.address? "parent").getD ⟨0, 0, 0, 0⟩)
      ((m.text? "mdev-xml").getD "/tmp/mdev.xml")
  else if name = "attach-pci-controllers" then
    .attachControllers ((m.text? "name").getD "") (m.number "count" 64) m.layout
  else .startAll

def globals (m : Matches) : Globals where
  config := m.text? "config"
  logLevel := m.text? "log-level"
  logJson := m.has "log-json"
  host := m.text? "host"
  user := m.text? "user"
  port := (m.get? "port").map fun _ => UInt16.ofNat (m.number "port" 0)
  json := m.has "json"

end Matches

/-! ## Command lines -/

/-- Help on a command, which may be given by its name. -/
def readHelp : List String → Refusal
  | [] => .help
  | [name] => if name ∈ globalGrammar.subcommands then .help else .invalidSubcommand
  | _ => .invalidSubcommand

/-- The command with a name and the words after it. -/
def readCommand (name : String) (words : List String) : Except Refusal Command :=
  if name = "help" then .error (readHelp words)
  else ((grammarOf name).read words).map fun m => Matches.command m name

/-- A command line. The words of the command are read before the last value in front of it. The
configuration may come from the environment instead. -/
def Invocation.read (environment : Option String) (words : List String) :
    Except Refusal Invocation := do
  let (p, rest) ← globalGrammar.readWords {} words
  let command ← rest.mapM fun r => readCommand r.1 r.2
  let p ← p.settle
  let done : Matches :=
    match environment with
    | some config => if p.done.has "config" then p.done else ("config", .text config) :: p.done
    | none => p.done
  match command with
  | some command => .ok ⟨done.globals, command⟩
  | none => .error (if done = [] then .nothingGiven else .missingSubcommand)

end VirtHost.Cli
