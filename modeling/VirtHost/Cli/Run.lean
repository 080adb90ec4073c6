import VirtHost.Cli.Command
import VirtHost.Hypervisor.Creation
import VirtHost.Hypervisor.Mediated
import VirtHost.Hypervisor.VirtualFunctions
import VirtHost.Yaml.Printer

/-! # Running commands

* `Failure`: how a command fails; `Failure.chain` is its wording, from the outermost message to the
  cause.
* `run`: a command on a hypervisor. Its result is a document, if it has one.
* `output`: the text in which a result is printed.
-/

namespace VirtHost.Cli
open Text (decimal)
open Data (Document)
set_option autoImplicit false

/-! ## Failures -/

/-- How a command fails. -/
inductive Failure
  /-- An operation failed, perhaps in the course of something that is named. -/
  | operation (context : Option String) (cause : Error)
  /-- Something did not come about although no operation failed. -/
  | unmet (what : String)
  deriving DecidableEq

namespace Failure

def chain : Failure → List String
  | operation context cause => context.toList ++ cause.chain
  | unmet what => [what]

/-- The error behind a failure. -/
def cause? : Failure → Option Error
  | operation _ cause => some cause
  | unmet _ => none

end Failure

/-- A command in progress. -/
abbrev Job (α : Type) :=
  ExceptT Failure Program α

namespace Job

/-- An action as part of a command; `context` says what it is for. -/
def doing {α : Type} (context : Option String) (a : Action α) : Job α :=
  ExceptT.mk ((·.mapError (Failure.operation context)) <$> a.attempt)

/-- A program as part of a command. -/
def ofProgram {α : Type} (p : Program α) : Job α :=
  ExceptT.lift p

end Job

/-! ## Results -/

def stateDocument : Vm.State → Document
  | .running => .text "Running"
  | .idle => .text "Idle"
  | .paused => .text "Paused"
  | .inShutdown => .text "InShutdown"
  | .shutOff => .text "ShutOff"
  | .crashed => .text "Crashed"
  | .pmSuspended => .text "PmSuspended"
  | .other words => .tagged "Other" words

def vmDocument (vm : Vm.Entry) : Document :=
  .record [("id", .text vm.id), ("name", .text vm.name), ("state", stateDocument vm.state)]

/-- Puts a field in its place among fields in ascending order. A field of the same name is replaced. -/
def insertField (key value : String) : List (String × String) → List (String × String)
  | [] => [(key, value)]
  | (k, v) :: rest =>
    if key < k then (key, value) :: (k, v) :: rest
    else if key = k then (key, value) :: rest
    else (k, v) :: insertField key value rest

/-- The fields of a record in ascending order; the last of several with one name counts. -/
def sortedFields (fields : List (String × String)) : List (String × String) :=
  fields.foldl (fun sorted field => insertField field.1 field.2 sorted) []

def statusDocument (status : Vm.Status) : Document :=
  .record ((sortedFields status.fields).map fun field => (field.1, .text field.2))

def entryDocument (entry : Network.Entry) : Document :=
  .record [("ip", .text entry.ip.text), ("mac", .text entry.mac)]

structure CreatedVm where
  name : String
  entry : Network.Entry
  mediatedUuid : Option String
  deriving DecidableEq

def createdDocument (vm : CreatedVm) : Document :=
  .record ([("name", .text vm.name), ("ip", .text vm.entry.ip.text), ("mac", .text vm.entry.mac)]
    ++ (vm.mediatedUuid.map fun uuid => ("mdev_uuid", Document.text uuid)).toList)

/-- The text of the result of a command, in YAML or in JSON. -/
def output (json : Bool) : Option Document → String
  | none => ""
  | some d => if json then d.json else d.yaml

/-! ## Commands -/

/-- Creates a virtual machine on free network data and waits for it if asked to. -/
def createVm (h : Hypervisor) (vm : RunVm) (uuid : Option String) : Job CreatedVm := do
  let free ← Job.doing none (h.freeNetworkData vm.networkData 1)
  match free with
  | [] => throw (.unmet "No free network data")
  | entry :: _ =>
    let params := vm.parameters entry
    let name ← Job.doing (some ("Failed to create VM " ++ params.name)) (h.createVm params)
    if vm.wait then
      let running ← Job.doing none (h.awaitRunning name)
      if !running then throw (.unmet ("VM " ++ name ++ " did not start in time"))
    pure ⟨name, entry, uuid⟩

/-- Creates a mediated device on a parent and a virtual machine that has it. If the virtual machine
cannot be created, the device is removed again. -/
def createMediatedVm (h : Hypervisor) (vm : RunVm) (parent : Pci.Address) (file : String) :
    Job CreatedVm := do
  let uuid ← Job.ofProgram (.ask .freshUuid .done)
  let _ ← Job.doing (some ("Failed to create mdev on " ++ parent.text))
    (h.createMediated uuid parent file)
  let created ← tryCatch (createVm h vm (some uuid)) fun failure => do
    let _ ← Job.ofProgram (Hypervisor.removeMediated uuid).attempt
    throw failure
  Job.doing (some ("Failed to attach mdev " ++ uuid ++ " to " ++ created.name))
    (h.attachDevice created.name file)
  pure created

/-- Sets the number of virtual functions of an interface or of the device at an address. -/
def setFunctions (h : Hypervisor) (interface : Option String) (pf : Option Pci.Address)
    (count : Nat) (noCheck : Bool) : Job Unit :=
  let context (target : String) := some ("Failed to set " ++ decimal count ++ " VFs on " ++ target)
  match interface, pf with
  | some interface, _ => Job.doing (context interface) (h.setCount interface count !noCheck)
  | none, some pf => Job.doing (context pf.text) (h.setCountAt pf count !noCheck)
  | none, none => throw (.unmet "Either --interface or --pf is required")

/-- Carries a command out; gives what there is to print. -/
def run (h : Hypervisor) : Command → Job (Option Document)
  | .list all => do
    let vms ← Job.ofProgram (h.tool.list all)
    pure (some (.list (vms.map vmDocument)))
  | .status name => do
    let status ← Job.doing (some ("Failed to get status of " ++ name)) (h.tool.status name)
    pure (some (statusDocument status))
  | .stopAll force => do
    let stopped ← Job.ofProgram (h.stopAll force)
    if stopped then pure none else throw (.unmet "Not every VM stopped")
  | .startAll => do
    let started ← Job.ofProgram h.startAll
    if started then pure none else throw (.unmet "Not every VM started")
  | .setFunctions interface pf count noCheck => do
    setFunctions h interface pf count noCheck
    pure none
  | .freeNetworkData path count => do
    let free ← Job.doing none (h.freeNetworkData path count)
    pure (some (.list (free.map entryDocument)))
  | .runVm vm => do
    let created ← createVm h vm none
    pure (some (createdDocument created))
  | .runMediatedVm vm parent file => do
    let created ← createMediatedVm h vm parent file
    pure (some (createdDocument created))
  | .attachControllers name count layout => do
    Job.doing (some ("Failed to attach PCI controllers to " ++ name))
      (h.attachControllers name count layout)
    pure none

end VirtHost.Cli
