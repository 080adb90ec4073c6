import VirtHost.Command.Install
import VirtHost.Hypervisor.Disk
import VirtHost.Hypervisor.Network

/-! # Creating virtual machines

* `createFromXml`: a virtual machine from a domain XML.
* `createVm`: that, or an installation, which is tried once more with the flag that its rejection asks
  for.
* `createVms`: several virtual machines on free network data.
-/

namespace VirtHost.Hypervisor
set_option autoImplicit false

/-- Defines and starts the virtual machine of a template, which is copied to the work directory and
given a fresh UUID there; gives its name. -/
def createFromXml (h : Hypervisor) (params : Vm.Parameters) : Action String := do
  match params.xmlTemplate with
  | none => throw (.invalidConfig ("VM " ++ params.name ++ " has no XML template"))
  | some template =>
    let target := h.workFile (params.name ++ ".xml")
    perform (Command.copyFile template target)
    let uuid ← Host.freshUuid
    perform (Command.replaceUuid target uuid)
    let _ ← h.tool.define target
    h.tool.start params.name
    pure params.name

/-- The disk that a virtual machine boots from: its disk, or the copy that is asked for. -/
def prepareDisk (h : Hypervisor) (params : Vm.Parameters) : Action (Option String) :=
  match params.disk, params.cloneDirectory with
  | some source, some directory =>
    some <$> h.cloneDisk source (Host.joinPath directory params.name)
      (params.cloneTimeout.getD h.settings.cloneTimeout)
  | disk, _ => pure disk

/-- The flag that mends an installation that failed with an error. -/
def suffixFor? : Error → Option Command.InstallSuffix
  | .execution _ _ _ stderr => Command.InstallSuffix.ofStderr? stderr
  | _ => none

/-- Installs a virtual machine, at the second attempt if the first is rejected for want of a flag. -/
def install (h : Hypervisor) (params : Vm.Parameters) (disk : Option String) : Action Unit := do
  let attempt (suffix : Option Command.InstallSuffix) : Action Unit :=
    perform (Command.virtInstall params disk h.settings.largeVcpu suffix)
  tryCatch (attempt none) fun error =>
    match suffixFor? error with
    | some suffix => attempt (some suffix)
    | none => throw error

def createVm (h : Hypervisor) (params : Vm.Parameters) : Action String := do
  if params.xmlTemplate.isSome then h.createFromXml params
  else
    let disk ← h.prepareDisk params
    h.install params disk
    pure params.name

/-- Creates a virtual machine for each entry, named after its address; gives the names with the
addresses. -/
def createOnEntries (h : Hypervisor) (params : Vm.Parameters) (stem : String) :
    List Network.Entry → Action (List (String × Ipv4))
  | [] => pure []
  | entry :: rest => do
    let name ← h.createVm
      { params with name := nameOfAddress entry.ip stem, mac := some entry.mac }
    let others ← createOnEntries h params stem rest
    pure ((name, entry.ip) :: others)

/-- Creates `count` virtual machines on free entries of a local network-data file. -/
def createVms (h : Hypervisor) (count : Nat) (params : Vm.Parameters) (path stem : String) :
    Action (List (String × Ipv4)) := do
  let free ← h.freeNetworkData path count
  h.createOnEntries params stem free

end VirtHost.Hypervisor
