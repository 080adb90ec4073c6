import VirtHost.Hypervisor.Creation
import VirtHost.Proofs.Hypervisor.Disk
import VirtHost.Proofs.Virsh

/-! # What a host is asked for when virtual machines are created

* `ProbingRequest`, `uses_freeNetworkData`: free network data is looked for by these requests.
* `CreationRequest`, `uses_createVm`: a virtual machine is created by these requests.
-/

namespace VirtHost.Hypervisor
set_option autoImplicit false

variable {h : Hypervisor}

/-! ## Network data -/

section
variable {allowed : Host.Request → Prop}

theorem uses_networkDataOf {path : String} (hread : allowed (.readLocal path)) :
    (networkDataOf path).Uses allowed :=
  Action.Uses.bind (a := Host.readLocalFile path) ⟨hread, fun _ => trivial⟩ fun _ => trivial

theorem uses_reserve (count : Nat) : (h.reserve count).Uses allowed := by
  rw [reserve]
  split
  · exact Action.uses_pure ()
  · exact Action.uses_throw _

variable (hping : ∀ ip : Ipv4, allowed (.execute (Command.ping ip.text) ({} : Host.Options).anyCode))
include hping

theorem uses_takeFree (entries : List Network.Entry) (count : Nat) :
    (h.takeFree count entries).Uses allowed := by
  induction entries generalizing count with
  | nil => cases count <;> exact Action.uses_pure []
  | cons entry rest ih =>
    cases count with
    | zero => exact Action.uses_pure []
    | succ count =>
      have hfree : (h.isFree entry).Uses allowed :=
        (Action.uses_execute (hping entry.ip)).bind fun _ => Action.uses_pure _
      refine hfree.bind fun free => ?_
      cases free with
      | true => exact (ih count).bind fun _ => Action.uses_pure _
      | false => exact ih (count + 1)

theorem uses_selectFree (entries : List Network.Entry) (count : Nat) :
    (h.selectFree entries count).Uses allowed := by
  refine (uses_reserve count).bind fun _ => (uses_takeFree hping entries count).bind fun free => ?_
  split
  · exact Action.uses_throw _
  · exact Action.uses_pure free

end

/-- What is asked for to find free network data of a file. -/
inductive ProbingRequest (path : String) : Host.Request → Prop
  | file : ProbingRequest path (.readLocal path)
  | ping (ip : Ipv4) (options : Host.Options) :
    ProbingRequest path (.execute (Command.ping ip.text) options)

theorem uses_freeNetworkData (path : String) (count : Nat) :
    (h.freeNetworkData path count).Uses (ProbingRequest path) :=
  (uses_networkDataOf .file).bind fun entries => uses_selectFree (fun ip => .ping ip _) entries count

/-! ## Virtual machines -/

/-- What is asked for to create a virtual machine. -/
inductive CreationRequest (h : Hypervisor) (params : Vm.Parameters) : Host.Request → Prop
  | copyTemplate {template : String} (htemplate : params.xmlTemplate = some template) :
    CreationRequest h params
      (.execute (Command.copyFile template (h.workFile (params.name ++ ".xml"))) {})
  | freshUuid : CreationRequest h params .freshUuid
  | replaceUuid (uuid : String) : CreationRequest h params
      (.execute (Command.replaceUuid (h.workFile (params.name ++ ".xml")) uuid) {})
  | define : CreationRequest h params
      (.execute ("virsh " ++ ("define " ++ h.workFile (params.name ++ ".xml"))) h.tool.options)
  | startVm : CreationRequest h params (.execute ("virsh " ++ ("start " ++ params.name)) h.tool.options)
  | fileExists (path : String) : CreationRequest h params (.fileExists path)
  | fileSize (path : String) (options : Host.Options) :
    CreationRequest h params (.execute (Command.fileSize path) options)
  | copyDisk {source directory : String} (hdisk : params.disk = some source)
      (hdirectory : params.cloneDirectory = some directory) :
    CreationRequest h params
      (.start (Command.copyFile source (Host.joinPath directory params.name)) false)
  | isRunning (process : Nat) : CreationRequest h params (.isRunning process)
  | sleep (time : Duration) : CreationRequest h params (.sleep time)
  | install (disk : Option String) (suffix : Option Command.InstallSuffix) :
    CreationRequest h params
      (.execute (Command.virtInstall params disk h.settings.largeVcpu suffix) {})

variable {params : Vm.Parameters}

theorem uses_createFromXml : (h.createFromXml params).Uses (CreationRequest h params) := by
  unfold createFromXml
  split
  · exact Action.uses_throw _
  · rename_i template htemplate
    refine (Action.uses_perform (.copyTemplate htemplate)).bind fun _ => ?_
    refine Action.Uses.bind (Action.Uses.ofProgram ⟨.freshUuid, fun _ => trivial⟩) fun uuid => ?_
    refine (Action.uses_perform (.replaceUuid uuid)).bind fun _ => ?_
    refine ((Action.uses_execute .define).bind fun _ => Action.uses_pure _).bind fun _ => ?_
    exact (Virsh.uses_perform .startVm).bind fun _ => Action.uses_pure _

theorem uses_prepareDisk {allowed : Host.Request → Prop}
    (hcopy : ∀ {source directory : String}, params.disk = some source →
      params.cloneDirectory = some directory →
      (h.cloneDisk source (Host.joinPath directory params.name)
        (params.cloneTimeout.getD h.settings.cloneTimeout)).Uses allowed) :
    (h.prepareDisk params).Uses allowed := by
  unfold prepareDisk
  split
  · rename_i source directory hdisk hdirectory
    exact (hcopy hdisk hdirectory).bind fun _ => Action.uses_pure _
  · exact Action.uses_pure _

theorem uses_install {allowed : Host.Request → Prop} {disk : Option String}
    (hinstall : ∀ suffix,
      allowed (.execute (Command.virtInstall params disk h.settings.largeVcpu suffix) {})) :
    (h.install params disk).Uses allowed := by
  refine Action.Uses.tryCatch (Action.uses_perform (hinstall none)) fun e => ?_
  split
  · exact Action.uses_perform (hinstall _)
  · exact Action.uses_throw e

theorem uses_createVm : (h.createVm params).Uses (CreationRequest h params) := by
  unfold createVm
  split
  · exact uses_createFromXml
  · have hprepare : (h.prepareDisk params).Uses (CreationRequest h params) :=
      uses_prepareDisk fun hdisk hdirectory =>
        uses_cloneDisk (.fileExists _) (fun path _ => .fileSize path _) (.copyDisk hdisk hdirectory)
          .isRunning .sleep
    refine hprepare.bind fun disk => ?_
    exact (uses_install (.install disk)).bind fun _ => Action.uses_pure _

end VirtHost.Hypervisor
