import VirtHost.Proofs.Hypervisor.CreatedNames
import VirtHost.Proofs.Hypervisor.NetworkOptions

/-! # Commands that create virtual machines

* `CreationOperation`: what a caller can do to create virtual machines and to prepare it.
* `CreationOperation.follows`: the commands for that are run as they are to be run. The flags of an
  installation come from the caller and from the settings; the MACs of several virtual machines come from
  network data, and the UUIDs of domains from the host.
-/

namespace VirtHost
open Shell (Plain plain_append)
open Text (decimal)
set_option autoImplicit false

/-- The texts of parameters that become part of commands, besides the name and the MAC. -/
def Vm.Parameters.texts (params : Vm.Parameters) : List String :=
  [params.machine, params.bridge, params.graphics] ++ params.bootOrder ++ params.osVariant.toList
    ++ params.arch.toList ++ params.disk.toList ++ params.diskBus.toList ++ params.cpu.toList
    ++ params.xmlTemplate.toList ++ params.cloneDirectory.toList

namespace Hypervisor

variable {s : Settings} {trusted : Prop} {params : Vm.Parameters}

/-! ## Installations -/

theorem plain_suffix (suffix : Command.InstallSuffix) : Plain suffix.text := by
  cases suffix <;> decide

theorem plain_optionalFlag {flag : String} {value : Option String} (hflag : Plain flag)
    (hvalue : ∀ text ∈ value, Plain text) : ∀ part ∈ Command.optionalFlag flag value, Plain part := by
  cases value with
  | none => simp [Command.optionalFlag]
  | some text => simp [Command.optionalFlag, hflag, hvalue text rfl]

theorem plain_vcpusFlag (params : Vm.Parameters) : Plain (Command.vcpusFlag params) := by
  unfold Command.vcpusFlag
  cases params.threads <;> simp +decide

theorem plain_networkFlag (hbridge : Plain params.bridge) (hmac : ∀ mac ∈ params.mac, Plain mac) :
    Plain (Command.networkFlag params) := by
  unfold Command.networkFlag
  cases hparams : params.mac with
  | none => simp +decide [hbridge]
  | some mac => simp +decide [hbridge, Shell.plain_lower (hmac mac hparams)]

theorem plain_diskFlag {disk : Option String} (hbus : ∀ bus ∈ params.diskBus, Plain bus)
    (hdisk : ∀ path ∈ disk, Plain path) : Plain (Command.diskFlag params disk) := by
  cases disk with
  | none => exact (by decide : Plain "--disk=none")
  | some path =>
    cases hparams : params.diskBus with
    | none => simp +decide [Command.diskFlag, hparams, hdisk path rfl]
    | some bus => simp +decide [Command.diskFlag, hparams, hdisk path rfl, hbus bus hparams]

theorem plain_bootOrder (hboot : ∀ device ∈ params.bootOrder, Plain device) (hasDisk : Bool) :
    Plain (Command.bootOrder params hasDisk) := by
  have hdevices : Plain (if params.bootOrder = [] then (if hasDisk then "hd" else "network,hd")
      else Command.joinStrings "," params.bootOrder) := by
    split
    · cases hasDisk <;> decide
    · exact Shell.plain_joinStrings (by decide) hboot
  unfold Command.bootOrder
  cases params.firmware with
  | uefi => exact plain_append.2 ⟨hdevices, by decide⟩
  | legacy => exact hdevices

theorem plain_virtInstall {disk : Option String} {policy : Command.LargeVcpuPolicy}
    (hname : Plain params.name) (htexts : ∀ text ∈ params.texts, Plain text)
    (hmac : ∀ mac ∈ params.mac, Plain mac) (hdisk : ∀ path ∈ disk, Plain path)
    (hflags : ∀ flag ∈ policy.flags, Plain flag) (suffix : Option Command.InstallSuffix) :
    Plain (Command.virtInstall params disk policy suffix) := by
  have hpolicy : ∀ flag ∈ policy.flagsFor params.vcpus, Plain flag := by
    unfold Command.LargeVcpuPolicy.flagsFor
    split
    · exact hflags
    · simp
  have hmachine : Plain params.machine := htexts _ (by simp [Vm.Parameters.texts])
  have hgraphics : Plain params.graphics := htexts _ (by simp [Vm.Parameters.texts])
  have hnetwork : Plain (Command.networkFlag params) :=
    plain_networkFlag (htexts _ (by simp [Vm.Parameters.texts])) hmac
  have hdiskFlag : Plain (Command.diskFlag params disk) :=
    plain_diskFlag (fun bus hbus => htexts _ (by simp [Vm.Parameters.texts, Option.mem_def.1 hbus]))
      hdisk
  have hboot : Plain (Command.bootOrder params disk.isSome) :=
    plain_bootOrder (fun device hdevice => htexts _ (by simp [Vm.Parameters.texts, hdevice])) _
  have hos : ∀ part ∈ Command.optionalFlag "--os-variant=" params.osVariant, Plain part :=
    plain_optionalFlag (by decide) fun text htext =>
      htexts _ (by simp [Vm.Parameters.texts, Option.mem_def.1 htext])
  have harch : ∀ part ∈ Command.optionalFlag "--arch " params.arch, Plain part :=
    plain_optionalFlag (by decide) fun text htext =>
      htexts _ (by simp [Vm.Parameters.texts, Option.mem_def.1 htext])
  have hcpu : ∀ part ∈ Command.optionalFlag "--cpu=" params.cpu, Plain part :=
    plain_optionalFlag (by decide) fun text htext =>
      htexts _ (by simp [Vm.Parameters.texts, Option.mem_def.1 htext])
  have hsuffix : ∀ part ∈ (suffix.map Command.InstallSuffix.text).toList, Plain part := by
    cases suffix with
    | none => simp
    | some suffix => simpa using plain_suffix suffix
  have hhead : ∀ part ∈ ["virt-install", "--name=" ++ params.name,
      "--memory=" ++ decimal params.memoryMib, Command.vcpusFlag params,
      "--machine=" ++ params.machine, "--noautoconsole"], Plain part := by
    simp +decide [hname, plain_vcpusFlag params, hmachine]
  have hends : ∀ part ∈ ["--boot=" ++ Command.bootOrder params disk.isSome,
      "--graphics " ++ params.graphics], Plain part := by
    simp +decide [hboot, hgraphics]
  refine Shell.plain_joinStrings (by decide) ?_
  simp only [Command.installParts, List.forall_mem_append, List.forall_mem_singleton]
  exact ⟨⟨⟨⟨⟨⟨⟨⟨hhead, hpolicy⟩, hnetwork⟩, hos⟩, hdiskFlag⟩, harch⟩, hends⟩, hcpu⟩, hsuffix⟩

/-! ## Disks -/

theorem uses_copyDisk {source destination : String} (hsource : trusted → Plain source)
    (hdestination : trusted → Plain destination) (seconds : Nat) :
    ((ofSettings s).cloneDisk source destination seconds).Uses (Proper s trusted) := by
  refine uses_cloneDisk ⟨trivial, fun _ => trivial⟩ (fun path hpath => proper_fileSize fun ht => ?_)
    (proper_start_copyFile hsource hdestination) (fun _ => ⟨trivial, fun _ => trivial⟩) proper_sleep
  simp only [List.mem_cons, List.not_mem_nil, or_false] at hpath
  rcases hpath with rfl | rfl
  · exact hsource ht
  · exact hdestination ht

theorem uses_memoryPerVm (vms : Nat) : ((ofSettings s).memoryPerVm vms).Uses (Proper s trusted) := by
  refine (Action.uses_execute proper_freeMemory).bind fun completion => ?_
  split
  · exact Action.uses_pure _
  · split
    · exact Action.uses_pure _
    · exact Action.uses_throw _

theorem ensures_prepareDisk (hname : Plain params.name) (htexts : ∀ text ∈ params.texts, Plain text) :
    ((ofSettings s).prepareDisk params).Ensures (fun e => trusted → e.Plain) (Proper s trusted)
      fun disk => ∀ path ∈ disk, Plain path := by
  have hcopy {directory : String} (hdirectory : params.cloneDirectory = some directory) :
      Plain (Host.joinPath directory params.name) :=
    Shell.plain_joinPath (htexts _ (by simp [Vm.Parameters.texts, hdirectory])) hname
  have hsource {source : String} (hdisk : params.disk = some source) : Plain source :=
    htexts _ (by simp [Vm.Parameters.texts, hdisk])
  refine Action.ensures_of_runs (uses_prepareDisk fun hdisk hdirectory =>
    uses_copyDisk (fun _ => hsource hdisk) (fun _ => hcopy hdirectory) _) ?_
  intro t disk hrun _ path hpath
  rcases runs_prepareDisk hrun with ⟨e, -, he⟩ | ⟨_, hprepared, hdisk⟩
  · cases he
  · cases hdisk
    cases hprepared with
    | copied _ hdirectory _ _ =>
      obtain rfl := Option.some.inj hpath
      exact hcopy hdirectory
    | kept _ => exact hsource hpath

/-! ## Virtual machines -/

theorem ensures_freshUuid : Host.freshUuid.Ensures (fun e => trusted → e.Plain) (Proper s trusted)
    fun uuid => trusted → Plain uuid := by
  have huses : Host.freshUuid.Uses (Proper s trusted) :=
    Action.Uses.ofProgram ⟨⟨trivial, fun _ => trivial⟩, fun _ => trivial⟩
  refine Action.ensures_of_runs huses fun t uuid hrun hassumed ht => ?_
  obtain ⟨_, rfl, huuid⟩ := Action.runs_freshUuid.1 hrun
  cases huuid
  exact hassumed _ (List.mem_singleton.2 rfl) ht

section
variable (hsettings : trusted → s.Plain) (hname : Plain params.name)
  (htexts : ∀ text ∈ params.texts, Plain text)
include hsettings hname htexts

theorem ensures_createFromXml : ((ofSettings s).createFromXml params).Ensures
    (fun e => trusted → e.Plain) (Proper s trusted) fun _ => True := by
  unfold createFromXml
  split
  · exact Action.ensures_throw _ _
  · rename_i template htemplate
    have hplain : Plain template := htexts _ (by simp [Vm.Parameters.texts, htemplate])
    have htarget : trusted → Plain ((ofSettings s).workFile (params.name ++ ".xml")) :=
      plain_workFile hsettings (plain_append.2 ⟨hname, by decide⟩)
    have hcopy := Action.uses_perform (proper_copyFile (s := s) hplain htarget)
    refine (Action.Ensures.of_uses hcopy fun _ => trivial).bind fun _ (_ : True) => ?_
    refine ensures_freshUuid.bind fun uuid huuid => ?_
    have hreplace := Action.uses_perform (proper_replaceUuid (s := s) htarget huuid)
    have hdefine : ((ofSettings s).tool.define ((ofSettings s).workFile (params.name ++ ".xml"))).Uses
        (Proper s trusted) :=
      (uses_command fun ht => plain_append.2 ⟨by decide, htarget ht⟩).bind fun _ => Action.uses_pure _
    refine .of_uses (hreplace.bind fun _ => hdefine.bind fun _ => ?_) fun _ => trivial
    exact (uses_start fun _ => hname).bind fun _ => Action.uses_pure _

theorem ensures_createVm (hmac : trusted → ∀ mac ∈ params.mac, Plain mac) :
    ((ofSettings s).createVm params).Ensures (fun e => trusted → e.Plain) (Proper s trusted)
      fun _ => True := by
  unfold createVm
  split
  · exact ensures_createFromXml hsettings hname htexts
  · refine (ensures_prepareDisk hname htexts).bind fun disk hdisk => ?_
    have hinstall (suffix : Option Command.InstallSuffix) : Proper s trusted
        (.execute (Command.virtInstall params disk s.largeVcpu suffix) {}) := by
      have hvirsh : Apart (Command.virtInstall params disk s.largeVcpu suffix) := by
        obtain ⟨flags, hflags⟩ := exists_virtInstall_eq params disk s.largeVcpu suffix
        rw [hflags]
        exact ((Apart.append (by decide) _).append _).append _
      exact proper_plain hvirsh rfl rfl fun ht =>
        plain_virtInstall hname htexts (hmac ht) hdisk (hsettings ht).flags suffix
    have huses : ((ofSettings s).install params disk).Uses (Proper s trusted) := uses_install hinstall
    exact .of_uses (huses.bind fun _ => Action.uses_pure _) fun _ => trivial

end

/-! ## Several virtual machines -/

/-- The MACs of free network data are texts of the host. -/
theorem ensures_freeNetworkData (path : String) (count : Nat) :
    ((ofSettings s).freeNetworkData path count).Ensures (fun e => trusted → e.Plain) (Proper s trusted)
      fun free => trusted → ∀ entry ∈ free, Plain entry.mac := by
  refine Action.ensures_of_runs (uses_probing path count) fun t free hrun hassumed ht entry hentry => ?_
  obtain ⟨content, entries, hread, hentries, hfree, -⟩ := sublist_of_runs_freeNetworkData hrun
  exact hassumed _ hread ht content entries rfl hentries entry (hfree.subset hentry)

theorem plain_nameOfAddress {stem : String} (hstem : Plain stem) (ip : Ipv4) :
    Plain (nameOfAddress ip stem) := by
  have hdigits (octet : UInt8) : Plain (octetDigits octet) :=
    Shell.plain_ofList.2 (Text.forall_mem_zeroFill (by decide)
      (fun d hd => Shell.digitChar_notMem_special d (by omega)) 3 octet.toNat)
  simp +decide [nameOfAddress, hstem, hdigits]

theorem ensures_createOnEntries (hsettings : trusted → s.Plain)
    (htexts : ∀ text ∈ params.texts, Plain text) {stem : String} (hstem : Plain stem)
    {entries : List Network.Entry} (hentries : trusted → ∀ entry ∈ entries, Plain entry.mac) :
    ((ofSettings s).createOnEntries params stem entries).Ensures (fun e => trusted → e.Plain)
      (Proper s trusted) fun _ => True := by
  induction entries with
  | nil => exact Action.ensures_pure trivial
  | cons entry rest ih =>
    have hmac : trusted → ∀ mac ∈ some entry.mac, Plain mac := by
      intro ht mac hmac
      obtain rfl := Option.some.inj hmac
      exact hentries ht entry (by simp)
    have hcreate : ((ofSettings s).createVm (paramsOn params stem entry)).Ensures
        (fun e => trusted → e.Plain) (Proper s trusted) fun _ => True :=
      ensures_createVm hsettings (plain_nameOfAddress hstem entry.ip) htexts hmac
    refine hcreate.bind fun _ _ => ?_
    refine (ih fun ht e he => hentries ht e (by simp [he])).bind fun _ _ => ?_
    exact Action.ensures_pure trivial

/-! ## Operations -/

/-- What can be done to create virtual machines and to prepare it. The texts of a caller are plain, except for
the path of a local file. -/
inductive CreationOperation (h : Hypervisor) : {α : Type} → Program α → Prop
  | createVm {params : Vm.Parameters} (hname : Plain params.name)
    (htexts : ∀ text ∈ params.texts, Plain text) (hmac : ∀ mac ∈ params.mac, Plain mac) :
    CreationOperation h (h.createVm params).attempt
  | createFromXml {params : Vm.Parameters} (hname : Plain params.name)
    (htexts : ∀ text ∈ params.texts, Plain text) : CreationOperation h (h.createFromXml params).attempt
  | createVms (count : Nat) {params : Vm.Parameters} (htexts : ∀ text ∈ params.texts, Plain text)
    (path : String) {stem : String} (hstem : Plain stem) :
    CreationOperation h (h.createVms count params path stem).attempt
  | cloneDisk {source destination : String} (hsource : Plain source) (hdestination : Plain destination)
    (seconds : Nat) : CreationOperation h (h.cloneDisk source destination seconds).attempt
  | memoryPerVm (vms : Nat) : CreationOperation h (h.memoryPerVm vms).attempt

theorem CreationOperation.follows (hsettings : trusted → s.Plain) {α : Type} {p : Program α}
    (hp : CreationOperation (ofSettings s) p) : Follows s trusted p := by
  cases hp with
  | createVm hname htexts hmac =>
    exact .of_ensures (ensures_createVm hsettings hname htexts fun _ => hmac)
  | createFromXml hname htexts => exact .of_ensures (ensures_createFromXml hsettings hname htexts)
  | @createVms count params htexts path stem hstem =>
    have hcreate : ((ofSettings s).createVms count params path stem).Ensures
        (fun e => trusted → e.Plain) (Proper s trusted) fun _ => True :=
      (ensures_freeNetworkData path count).bind fun free hfree =>
        ensures_createOnEntries hsettings htexts hstem hfree
    exact .of_ensures hcreate
  | cloneDisk hsource hdestination seconds =>
    exact .of_uses (uses_copyDisk (fun _ => hsource) (fun _ => hdestination) seconds)
  | memoryPerVm vms => exact .of_uses (uses_memoryPerVm vms)

end Hypervisor
end VirtHost
