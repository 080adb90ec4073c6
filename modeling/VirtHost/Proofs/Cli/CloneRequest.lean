import VirtHost.Cli.Run
import VirtHost.Proofs.Cli.Calls
import VirtHost.Proofs.Hypervisor.Creation
import VirtHost.Proofs.Hypervisor.CreationRequests
import VirtHost.Proofs.Hypervisor.DiskCopy

/-! # Copies of disks that command lines ask for

* `ClonedFirst`: the exchanges in which a virtual machine is installed on a copy of its disk.
* `IsNewVm.consistent`: which of the options about the disk go together.
* `newVm_copies`: what words ask for that are accepted, and when the copy is made.
* `newVm_copy_dropped`: a copy that is asked for and not made.
-/

namespace VirtHost.Hypervisor
set_option autoImplicit false

variable {h : Hypervisor} {params : Vm.Parameters} {source directory : String} {t : List Exchange}
  {r : Except Error String}

/-- The exchanges in which a virtual machine is installed on a copy of its disk, and the name of the virtual
machine; or those in which the disk could not be copied, and the error of that. -/
inductive ClonedFirst (h : Hypervisor) (params : Vm.Parameters) (source copy : String) :
    List Exchange → Except Error String → Prop
  | failed {t : List Exchange} {e : Error}
      (hcopy : (h.cloneDisk source copy (h.copyTime params)).Runs t (.error e)) :
      ClonedFirst h params source copy t (.error e)
  | installed {before installing : List Exchange} {o : Except Error Unit}
      (hcopy : (h.cloneDisk source copy (h.copyTime params)).Runs before (.ok copy))
      (hinstall : (h.install params (some copy)).Runs installing o) :
      ClonedFirst h params source copy (before ++ installing) (o.map fun _ => params.name)

theorem clonedFirst_of_runs (htemplate : params.xmlTemplate = none) (hdisk : params.disk = some source)
    (hdirectory : params.cloneDirectory = some directory) (hrun : (h.createVm params).Runs t r) :
    ClonedFirst h params source (Host.joinPath directory params.name) t r := by
  simp only [createVm, htemplate, Option.isSome_none, Bool.false_eq_true, if_false, prepareDisk, hdisk,
    hdirectory] at hrun
  rcases Action.runs_bind.1 hrun with ⟨e, he, rfl⟩ | ⟨before, installing, disk, rfl, hcopy, hrest⟩
  · obtain ⟨o, ho, hfailed⟩ := Action.runs_map.1 he
    cases o with
    | ok path => cases hfailed
    | error e' =>
      cases hfailed
      exact .failed ho
  · obtain ⟨o, ho, hcopied⟩ := Action.runs_map.1 hcopy
    cases o with
    | error e => cases hcopied
    | ok path =>
      cases hcopied
      obtain rfl := eq_of_runs_cloneDisk ho
      obtain ⟨o, hinstall, rfl⟩ := Action.runs_bind_pure.1 hrest
      exact .installed ho hinstall

theorem startedIn_eq_nil (hdisk : params.disk = none) (hrun : (h.createVm params).Runs t r) :
    startedIn t = [] := by
  rw [startedIn, List.filterMap_eq_nil_iff]
  rintro ⟨request, reply⟩ he
  cases Action.Uses.of_runs uses_createVm hrun ⟨request, reply⟩ he with
  | copyDisk hsource hdirectory =>
    rw [hdisk] at hsource
    cases hsource
  | _ => rfl

end VirtHost.Hypervisor

namespace VirtHost.Cli
open Hypervisor (ClonedFirst startedIn)
set_option autoImplicit false

/-- The commands that create a virtual machine. -/
def IsNewVm (name : String) : Prop :=
  name = "run-vm" ∨ name = "run-siov-vm"

/-- The virtual machine that a command creates. -/
def Command.newVm? : Command → Option RunVm
  | .runVm vm => some vm
  | .runMediatedVm vm _ _ => some vm
  | _ => none

section
variable {name : String} {m : Matches} {vm : RunVm} {rest : List String}

theorem command_newVm? (h : (m.command name).newVm? = some vm) : IsNewVm name ∧ m.runVm = vm := by
  grind [Matches.command, Command.newVm?, IsNewVm]

/-- The options that say where the disk of a new virtual machine comes from. -/
def diskOptions : List String :=
  ["disk", "clone-to", "xml-template"]

theorem IsNewVm.takes (h : IsNewVm name) {other : String} (hother : other ∈ diskOptions) :
    (grammarOf name).Takes other .text where
  isName := by
    have hnames : ∀ other ∈ diskOptions, other ≠ "" ∧ '=' ∉ other.toList := by decide +kernel
    exact ⟨(hnames other hother).1, (hnames other hother).2⟩
  form := by
    rcases h with rfl | rfl
    · exact (by decide +kernel : ∀ other ∈ diskOptions,
        (grammarOf "run-vm").formOf? other = some (.option .text)) other hother
    · exact (by decide +kernel : ∀ other ∈ diskOptions,
        (grammarOf "run-siov-vm").formOf? other = some (.option .text)) other hother
  ne_position := by
    rcases h with rfl | rfl
    · exact fun _ => List.not_mem_nil
    · exact fun _ => List.not_mem_nil

/-- What words give for a parameter. There is a value exactly if the parameter is named. -/
structure ValueIn (words : List String) (name : String) (value : Option String) : Prop where
  given : ∀ s, value = some s ↔ Given words name s
  named : value ≠ none ↔ Named words name

/-- The virtual machine has the disk, the directory for a copy and the domain XML that words give. -/
structure Asks (words : List String) (vm : RunVm) : Prop where
  disk : ValueIn words "disk" vm.disk
  cloneTo : ValueIn words "clone-to" vm.cloneTo
  xmlTemplate : ValueIn words "xml-template" vm.xmlTemplate

theorem IsNewVm.valueIn (h : IsNewVm name) (hread : (grammarOf name).read rest = .ok m) (other : String)
    (hother : other ∈ diskOptions) : ValueIn rest other (m.text? other) where
  given _ := text?_eq_some_iff_given (h.takes hother) hread
  named := by
    rw [← isSome_text?_iff_named (h.takes hother) hread, Option.isSome_iff_ne_none]

theorem IsNewVm.asks (h : IsNewVm name) (hread : (grammarOf name).read rest = .ok m) : Asks rest m.runVm where
  disk := h.valueIn hread "disk" (by decide)
  cloneTo := h.valueIn hread "clone-to" (by decide)
  xmlTemplate := h.valueIn hread "xml-template" (by decide)

theorem IsNewVm.has_iff_ne_none (h : IsNewVm name) (hread : (grammarOf name).read rest = .ok m)
    (other : String) (hother : other ∈ diskOptions) : m.has other = true ↔ m.text? other ≠ none := by
  rw [Grammar.has_iff_named (plain_grammarOf name) (h.takes hother) hread, (h.valueIn hread other hother).named]

/-- Of the disk and the domain XML one is given at most, and with a directory for a copy one of them is. -/
theorem IsNewVm.consistent (h : IsNewVm name) (hread : (grammarOf name).read rest = .ok m) :
    (m.runVm.xmlTemplate = none ∨ m.runVm.disk = none) ∧
      (m.runVm.cloneTo ≠ none → m.runVm.disk ≠ none ∨ m.runVm.xmlTemplate ≠ none) := by
  obtain ⟨hcheck, -⟩ := Grammar.exists_tracks_of_read (plain_grammarOf name) hread
  obtain ⟨hexclusive, -, hneeds, -⟩ := Grammar.check_eq_ok_iff.1 hcheck
  have hpair : (grammarOf name).exclusive = [("xml-template", "disk")] := by
    rcases h with rfl | rfl <;> rfl
  have hboth : ¬ (m.has "xml-template" = true ∧ m.has "disk" = true) :=
    hexclusive ("xml-template", "disk") (by simp [hpair])
  -- A disk that is excluded by a domain XML counts as given.
  have hneed : m.has "clone-to" = true → m.has "disk" = true ∨ m.has "xml-template" = true := by
    intro hclone
    have hdisk := hneeds ("clone-to", "disk") (by rcases h with rfl | rfl <;> decide +kernel) hclone
    simpa [Grammar.isSatisfied, Grammar.isExcluded, hpair] using hdisk
  simp only [h.has_iff_ne_none hread "disk" (by decide), h.has_iff_ne_none hread "clone-to" (by decide),
    h.has_iff_ne_none hread "xml-template" (by decide)] at hboth hneed
  refine ⟨?_, hneed⟩
  rcases not_and_or.1 hboth with htemplate | hdisk
  · exact .inl (not_not.1 htemplate)
  · exact .inr (not_not.1 hdisk)

end

/-- **Copies of disks.** Words that are accepted name a disk or a domain XML, or none of them, and name one
if they ask for a copy. Without a domain XML the disk is copied before anything is installed. With one the
parameters have a directory for the copy but no disk, and nothing is copied. -/
theorem newVm_copies {environment : Option String} {words : List String} {invocation : Invocation}
    {vm : RunVm} (hread : Invocation.read environment words = .ok invocation)
    (hvm : invocation.command.newVm? = some vm) :
    ∃ name rest, IsNewVm name ∧ Calls words name rest ∧ Asks rest vm ∧
      (vm.xmlTemplate = none ∨ vm.disk = none) ∧
      (vm.cloneTo ≠ none → vm.disk ≠ none ∨ vm.xmlTemplate ≠ none) ∧
      ∀ entry, ((vm.parameters entry).cloneDirectory ≠ none ∧ (vm.parameters entry).disk = none ↔
          vm.cloneTo ≠ none ∧ vm.xmlTemplate ≠ none) ∧
        ∀ (h : Hypervisor) t r, (h.createVm (vm.parameters entry)).Runs t r →
          ∀ directory, vm.cloneTo = some directory →
            (vm.xmlTemplate = none → ∃ source, vm.disk = some source ∧
              ClonedFirst h (vm.parameters entry) source
                (Host.joinPath directory (vm.parameters entry).name) t r) ∧
            (vm.xmlTemplate ≠ none → startedIn t = []) := by
  obtain ⟨name, rest, m, hcalls, hm, hcommand⟩ := exists_calls_of_read hread
  rw [hcommand] at hvm
  obtain ⟨hname, rfl⟩ := command_newVm? hvm
  obtain ⟨hsource, hneed⟩ := hname.consistent hm
  refine ⟨name, rest, hname, hcalls, hname.asks hm, hsource, hneed, fun entry => ⟨⟨?_, ?_⟩, ?_⟩⟩
  · rintro ⟨hclone, hdisk⟩
    exact ⟨hclone, (hneed hclone).resolve_left fun hgiven => hgiven hdisk⟩
  · rintro ⟨hclone, htemplate⟩
    exact ⟨hclone, hsource.resolve_left htemplate⟩
  · intro h t r hrun directory hdirectory
    refine ⟨fun htemplate => ?_, fun htemplate => ?_⟩
    · have hgiven : m.runVm.disk ≠ none :=
        (hneed (by simp [hdirectory])).resolve_right fun hgiven => hgiven htemplate
      obtain ⟨source, hdisk⟩ := Option.ne_none_iff_exists'.1 hgiven
      exact ⟨source, hdisk, Hypervisor.clonedFirst_of_runs htemplate hdisk hdirectory hrun⟩
    · exact Hypervisor.startedIn_eq_nil (hsource.resolve_left htemplate) hrun

/-- A virtual machine on the network data of a file. -/
def vmFrom (disk cloneTo xmlTemplate : Option String) : RunVm where
  networkData := "net.conf"
  stem := "vm"
  vcpus := 2
  memoryMib := 2048
  osVariant := none
  legacy := false
  bridge := none
  disk := disk
  cloneTo := cloneTo
  xmlTemplate := xmlTemplate
  wait := false

/-- The first entry of the network data. -/
def firstEntry : Network.Entry :=
  ⟨⟨10, 0, 0, 1⟩, "AA:BB:CC:DD:EE:01"⟩

/-- A virtual machine that is installed on a copy of its disk. -/
theorem newVm_copies_installed :
    let own := ["--clone-to=/vms", "--network-data", "net.conf", "--disk", "/base.img"]
    let vm := vmFrom (some "/base.img") (some "/vms") none
    let params := vm.parameters firstEntry
    let h : Hypervisor := {}
    let unknown := Host.refused "stat: cannot statx"
    let t := h.watched "/base.img" "/vms/vm-000-001" unknown 0 [] true ++
      [.ran (Command.virtInstall params (some "/vms/vm-000-001") {} none) {} (Host.printed "")]
    (∃ globals, Invocation.read none ("run-vm" :: own) = .ok ⟨globals, .runVm vm⟩) ∧
      Asks own vm ∧ (h.createVm params).Runs t (.ok "vm-000-001") ∧
      ClonedFirst h params "/base.img" "/vms/vm-000-001" t (.ok "vm-000-001") := by
  intro own vm params h unknown t
  have hrun : (h.createVm params).Runs t (.ok "vm-000-001") := Action.runs_of_play (by decide +kernel)
  have hread : ∃ globals, Invocation.read none ("run-vm" :: own) = .ok ⟨globals, .runVm vm⟩ := ⟨_, by rfl⟩
  obtain ⟨globals, hread⟩ := hread
  obtain ⟨name, rest, -, hcalls, hasks, -, -, hcreated⟩ := newVm_copies hread rfl
  have hown : Calls ("run-vm" :: own) "run-vm" own := ⟨[], {}, rfl, rfl, by decide +kernel⟩
  obtain ⟨-, rfl⟩ := hown.unique hcalls
  obtain ⟨source, hsource, hcloned⟩ := ((hcreated firstEntry).2 h t _ hrun "/vms" rfl).1 rfl
  obtain rfl : "/base.img" = source := Option.some.inj hsource
  have hcopy : Host.joinPath "/vms" (vm.parameters firstEntry).name = "/vms/vm-000-001" := by
    decide +kernel
  rw [hcopy] at hcloned
  exact ⟨⟨globals, hread⟩, hasks, hrun, hcloned⟩

/-- A copy that is asked for together with a domain XML is not made, and the virtual machine is created. -/
theorem newVm_copy_dropped :
    let own := ["--network-data", "net.conf", "--clone-to", "/vms", "--xml-template", "/vm.xml"]
    let vm := vmFrom none (some "/vms") (some "/vm.xml")
    let params := vm.parameters firstEntry
    let target := "/tmp/vm-000-001.xml"
    let t : List Exchange := [.ran ("cp /vm.xml " ++ target) {} (Host.printed ""),
      ⟨.freshUuid, "u"⟩, .ran ("sed -i 's/<VM_UUID>/u/g' " ++ target) {} (Host.printed ""),
      ({} : Virsh).ran ("define " ++ target) (Host.printed "Domain vm-000-001 defined"),
      ({} : Virsh).ran "start vm-000-001" (Host.printed "")]
    (∃ globals, Invocation.read none ("run-vm" :: own) = .ok ⟨globals, .runVm vm⟩) ∧
      ¬ Named own "disk" ∧ params.cloneDirectory = some "/vms" ∧ params.disk = none ∧
      (({} : Hypervisor).createVm params).Runs t (.ok "vm-000-001") ∧ startedIn t = [] := by
  intro own vm params target t
  refine ⟨⟨_, by rfl⟩, fun hnamed => ?_, rfl, rfl, Action.runs_of_play (by decide +kernel), rfl⟩
  have hname : IsNewVm "run-vm" := .inl rfl
  have hread : ∃ m : Matches, (grammarOf "run-vm").read own = .ok m ∧ m.text? "disk" = none :=
    ⟨_, by rfl, by rfl⟩
  obtain ⟨m, hm, hnone⟩ := hread
  exact (hname.valueIn hm "disk" (by decide)).named.2 hnamed hnone

end VirtHost.Cli
