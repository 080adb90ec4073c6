import VirtHost.Hypervisor.Creation
import VirtHost.Proofs.Host.InTurn
import VirtHost.Proofs.Hypervisor.Disk
import VirtHost.Proofs.Text.Scan
import VirtHost.Proofs.Virsh

/-! # Runs that create a virtual machine

* `DefinedFrom`: the commands that define a virtual machine from a domain XML.
* `Prepared`: the disk that a virtual machine is installed on, which may be a copy.
* `Installing`: an installation and, if it is rejected for want of a flag, a second one with the flag.
* `createVm_steps`: the creation of a virtual machine is one of these.
* `eq_of_runs_createVm`: a virtual machine is created under the name of its parameters.
-/

namespace VirtHost.Hypervisor
open Host (Succeeded)
set_option autoImplicit false

variable {h : Hypervisor} {params : Vm.Parameters} {t : List Exchange}

/-! ## From a domain XML -/

/-- The commands that define and start a virtual machine from a domain XML with a given UUID. -/
def definitionCommands (h : Hypervisor) (params : Vm.Parameters) (template uuid : String) :
    List String :=
  let target := h.workFile (params.name ++ ".xml")
  ["cp " ++ template ++ " " ++ target, "sed -i 's/<VM_UUID>/" ++ uuid ++ "/g' " ++ target,
    "virsh define " ++ target, "virsh start " ++ params.name]

/-- A virtual machine is defined from a domain XML: its commands are run up to the first failure. -/
structure DefinedFrom (h : Hypervisor) (params : Vm.Parameters) (template uuid : String)
    (t : List Exchange) (r : Except Error String) : Prop where
  commands : commandsOf t <+: h.definitionCommands params template uuid
  /-- The UUID is a fresh one. -/
  fresh : 1 < (commandsOf t).length → ⟨.freshUuid, uuid⟩ ∈ t
  cut : ∀ k, k < (commandsOf t).length ↔ k < 4 ∧ ∀ reply ∈ (repliesOf t).take k, Succeeded reply
  succeeds : r = .ok params.name ↔
    (commandsOf t).length = 4 ∧ ∀ reply ∈ repliesOf t, Succeeded reply
  fails : ∀ e, r = .error e →
    ∃ reply, (repliesOf t).getLast? = some reply ∧ ({} : Host.Options).outcome reply = .error e

theorem definedFrom_of_inTurn {template uuid : String} {r : Except Error String}
    (hturn : InTurn params.name (h.definitionCommands params template uuid) t r)
    (hfresh : 1 < (commandsOf t).length → ⟨.freshUuid, uuid⟩ ∈ t) :
    DefinedFrom h params template uuid t r where
  commands := hturn.commandsOf_prefix
  fresh := hfresh
  cut k := by
    rw [← length_repliesOf]
    exact hturn.lt_length_iff k
  succeeds := by
    rw [← length_repliesOf]
    exact hturn.eq_ok_iff
  fails _ he := hturn.eq_error he

theorem runsCommand_define (v : Virsh) (path : String) :
    (v.define path).RunsCommand ("virsh define " ++ path) := by
  have hcommand : "virsh define " ++ path = "virsh " ++ ("define " ++ path) := by
    rw [← String.append_assoc]
    rfl
  rw [hcommand]
  exact (Action.runsCommand_execute rfl).map _

theorem runsCommand_start (v : Virsh) (name : String) :
    (v.start name).RunsCommand ("virsh start " ++ name) := by
  have hcommand : "virsh start " ++ name = "virsh " ++ ("start " ++ name) := by
    rw [← String.append_assoc]
    rfl
  rw [hcommand]
  exact (Action.runsCommand_execute rfl).map _

/-- The commands of a definition are run in turn, with a UUID that is asked for after the first. -/
theorem runs_createFromXml {template : String} (htemplate : params.xmlTemplate = some template)
    {r : Except Error String} (hrun : (h.createFromXml params).Runs t r) :
    ∃ uuid, DefinedFrom h params template uuid t r := by
  unfold createFromXml at hrun
  simp only [htemplate] at hrun
  have hcopy : (perform (Command.copyFile template (h.workFile (params.name ++ ".xml"))) {}).RunsCommand
      (Command.copyFile template (h.workFile (params.name ++ ".xml"))) :=
    Action.runsCommand_perform rfl
  rcases Action.runs_bind.1 hrun with ⟨e, he, rfl⟩ | ⟨u, v, x, rfl, hu, hv⟩
  · obtain ⟨options, reply, rfl, ⟨x, hx, -⟩ | ⟨e', he', hreply, houtcome⟩⟩ := hcopy t _ he
    · cases hx
    · cases he'
      exact ⟨"", definedFrom_of_inTurn (.failed hreply houtcome) (by simp)⟩
  · obtain ⟨options, reply, rfl, ⟨x', -, hreply⟩ | ⟨e', he', -⟩⟩ := hcopy u _ hu
    · rcases Action.runs_bind.1 hv with ⟨e, he, -⟩ | ⟨u, w, uuid, rfl, hu, hw⟩
      · obtain ⟨uuid, -, huuid⟩ := Action.runs_freshUuid.1 he
        cases huuid
      · obtain ⟨uuid', rfl, huuid⟩ := Action.runs_freshUuid.1 hu
        cases huuid
        refine ⟨uuid, definedFrom_of_inTurn (.succeeded hreply (.between rfl ?_)) (by simp)⟩
        refine InTurn.bind (Action.runsCommand_perform rfl) (fun _ v hv => ?_) hw
        refine InTurn.bind (runsCommand_define _ _) (fun _ v hv => ?_) hv
        refine InTurn.bind (runsCommand_start _ _) (fun _ v hv => ?_) hv
        obtain ⟨rfl, rfl⟩ := Action.runs_pure.1 hv
        exact .done
    · cases he'

/-! ## Copying the disk -/

/-- A request that does not install a virtual machine. -/
def SparesInstall : Host.Request → Prop
  | .execute command _ => Text.startsWith command "virt-install" = false
  | .start command _ => Text.startsWith command "virt-install" = false
  | _ => True

theorem sparesInstall_fileSize (path : String) (options : Host.Options) :
    SparesInstall (.execute (Command.fileSize path) options) :=
  Text.startsWith_append_of_ne (c := 's') (d := 'v') (by decide +kernel) (by decide +kernel)
    (by decide)

theorem sparesInstall_copyFile (source destination : String) :
    SparesInstall (.start (Command.copyFile source destination) false) := by
  have hcommand : Command.copyFile source destination = "cp " ++ (source ++ " " ++ destination) := by
    simp only [Command.copyFile, String.append_assoc]
  rw [hcommand]
  exact Text.startsWith_append_of_ne (c := 'c') (d := 'v') (by decide +kernel) (by decide +kernel)
    (by decide)

/-- How long copying the disk may take, in seconds. -/
def copyTime (h : Hypervisor) (params : Vm.Parameters) : Nat :=
  params.cloneTimeout.getD h.settings.cloneTimeout

/-- The exchanges before an installation, and the disk for it: a copy if one is asked for. Nothing is
installed in these exchanges. -/
inductive Prepared (h : Hypervisor) (params : Vm.Parameters) : List Exchange → Option String → Prop
  | copied {source directory : String} {t : List Exchange} (hdisk : params.disk = some source)
      (hdirectory : params.cloneDirectory = some directory)
      (hcopy : (h.cloneDisk source (Host.joinPath directory params.name) (h.copyTime params)).Runs t
        (.ok (Host.joinPath directory params.name)))
      (hspares : ∀ e ∈ t, SparesInstall e.request) :
      Prepared h params t (some (Host.joinPath directory params.name))
  | kept (hkept : params.disk = none ∨ params.cloneDirectory = none) : Prepared h params [] params.disk

/-- The exchanges in which the disk could not be copied, and the error of that. Nothing is installed
in these exchanges. -/
inductive CopyFailed (h : Hypervisor) (params : Vm.Parameters) : List Exchange → Error → Prop
  | intro {source directory : String} {t : List Exchange} {e : Error}
      (hdisk : params.disk = some source) (hdirectory : params.cloneDirectory = some directory)
      (hcopy : (h.cloneDisk source (Host.joinPath directory params.name) (h.copyTime params)).Runs t
        (.error e))
      (hspares : ∀ e ∈ t, SparesInstall e.request) : CopyFailed h params t e

theorem sparesInstall_of_runs {source destination : String} {seconds : Nat} {r : Except Error String}
    (hrun : (h.cloneDisk source destination seconds).Runs t r) :
    ∀ e ∈ t, SparesInstall e.request :=
  Action.Uses.of_runs (uses_cloneDisk trivial (fun path _ => sparesInstall_fileSize path _)
    (sparesInstall_copyFile source destination) (fun _ => trivial) fun _ => trivial) hrun

theorem runs_prepareDisk {r : Except Error (Option String)}
    (hrun : (h.prepareDisk params).Runs t r) :
    (∃ e, CopyFailed h params t e ∧ r = .error e) ∨ ∃ disk, Prepared h params t disk ∧ r = .ok disk := by
  unfold prepareDisk at hrun
  split at hrun
  · rename_i source directory hdisk hdirectory
    obtain ⟨o, ho, rfl⟩ := Action.runs_map.1 hrun
    cases o with
    | error e => exact .inl ⟨e, .intro hdisk hdirectory ho (sparesInstall_of_runs ho), rfl⟩
    | ok path =>
      obtain rfl := eq_of_runs_cloneDisk ho
      exact .inr ⟨_, .copied hdisk hdirectory ho (sparesInstall_of_runs ho), rfl⟩
  · rename_i hnone
    obtain ⟨rfl, rfl⟩ := Action.runs_pure.1 hrun
    refine .inr ⟨params.disk, .kept ?_, rfl⟩
    cases hdisk : params.disk with
    | none => exact .inl rfl
    | some source =>
      cases hdirectory : params.cloneDirectory with
      | none => exact .inr rfl
      | some directory => exact absurd hdirectory (hnone source directory hdisk)

/-! ## Installing -/

/-- An installation was rejected for want of a flag. If two flags are asked for, the first one is
taken. -/
inductive Rejected (e : Error) : Command.InstallSuffix → Prop
  | osInfo (hname : e.stderrContains "OS name is required" = true) : Rejected e .osInfo
  | importDisk (hname : e.stderrContains "OS name is required" = false)
      (hmethod : e.stderrContains "An install method must be specified" = true) :
      Rejected e .importDisk

theorem suffixFor?_eq_some_iff {e : Error} {suffix : Command.InstallSuffix} :
    suffixFor? e = some suffix ↔ Rejected e suffix := by
  constructor
  · intro hsuffix
    unfold suffixFor? at hsuffix
    split at hsuffix
    · unfold Command.InstallSuffix.ofStderr? at hsuffix
      split at hsuffix
      · rename_i hname
        obtain rfl := Option.some.inj hsuffix
        exact .osInfo hname
      · rename_i hname
        split at hsuffix
        · rename_i hmethod
          obtain rfl := Option.some.inj hsuffix
          exact .importDisk (by simpa [Error.stderrContains] using hname) hmethod
        · cases hsuffix
    · cases hsuffix
  · rintro (hname | ⟨hname, hmethod⟩)
    · cases e with
      | execution command code stdout stderr =>
        simp only [Error.stderrContains] at hname
        simp [suffixFor?, Command.InstallSuffix.ofStderr?, hname]
      | _ => cases hname
    · cases e with
      | execution command code stdout stderr =>
        simp only [Error.stderrContains] at hname hmethod
        simp [suffixFor?, Command.InstallSuffix.ofStderr?, hname, hmethod]
      | _ => cases hmethod

theorem virtInstall_some (params : Vm.Parameters) (disk : Option String)
    (policy : Command.LargeVcpuPolicy) (suffix : Command.InstallSuffix) :
    Command.virtInstall params disk policy (some suffix) =
      Command.virtInstall params disk policy none ++ " " ++ suffix.text := by
  have hparts : Command.installParts params disk policy (some suffix) =
      Command.installParts params disk policy none ++ [suffix.text] := by
    simp [Command.installParts]
  rw [Command.virtInstall, Command.virtInstall, Command.joinStrings, Command.joinStrings, hparts,
    String.intercalate_append_of_ne_nil (by simp [Command.installParts]) (by simp),
    String.intercalate_singleton]

theorem exists_virtInstall_eq (params : Vm.Parameters) (disk : Option String)
    (policy : Command.LargeVcpuPolicy) (suffix : Option Command.InstallSuffix) :
    ∃ flags, Command.virtInstall params disk policy suffix =
      "virt-install --name=" ++ params.name ++ " " ++ flags := by
  have hparts : ∃ rest, Command.installParts params disk policy suffix =
      ["virt-install"] ++ (["--name=" ++ params.name] ++ rest) ∧ rest ≠ [] := by
    refine ⟨_, by rw [Command.installParts]; rfl, ?_⟩
    simp
  obtain ⟨rest, hrest, hne⟩ := hparts
  refine ⟨String.intercalate " " rest, ?_⟩
  rw [Command.virtInstall, Command.joinStrings, hrest,
    String.intercalate_append_of_ne_nil (by simp) (by simp), String.intercalate_singleton,
    String.intercalate_append_of_ne_nil (by simp) hne, String.intercalate_singleton]
  simp only [← String.append_assoc]
  rfl

/-- The command that installs a virtual machine on a disk, without any flag that was asked for. -/
def installCommand (h : Hypervisor) (params : Vm.Parameters) (disk : Option String) : String :=
  Command.virtInstall params disk h.settings.largeVcpu none

/-- The exchanges and the result of an installation: its command, and a second one with a flag at its
end exactly if the first one was rejected for want of it. The last one decides. -/
inductive Installing (h : Hypervisor) (params : Vm.Parameters) (disk : Option String) :
    List Exchange → Except Error Host.Completion → Prop
  | once {first : Except Error Host.Completion}
      (hfirst : ∀ e suffix, ({} : Host.Options).outcome first = .error e → ¬ Rejected e suffix) :
      Installing h params disk [.ran (h.installCommand params disk) {} first]
        (({} : Host.Options).outcome first)
  | again {first second : Except Error Host.Completion} {e : Error} {suffix : Command.InstallSuffix}
      (hfirst : ({} : Host.Options).outcome first = .error e) (hsuffix : Rejected e suffix) :
      Installing h params disk [.ran (h.installCommand params disk) {} first,
        .ran (h.installCommand params disk ++ " " ++ suffix.text) {} second]
        (({} : Host.Options).outcome second)

theorem runs_install {disk : Option String} {r : Except Error Unit}
    (hrun : (h.install params disk).Runs t r) :
    ∃ o, Installing h params disk t o ∧ r = o.map fun _ => () := by
  rcases Action.runs_tryCatch.1 hrun with ⟨x, hx, rfl⟩ | ⟨u, v, e, rfl, hu, hv⟩
  · obtain ⟨first, rfl, hfirst⟩ := Action.runs_perform.1 hx
    refine ⟨_, .once ?_, hfirst⟩
    intro e suffix he
    rw [he] at hfirst
    cases hfirst
  · obtain ⟨first, rfl, hfirst⟩ := Action.runs_perform.1 hu
    have herror : ({} : Host.Options).outcome first = .error e := by
      cases ho : ({} : Host.Options).outcome first with
      | ok c => simp [ho, Except.map] at hfirst
      | error e' =>
        rw [ho] at hfirst
        cases hfirst
        rfl
    split at hv
    · rename_i suffix hsuffix
      obtain ⟨second, rfl, rfl⟩ := Action.runs_perform.1 hv
      rw [virtInstall_some]
      exact ⟨_, .again herror (suffixFor?_eq_some_iff.1 hsuffix), rfl⟩
    · rename_i hnone
      obtain ⟨rfl, rfl⟩ := Action.runs_throw.1 hv
      refine ⟨_, .once ?_, by rw [herror]; rfl⟩
      intro e' suffix he' hsuffix
      rw [herror] at he'
      cases he'
      rw [suffixFor?_eq_some_iff.2 hsuffix] at hnone
      cases hnone

theorem finite_install (disk : Option String) : (h.install params disk).Finite := by
  refine Program.Finite.bind (Action.finite_perform _ _) fun o => ?_
  cases o with
  | ok x => exact trivial
  | error e =>
    dsimp only
    split
    · exact Action.finite_perform _ _
    · exact Action.finite_throw e

/-- An installation succeeds if its last command does. -/
theorem Installing.exists_ok_iff {disk : Option String} {o : Except Error Host.Completion}
    (hi : Installing h params disk t o) :
    (∃ c, o = .ok c) ↔ ∃ reply, (repliesOf t).getLast? = some reply ∧ Succeeded reply := by
  cases hi with
  | once _ => simp [Host.Options.exists_outcome_eq_ok_iff (o := {}) rfl]
  | again _ _ => simp [Host.Options.exists_outcome_eq_ok_iff (o := {}) rfl]

/-! ## Creating -/

theorem finite_createFromXml : (h.createFromXml params).Finite := by
  unfold createFromXml
  split
  · exact Action.finite_throw _
  · refine (Action.finite_perform _ _).bind fun _ => ?_
    refine Action.Finite.bind (Action.Finite.ofProgram fun _ => trivial) fun uuid => ?_
    refine (Action.finite_perform _ _).bind fun _ => ?_
    refine ((h.tool.finite_command _).bind fun _ => Action.finite_pure _).bind fun _ => ?_
    exact (h.tool.finite_perform _).bind fun _ => Action.finite_pure _

/-- A creation has no repetitions unless a disk is copied that is looked at without a pause. -/
theorem finite_createVm
    (hinterval : params.xmlTemplate = none → params.disk ≠ none → params.cloneDirectory ≠ none →
      h.settings.cloneInterval ≠ 0) : (h.createVm params).Finite := by
  unfold createVm
  split
  · exact finite_createFromXml
  · rename_i htemplate
    have hprepare : (h.prepareDisk params).Finite := by
      unfold prepareDisk
      split
      · rename_i source directory hdisk hdirectory
        have hmillis := hinterval (by simpa using htemplate) (by simp [hdisk]) (by simp [hdirectory])
        exact (finite_cloneDisk hmillis).bind fun _ => Action.finite_pure _
      · exact Action.finite_pure _
    refine hprepare.bind fun disk => ?_
    exact (finite_install disk).bind fun _ => Action.finite_pure _

theorem eq_of_runs_createVm {t : List Exchange} {name : String}
    (hrun : (h.createVm params).Runs t (.ok name)) : name = params.name := by
  unfold createVm at hrun
  split at hrun
  · unfold createFromXml at hrun
    split at hrun
    · cases (Action.runs_throw.1 hrun).2
    · obtain ⟨_, _, _, rfl, -, hrun⟩ := Action.runs_bind_ok.1 hrun
      obtain ⟨_, _, _, rfl, -, hrun⟩ := Action.runs_bind_ok.1 hrun
      obtain ⟨_, _, _, rfl, -, hrun⟩ := Action.runs_bind_ok.1 hrun
      obtain ⟨_, _, _, rfl, -, hrun⟩ := Action.runs_bind_ok.1 hrun
      obtain ⟨_, _, _, rfl, -, hrun⟩ := Action.runs_bind_ok.1 hrun
      exact Except.ok.inj (Action.runs_pure.1 hrun).2
  · obtain ⟨_, _, _, rfl, -, hrun⟩ := Action.runs_bind_ok.1 hrun
    obtain ⟨_, _, _, rfl, -, hrun⟩ := Action.runs_bind_ok.1 hrun
    exact Except.ok.inj (Action.runs_pure.1 hrun).2

/-- **Creating a virtual machine.** With a domain XML, its commands are run up to the first failure.
Without one, a virtual machine is installed on its disk or, if that is asked for, on a copy of it; an
installation that is rejected for want of a flag is made once more with it. -/
theorem createVm_steps (h : Hypervisor) (params : Vm.Parameters) :
    ((params.xmlTemplate = none → params.disk ≠ none → params.cloneDirectory ≠ none →
        h.settings.cloneInterval ≠ 0) →
      ∀ {σ : Type} (host : Host σ) rounds s,
        ∃ r s', (h.createVm params).attempt.run host rounds s = some (r, s')) ∧
    ∀ t r, (h.createVm params).Runs t r →
      (∀ template, params.xmlTemplate = some template →
        ∃ uuid, DefinedFrom h params template uuid t r) ∧
      (params.xmlTemplate = none →
        (∃ e, CopyFailed h params t e ∧ r = .error e) ∨
          ∃ before installing disk o, t = before ++ installing ∧ Prepared h params before disk ∧
            Installing h params disk installing o ∧ (r = o.map fun _ => params.name) ∧
            (r = .ok params.name ↔
              ∃ reply, (repliesOf installing).getLast? = some reply ∧ Succeeded reply)) := by
  refine ⟨fun hinterval σ host => (finite_createVm hinterval).exists_run host, fun t r hrun => ⟨?_, ?_⟩⟩
  · intro template htemplate
    simp only [createVm, htemplate, Option.isSome_some, if_true] at hrun
    exact runs_createFromXml htemplate hrun
  · intro htemplate
    simp only [createVm, htemplate, Option.isSome_none, Bool.false_eq_true, if_false] at hrun
    rcases Action.runs_bind.1 hrun with ⟨e, he, rfl⟩ | ⟨before, installing, disk, rfl, hdisk, hrest⟩
    · rcases runs_prepareDisk he with ⟨e', hfailed, he'⟩ | ⟨disk, -, he'⟩
      · cases he'
        exact .inl ⟨e, hfailed, rfl⟩
      · cases he'
    · rcases runs_prepareDisk hdisk with ⟨e', -, he'⟩ | ⟨disk, hprepared, hdisk'⟩
      · cases he'
      · cases hdisk'
        obtain ⟨u, hu, rfl⟩ := Action.runs_bind_pure.1 hrest
        obtain ⟨o, hinstalling, rfl⟩ := runs_install hu
        refine .inr ⟨before, installing, disk, o, rfl, hprepared, hinstalling, ?_, ?_⟩
        · cases o <;> rfl
        · rw [← hinstalling.exists_ok_iff]
          cases o <;> simp [Except.map]

/-- An installation without any parameters is rejected, and made once more with a flag. -/
theorem createVm_steps_retry :
    let h : Hypervisor := {}
    let command := h.installCommand {} none
    let t : List Exchange := [.ran command {} (Host.refused "OS name is required"),
      .ran (command ++ " " ++ "--osinfo detect=on,require=off") {} (Host.printed "")]
    (h.createVm {}).Runs t (.ok "vm") ∧
      ∃ before installing disk o, t = before ++ installing ∧ Prepared h {} before disk ∧
        Installing h {} disk installing o ∧ .ok "vm" = o.map fun _ => "vm" := by
  intro h command t
  have hcall : (h.createVm {}).Runs t (.ok "vm") := Action.runs_of_play (by decide +kernel)
  rcases ((createVm_steps h {}).2 t _ hcall).2 rfl with
    ⟨e, -, he⟩ | ⟨before, installing, disk, o, ht, hprepared, hinstalling, ho, -⟩
  · cases he
  · exact ⟨hcall, before, installing, disk, o, ht, hprepared, hinstalling, ho⟩

end VirtHost.Hypervisor
