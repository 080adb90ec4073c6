import VirtHost.Proofs.Cli.Job
import VirtHost.Proofs.Hypervisor.Echo

/-! # Removing a mediated device after a failure

* `runs_createMediated`: a mediated device exists once the host has echoed its UUID.
* `Continued`: what follows then, up to the end of the command.
* `runMediatedVm_removed_iff`: after a failure the device is removed exactly if there was one in the
  creation of the virtual machine.
* `runMediatedVm_left_behind`: two failures after which it is not removed.
-/

namespace VirtHost.Cli
open Host (Succeeded)
open Hypervisor (NoEcho)
set_option autoImplicit false

variable {h : Hypervisor} {vm : RunVm} {parent : Pci.Address} {file uuid : String}
  {t : List Exchange}

/-! ## Exchanges -/

/-- The exchange in which a mediated device is created. -/
def creating (h : Hypervisor) (uuid : String) (parent : Pci.Address)
    (reply : Except Error Host.Completion) : Exchange :=
  .ran (Command.createMediated uuid parent h.settings.mediatedType) ({} : Host.Options).inShell reply

/-- The exchange in which a mediated device is removed. -/
def removing (uuid : String) (reply : Except Error Host.Completion) : Exchange :=
  .ran (Command.removeMediated uuid) ({} : Host.Options).inShell reply

/-- A mediated device was created: the command for it succeeded and printed its UUID. -/
def Echoed (uuid : String) (reply : Except Error Host.Completion) : Prop :=
  ∃ c, reply = .ok c ∧ c.code = 0 ∧ Text.includes c.stdout uuid = true

/-- Some exchanges have the removal of a mediated device. -/
def Removed (uuid : String) (t : List Exchange) : Prop :=
  ∃ reply, removing uuid reply ∈ t

theorem Removed.mem_commandsOf (hremoved : Removed uuid t) :
    Command.removeMediated uuid ∈ commandsOf t := by
  obtain ⟨reply, hmem⟩ := hremoved
  exact List.mem_filterMap.2 ⟨_, hmem, rfl⟩

theorem not_removed (ht : ∀ e ∈ t, NoEcho e.request) : ¬ Removed uuid t := by
  rintro ⟨reply, hmem⟩
  have hquiet : Text.startsWith (Command.removeMediated uuid) "echo" = false := ht _ hmem
  have hcommand : Command.removeMediated uuid =
      "echo 1 > /sys/bus/mdev/devices/" ++ (uuid ++ "/remove") := String.append_assoc
  have hlength : "echo".toList.length ≤ "echo 1 > /sys/bus/mdev/devices/".toList.length := by
    decide +kernel
  have hecho : Text.startsWith "echo 1 > /sys/bus/mdev/devices/" "echo" = true := by decide +kernel
  rw [hcommand, Text.startsWith_append hlength, hecho] at hquiet
  cases hquiet

theorem removed_append {u v : List Exchange} :
    Removed uuid (u ++ v) ↔ Removed uuid u ∨ Removed uuid v := by
  simp only [Removed, List.mem_append, exists_or]

/-! ## Creating the device -/

theorem runs_createMediated {r : Except Error MediatedDevice.Handle}
    (hrun : (h.createMediated uuid parent file).Runs t r) :
    ∃ reply xml, t = creating h uuid parent reply :: xml ∧
      ((¬ Echoed uuid reply ∧ ∃ e, r = .error e) ∨
        Echoed uuid reply ∧ ∃ o, (h.writeMediatedXml file uuid).Runs xml o ∧
          r = o.map fun _ => ⟨uuid, parent⟩) := by
  rcases Action.runs_bind.1 hrun with ⟨e, he, rfl⟩ | ⟨u, v, c, rfl, hu, hv⟩
  · obtain ⟨reply, rfl, hreply⟩ := Action.runs_execute.1 he
    refine ⟨reply, [], rfl, .inl ⟨?_, e, rfl⟩⟩
    rintro ⟨c, rfl, hcode, -⟩
    exact Host.Options.not_succeeded rfl hreply.symm ⟨c, rfl, hcode⟩
  · obtain ⟨reply, rfl, hreply⟩ := Action.runs_execute.1 hu
    obtain ⟨rfl, hcode⟩ := (Host.Options.outcome_eq_ok_iff rfl).1 hreply.symm
    refine ⟨.ok c, v, rfl, ?_⟩
    by_cases hecho : Text.includes c.stdout uuid = true
    · rw [if_pos hecho] at hv
      obtain ⟨o, ho, rfl⟩ := Action.runs_bind_pure.1 hv
      exact .inr ⟨⟨c, rfl, hcode, hecho⟩, o, ho, rfl⟩
    · rw [if_neg hecho] at hv
      obtain ⟨-, rfl⟩ := Action.runs_throw.1 hv
      refine .inl ⟨?_, _, rfl⟩
      rintro ⟨c', hc', -, hecho'⟩
      cases hc'
      exact hecho hecho'

theorem eq_of_runs_writeMediatedXml {path : String}
    (hrun : (h.writeMediatedXml file uuid).Runs t (.ok path)) : path = file := by
  rcases Hypervisor.runs_writeXml.1 hrun with ⟨e, -, he⟩ | ⟨_, _, reply, -, -, hpath⟩
  · cases he
  · cases reply with
    | error e => cases hpath
    | ok x => exact Except.ok.inj hpath

/-! ## After that -/

/-- What follows after a mediated device was created, and the result of the command: its file is
written, a virtual machine is created, and the device is attached to it. If the virtual machine cannot
be created, the device is removed. -/
inductive Continued (h : Hypervisor) (vm : RunVm) (parent : Pci.Address) (file uuid : String) :
    List Exchange → Except Failure CreatedVm → Prop
  | unwritten {xml : List Exchange} {e : Error} (hxml : (h.writeMediatedXml file uuid).Runs xml (.error e)) :
      Continued h vm parent file uuid xml
        (.error (.operation (some ("Failed to create mdev on " ++ parent.text)) e))
  | uncreated {xml machine : List Exchange} {failure : Failure} {reply : Except Error Host.Completion}
      (hxml : (h.writeMediatedXml file uuid).Runs xml (.ok file))
      (hmachine : (createVm h vm (some uuid)).Runs machine (.error failure)) :
      Continued h vm parent file uuid (xml ++ (machine ++ [removing uuid reply])) (.error failure)
  | created {xml machine attaching : List Exchange} {made : CreatedVm} {o : Except Error Unit}
      (hxml : (h.writeMediatedXml file uuid).Runs xml (.ok file))
      (hmachine : (createVm h vm (some uuid)).Runs machine (.ok made))
      (hattaching : (h.attachDevice made.name file).Runs attaching o) :
      Continued h vm parent file uuid (xml ++ (machine ++ attaching))
        ((o.mapError (Failure.operation (some ("Failed to attach mdev " ++ uuid ++ " to " ++ made.name)))).map
          fun _ => made)

/-- The virtual machine could not be created, and the mediated device was removed in the end. -/
def Undone (h : Hypervisor) (vm : RunVm) (file uuid : String) (t : List Exchange) (failure : Failure) :
    Prop :=
  ∃ xml machine reply, t = xml ++ (machine ++ [removing uuid reply]) ∧
    (h.writeMediatedXml file uuid).Runs xml (.ok file) ∧
    (createVm h vm (some uuid)).Runs machine (.error failure)

theorem noEcho_createVm : (createVm h vm (some uuid)).Uses NoEcho := by
  refine Job.Uses.bind (Job.uses_doing (Hypervisor.noEcho_freeNetworkData _ _)) fun free => ?_
  cases free with
  | nil => exact Job.uses_throw _
  | cons entry rest =>
    refine Job.Uses.bind (Job.uses_doing (Hypervisor.noEcho_createVm _)) fun name => ?_
    dsimp only
    split
    · refine Job.Uses.bind (Job.uses_doing (Hypervisor.noEcho_awaitRunning name)) fun running => ?_
      split
      · exact Job.Uses.bind (Job.uses_throw _) fun _ => Job.uses_pure _
      · exact Job.uses_pure _
    · exact Job.uses_pure _

/-- The device is removed exactly if the virtual machine could not be created. -/
theorem Continued.removed_iff {r : Except Failure CreatedVm}
    (hcontinued : Continued h vm parent file uuid t r) :
    Removed uuid t ↔ ∃ failure, r = .error failure ∧ Undone h vm file uuid t failure := by
  constructor
  · intro hremoved
    cases hcontinued with
    | unwritten hxml =>
      have hquiet := Action.Uses.of_runs (Hypervisor.noEcho_writeMediatedXml file uuid) hxml
      exact absurd hremoved (not_removed hquiet)
    | uncreated hxml hmachine => exact ⟨_, rfl, _, _, _, rfl, hxml, hmachine⟩
    | created hxml hmachine hattaching =>
      -- None of the three parts runs an `echo`.
      have hquiet := Action.Uses.of_runs (Hypervisor.noEcho_writeMediatedXml file uuid) hxml
      have hquiet' := Job.Uses.of_runs noEcho_createVm hmachine
      have hquiet'' := Action.Uses.of_runs (Hypervisor.noEcho_attachDevice _ file) hattaching
      rcases removed_append.1 hremoved with hremoved | hremoved
      · exact absurd hremoved (not_removed hquiet)
      · rcases removed_append.1 hremoved with hremoved | hremoved
        · exact absurd hremoved (not_removed hquiet')
        · exact absurd hremoved (not_removed hquiet'')
  · rintro ⟨failure, -, xml, machine, reply, rfl, -, -⟩
    exact ⟨reply, by simp⟩

/-- After a failure the removal is tried, and whatever becomes of it, the failure stays. -/
theorem runs_removing {failure : Failure} {r : Except Failure CreatedVm}
    (hrun : (do
      let _ ← Job.ofProgram (Hypervisor.removeMediated uuid).attempt
      throw failure : Job CreatedVm).Runs t r) :
    ∃ reply, t = [removing uuid reply] ∧ r = .error failure := by
  rcases Job.runs_bind.1 hrun with ⟨e, he, -⟩ | ⟨u, v, o, rfl, hu, hv⟩
  · obtain ⟨_, -, hr⟩ := Job.runs_ofProgram.1 he
    cases hr
  · obtain ⟨_, hremoval, -⟩ := Job.runs_ofProgram.1 hu
    obtain ⟨reply, rfl, -⟩ := Action.runs_perform.1 hremoval
    obtain ⟨rfl, rfl⟩ := Job.runs_throw.1 hv
    exact ⟨reply, rfl, rfl⟩

/-- A command that creates a mediated device goes on from there, unless there is none. -/
theorem continued_of_runs {r : Except Failure CreatedVm}
    (hrun : (createMediatedVm h vm parent file).Runs t r) :
    ∃ uuid reply rest, t = ⟨.freshUuid, uuid⟩ :: creating h uuid parent reply :: rest ∧
      (Echoed uuid reply → Continued h vm parent file uuid rest r) := by
  rcases Job.runs_bind.1 hrun with ⟨e, he, -⟩ | ⟨u, v, uuid, rfl, hu, hv⟩
  · obtain ⟨_, -, hr⟩ := Job.runs_ofProgram.1 he
    cases hr
  obtain ⟨_, ⟨_, _, rfl, rfl, rfl⟩, hr⟩ := Job.runs_ofProgram.1 hu
  cases hr
  rcases Job.runs_bind.1 hv with ⟨e, he, rfl⟩ | ⟨w, x, handle, rfl, hw, hx⟩
  · obtain ⟨o, ho, hr⟩ := Job.runs_doing.1 he
    obtain ⟨reply, xml, rfl, ⟨hnot, -⟩ | ⟨-, o', hxml, rfl⟩⟩ := runs_createMediated ho
    · exact ⟨_, reply, xml, rfl, fun hecho => absurd hecho hnot⟩
    · refine ⟨_, reply, xml, rfl, fun _ => ?_⟩
      cases o' with
      | ok path => cases hr
      | error e' =>
        cases hr
        exact .unwritten hxml
  obtain ⟨o, ho, hr⟩ := Job.runs_doing.1 hw
  obtain ⟨reply, xml, rfl, ⟨-, e, rfl⟩ | ⟨-, o', hxml, rfl⟩⟩ := runs_createMediated ho
  · cases hr
  cases o' with
  | error e => cases hr
  | ok path =>
    obtain rfl := eq_of_runs_writeMediatedXml hxml
    refine ⟨_, reply, xml ++ x, rfl, fun _ => ?_⟩
    rcases Job.runs_bind.1 hx with ⟨failure, hfailure, rfl⟩ | ⟨machine, y, made, rfl, hmade, hy⟩
    · rcases Job.runs_tryCatch.1 hfailure with ⟨_, -, hr⟩ | ⟨machine, y, e, rfl, hmachine, hy⟩
      · cases hr
      · obtain ⟨removal, rfl, hr⟩ := runs_removing hy
        cases hr
        exact .uncreated hxml hmachine
    · -- The handler only ever throws, so the virtual machine comes from the creation itself.
      rcases Job.runs_tryCatch.1 hmade with ⟨_, hmachine, hr⟩ | ⟨_, _, _, rfl, -, hremoving⟩
      · cases hr
        obtain ⟨o, ho, rfl⟩ := Job.runs_bind_pure.1 hy
        obtain ⟨o', hattaching, rfl⟩ := Job.runs_doing.1 ho
        exact .created hxml hmachine hattaching
      · obtain ⟨_, -, hr⟩ := runs_removing hremoving
        cases hr

/-- **Removing a mediated device.** After a failure of the command, the device that it created is removed
exactly if the virtual machine could not be created; it is left behind if its file could not be written
or if it could not be attached. -/
theorem runMediatedVm_removed_iff {failure : Failure}
    (hrun : (run h (.runMediatedVm vm parent file)).Runs t (.error failure)) :
    ∃ uuid reply rest, t = ⟨.freshUuid, uuid⟩ :: creating h uuid parent reply :: rest ∧
      (Echoed uuid reply → Continued h vm parent file uuid rest (.error failure) ∧
        (Removed uuid rest ↔ Undone h vm file uuid rest failure)) := by
  obtain ⟨o, ho, hfailure⟩ := Job.runs_bind_pure.1 hrun
  cases o with
  | ok made => cases hfailure
  | error e =>
    cases hfailure
    obtain ⟨uuid, reply, rest, rfl, hcontinued⟩ := continued_of_runs ho
    refine ⟨uuid, reply, rest, rfl, fun hecho => ⟨hcontinued hecho, ?_⟩⟩
    rw [(hcontinued hecho).removed_iff]
    constructor
    · rintro ⟨_, he, hundone⟩
      cases he
      exact hundone
    · exact fun hundone => ⟨failure, rfl, hundone⟩

/-! ## Failures -/

/-- A virtual machine on the network data of a file. -/
def smallVm : RunVm where
  networkData := "net.conf"
  stem := "vm"
  vcpus := 2
  memoryMib := 2048
  osVariant := none
  legacy := false
  bridge := none
  disk := none
  cloneTo := none
  xmlTemplate := none
  wait := false

/-- The parent of the device. -/
def smallParent : Pci.Address := ⟨0, 0xb1, 0, 0⟩

/-- The device is given a UUID and created, which the host confirms. -/
def deviceOn (h : Hypervisor) : List Exchange :=
  [⟨.freshUuid, "u"⟩, creating h "u" smallParent (Host.printed "u")]

/-- The file of the device is written, the network data is read, and its address is probed. -/
def untilProbed (probe : Except Error Host.Completion) : List Exchange :=
  [⟨.write "/tmp/mdev.xml" (Template.mediated (Template.builtIn .mediated) "u"), .ok ()⟩,
    ⟨.readLocal "net.conf", .ok "[kvm]\n10.0.0.1 AA:BB:CC:DD:EE:01\n"⟩,
    .ran (Command.ping "10.0.0.1") ({} : Host.Options).anyCode probe]

/-- The only address is in use, and the device is removed. -/
theorem runMediatedVm_removed_iff_exhausted :
    let rest := untilProbed (Host.printed "") ++ [removing "u" (Host.printed "")]
    let failure := Failure.operation none (.networkDataExhausted 1 0)
    (run {} (.runMediatedVm smallVm smallParent "/tmp/mdev.xml")).Runs (deviceOn {} ++ rest)
        (.error failure) ∧
      Echoed "u" (Host.printed "u") ∧ Removed "u" rest ∧
      Undone {} smallVm "/tmp/mdev.xml" "u" rest failure := by
  intro rest failure
  have hmade : (createMediatedVm {} smallVm smallParent "/tmp/mdev.xml").Runs (deviceOn {} ++ rest)
      (.error failure) :=
    Job.runs_of_play (by decide +kernel)
  have hrun : (run {} (.runMediatedVm smallVm smallParent "/tmp/mdev.xml")).Runs
      (deviceOn {} ++ rest) (.error failure) :=
    Job.runs_bind_pure.2 ⟨_, hmade, rfl⟩
  obtain ⟨uuid, reply, rest', ht, hcontinued⟩ := runMediatedVm_removed_iff hrun
  obtain ⟨huuid, ⟨-, hreply⟩, hrest⟩ :
      "u" = uuid ∧ (_ ∧ Host.printed "u" = reply) ∧ rest = rest' := by
    simpa [deviceOn, creating, Exchange.ran] using ht
  subst huuid hreply hrest
  have hecho : Echoed "u" (Host.printed "u") := ⟨_, rfl, rfl, by decide +kernel⟩
  have hremoved : Removed "u" rest :=
    ⟨Host.printed "", List.mem_append_right _ (List.mem_singleton_self _)⟩
  exact ⟨hrun, hecho, hremoved, (hcontinued hecho).2.1 hremoved⟩

/-- A device that is created and left behind: its file cannot be written for want of a template, or it
cannot be attached to the new virtual machine. -/
theorem runMediatedVm_left_behind :
    let custom : Hypervisor := { settings := { templates := { mediated := some "missing.xml" } } }
    let unwritten := deviceOn custom ++ [⟨.readLocal "missing.xml", .error .missing⟩]
    let entry : Network.Entry := ⟨⟨10, 0, 0, 1⟩, "AA:BB:CC:DD:EE:01"⟩
    let unattached := deviceOn {} ++ (untilProbed (Host.refused "") ++
      [.ran (Command.virtInstall (smallVm.parameters entry) none {} none) {} (Host.printed ""),
        ({} : Virsh).ran "dominfo vm-000-001" (Host.printed "State: running"),
        ({} : Virsh).ran "attach-device vm-000-001 --file /tmp/mdev.xml" (Host.refused "busy")])
    Echoed "u" (Host.printed "u") ∧
      (∃ failure, (run custom (.runMediatedVm smallVm smallParent "/tmp/mdev.xml")).Runs unwritten
        (.error failure)) ∧ ¬ Removed "u" unwritten ∧
      (∃ failure, (run {} (.runMediatedVm smallVm smallParent "/tmp/mdev.xml")).Runs unattached
        (.error failure)) ∧ ¬ Removed "u" unattached := by
  intro custom unwritten entry unattached
  have hunwritten : (createMediatedVm custom smallVm smallParent "/tmp/mdev.xml").Runs unwritten
      (.error (.operation (some "Failed to create mdev on 0000:b1:00.0")
        (.fileNotFound "missing.xml"))) :=
    Job.runs_of_play (by decide +kernel)
  have hunattached : (createMediatedVm {} smallVm smallParent "/tmp/mdev.xml").Runs unattached
      (.error (.operation (some "Failed to attach mdev u to vm-000-001")
        (.execution "" 1 "" "busy"))) :=
    Job.runs_of_play (by decide +kernel)
  refine ⟨⟨_, rfl, rfl, by decide +kernel⟩, ⟨_, Job.runs_bind_pure.2 ⟨_, hunwritten, rfl⟩⟩,
    fun hremoved => ?_, ⟨_, Job.runs_bind_pure.2 ⟨_, hunattached, rfl⟩⟩, fun hremoved => ?_⟩
  · exact absurd hremoved.mem_commandsOf (by decide +kernel)
  · exact absurd hremoved.mem_commandsOf (by decide +kernel)

end VirtHost.Cli
