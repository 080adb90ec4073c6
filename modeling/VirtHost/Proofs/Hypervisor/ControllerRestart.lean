import VirtHost.Proofs.Host.Poll
import VirtHost.Proofs.Hypervisor.Controllers

/-! # Starting the virtual machine again

* `StartedLast`: the virtual machine is started once, and nothing is run after that.
* `attachControllers_restart_iff`: that is so after a controller was attached, unless an attempt failed.
* `attachControllers_left_off`: an attempt that fails leaves a virtual machine with a new controller off.
-/

namespace VirtHost.Hypervisor
set_option autoImplicit false

/-- The virtual machine is started once, and nothing is run after that. -/
def StartedLast (name : String) (t : List Exchange) : Prop :=
  (commandsOf t).count (startCommand name) = 1 ∧ (commandsOf t).getLast? = some (startCommand name)

/-- A request that does not start the virtual machine. -/
def SparesStart (name : String) (request : Host.Request) : Prop :=
  ∀ options, request ≠ .execute (startCommand name) options

section
variable {h : Hypervisor} {name : String} {count : Nat} {layout : ControllerLayout}
  {t : List Exchange} {r : Except Error Unit}

theorem sparesStart_execute {command : String} {options : Host.Options}
    (h : command ≠ startCommand name) : SparesStart name (.execute command options) := by
  rintro _ ⟨⟩
  exact h rfl

theorem sparesStart_dominfo :
    SparesStart name (.execute ("virsh " ++ ("dominfo " ++ name)) h.tool.options) :=
  sparesStart_execute (by simp [startCommand, ← String.toList_inj])

theorem uses_powerDown : (h.powerDown name).Uses (SparesStart name) := by
  have hshutdown : "virsh " ++ ("shutdown " ++ name) ≠ startCommand name := by
    simp [startCommand, ← String.toList_inj]
  refine (Virsh.uses_perform (sparesStart_execute hshutdown)).bind fun _ => ?_
  refine Poll.uses_await ?_ fun _ _ => by simp
  exact (Virsh.uses_status sparesStart_dominfo).bind fun _ => Action.uses_pure _

theorem Attempt.Made.sparesStart {a : Attempt} (hmade : a.Made h name) :
    ∀ e ∈ a.exchanges, SparesStart name e.request := by
  have hattach (flag : String) :
      "virsh " ++ ("attach-device " ++ name ++ " --file " ++ h.controllerFile ++ flag) ≠
        startCommand name := by
    simp [startCommand, ← String.toList_inj]
  refine Action.Uses.of_runs ?_ hmade
  refine (uses_writeControllerXml (fun _ _ => by simp) (fun _ _ => by simp) _ _ _ _).bind fun _ => ?_
  refine (Action.Uses.ofProgram (uses_attachDevice sparesStart_dominfo fun flag =>
    sparesStart_execute (hattach flag))).bind fun o => ?_
  split
  · exact Action.uses_pure true
  · split
    · exact Action.uses_pure false
    · exact Action.uses_throw _

theorem startCommand_notMem {t : List Exchange} (ht : ∀ e ∈ t, SparesStart name e.request) :
    startCommand name ∉ commandsOf t := by
  intro hmem
  obtain ⟨⟨request, reply⟩, he, hcommand⟩ := List.mem_filterMap.1 hmem
  have hspares := ht _ he
  cases request <;> simp_all [Exchange.command?, SparesStart]

theorem startedLast_append_start {t : List Exchange} (ht : startCommand name ∉ commandsOf t)
    (reply : Except Error Host.Completion) :
    StartedLast name (t ++ [h.tool.ran ("start " ++ name) reply]) := by
  have hcommand : commandsOf [h.tool.ran ("start " ++ name) reply] = [startCommand name] := by
    have hname : "virsh " ++ ("start " ++ name) = startCommand name := by
      simp [startCommand, ← String.toList_inj]
    rw [Virsh.ran, commandsOf_ran, hname, commandsOf_nil]
  rw [StartedLast, commandsOf_append, hcommand, List.count_append, List.count_eq_zero.2 ht]
  simp

theorem not_startedLast {t : List Exchange} (ht : startCommand name ∉ commandsOf t) :
    ¬ StartedLast name t := by
  rintro ⟨hcount, -⟩
  rw [List.count_eq_zero.2 ht] at hcount
  cases hcount

/-- **Starting the virtual machine again.** After a controller was attached, the virtual machine is
started, once and at the very end, exactly if no attempt failed. A failed attempt ends the call with
its error, and the virtual machine is left off. -/
theorem attachControllers_restart_iff
    (hcall : (h.attachControllers name count layout).Runs t r) :
    (∃ e, (h.powerDown name).Runs t (.error e) ∧ r = .error e) ∨
      ∃ down off attempts restart, t = down ++ (attempts.flatMap Attempt.exchanges ++ restart) ∧
        (h.powerDown name).Runs down (.ok off) ∧
        Attempts h name layout count 0
          (controllerSlots layout.firstSlot.toNat layout.firstFunction.toNat) attempts ∧
        ((∃ a ∈ attempts, a.attached = true) →
          (StartedLast name t ↔ ∀ a ∈ attempts, a.Passed)) ∧
        ∀ a ∈ attempts, ∀ e, a.outcome = .error e → r = .error e ∧ startCommand name ∉ commandsOf t := by
  refine (runs_attachControllers.1 hcall).imp_right ?_
  rintro ⟨down, off, attempts, restart, rfl, hdown, hA, hend⟩
  have hconcluded := hA.concluded hend
  have hbefore : startCommand name ∉ commandsOf (down ++ attempts.flatMap Attempt.exchanges) := by
    refine startCommand_notMem fun e he => ?_
    rcases List.mem_append.1 he with he | he
    · exact Action.Uses.of_runs uses_powerDown hdown e he
    · obtain ⟨a, ha, he⟩ := List.mem_flatMap.1 he
      exact (hA.forall_made a ha).sparesStart e he
  have hfailed : ∀ a ∈ attempts, ∀ e, a.outcome = .error e → r = .error e ∧
      startCommand name ∉ commandsOf (down ++ (attempts.flatMap Attempt.exchanges ++ restart)) := by
    intro a ha e he
    obtain ⟨rfl, rfl⟩ := hconcluded.failed a ha e he
    exact ⟨rfl, by simpa using hbefore⟩
  refine ⟨down, off, attempts, restart, rfl, hdown, hA, fun hattached => ⟨fun hstarted => ?_, fun hpassed => ?_⟩,
    hfailed⟩
  · refine hA.passed_or_failed.resolve_right ?_
    rintro ⟨a, ha, e, he, -⟩
    exact not_startedLast (hfailed a ha e he).2 hstarted
  · have hpos : 0 < attachedIn attempts := List.countP_pos_iff.2 hattached
    obtain ⟨reply, rfl, -⟩ := hconcluded.changed hpassed hpos
    rw [← List.append_assoc]
    exact startedLast_append_start hbefore reply

end

/-- A call that succeeds after a collision. -/
theorem attachControllers_restart_of_collision :
    (small.attachControllers "vm" 1 {}).Runs (poweringDown ++ colliding) (.ok ()) ∧
      ∃ attempts, Attempts small "vm" {} 1 0 (controllerSlots 0 1) attempts ∧
        ((∃ a ∈ attempts, a.attached = true) →
          (StartedLast "vm" (poweringDown ++ colliding) ↔ ∀ a ∈ attempts, a.Passed)) := by
  rcases attachControllers_restart_iff runs_colliding with
    ⟨e, -, he⟩ | ⟨_, _, attempts, _, _, _, hA, hstarted, _⟩
  · cases he
  · exact ⟨runs_colliding, attempts, hA, hstarted⟩

/-- A controller is attached, the next attempt fails for another reason than a collision, and the
virtual machine is not started again. -/
theorem attachControllers_left_off :
    let t := poweringDown ++ (trying 0 (Host.printed "") ++ trying 1 (Host.refused "internal error"))
    (small.attachControllers "vm" 2 {}).Runs t (.error (.execution "" 1 "" "internal error")) ∧
      small.tool.ran ("attach-device vm --file " ++ small.controllerFile ++ " --config")
        (Host.printed "") ∈ t ∧
      ¬ StartedLast "vm" t := by
  intro t
  have hcall : (small.attachControllers "vm" 2 {}).Runs t
      (.error (.execution "" 1 "" "internal error")) :=
    Action.runs_of_play (by decide +kernel)
  have hattached : small.tool.ran ("attach-device vm --file " ++ small.controllerFile ++ " --config")
      (Host.printed "") ∈ trying 0 (Host.printed "") := by
    refine List.mem_of_getElem? (i := 3) ?_
    rfl
  refine ⟨hcall, List.mem_append_right _ (List.mem_append_left _ hattached), ?_⟩
  unfold StartedLast
  decide +kernel

end VirtHost.Hypervisor
