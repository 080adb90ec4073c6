import VirtHost.Hypervisor.Devices
import VirtHost.Proofs.Virsh

/-! # Runs that attach and detach devices

* `runs_writeXml`: a device file is written after its template has been loaded.
* `runs_change`: the state is asked for first, and decides whether the change is persistent.
-/

namespace VirtHost.Hypervisor
set_option autoImplicit false

variable {h : Hypervisor} {t : List Exchange}

/-! ## Templates and device files -/

theorem finite_template (h : Hypervisor) (kind : Template.Kind) : (h.template kind).Finite := by
  unfold template
  split
  · exact fun _ => trivial
  · exact trivial

/-- Loading a template asks for nothing but local files. -/
theorem runs_template {kind : Template.Kind} {r : Except Error String}
    (hr : (h.template kind).Runs t r) :
    (t = [] ∧ r = .ok (Template.builtIn kind)) ∨
      ∃ path reply, t = [⟨.readLocal path, reply⟩] ∧ ∀ text, reply = .ok text → r = .ok text := by
  unfold template at hr
  split at hr
  · rename_i path _
    obtain ⟨reply, rest, rfl, rfl, rfl⟩ := hr
    exact .inr ⟨path, reply, rfl, fun text e => by rw [e]; rfl⟩
  · exact .inl (Action.runs_pure.1 hr)

section
variable {kind : Template.Kind} {render : String → String} {file : String}

theorem runs_writeXml {r : Except Error String} :
    (do
      let template ← h.template kind
      Host.write file (render template)
      pure file : Action String).Runs t r ↔
      (∃ e, (h.template kind).Runs t (.error e) ∧ r = .error e) ∨
      ∃ loading template reply, (h.template kind).Runs loading (.ok template) ∧
        t = loading ++ [⟨.write file (render template), reply⟩] ∧ r = reply.map fun _ => file := by
  refine Action.runs_bind.trans (or_congr Iff.rfl ?_)
  constructor
  · rintro ⟨u, v, template, rfl, hu, hv⟩
    obtain ⟨reply, hreply, rfl⟩ := Action.runs_bind_pure.1 hv
    rw [Action.runs_write.1 hreply]
    exact ⟨u, template, reply, hu, rfl, rfl⟩
  · rintro ⟨loading, template, reply, hloading, rfl, rfl⟩
    exact ⟨loading, _, template, rfl, hloading,
      Action.runs_bind_pure.2 ⟨reply, Action.runs_write.2 rfl, rfl⟩⟩

theorem finite_writeXml (h : Hypervisor) (kind : Template.Kind) (render : String → String)
    (file : String) :
    (do
      let template ← h.template kind
      Host.write file (render template)
      pure file : Action String).Finite :=
  (h.finite_template kind).bind fun _ =>
    (Action.finite_write file _).bind fun _ => Action.finite_pure file

end

theorem runs_writeControllerXml {file : String} {pci : Pci.Address} {index chassis port : Nat}
    {r : Except Error String} :
    (h.writeControllerXml file pci index chassis port).Runs t r ↔
      (∃ e, (h.template .controller).Runs t (.error e) ∧ r = .error e) ∨
      ∃ loading template reply, (h.template .controller).Runs loading (.ok template) ∧
        t = loading ++
          [⟨.write file (Template.controller template pci index chassis port), reply⟩] ∧
        r = reply.map fun _ => file :=
  runs_writeXml

theorem finite_writeControllerXml (h : Hypervisor) (file : String) (pci : Pci.Address)
    (index chassis port : Nat) : (h.writeControllerXml file pci index chassis port).Finite :=
  h.finite_writeXml .controller _ file

/-! ## Attaching and detaching -/

/-- The state that a status report tells. -/
def reportedState (report : String) : Vm.State :=
  (Listing.status report).state?.getD (.other "unknown")

/-- The exchanges by which a subcommand changes a virtual machine by the device of a file: the state is
asked for, and once it is known the change is made. -/
def changing (h : Hypervisor) (subcommand name file : String)
    (status change : Except Error Host.Completion) : List Exchange :=
  h.tool.ran ("dominfo " ++ name) status ::
    match h.tool.outcome status with
    | .ok c => [h.tool.ran (subcommand ++ name ++ " --file " ++ file
        ++ Virsh.configFlag (reportedState c.stdout)) change]
    | .error _ => []

/-- The exchanges by which the device of a file is attached: the state is asked for, and once it is
known the device is attached. -/
def attaching (h : Hypervisor) (name file : String) (status attachment : Except Error Host.Completion) :
    List Exchange :=
  h.tool.ran ("dominfo " ++ name) status ::
    match h.tool.outcome status with
    | .ok c => [h.tool.ran ("attach-device " ++ name ++ " --file " ++ file
        ++ Virsh.configFlag (reportedState c.stdout)) attachment]
    | .error _ => []

/-- What becomes of an attachment. -/
def attached (h : Hypervisor) (status attachment : Except Error Host.Completion) :
    Except Error Unit :=
  (h.tool.outcome status).bind fun _ => (h.tool.outcome attachment).map fun _ => ()

theorem served_attaching {name file : String} {status attachment : Except Error Host.Completion} :
    ∀ e ∈ h.attaching name file status attachment, e.Served := by
  intro e he
  unfold attaching at he
  rcases List.mem_cons.1 he with rfl | he
  · trivial
  · split at he
    · obtain rfl := List.mem_singleton.1 he
      trivial
    · simp at he

theorem runs_currentState {name : String} {r : Except Error Vm.State} :
    (h.currentState name).Runs t r ↔ ∃ reply, t = [h.tool.ran ("dominfo " ++ name) reply] ∧
      r = (h.tool.outcome reply).map fun c => reportedState c.stdout :=
  Virsh.runs_status_map

/-- A change fails if the state is not known or if the subcommand for it fails. -/
theorem runs_change {subcommand name file : String} {r : Except Error Unit} :
    (do
      let state ← h.currentState name
      h.tool.perform (subcommand ++ name ++ " --file " ++ file ++ Virsh.configFlag state)
      : Action Unit).Runs t r ↔ ∃ status change,
      t = h.changing subcommand name file status change ∧ r = h.attached status change := by
  refine Action.runs_bind.trans ?_
  constructor
  · rintro (⟨e, he, rfl⟩ | ⟨u, v, state, rfl, hu, hv⟩)
    · obtain ⟨status, rfl, hstatus⟩ := runs_currentState.1 he
      cases ho : h.tool.outcome status with
      | error e' =>
        rw [ho] at hstatus
        cases hstatus
        exact ⟨status, status, by simp [changing, ho], by simp [attached, ho, Except.bind]⟩
      | ok c => simp [ho, Except.map] at hstatus
    · obtain ⟨status, rfl, hstatus⟩ := runs_currentState.1 hu
      obtain ⟨change, rfl, rfl⟩ := Virsh.runs_perform.1 hv
      cases ho : h.tool.outcome status with
      | error e => simp [ho, Except.map] at hstatus
      | ok c =>
        rw [ho] at hstatus
        cases hstatus
        exact ⟨status, change, by simp [changing, ho], by simp [attached, ho, Except.bind]⟩
  · rintro ⟨status, change, rfl, rfl⟩
    cases ho : h.tool.outcome status with
    | error e =>
      refine .inl ⟨e, ?_, by simp [attached, ho, Except.bind]⟩
      exact runs_currentState.2 ⟨status, by simp [changing, ho], by simp [ho, Except.map]⟩
    | ok c =>
      have htalk : h.changing subcommand name file status change =
          [h.tool.ran ("dominfo " ++ name) status] ++
            [h.tool.ran (subcommand ++ name ++ " --file " ++ file
              ++ Virsh.configFlag (reportedState c.stdout)) change] := by
        simp [changing, ho]
      refine .inr ⟨_, _, reportedState c.stdout, htalk, ?_, ?_⟩
      · exact runs_currentState.2 ⟨status, rfl, by simp [ho, Except.map]⟩
      · exact Virsh.runs_perform.2 ⟨change, rfl, by simp [attached, ho, Except.bind]⟩

theorem runs_attachDevice {name file : String} {r : Except Error Unit} :
    (h.attachDevice name file).Runs t r ↔ ∃ status attachment,
      t = h.attaching name file status attachment ∧ r = h.attached status attachment :=
  runs_change

theorem finite_currentState (h : Hypervisor) (name : String) : (h.currentState name).Finite :=
  (h.tool.finite_status name).bind fun _ => Action.finite_pure _

theorem finite_attachDevice (h : Hypervisor) (name file : String) :
    (h.attachDevice name file).Finite :=
  (h.finite_currentState name).bind fun _ => h.tool.finite_perform _

theorem finite_detachDevice (h : Hypervisor) (name file : String) :
    (h.detachDevice name file).Finite :=
  (h.finite_currentState name).bind fun _ => h.tool.finite_perform _

/-! ## Requests -/

variable {allowed : Host.Request → Prop}

theorem uses_template (kind : Template.Kind) (hread : ∀ path, allowed (.readLocal path)) :
    (h.template kind).Uses allowed := by
  unfold template
  split
  · exact ⟨hread _, fun _ => trivial⟩
  · exact trivial

theorem uses_writeXml {kind : Template.Kind} {render : String → String} {file : String}
    (hread : ∀ path, allowed (.readLocal path)) (hwrite : ∀ content, allowed (.write file content)) :
    (do
      let template ← h.template kind
      Host.write file (render template)
      pure file : Action String).Uses allowed := by
  refine (uses_template kind hread).bind fun _ => Action.Uses.bind ?_ fun _ => Action.uses_pure file
  exact ⟨hwrite _, fun _ => trivial⟩

theorem uses_writeXml_bind {α : Type} {kind : Template.Kind} {render : String → String}
    {file : String} {f : String → Action α} (hread : ∀ path, allowed (.readLocal path))
    (hwrite : ∀ content, allowed (.write file content)) (hf : (f file).Uses allowed) :
    ((do
      let template ← h.template kind
      Host.write file (render template)
      pure file : Action String) >>= f).Uses allowed := by
  simp only [bind_assoc, pure_bind]
  refine (uses_template kind hread).bind fun _ => Action.Uses.bind ?_ fun _ => hf
  exact ⟨hwrite _, fun _ => trivial⟩

theorem uses_writeControllerXml {file : String} (hread : ∀ path, allowed (.readLocal path))
    (hwrite : ∀ content, allowed (.write file content)) (pci : Pci.Address)
    (index chassis port : Nat) :
    (h.writeControllerXml file pci index chassis port).Uses allowed :=
  uses_writeXml hread hwrite

theorem uses_attachDevice {name file : String}
    (hstatus : allowed (.execute ("virsh " ++ ("dominfo " ++ name)) h.tool.options))
    (hattach : ∀ flag, allowed (.execute
      ("virsh " ++ ("attach-device " ++ name ++ " --file " ++ file ++ flag)) h.tool.options)) :
    (h.attachDevice name file).Uses allowed :=
  Action.Uses.bind ((Virsh.uses_status hstatus).bind fun _ => Action.uses_pure _)
    fun _ => Virsh.uses_perform (hattach _)

end VirtHost.Hypervisor
