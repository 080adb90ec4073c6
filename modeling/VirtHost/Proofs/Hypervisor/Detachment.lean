import VirtHost.Proofs.Hypervisor.FunctionFiles
import VirtHost.Proofs.Hypervisor.InOrder
import VirtHost.Proofs.Xml.Document

/-! # Runs that detach devices

* `Detached`: one device is detached, by a file of its own.
* `Swept`: the devices of one virtual machine are read from its domain XML and detached one after the
  other.
* `detached_of_runs`, `swept_of_runs`: that is what is done if the built-in template is used and files
  can be written.
-/

namespace VirtHost.Hypervisor
open Host (Succeeded)
set_option autoImplicit false

variable {h : Hypervisor} {name : String} {t : List Exchange}

/-! ## One device -/

/-- The exchange in which the file of a device is written. -/
def writing (h : Hypervisor) (pci : Pci.Address) : Exchange :=
  ⟨.write (h.functionFile pci) (Template.virtualFunction (Template.builtIn .virtualFunction) pci), .ok ()⟩

/-- The exchanges in which one device is detached: its file is written, the state of the virtual machine
is asked for and, if that succeeds, the device is detached. It holds if that succeeds, too. -/
inductive Detached (h : Hypervisor) (name : String) (device : Passthrough) : List Exchange → Bool → Prop
  | unknown {status : Except Error Host.Completion} (hstatus : ¬ Succeeded status) :
      Detached h name device [h.writing device.host, h.tool.ran ("dominfo " ++ name) status] false
  | known {status : Host.Completion} {detachment : Except Error Host.Completion} {holds : Bool}
      (hstatus : status.code = 0) (hholds : holds = true ↔ Succeeded detachment) :
      Detached h name device
        [h.writing device.host, h.tool.ran ("dominfo " ++ name) (.ok status),
          h.tool.ran ("detach-device " ++ name ++ " --file " ++ h.functionFile device.host
            ++ Virsh.configFlag (reportedState status.stdout)) detachment] holds

theorem runs_detachFunction {pci : Pci.Address} {r : Except Error Unit}
    (htemplate : h.settings.templates.virtualFunction = none) (hserved : ∀ e ∈ t, e.Served)
    (hrun : (h.detachFunction name pci).Runs t r) :
    ∃ status detachment, t = h.writing pci ::
        h.changing "detach-device " name (h.functionFile pci) status detachment ∧
      r = h.attached status detachment := by
  let change : FunctionChange := ⟨false, name, pci⟩
  have hloads := loadsOnly_builtIn htemplate t
  have hloading : h.loading (Template.builtIn .virtualFunction) = [] := by
    simp [loading, htemplate]
  rcases FunctionChange.runs_action (c := change) hloads hrun with
    ⟨path, cause, -, rfl⟩ | ⟨e, rfl⟩ | ⟨status, detachment, rfl, rfl⟩
  · obtain ⟨text, htext⟩ := hserved _ (List.mem_singleton_self _)
    cases htext
  · have hwritten := hserved _ (List.mem_append_right _ (List.mem_singleton_self _))
    cases hwritten
  · rw [hloading]
    exact ⟨status, detachment, rfl, rfl⟩

theorem detached_of_runs {device : Passthrough} {o : Except Error Bool}
    (htemplate : h.settings.templates.virtualFunction = none) (hserved : ∀ e ∈ t, e.Served)
    (hrun : (h.detachPassthrough name device).Runs t o) :
    Detached h name device t (decide (o = .ok true)) := by
  obtain ⟨r, hr, rfl⟩ := Action.runs_bind_pure.1 hrun
  obtain ⟨status, detachment, rfl, rfl⟩ := runs_detachFunction htemplate hserved hr
  cases hstatus : h.tool.outcome status with
  | error e =>
    simp only [changing, attached, hstatus, Except.bind, Except.map]
    exact .unknown (Virsh.not_succeeded hstatus)
  | ok c =>
    obtain ⟨rfl, hcode⟩ := Virsh.outcome_eq_ok_iff.1 hstatus
    simp only [changing, attached, hstatus, Except.bind]
    refine .known hcode ?_
    cases hdetachment : h.tool.outcome detachment with
    | error e => simp [Except.map, Virsh.not_succeeded hdetachment]
    | ok d => simpa [Except.map] using ⟨d, Virsh.outcome_eq_ok_iff.1 hdetachment⟩

/-! ## One virtual machine -/

/-- The devices that are passed through according to the reply to a query for a domain XML. -/
def passthroughsIn (h : Hypervisor) (reply : Except Error Host.Completion) :
    Except Error (List Passthrough) :=
  (h.tool.domainIn reply).bind Xml.Domain.passthroughs

theorem runs_passthroughs {r : Except Error (List Passthrough)} :
    (h.passthroughs name).Runs t r ↔
      ∃ reply, t = [h.tool.ran ("dumpxml " ++ name) reply] ∧ r = h.passthroughsIn reply :=
  Action.runs_bind_ofExcept_of Virsh.runs_domain

/-- The devices that are known are those that the domain XML passes through, in its order. -/
theorem passes_of_passthroughsIn {reply : Except Error Host.Completion} {devices : List Passthrough}
    (hdevices : h.passthroughsIn reply = .ok devices) :
    ∃ c, reply = .ok c ∧ c.code = 0 ∧ Xml.Domain.Passes c.stdout devices := by
  unfold passthroughsIn Virsh.domainIn at hdevices
  cases ho : h.tool.outcome reply with
  | error e =>
    rw [ho] at hdevices
    cases hdevices
  | ok c =>
    obtain ⟨rfl, hcode⟩ := Virsh.outcome_eq_ok_iff.1 ho
    cases hdomain : Xml.parse c.stdout with
    | error e => simp [ho, hdomain, Except.bind] at hdevices
    | ok domain =>
      have hpassed : Xml.Domain.passthroughs domain = .ok devices := by
        simpa [ho, hdomain, Except.bind] using hdevices
      exact ⟨c, rfl, hcode, Xml.Domain.passes_of_passthroughs hdomain hpassed⟩

/-- The exchanges in which the devices of one virtual machine are detached: its domain XML is read,
and the devices in it are detached in document order. It holds if all of them were. -/
inductive Swept (h : Hypervisor) (name : String) : List Exchange → Bool → Prop
  | unread {reply : Except Error Host.Completion} {e : Error}
      (hreply : h.passthroughsIn reply = .error e) :
      Swept h name [h.tool.ran ("dumpxml " ++ name) reply] false
  | read {c : Host.Completion} {devices : List Passthrough} {t : List Exchange} {holds : Bool}
      (hdevices : h.passthroughsIn (.ok c) = .ok devices)
      (horder : Xml.Domain.Passes c.stdout devices)
      (hdetached : InOrder (Detached h name) devices t holds) :
      Swept h name (h.tool.ran ("dumpxml " ++ name) (.ok c) :: t) holds

theorem swept_of_runs {o : Except Error Bool}
    (htemplate : h.settings.templates.virtualFunction = none) (hserved : ∀ e ∈ t, e.Served)
    (hrun : (h.detachFrom name).Runs t o) : Swept h name t (decide (o = .ok true)) := by
  rcases Action.runs_bind.1 hrun with ⟨e, he, rfl⟩ | ⟨u, v, devices, rfl, hu, hv⟩
  · obtain ⟨reply, rfl, hreply⟩ := runs_passthroughs.1 he
    exact .unread hreply.symm
  · obtain ⟨reply, rfl, hreply⟩ := runs_passthroughs.1 hu
    obtain ⟨holds, hholds, rfl⟩ := Action.runs_ofProgram.1 hv
    obtain ⟨c, rfl, -, horder⟩ := passes_of_passthroughsIn hreply.symm
    have hbatch : InOrder (Detached h name) devices v holds := by
      refine (runs_holdsForAll.1 hholds).imp ?_ fun e he => hserved e (List.mem_cons_of_mem _ he)
      rintro device w b ⟨r, hr, rfl⟩ hw
      exact detached_of_runs htemplate hw hr
    have hresult : decide ((Except.ok holds : Except Error Bool) = .ok true) = holds := by
      cases holds <;> rfl
    rw [hresult]
    exact .read hreply.symm horder hbatch

theorem finite_detachPassthrough (h : Hypervisor) (name : String) (device : Passthrough) :
    (h.detachPassthrough name device).Finite := by
  refine Action.Finite.bind ?_ fun _ => Action.finite_pure true
  exact (h.finite_writeXml .virtualFunction _ _).bind fun _ => h.finite_detachDevice _ _

theorem finite_detachFrom (h : Hypervisor) (name : String) : (h.detachFrom name).Finite := by
  refine ((h.tool.finite_domain name).bind fun _ => Action.finite_ofExcept _).bind fun devices => ?_
  exact Action.Finite.ofProgram (finite_holdsForAll (h.finite_detachPassthrough name) devices)

end VirtHost.Hypervisor
