import VirtHost.Proofs.Hypervisor.Batches

/-! # What a sweep reports

All devices that are passed through to some virtual machines are detached.

* `Removal`: one device; `Sweep`: the devices of one virtual machine.
* `Sweep.Emptied`: there were devices, and all of them went.
* `detachAll_iff`: the outcome is `true` if that holds for every virtual machine.
* `detachAll_again`: a host on which the outcome is `false` after all devices are gone.
-/

namespace VirtHost.Hypervisor
set_option autoImplicit false

/-- A device that was to be detached from a virtual machine. -/
structure Removal (h : Hypervisor) (name : String) where
  device : Passthrough
  exchanges : List Exchange
  result : Except Error Unit
  runs : (h.detachFunction name device.host).Runs exchanges result

/-- A virtual machine whose devices were to be detached, with the reply to the query for its domain XML.
-/
structure Sweep (h : Hypervisor) where
  name : String
  reply : Except Error Host.Completion
  removals : List (Removal h name)
  /-- All devices that are known are tried. -/
  covers : h.passthroughsIn reply = .ok (removals.map Removal.device) ∨
    (∃ e, h.passthroughsIn reply = .error e) ∧ removals = []

variable {h : Hypervisor} {names : List String} {t : List Exchange} {holds : Bool}

namespace Sweep

def exchanges (s : Sweep h) : List Exchange :=
  h.tool.ran ("dumpxml " ++ s.name) s.reply :: s.removals.flatMap Removal.exchanges

/-- The domain has devices that are passed through, and each of them was read and detached. -/
structure Emptied (s : Sweep h) (domain : Xml.Node) : Prop where
  passes : domain.descendants.filter Xml.Domain.isPassthrough ≠ []
  read : List.Forall₂ (fun element removal => Xml.Domain.passthroughOf element = .ok removal.device)
    (domain.descendants.filter Xml.Domain.isPassthrough) s.removals
  gone : ∀ removal ∈ s.removals, removal.result = .ok ()

/-- The devices are known, and all of them were detached. -/
def Complete (s : Sweep h) : Prop :=
  h.passthroughsIn s.reply = .ok (s.removals.map Removal.device) ∧
    ∀ removal ∈ s.removals, removal.result = .ok ()

theorem complete_iff {s : Sweep h} :
    s.Complete ↔ ∃ domain, h.tool.domainIn s.reply = .ok domain ∧ s.Emptied domain := by
  have hdevices (domain : Xml.Node) :
      List.Forall₂ (fun element device => Xml.Domain.passthroughOf element = .ok device)
          (domain.descendants.filter Xml.Domain.isPassthrough) (s.removals.map Removal.device) ↔
        List.Forall₂ (fun element removal => Xml.Domain.passthroughOf element = .ok removal.device)
          (domain.descendants.filter Xml.Domain.isPassthrough) s.removals :=
    List.forall₂_map_right_iff
  constructor
  · rintro ⟨hknown, hgone⟩
    rw [passthroughsIn] at hknown
    cases hdomain : h.tool.domainIn s.reply with
    | error e =>
      rw [hdomain] at hknown
      cases hknown
    | ok domain =>
      rw [hdomain] at hknown
      obtain ⟨hpasses, hread⟩ := Xml.Domain.passthroughs_eq_ok_iff.1 hknown
      exact ⟨domain, rfl, hpasses, (hdevices domain).1 hread, hgone⟩
  · rintro ⟨domain, hdomain, hemptied⟩
    refine ⟨?_, hemptied.gone⟩
    rw [passthroughsIn, hdomain]
    exact Xml.Domain.passthroughs_eq_ok_iff.2 ⟨hemptied.passes, (hdevices domain).2 hemptied.read⟩

end Sweep

/-! ## Runs -/

theorem exists_removal {name : String} {device : Passthrough} {o : Except Error Bool}
    (hrun : (h.detachPassthrough name device).Runs t o) :
    ∃ removal : Removal h name, removal.device = device ∧ removal.exchanges = t ∧
      (decide (o = .ok true) = true ↔ removal.result = .ok ()) := by
  obtain ⟨r, hr, rfl⟩ := Action.runs_bind_pure.1 hrun
  refine ⟨⟨device, t, r, hr⟩, rfl, rfl, ?_⟩
  cases r <;> simp [Except.map]

theorem exists_sweep {name : String} {o : Except Error Bool} (hrun : (h.detachFrom name).Runs t o) :
    ∃ s : Sweep h, s.name = name ∧ s.exchanges = t ∧ (decide (o = .ok true) = true ↔ s.Complete) := by
  rcases Action.runs_bind.1 hrun with ⟨e, he, rfl⟩ | ⟨u, v, devices, rfl, hu, hv⟩
  · obtain ⟨reply, rfl, hreply⟩ := runs_passthroughs.1 he
    refine ⟨⟨name, reply, [], .inr ⟨⟨e, hreply.symm⟩, rfl⟩⟩, rfl, rfl, ?_⟩
    simp [Sweep.Complete, ← hreply]
  · obtain ⟨reply, rfl, hreply⟩ := runs_passthroughs.1 hu
    obtain ⟨holds, hholds, rfl⟩ := Action.runs_ofProgram.1 hv
    obtain ⟨removals, rfl, rfl, hgone⟩ := (runs_holdsForAll.1 hholds).exists_map Removal.device
      Removal.exchanges (fun removal : Removal h name => removal.result = .ok ()) (by
        rintro device w b ⟨o, ho, rfl⟩
        exact exists_removal ho)
    refine ⟨⟨name, reply, removals, .inl hreply.symm⟩, rfl, rfl, ?_⟩
    simp [Sweep.Complete, ← hreply, hgone]

/-- **What a sweep reports.** The virtual machines are dealt with one after the other, and the outcome is
`true` exactly if for each of them the domain XML was read, it has devices that are passed through, and all
of these were read and detached. So where no domain has one, the outcome is `true` only if there is no
virtual machine. -/
theorem detachAll_iff (hrun : (h.detachAll names).Runs t holds) :
    ∃ sweeps : List (Sweep h), sweeps.map Sweep.name = names ∧ t = sweeps.flatMap Sweep.exchanges ∧
      (holds = true ↔
        ∀ s ∈ sweeps, ∃ domain, h.tool.domainIn s.reply = .ok domain ∧ s.Emptied domain) ∧
      ((∀ s ∈ sweeps, ∀ domain, h.tool.domainIn s.reply = .ok domain →
          domain.descendants.filter Xml.Domain.isPassthrough = []) → (holds = true ↔ names = [])) := by
  obtain ⟨sweeps, rfl, rfl, hholds⟩ := (runs_holdsForAll.1 hrun).exists_map Sweep.name Sweep.exchanges
    Sweep.Complete (by
      rintro name w b ⟨o, ho, rfl⟩
      exact exists_sweep ho)
  simp only [Sweep.complete_iff] at hholds
  refine ⟨sweeps, rfl, rfl, hholds, fun hnone => ?_⟩
  rw [hholds, List.map_eq_nil_iff]
  constructor
  · intro hall
    rw [List.eq_nil_iff_forall_not_mem]
    intro s hs
    obtain ⟨domain, hdomain, hemptied⟩ := hall s hs
    exact hemptied.passes (hnone s hs domain hdomain)
  · rintro rfl
    simp

/-- The exchanges in which a virtual machine loses its only device. -/
def losingOne : List Exchange :=
  let h : Hypervisor := {}
  [h.tool.ran "dumpxml vm" (Host.printed domainOfOne), h.writing ⟨0, 1, 2, 3⟩,
    h.tool.ran "dominfo vm" (Host.printed "State: running"),
    h.tool.ran "detach-device vm --file /tmp/vf_0000_01_02_3.xml" (Host.printed "")]

theorem detachAll_iff_one :
    let h : Hypervisor := {}
    (h.detachAll ["vm"]).Runs losingOne true ∧
      ∃ sweeps : List (Sweep h), sweeps.map Sweep.name = ["vm"] ∧
        losingOne = sweeps.flatMap Sweep.exchanges ∧
        ∀ s ∈ sweeps, ∃ domain, h.tool.domainIn s.reply = .ok domain ∧ s.Emptied domain := by
  intro h
  have hrun : (h.detachAll ["vm"]).Runs losingOne true := Program.runs_of_play (by decide +kernel)
  obtain ⟨sweeps, hnames, hexchanges, hholds, -⟩ := detachAll_iff hrun
  exact ⟨hrun, sweeps, hnames, hexchanges, hholds.1 rfl⟩

/-! ## A second sweep -/

/-- A domain without devices. -/
def domainOfNone : String :=
  "<domain><devices></devices></domain>"

/-- A host with one virtual machine. The state says whether that has its device, which it loses once it is
detached. -/
def hostOfOne : Host Bool
  | attached, .execute command _ =>
    if Text.startsWith command "virsh dumpxml " then
      (Host.printed (if attached then domainOfOne else domainOfNone), attached)
    else if Text.startsWith command "virsh detach-device " then (Host.printed "", false)
    else (Host.printed "State: running", attached)
  | attached, request => (Host.anyReply request, attached)

/-- The first sweep detaches the only device and reports `true`. For the second one nothing is left to
detach, and it reports `false`. -/
theorem detachAll_again :
    let h : Hypervisor := {}
    (h.detachAll ["vm"]).run hostOfOne 0 true = some (true, false) ∧
      (h.detachAll ["vm"]).run hostOfOne 0 false = some (false, false) ∧
      ∃ domain, Xml.parse domainOfNone = .ok domain ∧
        domain.descendants.filter Xml.Domain.isPassthrough = [] := by
  intro h
  have hcount : ((Xml.parse domainOfNone).map fun domain =>
      (domain.descendants.filter Xml.Domain.isPassthrough).length) = .ok 0 := by decide +kernel
  refine ⟨by decide +kernel, by decide +kernel, ?_⟩
  cases hdomain : Xml.parse domainOfNone with
  | error e =>
    rw [hdomain] at hcount
    cases hcount
  | ok domain =>
    rw [hdomain] at hcount
    exact ⟨domain, rfl, List.length_eq_zero_iff.1 (Except.ok.inj hcount)⟩

end VirtHost.Hypervisor
