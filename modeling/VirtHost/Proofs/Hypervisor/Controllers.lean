import VirtHost.Proofs.Hypervisor.ControllerAttempts
import VirtHost.Proofs.Template.OnePass

/-! # Attaching controllers

* `runs_attachControllers`: a call powers the virtual machine down, makes its attempts, and concludes.
* `Prescribed`: the attempts that a layout prescribes.
* `Concluded`: how a call ends after its attempts.
* `attachControllers_attempts`: every call makes the prescribed attempts and ends that way.
-/

namespace VirtHost.Hypervisor
open Host (Succeeded)
set_option autoImplicit false

/-! ## Before and after the attempts -/

/-- The virtual machine is asked to shut down, and is waited for. -/
def powerDown (h : Hypervisor) (name : String) : Action Bool := do
  h.tool.shutdown name
  h.awaitShutOff name

/-- The virtual machine is started if it has a new controller, and too few of them are an error. -/
def conclude (h : Hypervisor) (name : String) (count attached : Nat) : Action Unit := do
  if 0 < attached then h.tool.start name
  if attached < count then throw (.notEnoughPciAddresses count attached)

/-- What too few controllers amount to. -/
def tally (count attached : Nat) : Except Error Unit :=
  if attached < count then .error (.notEnoughPciAddresses count attached) else .ok ()

/-- The command that starts a virtual machine. -/
def startCommand (name : String) : String :=
  "virsh start " ++ name

theorem attachControllers_eq (h : Hypervisor) (name : String) (count : Nat)
    (layout : ControllerLayout) :
    h.attachControllers name count layout = (do
      let _ ← h.powerDown name
      let attached ← h.attachAt name h.controllerFile layout count 0
        (controllerSlots layout.firstSlot.toNat layout.firstFunction.toNat)
      h.conclude name count attached) := by
  simp only [attachControllers, powerDown, conclude, controllerFile, bind_assoc]

section
variable {h : Hypervisor} {name : String} {count : Nat} {layout : ControllerLayout}
  {t : List Exchange} {r : Except Error Unit}

theorem runs_tally {attached : Nat} :
    (if attached < count then throw (.notEnoughPciAddresses count attached) else pure () :
      Action Unit).Runs t r ↔ t = [] ∧ r = tally count attached := by
  unfold tally
  split
  · exact Action.runs_throw
  · exact Action.runs_pure

theorem runs_conclude {attached : Nat} :
    (h.conclude name count attached).Runs t r ↔
      (attached = 0 ∧ t = [] ∧ r = tally count attached) ∨
      (0 < attached ∧ ∃ reply, t = [h.tool.ran ("start " ++ name) reply] ∧
        r = (h.tool.outcome reply).bind fun _ => tally count attached) := by
  unfold conclude
  by_cases hpos : 0 < attached
  · simp only [hpos, if_true, true_and, (Nat.pos_iff_ne_zero.1 hpos), false_and, false_or]
    rw [Action.runs_bind]
    constructor
    · rintro (⟨e, he, rfl⟩ | ⟨u, v, x, rfl, hu, hv⟩)
      · obtain ⟨reply, rfl, hreply⟩ := Virsh.runs_perform.1 he
        refine ⟨reply, rfl, ?_⟩
        cases ho : h.tool.outcome reply <;> simp_all [Except.bind, Except.map]
      · obtain ⟨reply, rfl, hreply⟩ := Virsh.runs_perform.1 hu
        obtain ⟨rfl, rfl⟩ := runs_tally.1 hv
        refine ⟨reply, rfl, ?_⟩
        cases ho : h.tool.outcome reply <;> simp_all [Except.bind, Except.map]
    · rintro ⟨reply, rfl, rfl⟩
      cases ho : h.tool.outcome reply with
      | error e =>
        exact .inl ⟨e, Virsh.runs_perform.2 ⟨reply, rfl, by simp [ho, Except.map]⟩, rfl⟩
      | ok c =>
        exact .inr ⟨_, [], (), rfl, Virsh.runs_perform.2 ⟨reply, rfl, by simp [ho, Except.map]⟩,
          runs_tally.2 ⟨rfl, rfl⟩⟩
  · obtain rfl : attached = 0 := by omega
    simp only [Nat.lt_irrefl, if_false, false_and, or_false, true_and]
    exact runs_tally

/-- A call is a power-down, attempts, and a conclusion unless one of the attempts failed. -/
theorem runs_attachControllers :
    (h.attachControllers name count layout).Runs t r ↔
      (∃ e, (h.powerDown name).Runs t (.error e) ∧ r = .error e) ∨
      ∃ down off attempts restart, t = down ++ (attempts.flatMap Attempt.exchanges ++ restart) ∧
        (h.powerDown name).Runs down (.ok off) ∧
        Attempts h name layout count 0
          (controllerSlots layout.firstSlot.toNat layout.firstFunction.toNat) attempts ∧
        ((∃ e, total attempts = .error e ∧ restart = [] ∧ r = .error e) ∨
          ∃ attached, total attempts = .ok attached ∧ (h.conclude name count attached).Runs restart r)
    := by
  rw [attachControllers_eq]
  refine Action.runs_bind.trans (or_congr Iff.rfl ?_)
  constructor
  · rintro ⟨down, rest, off, rfl, hdown, hrest⟩
    rcases Action.runs_bind.1 hrest with ⟨e, he, rfl⟩ | ⟨u, restart, attached, rfl, hu, hrestart⟩
    · obtain ⟨attempts, hA, rfl, htotal⟩ := runs_attachAt.1 he
      exact ⟨down, off, attempts, [], by simp, hdown, hA, .inl ⟨e, htotal.symm, rfl, rfl⟩⟩
    · obtain ⟨attempts, hA, rfl, htotal⟩ := runs_attachAt.1 hu
      exact ⟨down, off, attempts, restart, rfl, hdown, hA, .inr ⟨attached, htotal.symm, hrestart⟩⟩
  · rintro ⟨down, off, attempts, restart, rfl, hdown, hA, hend⟩
    refine ⟨down, _, off, rfl, hdown, Action.runs_bind.2 ?_⟩
    rcases hend with ⟨e, htotal, rfl, rfl⟩ | ⟨attached, htotal, hrestart⟩
    · exact .inl ⟨e, runs_attachAt.2 ⟨attempts, hA, by simp, htotal.symm⟩, rfl⟩
    · exact .inr ⟨_, restart, attached, rfl, runs_attachAt.2 ⟨attempts, hA, rfl, htotal.symm⟩,
        hrestart⟩

theorem finite_attachAt (missing made : Nat) (places : List (Nat × Nat)) :
    (h.attachAt name h.controllerFile layout missing made places).Finite := by
  induction places generalizing missing made with
  | nil =>
    cases missing
    all_goals
      rw [attachAt]
      exact Action.finite_pure 0
  | cons place places ih =>
    cases missing with
    | zero =>
      rw [attachAt]
      exact Action.finite_pure 0
    | succ missing =>
      rw [attachAt]
      refine finite_attachController.bind fun free => ?_
      cases free with
      | true => exact (ih missing (made + 1)).bind fun others => Action.finite_pure (others + 1)
      | false => exact ih (missing + 1) (made + 1)

theorem finite_conclude (attached : Nat) : (h.conclude name count attached).Finite := by
  have htally : (if attached < count then throw (.notEnoughPciAddresses count attached) else pure () :
      Action Unit).Finite := by
    split
    · exact Action.finite_throw _
    · exact Action.finite_pure ()
  by_cases hpos : 0 < attached
  · simp only [conclude, hpos, if_true]
    exact (h.tool.finite_perform _).bind fun _ => htally
  · simp only [conclude, hpos, if_false]
    exact htally

/-- The call gives a result wherever the virtual machine can be waited for. -/
theorem returns_attachControllers {σ : Type} {host : Host σ} {s : σ}
    (hdown : (h.powerDown name).Returns host s) :
    (h.attachControllers name count layout).Returns host s := by
  rw [attachControllers_eq]
  refine Action.returns_bind hdown fun _ _ _ _ _ => Action.Finite.returns ?_ host _
  exact (finite_attachAt _ _ _).bind fun attached => finite_conclude attached

end

/-! ## Attempts whose files are written -/

/-- The attempt writes its controller file, which is the template with its own address and numbers filled
in at once, asks for the state of the virtual machine and attaches the file; its outcome is the verdict on
that. -/
def Attempt.Written (h : Hypervisor) (name : String) (a : Attempt) : Prop :=
  ∃ loading template text status attachment, (h.template .controller).Runs loading (.ok template) ∧
    Template.AtOnce template (Template.controllerValues a.pci a.index a.chassis a.port) text ∧
    a.exchanges = loading ++ ⟨.write h.controllerFile text, .ok ()⟩ ::
      h.attaching name h.controllerFile status attachment ∧
    a.outcome = verdict (h.attached status attachment)

/-- The slot and the function at which an attempt is made. -/
def Attempt.place (a : Attempt) : Nat ×ₗ Nat :=
  toLex (a.pci.slot.toNat, a.pci.function.toNat)

/-- Two attempts that share neither their address nor one of their numbers. -/
def Attempt.Apart (a b : Attempt) : Prop :=
  a.pci ≠ b.pci ∧ a.index ≠ b.index ∧ a.chassis ≠ b.chassis ∧ a.port ≠ b.port

/-- The attempts that a layout prescribes for `count` controllers. -/
structure Prescribed (h : Hypervisor) (name : String) (count : Nat) (layout : ControllerLayout)
    (attempts : List Attempt) : Prop where
  written : ∀ a ∈ attempts, a.Written h name
  bus : ∀ a ∈ attempts, a.pci.domain = layout.domain ∧ a.pci.bus = layout.firstBus
  /-- They are made at the legal slots in ascending order, from the first one on. -/
  places : attempts.map Attempt.place <+:
    (legalSlots layout.firstSlot.toNat layout.firstFunction.toNat).sort
  indices : attempts.map Attempt.index = List.range' layout.firstIndex attempts.length
  chassis : attempts.map Attempt.chassis = List.range' layout.firstChassis attempts.length
  ports : attempts.map Attempt.port = List.range' layout.firstPort attempts.length
  apart : attempts.Pairwise Attempt.Apart
  /-- So the numbers stay below `2 ^ 32` if the first ones are at most `2 ^ 32 - 257`. -/
  bounded : attempts.length ≤ 256
  /-- There is one more of them as long as a slot is left, controllers are missing and none failed. -/
  ends : ∀ k, k < attempts.length ↔
    k < (legalSlots layout.firstSlot.toNat layout.firstFunction.toNat).card ∧
      attachedIn (attempts.take k) < count ∧ ∀ a ∈ attempts.take k, a.Passed

section
variable {h : Hypervisor} {name : String} {count : Nat} {layout : ControllerLayout}
  {attempts : List Attempt}

theorem Attempt.Made.written {a : Attempt} (hmade : a.Made h name)
    (hserved : ∀ e ∈ a.exchanges, e.Served) : a.Written h name := by
  rcases runs_attachController.1 hmade with ⟨e, he, -⟩ | ⟨u, v, path, o, hexchanges, hu, ho, houtcome⟩
  · rcases runs_writeControllerXml.1 he with ⟨e', hloading, -⟩ | ⟨loading, template, reply, -, ht, hr⟩
    · rcases runs_template hloading with ⟨-, hr⟩ | ⟨file, reply, ht, hr⟩
      · cases hr
      · obtain ⟨text, htext⟩ : ∃ text, reply = .ok text := hserved ⟨.readLocal file, reply⟩ (by simp [ht])
        cases hr text htext
    · obtain rfl : reply = .ok () := hserved ⟨.write _ _, reply⟩ (by simp [ht])
      cases hr
  · obtain ⟨status, attachment, rfl, rfl⟩ := runs_attachDevice.1 ho
    rcases runs_writeControllerXml.1 hu with ⟨e, -, hr⟩ | ⟨loading, template, reply, hloading, rfl, -⟩
    · cases hr
    · obtain rfl : reply = .ok () := hserved ⟨.write _ _, reply⟩ (by simp [hexchanges])
      have hvalues := Template.inert_controllerValues a.pci a.index a.chassis a.port
      exact ⟨loading, template, _, status, attachment, hloading, Template.atOnce_render template hvalues,
        by simp [hexchanges, Template.controller], houtcome⟩

theorem toNat_ofNat_of_le {n last : Nat} (h : n ≤ last) (hlast : last < UInt8.size) :
    (UInt8.ofNat n).toNat = n :=
  UInt8.toNat_ofNat_of_lt' (by omega)

/-- The attempts of a call are those that its layout prescribes. -/
theorem Attempts.prescribed
    (hA : Attempts h name layout count 0
      (controllerSlots layout.firstSlot.toNat layout.firstFunction.toNat) attempts)
    (hserved : ∀ a ∈ attempts, ∀ e ∈ a.exchanges, e.Served) :
    Prescribed h name count layout attempts := by
  have hpci := hA.map_pci_prefix
  have hplaces : attempts.map Attempt.place <+:
      (legalSlots layout.firstSlot.toNat layout.firstFunction.toNat).sort := by
    have hprefix := hpci.map fun pci => (toLex (pci.slot.toNat, pci.function.toNat) : Nat ×ₗ Nat)
    rw [List.map_map, List.map_map] at hprefix
    rw [sort_legalSlots, List.map_congr_left (f := toLex)]
    · exact hprefix
    · intro place hplace
      obtain ⟨hslot, hfunction, -⟩ := mem_legalSlots.1 (mem_controllerSlots.1 hplace)
      have hslot := toNat_ofNat_of_le hslot (by decide)
      have hfunction := toNat_ofNat_of_le hfunction (by decide)
      simp only [Function.comp_apply, hslot, hfunction]
  have hindex := hA.map_number Attempt.index fun a k place hat => hat.index
  have hchassis := hA.map_number Attempt.chassis fun a k place hat => hat.chassis
  have hport := hA.map_number Attempt.port fun a k place hat => hat.port
  have hlength : attempts.length ≤
      (legalSlots layout.firstSlot.toNat layout.firstFunction.toNat).card := by
    simpa using hplaces.length_le
  refine
    { written := fun a ha => (hA.forall_made a ha).written (hserved a ha)
      bus := ?_
      places := hplaces
      indices := hindex
      chassis := hchassis
      ports := hport
      apart := ?_
      bounded := hlength.trans (card_legalSlots_le _ _)
      ends := ?_ }
  · intro a ha
    obtain ⟨place, -, hplace⟩ := List.mem_map.1 (hpci.subset (List.mem_map_of_mem ha))
    rw [← hplace]
    exact ⟨rfl, rfl⟩
  · have hnumbers {number : Attempt → Nat} {first : Nat}
        (h : attempts.map number = List.range' first attempts.length) :
        attempts.Pairwise fun a b => number a ≠ number b :=
      List.pairwise_map.1 (h ▸ List.nodup_range')
    have haddresses : attempts.Pairwise fun a b => a.pci ≠ b.pci := by
      have hnodup : (attempts.map Attempt.place).Nodup := (Finset.sort_nodup _ _).sublist hplaces.sublist
      refine (List.pairwise_map.1 hnodup).imp fun {a b} hab hpci => hab ?_
      rw [Attempt.place, Attempt.place, hpci]
    exact ((haddresses.and (hnumbers hindex)).and ((hnumbers hchassis).and (hnumbers hport))).imp
      fun ⟨⟨h1, h2⟩, h3, h4⟩ => ⟨h1, h2, h3, h4⟩
  · intro k
    rw [hA.lt_length_iff, length_controllerSlots]

/-- All attempts of a call passed, or the last one failed and less than all controllers are attached.
-/
theorem Attempts.passed_or_failed {missing made : Nat} {places : List (Nat × Nat)}
    (hA : Attempts h name layout missing made places attempts) :
    (∀ a ∈ attempts, a.Passed) ∨
      ∃ a ∈ attempts, ∃ e, a.outcome = .error e ∧ attachedIn attempts < missing := by
  induction hA with
  | enough => exact .inl (by simp)
  | exhausted => exact .inl (by simp)
  | @passed _ _ _ _ a rest free _ _ ho _ ih =>
    rcases ih with hpassed | ⟨b, hb, e, he, hlt⟩
    · exact .inl (List.forall_mem_cons.2 ⟨⟨free, ho⟩, hpassed⟩)
    · refine .inr ⟨b, List.mem_cons_of_mem a hb, e, he, ?_⟩
      rw [attachedIn_cons ho]
      omega
  | @failed missing _ _ _ a e _ _ ho =>
    have hnone := attachedIn_singleton_of_error ho
    exact .inr ⟨a, by simp, e, ho, by omega⟩

end

/-! ## The result of a call -/

/-- How a call ends after its attempts. -/
structure Concluded (h : Hypervisor) (name : String) (count : Nat) (attempts : List Attempt)
    (restart : List Exchange) (r : Except Error Unit) : Prop where
  /-- The error of an attempt is the result, and nothing is done any more. -/
  failed : ∀ a ∈ attempts, ∀ e, a.outcome = .error e → restart = [] ∧ r = .error e
  unchanged : (∀ a ∈ attempts, a.Passed) → attachedIn attempts = 0 →
    restart = [] ∧ r = tally count 0
  /-- The virtual machine is started if it was changed. -/
  changed : (∀ a ∈ attempts, a.Passed) → 0 < attachedIn attempts →
    ∃ reply, restart = [h.tool.ran ("start " ++ name) reply] ∧
      r = (h.tool.outcome reply).bind fun _ => tally count (attachedIn attempts)
  /-- The call succeeds if all controllers are attached and the virtual machine could be started. -/
  succeeds : r = .ok () ↔ attachedIn attempts = count ∧
    ∀ reply, h.tool.ran ("start " ++ name) reply ∈ restart → Succeeded reply

section
variable {h : Hypervisor} {name : String} {count : Nat} {layout : ControllerLayout}
  {attempts : List Attempt} {restart : List Exchange} {r : Except Error Unit}

theorem tally_eq_ok_iff {attached : Nat} (hle : attached ≤ count) :
    tally count attached = .ok () ↔ attached = count := by
  unfold tally
  split
  · simp only [reduceCtorEq, false_iff]
    omega
  · simp only [true_iff]
    omega

theorem ran_inj {arguments : String} {reply reply' : Except Error Host.Completion} :
    h.tool.ran arguments reply = h.tool.ran arguments reply' ↔ reply = reply' := by
  constructor
  · intro e
    simpa [Virsh.ran, Exchange.ran] using e
  · rintro rfl
    rfl

theorem Attempts.concluded {places : List (Nat × Nat)}
    (hA : Attempts h name layout count 0 places attempts)
    (hend : (∃ e, total attempts = .error e ∧ restart = [] ∧ r = .error e) ∨
      ∃ attached, total attempts = .ok attached ∧ (h.conclude name count attached).Runs restart r) :
    Concluded h name count attempts restart r := by
  rcases hA.passed_or_failed with hpassed | ⟨a, ha, e, he, hlt⟩
  · have htotal := total_of_passed hpassed
    have hnone : ∀ a ∈ attempts, ∀ e, a.outcome ≠ .error e :=
      fun a ha => (hpassed a ha).outcome_ne_error
    obtain ⟨attached, hattached, hrestart⟩ := hend.resolve_left fun ⟨e, he, _⟩ => by simp [htotal] at he
    obtain rfl : attachedIn attempts = attached := by simpa [htotal] using hattached
    rcases runs_conclude.1 hrestart with ⟨hzero, rfl, rfl⟩ | ⟨hpos, reply, rfl, rfl⟩
    · refine ⟨fun a ha e he => absurd he (hnone a ha e), fun _ _ => ⟨rfl, by rw [hzero]⟩,
        fun _ hpos => by omega, ?_⟩
      simp [tally_eq_ok_iff hA.attachedIn_le]
    · refine ⟨fun a ha e he => absurd he (hnone a ha e), fun _ hzero => by omega,
        fun _ _ => ⟨reply, rfl, rfl⟩, ?_⟩
      simp only [List.mem_singleton, ran_inj, forall_eq]
      cases ho : h.tool.outcome reply with
      | error e => simp [Except.bind, Virsh.not_succeeded ho]
      | ok c =>
        have hyes := Virsh.outcome_eq_ok_iff.1 ho
        simp only [Except.bind, tally_eq_ok_iff hA.attachedIn_le]
        exact ⟨fun hcount => ⟨hcount, c, hyes⟩, fun hcount => hcount.1⟩
  · have htotal := hA.total_of_failed ha he
    obtain ⟨e', he', rfl, rfl⟩ := hend.resolve_right fun ⟨n, hn, _⟩ => by simp [htotal] at hn
    obtain rfl : e = e' := by simpa [htotal] using he'
    have hnot : ¬ ∀ a ∈ attempts, a.Passed :=
      fun hpassed => (hpassed a ha).outcome_ne_error e he
    refine ⟨fun b hb e' hb' => ⟨rfl, ?_⟩, fun h => absurd h hnot, fun h => absurd h hnot, ?_⟩
    · obtain rfl : e = e' := by simpa [htotal] using hA.total_of_failed hb hb'
      rfl
    · simp only [reduceCtorEq, false_iff, not_and]
      intro hcount
      omega

/-- **Attempts to attach controllers.** Wherever the virtual machine can be waited for, a call gives a
result. If it could be powered down and files are served, what follows are the attempts that the layout
prescribes and the conclusion from them. -/
theorem attachControllers_attempts (h : Hypervisor) (name : String) (count : Nat)
    (layout : ControllerLayout) :
    (∀ {σ : Type} (host : Host σ) (s : σ), (h.powerDown name).Returns host s →
      (h.attachControllers name count layout).Returns host s) ∧
    ∀ down off rest r, (h.powerDown name).Runs down (.ok off) →
      (h.attachControllers name count layout).Runs (down ++ rest) r → (∀ e ∈ rest, e.Served) →
      ∃ attempts restart, rest = attempts.flatMap Attempt.exchanges ++ restart ∧
        Prescribed h name count layout attempts ∧ Concluded h name count attempts restart r := by
  refine ⟨fun host s => returns_attachControllers, ?_⟩
  intro down off rest r hdown hcall hserved
  rcases runs_attachControllers.1 hcall with
    ⟨e, he, -⟩ | ⟨down', off', attempts, restart, ht, hdown', hA, hend⟩
  · obtain ⟨-, hoff⟩ := hdown.unique he (u := rest) (v := []) (by simp)
    cases hoff
  · obtain ⟨rfl, -⟩ := hdown.unique hdown' ht
    obtain rfl := List.append_cancel_left ht
    refine ⟨attempts, restart, rfl, hA.prescribed fun a ha e he => hserved e ?_, hA.concluded hend⟩
    exact List.mem_append_left _ (List.mem_flatMap.2 ⟨a, ha, he⟩)

end

/-- A hypervisor with a short template for controllers. -/
def small : Hypervisor where
  settings := { templates := { controller := some "controller.xml" } }

/-- The exchanges in which it powers the virtual machine `vm` down. -/
def poweringDown : List Exchange :=
  [small.tool.ran "shutdown vm" (Host.printed ""),
    small.tool.ran "dominfo vm" (Host.printed "State: shut off")]

/-- The exchanges of one of its attempts in the default layout. -/
def trying (made : Nat) (attachment : Except Error Host.Completion) : List Exchange :=
  ⟨.readLocal "controller.xml", .ok "controller {index}"⟩ ::
    ⟨.write small.controllerFile (Template.controller "controller {index}"
      ⟨0, 0, 0, UInt8.ofNat (1 + made)⟩ (12 + made) (1 + made) (1 + made)), .ok ()⟩ ::
      small.attaching "vm" small.controllerFile (Host.printed "State: shut off") attachment

theorem served_trying (made : Nat) (attachment : Except Error Host.Completion) :
    ∀ e ∈ trying made attachment, e.Served := by
  rintro e (_ | ⟨_, _ | ⟨_, he⟩⟩)
  · exact ⟨_, rfl⟩
  · exact rfl
  · exact served_attaching e he

/-- The exchanges of a call for one controller: the first address is in use, the second one is free. -/
def colliding : List Exchange :=
  trying 0 (Host.refused addressInUse) ++ (trying 1 (Host.printed "") ++
    [small.tool.ran "start vm" (Host.printed "")])

theorem runs_colliding : (small.attachControllers "vm" 1 {}).Runs (poweringDown ++ colliding) (.ok ()) :=
  Action.runs_of_play (by decide +kernel)

theorem served_colliding : ∀ e ∈ colliding, e.Served := by
  intro e he
  rcases List.mem_append.1 he with he | he
  · exact served_trying _ _ e he
  · rcases List.mem_append.1 he with he | he
    · exact served_trying _ _ e he
    · obtain rfl := List.mem_singleton.1 he
      trivial

theorem attachControllers_attempts_collision :
    (small.powerDown "vm").Runs poweringDown (.ok true) ∧
      (small.attachControllers "vm" 1 {}).Runs (poweringDown ++ colliding) (.ok ()) ∧
      (∀ e ∈ colliding, e.Served) ∧
      ∃ attempts restart, colliding = attempts.flatMap Attempt.exchanges ++ restart ∧
        Prescribed small "vm" 1 {} attempts ∧
        Concluded small "vm" 1 attempts restart (.ok ()) := by
  have hdown : (small.powerDown "vm").Runs poweringDown (.ok true) :=
    Action.runs_of_play (by decide +kernel)
  exact ⟨hdown, runs_colliding, served_colliding,
    (attachControllers_attempts small "vm" 1 {}).2 poweringDown true colliding (.ok ()) hdown
      runs_colliding served_colliding⟩

end VirtHost.Hypervisor
