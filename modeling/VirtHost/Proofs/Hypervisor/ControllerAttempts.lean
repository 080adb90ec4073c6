import VirtHost.Proofs.Hypervisor.ControllerSlots
import VirtHost.Proofs.Hypervisor.Devices

/-! # Attempts to attach controllers

* `Attempt`: one attempt to attach a controller, with its address, its numbers and what came of it.
* `Attempts`: the attempts that the replies of a host lead to; `runs_attachAt` finds them in a run.
* `Attempts.map_pci_prefix`, `Attempts.map_number`: where the attempts are made, and their numbers.
* `Attempts.lt_length_iff`: when they stop.
-/

namespace VirtHost.Hypervisor
set_option autoImplicit false

/-! ## One attempt -/

/-- An attempt to attach a controller: its address and its numbers, the exchanges in which it was
made, and whether the address was free. -/
structure Attempt where
  pci : Pci.Address
  index : Nat
  chassis : Nat
  port : Nat
  exchanges : List Exchange
  outcome : Except Error Bool

/-- The file of a controller. -/
def controllerFile (h : Hypervisor) : String :=
  h.workFile "pci_controller.xml"

namespace Attempt
variable {h : Hypervisor} {name : String} {a : Attempt}

/-- The attempt is one that is made for a virtual machine. -/
def Made (h : Hypervisor) (name : String) (a : Attempt) : Prop :=
  (h.attachController name h.controllerFile a.pci a.index a.chassis a.port).Runs a.exchanges a.outcome

/-- The attempt did not fail: it attached a controller, or its address is in use. -/
def Passed (a : Attempt) : Prop :=
  ∃ free, a.outcome = .ok free

theorem Passed.outcome_ne_error (ha : a.Passed) (e : Error) : a.outcome ≠ .error e := by
  obtain ⟨free, hfree⟩ := ha
  intro he
  rw [hfree] at he
  cases he

/-- Whether the attempt attached a controller. -/
def attached (a : Attempt) : Bool :=
  match a.outcome with
  | .ok free => free
  | .error _ => false

/-- The attempt is made at the pair of a slot and a function, `made` above the first numbers of a
layout. -/
structure At (layout : ControllerLayout) (made : Nat) (place : Nat × Nat) (a : Attempt) : Prop where
  pci : a.pci = ⟨layout.domain, layout.firstBus, UInt8.ofNat place.1, UInt8.ofNat place.2⟩
  index : a.index = layout.firstIndex + made
  chassis : a.chassis = layout.firstChassis + made
  port : a.port = layout.firstPort + made

end Attempt

/-- What an attachment means for an attempt: an address that is in use is no error. -/
def verdict : Except Error Unit → Except Error Bool
  | .ok _ => .ok true
  | .error e => if e.stderrContains addressInUse then .ok false else .error e

theorem runs_verdict {o : Except Error Unit} {t : List Exchange} {r : Except Error Bool} :
    (match o with
      | .ok _ => pure true
      | .error e => if e.stderrContains addressInUse then pure false else throw e : Action Bool).Runs t r
      ↔ t = [] ∧ r = verdict o := by
  cases o with
  | ok x => exact Action.runs_pure
  | error e =>
    by_cases hin : e.stderrContains addressInUse = true
    · simp only [verdict, hin, if_true]
      exact Action.runs_pure
    · simp only [verdict, hin]
      exact Action.runs_throw

section
variable {h : Hypervisor} {name file : String} {pci : Pci.Address} {index chassis port : Nat}
  {t : List Exchange}

/-- An attempt fails with its device file, or its outcome is the verdict on the attachment. -/
theorem runs_attachController {r : Except Error Bool} :
    (h.attachController name file pci index chassis port).Runs t r ↔
      (∃ e, (h.writeControllerXml file pci index chassis port).Runs t (.error e) ∧ r = .error e) ∨
      ∃ u v path o, t = u ++ v ∧ (h.writeControllerXml file pci index chassis port).Runs u (.ok path) ∧
        (h.attachDevice name file).Runs v o ∧ r = verdict o := by
  refine Action.runs_bind.trans (or_congr Iff.rfl ?_)
  constructor
  · rintro ⟨u, v, path, rfl, hu, hv⟩
    obtain ⟨v, w, o, rfl, ho, hw⟩ := Action.runs_ofProgram_attempt_bind.1 hv
    obtain ⟨rfl, rfl⟩ := runs_verdict.1 hw
    exact ⟨u, v, path, o, by rw [List.append_nil], hu, ho, rfl⟩
  · rintro ⟨u, v, path, o, rfl, hu, ho, rfl⟩
    exact ⟨u, v, path, rfl, hu, Action.runs_ofProgram_attempt_bind.2
      ⟨v, [], o, (List.append_nil v).symm, ho, runs_verdict.2 ⟨rfl, rfl⟩⟩⟩

theorem finite_attachController :
    (h.attachController name file pci index chassis port).Finite := by
  refine (h.finite_writeControllerXml file pci index chassis port).bind fun _ => ?_
  refine (Action.Finite.ofProgram (h.finite_attachDevice name file)).bind ?_
  intro o
  cases o with
  | ok x => exact Action.finite_pure true
  | error e =>
    dsimp only
    split
    · exact Action.finite_pure false
    · exact Action.finite_throw e

end

/-! ## All attempts -/

/-- The attempts that are made at some places until `missing` controllers are attached, when `made`
attempts were made before. -/
inductive Attempts (h : Hypervisor) (name : String) (layout : ControllerLayout) :
    (missing made : Nat) → List (Nat × Nat) → List Attempt → Prop
  | enough {made : Nat} {places : List (Nat × Nat)} : Attempts h name layout 0 made places []
  | exhausted {missing made : Nat} : Attempts h name layout (missing + 1) made [] []
  | passed {missing made : Nat} {place : Nat × Nat} {places : List (Nat × Nat)} {a : Attempt}
      {rest : List Attempt} {free : Bool} (hmade : a.Made h name) (hat : a.At layout made place)
      (ho : a.outcome = .ok free)
      (hrest : Attempts h name layout (missing + 1 - free.toNat) (made + 1) places rest) :
      Attempts h name layout (missing + 1) made (place :: places) (a :: rest)
  | failed {missing made : Nat} {place : Nat × Nat} {places : List (Nat × Nat)} {a : Attempt}
      {e : Error} (hmade : a.Made h name) (hat : a.At layout made place)
      (ho : a.outcome = .error e) :
      Attempts h name layout (missing + 1) made (place :: places) [a]

/-- The number of controllers that some attempts attached, or the error of one that failed. -/
def total : List Attempt → Except Error Nat
  | [] => .ok 0
  | a :: rest => a.outcome.bind fun free => (total rest).map (· + free.toNat)

/-- The number of controllers that some attempts attached. -/
def attachedIn (attempts : List Attempt) : Nat :=
  attempts.countP Attempt.attached

section
variable {h : Hypervisor} {name : String} {layout : ControllerLayout} {missing made : Nat}
  {places : List (Nat × Nat)} {t : List Exchange}

theorem Attempt.eq_of_at {a : Attempt} {place : Nat × Nat} (hat : a.At layout made place) :
    a = ⟨⟨layout.domain, layout.firstBus, UInt8.ofNat place.1, UInt8.ofNat place.2⟩,
      layout.firstIndex + made, layout.firstChassis + made, layout.firstPort + made, a.exchanges,
      a.outcome⟩ := by
  obtain ⟨hpci, hindex, hchassis, hport⟩ := hat
  rw [← hpci, ← hindex, ← hchassis, ← hport]

/-- The loop makes one attempt at the first place and goes on from there unless it failed. -/
theorem runs_attachAt_cons {place : Nat × Nat} {r : Except Error Nat} :
    (h.attachAt name h.controllerFile layout (missing + 1) made (place :: places)).Runs t r ↔
      ∃ a : Attempt, a.Made h name ∧ a.At layout made place ∧
        ((∃ e, a.outcome = .error e ∧ t = a.exchanges ∧ r = .error e) ∨
          ∃ free u o, a.outcome = .ok free ∧ t = a.exchanges ++ u ∧
            (h.attachAt name h.controllerFile layout (missing + 1 - free.toNat) (made + 1) places).Runs
              u o ∧ r = o.map (· + free.toNat)) := by
  rw [attachAt, Action.runs_bind]
  constructor
  · rintro (⟨e, he, rfl⟩ | ⟨u, v, free, rfl, hu, hv⟩)
    · exact ⟨⟨_, _, _, _, t, .error e⟩, he, ⟨rfl, rfl, rfl, rfl⟩, .inl ⟨e, rfl, rfl, rfl⟩⟩
    · refine ⟨⟨_, _, _, _, u, .ok free⟩, hu, ⟨rfl, rfl, rfl, rfl⟩, .inr ?_⟩
      cases free with
      | true =>
        obtain ⟨o, ho, rfl⟩ := Action.runs_bind_pure.1 hv
        exact ⟨true, v, o, rfl, rfl, ho, rfl⟩
      | false => exact ⟨false, v, r, rfl, rfl, hv, by cases r <;> rfl⟩
  · rintro ⟨a, hmade, hat, ⟨e, ho, rfl, rfl⟩ | ⟨free, u, o, ho, rfl, hu, rfl⟩⟩
    · rw [Attempt.eq_of_at hat, ho] at hmade
      exact .inl ⟨e, hmade, rfl⟩
    · rw [Attempt.eq_of_at hat, ho] at hmade
      refine .inr ⟨a.exchanges, u, free, rfl, hmade, ?_⟩
      cases free with
      | true => exact Action.runs_bind_pure.2 ⟨o, hu, rfl⟩
      | false =>
        have hid : o.map (· + false.toNat) = o := by cases o <;> rfl
        rw [hid]
        exact hu

/-- The runs of the loop are those of its attempts, one after the other. -/
theorem runs_attachAt {r : Except Error Nat} :
    (h.attachAt name h.controllerFile layout missing made places).Runs t r ↔
      ∃ attempts, Attempts h name layout missing made places attempts ∧
        t = attempts.flatMap Attempt.exchanges ∧ r = total attempts := by
  induction places generalizing missing made t r with
  | nil =>
    cases missing
    all_goals
      rw [attachAt, Action.runs_pure]
      constructor
      · rintro ⟨rfl, rfl⟩
        exact ⟨[], by constructor, rfl, rfl⟩
      · rintro ⟨attempts, ⟨⟩, rfl, rfl⟩
        exact ⟨rfl, rfl⟩
  | cons place places ih =>
    cases missing with
    | zero =>
      rw [attachAt, Action.runs_pure]
      constructor
      · rintro ⟨rfl, rfl⟩
        exact ⟨[], .enough, rfl, rfl⟩
      · rintro ⟨attempts, ⟨⟩, rfl, rfl⟩
        exact ⟨rfl, rfl⟩
    | succ missing =>
      rw [runs_attachAt_cons]
      constructor
      · rintro ⟨a, hmade, hat, ⟨e, ho, rfl, rfl⟩ | ⟨free, u, o, ho, rfl, hu, rfl⟩⟩
        · exact ⟨[a], .failed hmade hat ho, by simp, by simp [total, ho, Except.bind]⟩
        · obtain ⟨rest, hrest, rfl, rfl⟩ := ih.1 hu
          exact ⟨a :: rest, .passed hmade hat ho hrest, by simp, by simp [total, ho, Except.bind]⟩
      · rintro ⟨attempts, hattempts, rfl, rfl⟩
        cases hattempts with
        | @passed _ _ _ _ a rest free hmade hat ho hrest =>
          exact ⟨a, hmade, hat, .inr ⟨free, _, total rest, ho, by simp, ih.2 ⟨rest, hrest, rfl, rfl⟩,
            by simp [total, ho, Except.bind]⟩⟩
        | @failed _ _ _ _ a e hmade hat ho =>
          exact ⟨a, hmade, hat, .inl ⟨e, ho, by simp, by simp [total, ho, Except.bind]⟩⟩

/-! ## Where and when attempts are made -/

variable {attempts : List Attempt}

theorem Attempts.forall_made (hA : Attempts h name layout missing made places attempts) :
    ∀ a ∈ attempts, a.Made h name := by
  induction hA with
  | enough => simp
  | exhausted => simp
  | passed hmade _ _ _ ih =>
    intro a ha
    rcases List.mem_cons.1 ha with rfl | ha
    · exact hmade
    · exact ih a ha
  | failed hmade _ _ =>
    intro a ha
    obtain rfl := List.mem_singleton.1 ha
    exact hmade

theorem Attempts.map_pci_prefix (hA : Attempts h name layout missing made places attempts) :
    attempts.map Attempt.pci <+: places.map fun place =>
      ⟨layout.domain, layout.firstBus, UInt8.ofNat place.1, UInt8.ofNat place.2⟩ := by
  induction hA with
  | enough => exact List.nil_prefix
  | exhausted => exact List.nil_prefix
  | passed _ hat _ _ ih => exact List.cons_prefix_cons.2 ⟨hat.pci, ih⟩
  | failed _ hat _ => exact List.cons_prefix_cons.2 ⟨hat.pci, List.nil_prefix⟩

theorem Attempts.map_number (number : Attempt → Nat) {first : Nat}
    (hnumber : ∀ (a : Attempt) (k : Nat) (place : Nat × Nat), a.At layout k place →
      number a = first + k)
    (hA : Attempts h name layout missing made places attempts) :
    attempts.map number = List.range' (first + made) attempts.length := by
  induction hA with
  | enough => rfl
  | exhausted => rfl
  | @passed _ made _ _ a rest _ _ hat _ _ ih =>
    rw [List.map_cons, List.length_cons, List.range'_succ, ih, hnumber a made _ hat, Nat.add_assoc]
  | @failed _ made _ _ a _ _ hat _ =>
    rw [List.map_singleton, hnumber a made _ hat]
    rfl

theorem attachedIn_cons {a : Attempt} {free : Bool} (ho : a.outcome = .ok free)
    (rest : List Attempt) : attachedIn (a :: rest) = attachedIn rest + free.toNat := by
  have hattached : a.attached = free := by simp [Attempt.attached, ho]
  rw [attachedIn, List.countP_cons, hattached]
  cases free <;> rfl

theorem attachedIn_singleton_of_error {a : Attempt} {e : Error} (he : a.outcome = .error e) :
    attachedIn [a] = 0 := by
  simp [attachedIn, Attempt.attached, he]

/-- There is an attempt with number `k` if a place is left for it, controllers are still missing, and
no attempt before it failed. -/
theorem Attempts.lt_length_iff (hA : Attempts h name layout missing made places attempts) (k : Nat) :
    k < attempts.length ↔ k < places.length ∧ attachedIn (attempts.take k) < missing ∧
      ∀ a ∈ attempts.take k, a.Passed := by
  induction hA generalizing k with
  | enough => simp
  | exhausted => simp
  | @passed missing _ _ places a rest free _ _ ho _ ih =>
    cases k with
    | zero => simp [attachedIn]
    | succ k =>
      have hpassed : a.Passed := ⟨free, ho⟩
      have hlt : attachedIn (rest.take k) + free.toNat < missing + 1 ↔
          attachedIn (rest.take k) < missing + 1 - free.toNat := by omega
      simp only [List.length_cons, List.take_succ_cons, List.forall_mem_cons, attachedIn_cons ho,
        Nat.add_lt_add_iff_right, ih k, hlt, hpassed, true_and]
  | @failed missing _ _ places a e _ _ ho =>
    cases k with
    | zero => simp [attachedIn]
    | succ k =>
      have hfailed : ¬ a.Passed := fun hpassed => hpassed.outcome_ne_error e ho
      simp [hfailed]

/-- No more controllers are attached than were missing. -/
theorem Attempts.attachedIn_le (hA : Attempts h name layout missing made places attempts) :
    attachedIn attempts ≤ missing := by
  induction hA with
  | enough => exact Nat.le_refl 0
  | exhausted => exact Nat.zero_le _
  | @passed _ _ _ _ _ _ free _ _ ho _ ih =>
    have := free.toNat_le
    rw [attachedIn_cons ho]
    omega
  | failed _ _ ho =>
    rw [attachedIn_singleton_of_error ho]
    exact Nat.zero_le _

theorem total_of_passed (h : ∀ a ∈ attempts, a.Passed) :
    total attempts = .ok (attachedIn attempts) := by
  induction attempts with
  | nil => rfl
  | cons a rest ih =>
    obtain ⟨free, ho⟩ := h a (by simp)
    rw [total, ho, ih fun b hb => h b (List.mem_cons_of_mem a hb), attachedIn_cons ho]
    rfl

/-- The error of an attempt is that of all of them: it was the last one. -/
theorem Attempts.total_of_failed (hA : Attempts h name layout missing made places attempts)
    {a : Attempt} (ha : a ∈ attempts) {e : Error} (he : a.outcome = .error e) :
    total attempts = .error e := by
  induction hA with
  | enough => simp at ha
  | exhausted => simp at ha
  | passed _ _ ho _ ih =>
    rcases List.mem_cons.1 ha with rfl | ha
    · rw [ho] at he
      cases he
    · rw [total, ho, ih ha]
      rfl
  | failed _ _ ho =>
    obtain rfl := List.mem_singleton.1 ha
    rw [total, he]
    rfl

end

end VirtHost.Hypervisor
