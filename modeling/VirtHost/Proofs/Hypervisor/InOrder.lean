import VirtHost.Hypervisor.Lifecycle
import VirtHost.Proofs.Host.Action

/-! # Batches

* `InOrder`: the elements of a list are dealt with one after the other, whatever becomes of the others.
* `runs_holdsForAll`: that is what a batch does.
* `holdsForAll_append`: a batch of two lists is the batch of the first one before that of the second one.
* `InOrder.exists_visit`: a batch that holds has dealt with every element with success.
* `InOrder.exists_map`: a batch as a list of what was done.
-/

namespace VirtHost.Hypervisor
set_option autoImplicit false

variable {α : Type}

/-- The elements of a list are dealt with one after the other, whatever becomes of the others. It holds
for the list if it holds for each of them. -/
inductive InOrder (visit : α → List Exchange → Bool → Prop) : List α → List Exchange → Bool → Prop
  | nil : InOrder visit [] [] true
  | cons {a : α} {rest : List α} {t u : List Exchange} {holds others : Bool}
      (hvisit : visit a t holds) (hrest : InOrder visit rest u others) :
      InOrder visit (a :: rest) (t ++ u) (holds && others)

section
variable {visit visit' : α → List Exchange → Bool → Prop} {as : List α} {t : List Exchange}
  {holds : Bool}

theorem InOrder.imp {allowed : Exchange → Prop}
    (himp : ∀ a u b, visit a u b → (∀ e ∈ u, allowed e) → visit' a u b)
    (h : InOrder visit as t holds) (hallowed : ∀ e ∈ t, allowed e) :
    InOrder visit' as t holds := by
  induction h with
  | nil => exact .nil
  | cons hvisit _ ih =>
    have hfirst := himp _ _ _ hvisit fun e he => hallowed e (List.mem_append_left _ he)
    have hrest := ih fun e he => hallowed e (List.mem_append_right _ he)
    exact .cons hfirst hrest

/-- If it holds for a list, it holds for each element. -/
theorem InOrder.exists_visit (h : InOrder visit as t true) {a : α} (ha : a ∈ as) :
    ∃ u, u ⊆ t ∧ visit a u true := by
  generalize hb : true = b at h
  induction h with
  | nil => cases ha
  | @cons a' rest u v holds others hvisit hrest ih =>
    obtain ⟨rfl, rfl⟩ : holds = true ∧ others = true := by simpa using hb.symm
    rcases List.mem_cons.1 ha with rfl | ha
    · exact ⟨u, List.subset_append_left u v, hvisit⟩
    · obtain ⟨w, hw, hvisited⟩ := ih ha rfl
      exact ⟨w, List.subset_append_of_subset_right u hw, hvisited⟩

/-- What is done with the elements of a list is done in order, and it holds for the list if all is well with
each of them. -/
theorem InOrder.exists_map {β : Type} (element : β → α) (exchanges : β → List Exchange)
    (Good : β → Prop)
    (hvisit : ∀ a u b, visit a u b → ∃ x, element x = a ∧ exchanges x = u ∧ (b = true ↔ Good x))
    (h : InOrder visit as t holds) :
    ∃ xs : List β, xs.map element = as ∧ t = xs.flatMap exchanges ∧
      (holds = true ↔ ∀ x ∈ xs, Good x) := by
  induction h with
  | nil => exact ⟨[], rfl, rfl, by simp⟩
  | cons hfirst _ ih =>
    obtain ⟨x, rfl, rfl, hgood⟩ := hvisit _ _ _ hfirst
    obtain ⟨xs, rfl, rfl, hrest⟩ := ih
    refine ⟨x :: xs, rfl, rfl, ?_⟩
    rw [Bool.and_eq_true, hgood, hrest, List.forall_mem_cons]

end

section
variable {step : α → Action Bool} {as bs : List α} {t : List Exchange} {holds : Bool}

/-- A batch deals with its elements in order. It holds for an element if the step for it gives `true`. -/
theorem runs_holdsForAll :
    (holdsForAll step as).Runs t holds ↔
      InOrder (fun a u b => ∃ o, (step a).Runs u o ∧ b = decide (o = .ok true)) as t holds := by
  induction as generalizing t holds with
  | nil =>
    constructor
    · rintro ⟨rfl, rfl⟩
      exact .nil
    · rintro ⟨⟩
      exact ⟨rfl, rfl⟩
  | cons a as ih =>
    constructor
    · intro hrun
      obtain ⟨u, v, o, rfl, hu, hv⟩ := Program.runs_bind.1 hrun
      obtain ⟨w, x, others, rfl, hw, rfl, rfl⟩ := Program.runs_bind.1 hv
      rw [List.append_nil]
      refine .cons ⟨o, hu, ?_⟩ (ih.1 hw)
      rcases o with e | _ | _ <;> rfl
    · rintro (_ | ⟨⟨o, ho, rfl⟩, hrest⟩)
      refine Program.runs_bind.2 ⟨_, _, o, rfl, ho, Program.runs_bind.2 ⟨_, [], _, ?_, ih.2 hrest, ?_⟩⟩
      · rw [List.append_nil]
      · rcases o with e | _ | _ <;> exact ⟨rfl, rfl⟩

theorem finite_holdsForAll (hstep : ∀ a, (step a).Finite) (as : List α) :
    (holdsForAll step as).Finite := by
  induction as with
  | nil => exact trivial
  | cons a as ih =>
    refine Program.Finite.bind (hstep a) fun o => ?_
    exact Program.Finite.bind ih fun others => trivial

theorem uses_holdsForAll {allowed : Host.Request → Prop} (h : ∀ a ∈ as, (step a).Uses allowed) :
    (holdsForAll step as).Uses allowed := by
  induction as with
  | nil => exact trivial
  | cons a as ih =>
    refine Program.Uses.bind (h a (by simp)) fun o => ?_
    exact Program.Uses.bind (ih fun b hb => h b (by simp [hb])) fun others => trivial

theorem holdsForAll_append (step : α → Action Bool) (as bs : List α) :
    holdsForAll step (as ++ bs) = (do
      let first ← holdsForAll step as
      let second ← holdsForAll step bs
      pure (first && second)) := by
  induction as with
  | nil => simp only [List.nil_append, holdsForAll, pure_bind, Bool.true_and, bind_pure]
  | cons a as ih =>
    simp only [List.cons_append, holdsForAll, ih, bind_assoc, pure_bind, Bool.and_assoc]

theorem runs_holdsForAll_append :
    (holdsForAll step (as ++ bs)).Runs t holds ↔ ∃ u v first second, t = u ++ v ∧
      (holdsForAll step as).Runs u first ∧ (holdsForAll step bs).Runs v second ∧
        holds = (first && second) := by
  rw [holdsForAll_append]
  constructor
  · intro hrun
    obtain ⟨u, w, first, rfl, hu, hw⟩ := Program.runs_bind.1 hrun
    obtain ⟨v, x, second, rfl, hv, rfl, rfl⟩ := Program.runs_bind.1 hw
    exact ⟨u, v, first, second, by rw [List.append_nil], hu, hv, rfl⟩
  · rintro ⟨u, v, first, second, rfl, hu, hv, rfl⟩
    refine Program.runs_bind.2 ⟨u, v, first, rfl, hu, ?_⟩
    exact Program.runs_bind.2 ⟨v, [], second, by rw [List.append_nil], hv, rfl, rfl⟩

/-- On a host, the batch of the second list starts where that of the first one ended. -/
theorem run_holdsForAll_append {σ : Type} (host : Host σ) (rounds : Nat) (s : σ) :
    (holdsForAll step (as ++ bs)).run host rounds s =
      ((holdsForAll step as).run host rounds s).bind fun first =>
        ((holdsForAll step bs).run host rounds first.2).map fun second =>
          (first.1 && second.1, second.2) := by
  rw [holdsForAll_append]
  refine (Program.run_bind host rounds _ _ s).trans ?_
  congr 1
  funext first
  refine (Program.run_bind host rounds _ _ first.2).trans ?_
  rw [Option.map_eq_bind]
  rfl

end
end VirtHost.Hypervisor
