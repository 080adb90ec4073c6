import Mathlib.Control.Monad.Basic
import VirtHost.Proofs.Host.Run

/-! # Runs of programs that may fail

What holds of a sequence of programs that may fail does not depend on what their errors are.

* `Program.runs_except_bind`: an error ends a sequence, and a result is passed on.
* `Program.runs_except_tryCatch`: an error is handed to the handler, and a result is kept.
* `Program.Finite.except_bind`, `Program.Uses.except_bind` and their like: the same for repetitions and
  for requests.
-/

namespace VirtHost.Program
set_option autoImplicit false

variable {ε ε' α β : Type} {t : List Exchange}

/-! ## Runs -/

theorem runs_except_bind {a : ExceptT ε Program α} {f : α → ExceptT ε Program β} {r : Except ε β} :
    (a >>= f).run.Runs t r ↔ (∃ e, a.run.Runs t (.error e) ∧ r = .error e) ∨
      ∃ u v x, t = u ++ v ∧ a.run.Runs u (.ok x) ∧ (f x).run.Runs v r := by
  refine (runs_bind (p := a.run) (f := ExceptT.bindCont f)).trans ?_
  constructor
  · rintro ⟨u, v, o, rfl, hu, hv⟩
    cases o with
    | error e =>
      obtain ⟨rfl, rfl⟩ : v = [] ∧ r = .error e := hv
      exact .inl ⟨e, by rw [List.append_nil]; exact hu, rfl⟩
    | ok x => exact .inr ⟨u, v, x, rfl, hu, hv⟩
  · rintro (⟨e, he, rfl⟩ | ⟨u, v, x, rfl, hu, hv⟩)
    · exact ⟨t, [], .error e, by simp, he, ⟨rfl, rfl⟩⟩
    · exact ⟨u, v, .ok x, rfl, hu, hv⟩

theorem runs_except_bind_pure {a : ExceptT ε Program α} {f : α → β} {r : Except ε β} :
    (a >>= fun x => pure (f x)).run.Runs t r ↔ ∃ o, a.run.Runs t o ∧ r = o.map f := by
  rw [runs_except_bind]
  constructor
  · rintro (⟨e, he, rfl⟩ | ⟨u, v, x, rfl, hu, rfl, rfl⟩)
    · exact ⟨.error e, he, rfl⟩
    · exact ⟨.ok x, by simpa using hu, rfl⟩
  · rintro ⟨o, ho, rfl⟩
    cases o with
    | error e => exact .inl ⟨e, ho, rfl⟩
    | ok x => exact .inr ⟨t, [], x, by simp, ho, rfl, rfl⟩

theorem runs_except_tryCatch {a : ExceptT ε Program α} {f : ε → ExceptT ε Program α}
    {r : Except ε α} :
    (tryCatch a f).run.Runs t r ↔ (∃ x, a.run.Runs t (.ok x) ∧ r = .ok x) ∨
      ∃ u v e, t = u ++ v ∧ a.run.Runs u (.error e) ∧ (f e).run.Runs v r := by
  refine (runs_bind (p := a.run)).trans ?_
  constructor
  · rintro ⟨u, v, o, rfl, hu, hv⟩
    cases o with
    | error e => exact .inr ⟨u, v, e, rfl, hu, hv⟩
    | ok x =>
      obtain ⟨rfl, rfl⟩ : v = [] ∧ r = .ok x := hv
      exact .inl ⟨x, by rw [List.append_nil]; exact hu, rfl⟩
  · rintro (⟨x, hx, rfl⟩ | ⟨u, v, e, rfl, hu, hv⟩)
    · exact ⟨t, [], .ok x, by simp, hx, ⟨rfl, rfl⟩⟩
    · exact ⟨u, v, .error e, rfl, hu, hv⟩

theorem runs_except_lift {p : Program α} {r : Except ε α} :
    (ExceptT.lift p : ExceptT ε Program α).run.Runs t r ↔ ∃ a, p.Runs t a ∧ r = .ok a := by
  refine (runs_bind (p := p) (f := fun a => .done (Except.ok a))).trans ?_
  constructor
  · rintro ⟨u, v, a, rfl, hu, rfl, rfl⟩
    exact ⟨a, by simpa using hu, rfl⟩
  · rintro ⟨a, ha, rfl⟩
    exact ⟨t, [], a, by simp, ha, rfl, rfl⟩

theorem runs_mapError {f : ε → ε'} {p : Program (Except ε α)} {r : Except ε' α} :
    ((·.mapError f) <$> p).Runs t r ↔ ∃ o, p.Runs t o ∧ r = o.mapError f := by
  refine (runs_bind (p := p) (f := fun o => .done (o.mapError f))).trans ?_
  constructor
  · rintro ⟨u, v, o, rfl, hu, rfl, rfl⟩
    exact ⟨o, by rw [List.append_nil]; exact hu, rfl⟩
  · rintro ⟨o, ho, rfl⟩
    exact ⟨t, [], o, by simp, ho, rfl, rfl⟩

/-! ## Repetitions -/

theorem Finite.except_bind {a : ExceptT ε Program α} {f : α → ExceptT ε Program β}
    (h : a.run.Finite) (hf : ∀ x, (f x).run.Finite) : (a >>= f).run.Finite := by
  refine Finite.bind (p := a.run) h fun o => ?_
  cases o with
  | error e => exact trivial
  | ok x => exact hf x

/-! ## Requests -/

section
variable {allowed : Host.Request → Prop}

theorem Uses.except_bind {a : ExceptT ε Program α} {f : α → ExceptT ε Program β}
    (h : a.run.Uses allowed) (hf : ∀ x, (f x).run.Uses allowed) : (a >>= f).run.Uses allowed := by
  refine Uses.bind (p := a.run) h fun o => ?_
  cases o with
  | error e => exact trivial
  | ok x => exact hf x

theorem Uses.except_tryCatch {a : ExceptT ε Program α} {f : ε → ExceptT ε Program α}
    (h : a.run.Uses allowed) (hf : ∀ e, (f e).run.Uses allowed) :
    (tryCatch a f).run.Uses allowed := by
  refine Uses.bind (p := a.run) h fun o => ?_
  cases o with
  | error e => exact hf e
  | ok x => exact trivial

theorem Uses.except_lift {p : Program α} (h : p.Uses allowed) :
    (ExceptT.lift p : ExceptT ε Program α).run.Uses allowed :=
  Uses.bind h fun _ => trivial

theorem Uses.mapError {f : ε → ε'} {p : Program (Except ε α)} (h : p.Uses allowed) :
    ((·.mapError f) <$> p).Uses allowed :=
  Uses.bind h fun _ => trivial

end
end VirtHost.Program
