import VirtHost.Cli.Run
import VirtHost.Proofs.Host.Action

/-! # Runs of commands

The rules for actions, read for the commands of the program, which fail in their own way.

* `Job.Runs`, `Job.Uses`: the notions for programs, read for commands.
* `Job.runs_doing`, `Job.runs_ofProgram`: an action or a program as part of a command.
* `Job.runs_allOrNothing`: a command that reports whether something came about.
-/

namespace VirtHost.Cli.Job
open Data (Document)
set_option autoImplicit false

variable {α β : Type} {t : List Exchange}

/-! ## Runs -/

/-- With the exchanges `t` the command gives the result or the failure `r`. -/
def Runs (j : Job α) (t : List Exchange) (r : Except Failure α) : Prop :=
  j.run.Runs t r

theorem runs_of_play {j : Job α} {r : Except Failure α} (h : j.run.play t = some r) : j.Runs t r :=
  Program.runs_of_play h

theorem runs_pure {a : α} {r : Except Failure α} : (pure a : Job α).Runs t r ↔ t = [] ∧ r = .ok a :=
  Iff.rfl

theorem runs_throw {e : Failure} {r : Except Failure α} :
    (throw e : Job α).Runs t r ↔ t = [] ∧ r = .error e :=
  Iff.rfl

theorem runs_bind {j : Job α} {f : α → Job β} {r : Except Failure β} :
    (j >>= f).Runs t r ↔ (∃ e, j.Runs t (.error e) ∧ r = .error e) ∨
      ∃ u v x, t = u ++ v ∧ j.Runs u (.ok x) ∧ (f x).Runs v r :=
  Program.runs_except_bind

theorem runs_bind_pure {j : Job α} {f : α → β} {r : Except Failure β} :
    (j >>= fun x => pure (f x)).Runs t r ↔ ∃ o, j.Runs t o ∧ r = o.map f :=
  Program.runs_except_bind_pure

theorem runs_tryCatch {j : Job α} {f : Failure → Job α} {r : Except Failure α} :
    (tryCatch j f).Runs t r ↔ (∃ x, j.Runs t (.ok x) ∧ r = .ok x) ∨
      ∃ u v e, t = u ++ v ∧ j.Runs u (.error e) ∧ (f e).Runs v r :=
  Program.runs_except_tryCatch

theorem runs_ofProgram {p : Program α} {r : Except Failure α} :
    (ofProgram p).Runs t r ↔ ∃ a, p.Runs t a ∧ r = .ok a :=
  Program.runs_except_lift

theorem runs_doing {context : Option String} {a : Action α} {r : Except Failure α} :
    (doing context a).Runs t r ↔ ∃ o, a.Runs t o ∧ r = o.mapError (Failure.operation context) :=
  Program.runs_mapError

/-- A command that reports whether something came about. -/
theorem runs_allOrNothing {p : Program Bool} {what : String} {r : Except Failure (Option Document)} :
    (do
      let all ← ofProgram p
      if all then pure none else throw (.unmet what) : Job (Option Document)).Runs t r ↔
      ∃ all, p.Runs t all ∧ r = if all then .ok none else .error (.unmet what) := by
  rw [runs_bind]
  constructor
  · rintro (⟨e, he, -⟩ | ⟨u, v, all, rfl, hu, hv⟩)
    · obtain ⟨_, -, hr⟩ := runs_ofProgram.1 he
      cases hr
    · obtain ⟨_, hp, hall⟩ := runs_ofProgram.1 hu
      cases hall
      refine ⟨all, ?_⟩
      cases all with
      | true =>
        obtain ⟨rfl, rfl⟩ := runs_pure.1 hv
        exact ⟨by rw [List.append_nil]; exact hp, rfl⟩
      | false =>
        obtain ⟨rfl, rfl⟩ := runs_throw.1 hv
        exact ⟨by rw [List.append_nil]; exact hp, rfl⟩
  · rintro ⟨all, hp, rfl⟩
    refine .inr ⟨t, [], all, by rw [List.append_nil], runs_ofProgram.2 ⟨all, hp, rfl⟩, ?_⟩
    cases all with
    | true => exact ⟨rfl, rfl⟩
    | false => exact ⟨rfl, rfl⟩

/-! ## Requests -/

/-- Every request of the command is allowed. -/
def Uses (allowed : Host.Request → Prop) (j : Job α) : Prop :=
  j.run.Uses allowed

section
variable {allowed : Host.Request → Prop}

theorem Uses.of_runs {j : Job α} {r : Except Failure α} (h : j.Uses allowed) (ht : j.Runs t r) :
    ∀ e ∈ t, allowed e.request :=
  Program.Uses.of_runs h ht

theorem uses_pure (x : α) : (pure x : Job α).Uses allowed := trivial

theorem uses_throw (e : Failure) : (throw e : Job α).Uses allowed := trivial

theorem Uses.bind {j : Job α} {f : α → Job β} (h : j.Uses allowed) (hf : ∀ x, (f x).Uses allowed) :
    (j >>= f).Uses allowed :=
  Program.Uses.except_bind h hf

theorem uses_doing {context : Option String} {a : Action α} (h : a.Uses allowed) :
    (doing context a).Uses allowed :=
  Program.Uses.mapError h

end
end VirtHost.Cli.Job
