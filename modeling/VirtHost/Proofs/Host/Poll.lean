import VirtHost.Host.Poll
import VirtHost.Proofs.Host.Action

/-! # Runs of polls

* `Poll.finite_await`: with an interval, a poll is a program without repetitions.
* `Poll.uses_await`: a poll asks for what its check asks for, and sleeps.
* `Poll.Checked`: checks with pauses between them, of which the last one decides.
* `Poll.checked_of_runs`: every run of a poll is of that kind, with an interval or without one.
-/

namespace VirtHost.Poll
set_option autoImplicit false

variable {check : Action Bool}

theorem millis_ne_zero {seconds : Nat} (h : seconds ≠ 0) : (Duration.ofSeconds seconds).millis ≠ 0 := by
  simp only [Duration.ofSeconds]
  omega

theorem finite_awaitFrom {p : Poll} (hp : p.interval.millis ≠ 0) (h : check.Finite)
    (elapsed : Duration) : (p.awaitFrom hp check elapsed).Finite := by
  rw [awaitFrom]
  refine h.bind fun b => ?_
  cases b with
  | true => exact Action.finite_pure true
  | false =>
    rw [if_neg Bool.false_ne_true]
    split
    · exact Action.finite_pure false
    · refine Action.Finite.bind (Action.Finite.ofProgram fun _ => trivial) fun _ => ?_
      exact finite_awaitFrom hp h _
termination_by p.timeout.millis - elapsed.millis

theorem finite_await {p : Poll} (hp : p.interval.millis ≠ 0) (h : check.Finite) :
    (p.await check).Finite := by
  rw [await, dif_neg hp]
  exact finite_awaitFrom hp h _

section
variable {allowed : Host.Request → Prop}

theorem uses_awaitFrom {p : Poll} (hp : p.interval.millis ≠ 0) (h : check.Uses allowed)
    (hsleep : ∀ time, allowed (.sleep time)) (elapsed : Duration) :
    (p.awaitFrom hp check elapsed).Uses allowed := by
  rw [awaitFrom]
  refine h.bind fun b => ?_
  cases b with
  | true => exact Action.uses_pure true
  | false =>
    rw [if_neg Bool.false_ne_true]
    split
    · exact Action.uses_pure false
    · refine Action.Uses.bind (Action.Uses.ofProgram ⟨hsleep p.interval, fun _ => trivial⟩) fun _ => ?_
      exact uses_awaitFrom hp h hsleep _
termination_by p.timeout.millis - elapsed.millis

theorem uses_round (h : check.Uses allowed) (hsleep : ∀ time, allowed (.sleep time)) :
    (round check).Uses allowed := by
  refine Program.Uses.bind h fun outcome => ?_
  split
  · exact ⟨hsleep ⟨0⟩, fun _ => trivial⟩
  · exact trivial

theorem uses_await {p : Poll} (h : check.Uses allowed) (hsleep : ∀ time, allowed (.sleep time)) :
    (p.await check).Uses allowed := by
  unfold await
  split
  · exact ⟨uses_round h hsleep, fun _ => trivial⟩
  · exact uses_awaitFrom _ h hsleep _

end

/-! ## The checks of a poll -/

/-- Checks with pauses between them. All but the last one are false, and the last one decides. -/
inductive Checked (check : Action Bool) : List Exchange → Except Error Bool → Prop
  | last {t : List Exchange} {r : Except Error Bool} (hcheck : check.Runs t r) : Checked check t r
  | again {u t : List Exchange} {r : Except Error Bool} {time : Duration}
      (hcheck : check.Runs u (.ok false)) (hrest : Checked check t r) :
      Checked check (u ++ ⟨.sleep time, ()⟩ :: t) r

theorem runs_sleep {time : Duration} {t : List Exchange} {r : Except Error Unit} :
    (Host.sleep time).Runs t r ↔ t = [⟨.sleep time, ()⟩] ∧ r = .ok () := by
  refine Action.runs_ofProgram.trans ?_
  constructor
  · rintro ⟨x, ⟨reply, rest, rfl, rfl, rfl⟩, rfl⟩
    exact ⟨rfl, rfl⟩
  · rintro ⟨rfl, rfl⟩
    exact ⟨(), ⟨(), [], rfl, rfl, rfl⟩, rfl⟩

theorem checked_of_runs_awaitFrom {p : Poll} {hp : p.interval.millis ≠ 0} {elapsed : Duration}
    {t : List Exchange} {r : Except Error Bool}
    (hrun : (p.awaitFrom hp check elapsed).Runs t r) : Checked check t r := by
  rw [awaitFrom] at hrun
  rcases Action.runs_bind.1 hrun with ⟨e, he, rfl⟩ | ⟨u, v, b, rfl, hu, hv⟩
  · exact .last he
  · cases b with
    | true =>
      obtain ⟨rfl, rfl⟩ := Action.runs_pure.1 hv
      rw [List.append_nil]
      exact .last hu
    | false =>
      rw [if_neg Bool.false_ne_true] at hv
      split at hv
      · obtain ⟨rfl, rfl⟩ := Action.runs_pure.1 hv
        rw [List.append_nil]
        exact .last hu
      · rcases Action.runs_bind.1 hv with ⟨e, he, -⟩ | ⟨w, x, _, rfl, hw, hx⟩
        · cases (runs_sleep.1 he).2
        · obtain ⟨rfl, -⟩ := runs_sleep.1 hw
          exact .again hu (checked_of_runs_awaitFrom hx)
termination_by p.timeout.millis - elapsed.millis

/-- A round gives no result exactly if its check is false, and then sleeps. -/
theorem runs_round {t : List Exchange} {o : Option (Except Error Bool)} :
    (round check).Runs t o ↔
      (∃ u, check.Runs u (.ok false) ∧ t = u ++ [⟨.sleep ⟨0⟩, ()⟩] ∧ o = none) ∨
        ∃ r, check.Runs t r ∧ r ≠ .ok false ∧ o = some r := by
  refine Program.runs_bind.trans ?_
  constructor
  · rintro ⟨u, v, r, rfl, hu, hv⟩
    split at hv
    · obtain ⟨reply, rest, rfl, rfl, rfl⟩ := hv
      exact .inl ⟨u, hu, rfl, rfl⟩
    · rename_i hne
      obtain ⟨rfl, rfl⟩ := hv
      exact .inr ⟨r, by rw [List.append_nil]; exact hu, hne, rfl⟩
  · rintro (⟨u, hu, rfl, rfl⟩ | ⟨r, hr, hne, rfl⟩)
    · exact ⟨u, _, .ok false, rfl, hu, (), [], rfl, rfl, rfl⟩
    · refine ⟨t, [], r, by simp, hr, ?_⟩
      split
      · exact absurd rfl hne
      · exact ⟨rfl, rfl⟩

/-- Every run of a poll consists of checks, of which the last one decides. -/
theorem checked_of_runs {p : Poll} {t : List Exchange} {r : Except Error Bool}
    (hrun : (p.await check).Runs t r) : Checked check t r := by
  unfold await at hrun
  split at hrun
  · -- A poll without an interval: its idle rounds are the checks before the last one.
    obtain ⟨idle, last, rest, b, rfl, hidle, hlast, rfl, rfl⟩ := hrun
    obtain ⟨-, -, -, hnone⟩ | ⟨_, hlast, -, hb⟩ := runs_round.1 hlast
    · cases hnone
    · obtain rfl := Option.some.inj hb
      rw [List.append_nil]
      induction idle with
      | nil => exact .last hlast
      | cons w idle ih =>
        have hrest := ih fun v hv => hidle v (List.mem_cons_of_mem w hv)
        obtain ⟨u, hu, rfl, -⟩ | ⟨_, -, -, hnone⟩ := runs_round.1 (hidle w (by simp))
        · rw [List.flatten_cons, List.append_assoc, List.append_assoc]
          exact .again hu hrest
        · cases hnone
  · exact checked_of_runs_awaitFrom hrun

/-- The last check gives the result. -/
theorem Checked.exists_last {t : List Exchange} {r : Except Error Bool} (h : Checked check t r) :
    ∃ u v, t = u ++ v ∧ check.Runs v r := by
  induction h with
  | last hcheck => exact ⟨[], _, rfl, hcheck⟩
  | @again u _ _ time _ _ ih =>
    obtain ⟨w, v, rfl, hv⟩ := ih
    exact ⟨u ++ ⟨.sleep time, ()⟩ :: w, v, by simp, hv⟩

/-- If every check is one command, a poll is that command, once or more. -/
theorem Checked.commandsOf_eq {command : String}
    (hcommand : ∀ u o, check.Runs u o → commandsOf u = [command]) {t : List Exchange}
    {r : Except Error Bool} (h : Checked check t r) :
    ∃ more, commandsOf t = List.replicate (more + 1) command := by
  induction h with
  | last hcheck => exact ⟨0, hcommand _ _ hcheck⟩
  | @again u t _ time hcheck _ ih =>
    obtain ⟨more, hmore⟩ := ih
    refine ⟨more + 1, ?_⟩
    have hsleep : commandsOf (⟨.sleep time, ()⟩ :: t) = commandsOf t := rfl
    rw [commandsOf_append, hcommand _ _ hcheck, hsleep, hmore]
    rfl

end VirtHost.Poll
