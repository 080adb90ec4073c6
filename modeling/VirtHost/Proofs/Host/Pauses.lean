import VirtHost.Proofs.Host.Poll

/-! # Rounds with pauses between them

* `pausesOf`: the pauses in some exchanges.
* `paced`: some rounds of exchanges, one after the other, with a pause between two of them.
* `Poll.Rounds`: the checks of a poll that has time for a number of pauses.
* `Poll.runs_await_iff`: the runs of a poll with an interval are these.
-/

namespace VirtHost
set_option autoImplicit false

/-- The time for which an exchange sleeps, if it does. -/
def Exchange.pause? (e : Exchange) : Option Duration :=
  match e.request with
  | .sleep time => some time
  | _ => none

/-- The pauses in some exchanges, in order. -/
def pausesOf (t : List Exchange) : List Duration :=
  t.filterMap Exchange.pause?

/-- Some rounds with a pause between two of them. -/
def paced (time : Duration) (rounds : List (List Exchange)) : List Exchange :=
  [⟨.sleep time, ()⟩].intercalate rounds

section
variable {time : Duration} {rounds : List (List Exchange)}

@[simp] theorem pausesOf_nil : pausesOf [] = [] := rfl

@[simp] theorem pausesOf_append (t u : List Exchange) :
    pausesOf (t ++ u) = pausesOf t ++ pausesOf u :=
  List.filterMap_append

@[simp] theorem pausesOf_sleep (time : Duration) (t : List Exchange) :
    pausesOf (⟨.sleep time, ()⟩ :: t) = time :: pausesOf t :=
  rfl

@[simp] theorem paced_singleton (u : List Exchange) : paced time [u] = u := by
  simp [paced, List.intercalate]

theorem paced_cons (u : List Exchange) (h : rounds ≠ []) :
    paced time (u :: rounds) = u ++ ⟨.sleep time, ()⟩ :: paced time rounds := by
  obtain ⟨w, rounds, rfl⟩ := List.exists_cons_of_ne_nil h
  simp [paced, List.intercalate]

theorem mem_paced {e : Exchange} (h : e ∈ paced time rounds) :
    e = ⟨.sleep time, ()⟩ ∨ ∃ u ∈ rounds, e ∈ u := by
  induction rounds with
  | nil => cases h
  | cons u rounds ih =>
    cases rounds with
    | nil => exact .inr ⟨u, by simp, by simpa using h⟩
    | cons w rounds =>
      rw [paced_cons u (List.cons_ne_nil w rounds), List.mem_append, List.mem_cons] at h
      rcases h with hu | hpause | hlater
      · exact .inr ⟨u, by simp, hu⟩
      · exact .inl hpause
      · rcases ih hlater with hpause | ⟨x, hx, he⟩
        · exact .inl hpause
        · exact .inr ⟨x, List.mem_cons_of_mem u hx, he⟩

/-- There is one pause less than there are rounds. -/
theorem pausesOf_paced (h : ∀ u ∈ rounds, pausesOf u = []) :
    pausesOf (paced time rounds) = List.replicate (rounds.length - 1) time := by
  induction rounds with
  | nil => rfl
  | cons u rounds ih =>
    obtain ⟨hu, hrounds⟩ := List.forall_mem_cons.1 h
    cases rounds with
    | nil => simpa using hu
    | cons w rounds =>
      rw [paced_cons u (List.cons_ne_nil w rounds), pausesOf_append, hu, pausesOf_sleep, ih hrounds]
      rfl

/-- What is collected from exchanges, but not from a pause, is collected round by round. -/
theorem filterMap_paced {β : Type} {f : Exchange → Option β} (hf : f ⟨.sleep time, ()⟩ = none)
    (rounds : List (List Exchange)) :
    (paced time rounds).filterMap f = rounds.flatMap fun u => u.filterMap f := by
  induction rounds with
  | nil => rfl
  | cons u rounds ih =>
    cases rounds with
    | nil => simp
    | cons w rounds =>
      rw [paced_cons u (List.cons_ne_nil w rounds), List.filterMap_append,
        List.filterMap_cons_none hf, ih]
      rfl

theorem commandsOf_paced (rounds : List (List Exchange)) :
    commandsOf (paced time rounds) = rounds.flatMap commandsOf :=
  filterMap_paced rfl rounds

end

namespace Poll

/-! ## Polls -/

/-- The checks of a poll that has time for a number of pauses. Only a check that is false is followed by
another one, after a pause. -/
inductive Rounds (check : Action Bool) (time : Duration) :
    Nat → List Exchange → Except Error Bool → Prop
  | ended {more : Nat} {t : List Exchange} {r : Except Error Bool} (hcheck : check.Runs t r)
      (hr : r ≠ .ok false) : Rounds check time more t r
  | late {t : List Exchange} (hcheck : check.Runs t (.ok false)) : Rounds check time 0 t (.ok false)
  | again {more : Nat} {u t : List Exchange} {r : Except Error Bool} (hcheck : check.Runs u (.ok false))
      (hrest : Rounds check time more t r) :
      Rounds check time (more + 1) (u ++ ⟨.sleep time, ()⟩ :: t) r

variable {check : Action Bool} {t : List Exchange} {r : Except Error Bool}

/-- What follows a check that is false depends on whether there is time for a pause. -/
theorem runs_awaitFrom {p : Poll} {hp : p.interval.millis ≠ 0} {elapsed : Duration} :
    (p.awaitFrom hp check elapsed).Runs t r ↔
      (check.Runs t r ∧ r ≠ .ok false) ∨
      (check.Runs t (.ok false) ∧ p.timeout.millis < elapsed.millis + p.interval.millis ∧
        r = .ok false) ∨
      ∃ u v, t = u ++ ⟨.sleep p.interval, ()⟩ :: v ∧ check.Runs u (.ok false) ∧
        ¬ p.timeout.millis < elapsed.millis + p.interval.millis ∧
        (p.awaitFrom hp check ⟨elapsed.millis + p.interval.millis⟩).Runs v r := by
  rw [awaitFrom, Action.runs_bind]
  constructor
  · rintro (⟨e, he, rfl⟩ | ⟨u, v, b, rfl, hu, hv⟩)
    · exact .inl ⟨he, by simp⟩
    · cases b with
      | true =>
        obtain ⟨rfl, rfl⟩ := Action.runs_pure.1 hv
        rw [List.append_nil]
        exact .inl ⟨hu, by simp⟩
      | false =>
        rw [if_neg Bool.false_ne_true] at hv
        split at hv
        · rename_i hlate
          obtain ⟨rfl, rfl⟩ := Action.runs_pure.1 hv
          rw [List.append_nil]
          exact .inr (.inl ⟨hu, hlate, rfl⟩)
        · rename_i hintime
          rcases Action.runs_bind.1 hv with ⟨e, he, -⟩ | ⟨w, x, _, rfl, hw, hx⟩
          · cases (runs_sleep.1 he).2
          · obtain ⟨rfl, -⟩ := runs_sleep.1 hw
            exact .inr (.inr ⟨u, x, rfl, hu, hintime, hx⟩)
  · rintro (⟨hcheck, hr⟩ | ⟨hcheck, hlate, rfl⟩ | ⟨u, v, rfl, hu, hintime, hv⟩)
    · cases r with
      | error e => exact .inl ⟨e, hcheck, rfl⟩
      | ok b =>
        obtain rfl : b = true := by simpa using hr
        exact .inr ⟨t, [], true, by simp, hcheck, Action.runs_pure.2 ⟨rfl, rfl⟩⟩
    · refine .inr ⟨t, [], false, by simp, hcheck, ?_⟩
      rw [if_neg Bool.false_ne_true, if_pos hlate]
      exact Action.runs_pure.2 ⟨rfl, rfl⟩
    · refine .inr ⟨u, _, false, rfl, hu, ?_⟩
      rw [if_neg Bool.false_ne_true, if_neg hintime]
      exact Action.runs_bind.2 (.inr ⟨_, v, (), rfl, runs_sleep.2 ⟨rfl, rfl⟩, hv⟩)

/-- From the time `elapsed` on there is a pause for each interval that is left. -/
theorem runs_awaitFrom_iff {p : Poll} {hp : p.interval.millis ≠ 0} {elapsed : Duration}
    (t : List Exchange) :
    (p.awaitFrom hp check elapsed).Runs t r ↔
      Rounds check p.interval ((p.timeout.millis - elapsed.millis) / p.interval.millis) t r := by
  rw [runs_awaitFrom]
  -- The quotient is zero exactly if the next pause would end too late, and else one more than behind it.
  by_cases hlate : p.timeout.millis < elapsed.millis + p.interval.millis
  · have hnone : (p.timeout.millis - elapsed.millis) / p.interval.millis = 0 :=
      Nat.div_eq_of_lt (by omega)
    rw [hnone]
    constructor
    · rintro (⟨hcheck, hr⟩ | ⟨hcheck, -, rfl⟩ | ⟨u, v, -, -, hintime, -⟩)
      · exact .ended hcheck hr
      · exact .late hcheck
      · exact absurd hlate hintime
    · rintro (⟨hcheck, hr⟩ | hcheck)
      · exact .inl ⟨hcheck, hr⟩
      · exact .inr (.inl ⟨hcheck, hlate, rfl⟩)
  · have hsome : (p.timeout.millis - elapsed.millis) / p.interval.millis
        = (p.timeout.millis - (elapsed.millis + p.interval.millis)) / p.interval.millis + 1 := by
      rw [← Nat.add_div_right _ (Nat.pos_of_ne_zero hp)]
      congr 1
      omega
    have hrest (v : List Exchange) :
        (p.awaitFrom hp check ⟨elapsed.millis + p.interval.millis⟩).Runs v r ↔
          Rounds check p.interval
            ((p.timeout.millis - (elapsed.millis + p.interval.millis)) / p.interval.millis) v r :=
      runs_awaitFrom_iff v
    rw [hsome]
    constructor
    · rintro (⟨hcheck, hr⟩ | ⟨-, hnot, -⟩ | ⟨u, v, rfl, hu, -, hv⟩)
      · exact .ended hcheck hr
      · exact absurd hnot hlate
      · exact .again hu ((hrest v).1 hv)
    · intro h
      cases h with
      | ended hcheck hr => exact .inl ⟨hcheck, hr⟩
      | again hu hv => exact .inr (.inr ⟨_, _, rfl, hu, hlate, (hrest _).2 hv⟩)
termination_by p.timeout.millis - elapsed.millis

/-- A poll has time for as many pauses as there are intervals in its timeout. -/
theorem runs_await_iff {p : Poll} (hp : p.interval.millis ≠ 0) :
    (p.await check).Runs t r ↔
      Rounds check p.interval (p.timeout.millis / p.interval.millis) t r := by
  rw [await, dif_neg hp, runs_awaitFrom_iff, Nat.sub_zero]

end Poll
end VirtHost
