import Mathlib.Order.Bounds.Defs
import VirtHost.Proofs.Host.Poll

/-! # Polls on a clock

When a poll makes its checks, on a clock that only sleeping moves. There is no counter in a poll: that it
ends, and after how many checks, follows from comparing the time slept with the timeout.

* `Poll.Observed`: a host on which the checks have given outcomes one after the other, with the times at
  which they were made.
* `Poll.run_awaitFrom`: what a poll does from one of its checks on.
* `Poll.await_outcomes`: the checks of a poll, their times and its result.
-/

namespace VirtHost.Poll
set_option autoImplicit false

section
variable {σ : Type} {host : Host σ} {check : Action Bool} {outcomes : Nat → Except Error Bool}
  {clock : σ → Nat} {times : σ → List Nat}

/-- The checks on a host give `outcomes` one after the other. They take no time; `times` says when
those so far were made. -/
structure Observed (host : Host σ) (check : Action Bool) (outcomes : Nat → Except Error Bool)
    (clock : σ → Nat) (times : σ → List Nat) : Prop where
  checks : ∀ s rounds, ∃ s',
    check.attempt.run host rounds s = some (outcomes (times s).length, s') ∧
      clock s' = clock s ∧ times s' = times s ++ [clock s]
  sleeps : ∀ s time, clock (host s (.sleep time)).2 = clock s + time.millis ∧
    times (host s (.sleep time)).2 = times s

/-- The times of the first `count` checks of a poll that begins at `start`. -/
def schedule (p : Poll) (start count : Nat) : List Nat :=
  (List.range count).map fun i => start + i * p.interval.millis

theorem length_schedule (p : Poll) (start count : Nat) : (p.schedule start count).length = count := by
  simp [schedule]

theorem schedule_succ (p : Poll) (start count : Nat) :
    p.schedule start (count + 1) = p.schedule start count ++ [start + count * p.interval.millis] := by
  simp [schedule, List.range_succ]

/-- A poll that has made `k` checks without success makes the next one, and goes on up to some check
`j`: the first one that is not false, or the last one for which there is time. -/
theorem run_awaitFrom {p : Poll} (hp : p.interval.millis ≠ 0)
    (hobs : Observed host check outcomes clock times) (rounds start k : Nat) (s : σ)
    (hk : k * p.interval.millis ≤ p.timeout.millis) (hclock : clock s = start + k * p.interval.millis)
    (htimes : times s = p.schedule start k) :
    ∃ j s', k ≤ j ∧ j * p.interval.millis ≤ p.timeout.millis ∧
      (∀ i, k ≤ i → i < j → outcomes i = .ok false) ∧
      (outcomes j = .ok false → p.timeout.millis < (j + 1) * p.interval.millis) ∧
      (p.awaitFrom hp check ⟨k * p.interval.millis⟩).attempt.run host rounds s
        = some (outcomes j, s') ∧
      clock s' = start + j * p.interval.millis ∧ times s' = p.schedule start (j + 1) := by
  obtain ⟨m, hrun, hmclock, hmtimes⟩ := hobs.checks s rounds
  rw [htimes, length_schedule] at hrun
  have hmtimes : times m = p.schedule start (k + 1) := by
    rw [hmtimes, htimes, hclock, schedule_succ]
  have hnext : (k + 1) * p.interval.millis = k * p.interval.millis + p.interval.millis :=
    Nat.succ_mul k p.interval.millis
  rw [awaitFrom, Action.run_bind, hrun]
  by_cases hfalse : outcomes k = .ok false
  · by_cases hover : p.timeout.millis < (k + 1) * p.interval.millis
    · -- A further pause would end too late.
      refine ⟨k, m, Nat.le_refl k, hk, fun i hki hik => absurd hki (by omega), fun _ => hover, ?_,
        by rw [hmclock, hclock], hmtimes⟩
      have hlate : p.timeout.millis < k * p.interval.millis + p.interval.millis := by omega
      simp only [hfalse, Option.bind_some, hlate, if_true, Bool.false_eq_true, if_false]
      rfl
    · have hintime : ¬ p.timeout.millis < k * p.interval.millis + p.interval.millis := by omega
      obtain ⟨hsclock, hstimes⟩ := hobs.sleeps m p.interval
      obtain ⟨j, s', hkj, hj, hbefore, hlast, hrest, hend⟩ :=
        run_awaitFrom hp hobs rounds start (k + 1) (host m (.sleep p.interval)).2 (by omega)
          (by rw [hsclock, hmclock, hclock]; omega) (by rw [hstimes, hmtimes])
      refine ⟨j, s', by omega, hj, fun i hki hij => ?_, hlast, ?_, hend⟩
      · by_cases hi : i = k
        · rw [hi, hfalse]
        · exact hbefore i (by omega) hij
      · simp only [hfalse, Option.bind_some, hintime, Bool.false_eq_true, if_false]
        rw [← hnext, Action.run_bind]
        exact hrest
  · refine ⟨k, m, Nat.le_refl k, hk, fun i hki hik => absurd hki (by omega),
      fun h => absurd h hfalse, ?_, by rw [hmclock, hclock], hmtimes⟩
    cases ho : outcomes k with
    | error e => rfl
    | ok b =>
      cases b with
      | true => rfl
      | false => exact absurd ho hfalse
termination_by p.timeout.millis - k * p.interval.millis

/-- **The checks of a poll.** With an interval every poll ends. If there is time for `m` pauses, its
last check is the earlier one of check `m` and the first one that is not false. All checks up to that one
are made, each an interval after the one before, and the last one gives the result. -/
theorem await_outcomes (p : Poll) (hp : 0 < p.interval.millis)
    (hobs : Observed host check outcomes clock times) (rounds : Nat) (s : σ) (hs : times s = []) :
    ∃ j s', IsLeast {i | i = p.timeout.millis / p.interval.millis ∨ outcomes i ≠ .ok false} j ∧
      (p.await check).attempt.run host rounds s = some (outcomes j, s') ∧
      times s' = (List.range (j + 1)).map (fun i => clock s + i * p.interval.millis) ∧
      clock s' = clock s + j * p.interval.millis ∧
      j * p.interval.millis ≤ p.timeout.millis := by
  have hne : p.interval.millis ≠ 0 := Nat.pos_iff_ne_zero.1 hp
  obtain ⟨j, s', -, hj, hbefore, hlast, hrun, hclock, htimes⟩ :=
    run_awaitFrom hne hobs rounds (clock s) 0 s (by simp) (by simp) (by rw [hs]; rfl)
  have hle : j ≤ p.timeout.millis / p.interval.millis := (Nat.le_div_iff_mul_le hp).2 hj
  refine ⟨j, s', ⟨?_, ?_⟩, ?_, htimes, hclock, hj⟩
  · by_cases hfalse : outcomes j = .ok false
    · have hlt : p.timeout.millis / p.interval.millis < j + 1 :=
        (Nat.div_lt_iff_lt_mul hp).2 (hlast hfalse)
      exact .inl (by omega)
    · exact .inr hfalse
  · rintro i (rfl | hi)
    · exact hle
    · by_contra hlt
      exact hi (hbefore i (Nat.zero_le i) (by omega))
  · rw [await, dif_neg hne]
    rw [Nat.zero_mul] at hrun
    exact hrun

end

/-- A host with a clock that answers every question whether a process is running with the next outcome,
and notes the time of the question. -/
def answering (outcomes : Nat → Except Error Bool) : Host (Nat × List Nat) := fun s request =>
  match request with
  | .isRunning _ => (outcomes s.2.length, s.1, s.2 ++ [s.1])
  | .sleep time => ((), s.1 + time.millis, s.2)
  | request => (Host.anyReply request, s)

theorem observed_answering (outcomes : Nat → Except Error Bool) (process : Nat) :
    Observed (answering outcomes) (Host.isRunning process) outcomes Prod.fst Prod.snd where
  checks s _ := ⟨(s.1, s.2 ++ [s.1]), rfl, rfl, rfl⟩
  sleeps _ _ := ⟨rfl, rfl⟩

/-- A poll of twelve seconds that finds nothing checks at zero, five and ten seconds. -/
theorem await_outcomes_timeout :
    let p : Poll := ⟨.ofSeconds 12, .ofSeconds 5⟩
    0 < p.interval.millis ∧
      Observed (answering fun _ => .ok false) (Host.isRunning 0) (fun _ => .ok false) Prod.fst Prod.snd ∧
      (p.await (Host.isRunning 0)).attempt.run (answering fun _ => .ok false) 0 (0, [])
        = some (.ok false, 10000, [0, 5000, 10000]) := by
  intro p
  have hobs := observed_answering (fun _ => .ok false) 0
  refine ⟨by decide, hobs, ?_⟩
  obtain ⟨j, ⟨now, times⟩, hleast, hrun, htimes, hclock, -⟩ :=
    await_outcomes p (by decide) hobs 0 (0, []) rfl
  have hlast : j = p.timeout.millis / p.interval.millis := hleast.1.resolve_right fun h => h rfl
  obtain rfl : j = 2 := hlast.trans (by decide)
  have hnow : now = 10000 := by simpa [p, Duration.ofSeconds] using hclock
  have hmade : times = [0, 5000, 10000] := by
    simpa [p, Duration.ofSeconds, List.range_succ] using htimes
  rw [hrun, hnow, hmade]

end VirtHost.Poll
