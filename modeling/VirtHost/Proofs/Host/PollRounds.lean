import VirtHost.Proofs.Host.Poll

/-! # How often a poll checks

Requests are counted by kind, over whole runs. A poll with an interval makes as many checks as there are
intervals in its timeout, and one more. Without an interval no number of checks is too large, and on a
host where the check never becomes true the poll has no result.

* `Action.AtMost`, `Action.Bounded`: the action makes so many requests of a kind and no more; and it has
  a result on every host.
* `Action.Endless`: neither holds.
* `Poll.bounded_await`: polls with an interval.
* `Poll.exceeds_await`, `Poll.run_await_eq_none`: polls without one.
-/

namespace VirtHost
set_option autoImplicit false

/-- How many of the requests in some exchanges are of a kind. -/
def requestsOf (kind : Host.Request → Bool) (t : List Exchange) : Nat :=
  t.countP fun e => kind e.request

section
variable {kind : Host.Request → Bool}

theorem requestsOf_nil : requestsOf kind [] = 0 := rfl

theorem requestsOf_append (t u : List Exchange) :
    requestsOf kind (t ++ u) = requestsOf kind t + requestsOf kind u :=
  List.countP_append

theorem requestsOf_cons_of_not {e : Exchange} (h : kind e.request = false) (t : List Exchange) :
    requestsOf kind (e :: t) = requestsOf kind t :=
  List.countP_cons_of_neg (by simp [h])

theorem requestsOf_replicate (n : Nat) (u : List Exchange) :
    requestsOf kind (List.replicate n u).flatten = n * requestsOf kind u := by
  induction n with
  | zero => simp [requestsOf_nil]
  | succ n ih =>
    rw [List.replicate_succ, List.flatten_cons, requestsOf_append, ih, Nat.succ_mul]
    omega

end

namespace Action
variable {α β : Type} {kind : Host.Request → Bool}

/-- No run of the action makes more than `most` requests of a kind. -/
def AtMost (kind : Host.Request → Bool) (most : Nat) (a : Action α) : Prop :=
  ∀ t r, a.Runs t r → requestsOf kind t ≤ most

/-- However a host answers, the action has a result there, after at most `most` requests of a kind. -/
structure Bounded (kind : Host.Request → Bool) (most : Nat) (a : Action α) : Prop where
  returns : ∀ {σ : Type} (host : Host σ) (s : σ), a.Returns host s
  atMost : a.AtMost kind most

/-- Some hosts make the action ask for a kind as often as one likes, and on some host it goes on for
ever. -/
structure Endless (kind : Host.Request → Bool) (a : Action α) : Prop where
  exceeds : ∀ n, ∃ t r, a.Runs t r ∧ n ≤ requestsOf kind t
  stalls : ∃ host : Host Unit, ¬ a.Returns host ()

theorem Endless.not_bounded {a : Action α} (h : a.Endless kind) (most : Nat) :
    ¬ a.Bounded kind most := by
  intro hbounded
  obtain ⟨host, hhost⟩ := h.stalls
  exact hhost (hbounded.returns host ())

theorem atMost_of_uses {a : Action α} (h : a.Uses fun request => kind request = false) (most : Nat) :
    a.AtMost kind most := by
  intro t r hrun
  have hnone : requestsOf kind t = 0 := by
    refine List.countP_eq_zero.2 fun e he => ?_
    simp [h.of_runs hrun e he]
  omega

theorem AtMost.bind {a : Action α} {f : α → Action β} {m n : Nat} (h : a.AtMost kind m)
    (hf : ∀ x, (f x).AtMost kind n) : (a >>= f).AtMost kind (m + n) := by
  intro t r hrun
  rcases runs_bind.1 hrun with ⟨e, he, -⟩ | ⟨u, v, x, rfl, hu, hv⟩
  · have hle := h t _ he
    omega
  · have hle := h u _ hu
    have hle' := hf x v _ hv
    rw [requestsOf_append]
    omega

theorem AtMost.after {a : Action α} {f : α → Action β} {n : Nat}
    (h : a.Uses fun request => kind request = false) (hf : ∀ x, (f x).AtMost kind n) :
    (a >>= f).AtMost kind n := by
  have hbind := (atMost_of_uses h 0).bind hf
  rwa [Nat.zero_add] at hbind

theorem AtMost.before {a : Action α} {f : α → Action β} {n : Nat} (h : a.AtMost kind n)
    (hf : ∀ x, (f x).Uses fun request => kind request = false) : (a >>= f).AtMost kind n :=
  h.bind fun x => atMost_of_uses (hf x) 0

theorem not_returns_of_run_eq_none {σ : Type} {host : Host σ} {s : σ} {a : Action α}
    (h : ∀ rounds, a.attempt.run host rounds s = none) : ¬ a.Returns host s := by
  rintro ⟨t, r, s', hrun, hanswers⟩
  obtain ⟨rounds, hrounds⟩ := Program.exists_run_iff.2 ⟨t, hrun, hanswers⟩
  rw [h rounds] at hrounds
  cases hrounds

end Action

namespace Poll
variable {check : Action Bool} {kind : Host.Request → Bool}

/-! ## With an interval -/

/-- From the time `elapsed` on, one check is made at once and one more for each interval that is left. -/
theorem atMost_awaitFrom {p : Poll} (hp : p.interval.millis ≠ 0) (hcheck : check.AtMost kind 1)
    (hsleep : ∀ time, kind (.sleep time) = false) (elapsed : Duration) :
    (p.awaitFrom hp check elapsed).AtMost kind
      ((p.timeout.millis - elapsed.millis) / p.interval.millis + 1) := by
  intro t r hrun
  rw [awaitFrom] at hrun
  rcases Action.runs_bind.1 hrun with ⟨e, he, -⟩ | ⟨u, v, b, rfl, hu, hv⟩
  · exact Nat.le_trans (hcheck t _ he) (Nat.le_add_left 1 _)
  · have hone := hcheck u _ hu
    rw [requestsOf_append]
    cases b with
    | true =>
      obtain ⟨rfl, -⟩ := Action.runs_pure.1 hv
      exact Nat.le_trans hone (Nat.le_add_left 1 _)
    | false =>
      rw [if_neg Bool.false_ne_true] at hv
      split at hv
      · obtain ⟨rfl, -⟩ := Action.runs_pure.1 hv
        exact Nat.le_trans hone (Nat.le_add_left 1 _)
      · rename_i hintime
        rcases Action.runs_bind.1 hv with ⟨e, he, -⟩ | ⟨w, x, _, rfl, hw, hx⟩
        · cases (runs_sleep.1 he).2
        · obtain ⟨rfl, -⟩ := runs_sleep.1 hw
          have hrest : requestsOf kind x ≤
              (p.timeout.millis - (elapsed.millis + p.interval.millis)) / p.interval.millis + 1 :=
            atMost_awaitFrom hp hcheck hsleep ⟨elapsed.millis + p.interval.millis⟩ x r hx
          -- One interval less is left, which is one check less.
          have hleft : p.timeout.millis - elapsed.millis
              = p.timeout.millis - (elapsed.millis + p.interval.millis) + p.interval.millis := by
            omega
          have hless := Nat.add_div_right
            (p.timeout.millis - (elapsed.millis + p.interval.millis)) (Nat.pos_of_ne_zero hp)
          rw [List.singleton_append, requestsOf_cons_of_not (hsleep p.interval), hleft, hless]
          omega
termination_by p.timeout.millis - elapsed.millis

/-- A poll with an interval ends on every host, and makes one check for each interval and one more. -/
theorem bounded_await {p : Poll} (hp : p.interval.millis ≠ 0) (hfinite : check.Finite)
    (hcheck : check.AtMost kind 1) (hsleep : ∀ time, kind (.sleep time) = false) :
    (p.await check).Bounded kind (p.timeout.millis / p.interval.millis + 1) where
  returns host s := (finite_await hp hfinite).returns host s
  atMost := by
    rw [await, dif_neg hp]
    exact atMost_awaitFrom hp hcheck hsleep ⟨0⟩

/-! ## Without one -/

/-- A poll without an interval may make any number of false checks before one that ends it. -/
theorem runs_await_replicate {p : Poll} (hp : p.interval.millis = 0) {u v : List Exchange}
    {r : Except Error Bool} (hu : check.Runs u (.ok false)) (hv : check.Runs v r) (hr : r ≠ .ok false)
    (n : Nat) :
    (p.await check).Runs ((List.replicate n (u ++ [⟨.sleep ⟨0⟩, ()⟩])).flatten ++ v) r := by
  rw [await, dif_pos hp]
  refine ⟨List.replicate n (u ++ [⟨.sleep ⟨0⟩, ()⟩]), v, [], r, by rw [List.append_nil], ?_, ?_, rfl, rfl⟩
  · intro w hw
    rw [List.eq_of_mem_replicate hw]
    exact runs_round.2 (.inl ⟨u, hu, rfl, rfl⟩)
  · exact runs_round.2 (.inr ⟨r, hv, hr, rfl⟩)

/-- So it makes as many requests of a kind as one likes, if a false check makes one. -/
theorem exceeds_await {p : Poll} (hp : p.interval.millis = 0) {u v : List Exchange}
    {r : Except Error Bool} (hu : check.Runs u (.ok false)) (hone : 0 < requestsOf kind u)
    (hv : check.Runs v r) (hr : r ≠ .ok false) (n : Nat) :
    ∃ t, (p.await check).Runs t r ∧ n ≤ requestsOf kind t := by
  refine ⟨_, runs_await_replicate hp hu hv hr n, ?_⟩
  have hround : 1 ≤ requestsOf kind (u ++ [⟨.sleep ⟨0⟩, ()⟩]) := by
    rw [requestsOf_append]
    omega
  have hrounds := Nat.mul_le_mul_left n hround
  rw [requestsOf_append, requestsOf_replicate]
  omega

theorem repeatStep_eq_none {β σ : Type} {step : σ → Option (Option β × σ)}
    (hstep : ∀ s, ∃ s', step s = some (none, s')) (rounds : Nat) (s : σ) :
    Program.repeatStep step rounds s = none := by
  induction rounds generalizing s with
  | zero => rfl
  | succ rounds ih =>
    obtain ⟨s', hs'⟩ := hstep s
    rw [Program.repeatStep, hs']
    exact ih s'

/-- On a host where the check is always false, it has no result in any number of rounds. -/
theorem run_await_eq_none {p : Poll} (hp : p.interval.millis = 0) {σ : Type} {host : Host σ}
    {rounds : Nat} (hfalse : ∀ s, ∃ s', check.attempt.run host rounds s = some (.ok false, s')) (s : σ) :
    (p.await check).attempt.run host rounds s = none := by
  have hround : ∀ s, ∃ s', (round check).run host rounds s = some (none, s') := by
    intro s
    obtain ⟨s', hs'⟩ := hfalse s
    refine ⟨(host s' (.sleep ⟨0⟩)).2, ?_⟩
    rw [round, Program.run_bind, hs']
    rfl
  have hrepeat := repeatStep_eq_none hround rounds s
  rw [await, dif_pos hp]
  simp only [Action.attempt, Action.ofReply, ExceptT.run, ExceptT.mk, Program.run, hrepeat]

theorem run_await_of_true {p : Poll} {σ : Type} {host : Host σ} {rounds : Nat} {s s' : σ}
    (htrue : check.attempt.run host (rounds + 1) s = some (.ok true, s')) :
    (p.await check).attempt.run host (rounds + 1) s = some (.ok true, s') := by
  by_cases hp : p.interval.millis = 0
  · have hround : (round check).run host (rounds + 1) s = some (some (.ok true), s') := by
      rw [round, Program.run_bind, htrue]
      rfl
    have hrepeat : Program.repeatStep ((round check).run host (rounds + 1)) (rounds + 1) s
        = some (.ok true, s') := by
      rw [Program.repeatStep, hround]
    rw [await, dif_pos hp]
    simp only [Action.attempt, Action.ofReply, ExceptT.run, ExceptT.mk, Program.run, hrepeat]
  · rw [await, dif_neg hp, awaitFrom, Action.run_bind_of_ok htrue]
    rfl

end Poll
end VirtHost
