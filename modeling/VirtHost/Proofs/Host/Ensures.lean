import VirtHost.Proofs.Host.Action

/-! # Programs on hosts of which something is assumed

`Program.Uses` is about all replies that there can be. Here the replies are assumed to be of some kind, and
what has been read from them so far may be used further on.

* `Program.Begins`: a program makes some exchanges, whether it then ends, goes on or never ends.
* `Program.Ensures`: while the replies are as assumed, every request is allowed, and a result has a
  property. `Program.Ensures.of_begins`, `Program.Ensures.of_runs`: what that says about exchanges.
* `Action.Ensures`: the same for actions; the property is that of a result, and nothing is said of errors.
-/

namespace VirtHost
set_option autoImplicit false

namespace Program

/-! ## Beginnings -/

/-- With the exchanges `t` the program has begun. In a repetition, all rounds but the last one are made to
their ends. -/
def Begins {α : Type} : Program α → List Exchange → Prop
  | done _, t => t = []
  | ask request next, t =>
    t = [] ∨ ∃ reply rest, t = ⟨request, reply⟩ :: rest ∧ (next reply).Begins rest
  | again body next, t => ∃ (idle : List (List Exchange)) (rest : List Exchange),
      t = idle.flatten ++ rest ∧ (∀ u ∈ idle, body.Runs u none) ∧
        (body.Begins rest ∨ ∃ last more b, rest = last ++ more ∧ body.Runs last (some b) ∧
          (next b).Begins more)

theorem Runs.begins {α : Type} {p : Program α} {t : List Exchange} {a : α} (h : p.Runs t a) :
    p.Begins t := by
  induction p generalizing t with
  | done result => exact h.1
  | ask request next ih =>
    obtain ⟨reply, rest, rfl, hrest⟩ := h
    exact .inr ⟨reply, rest, rfl, ih reply hrest⟩
  | again body next _ ih =>
    obtain ⟨idle, last, rest, b, rfl, hidle, hlast, hrest⟩ := h
    exact ⟨idle, last ++ rest, rfl, hidle, .inr ⟨last, rest, b, rfl, hlast, ih b hrest⟩⟩

/-! ## What is ensured -/

/-- While the replies are as assumed, every request is allowed and the result is as wanted. -/
def Ensures (assumed : Exchange → Prop) (allowed : Host.Request → Prop) {α : Type} :
    Program α → (α → Prop) → Prop
  | done result, wanted => wanted result
  | ask request next, wanted => allowed request ∧
      ∀ reply, assumed ⟨request, reply⟩ → (next reply).Ensures assumed allowed wanted
  | again body next, wanted => body.Ensures assumed allowed fun o =>
      ∀ b, o = some b → (next b).Ensures assumed allowed wanted

variable {assumed : Exchange → Prop} {allowed : Host.Request → Prop} {α β : Type}

theorem Ensures.mono {p : Program α} {wanted wanted' : α → Prop}
    (h : p.Ensures assumed allowed wanted) (himp : ∀ a, wanted a → wanted' a) :
    p.Ensures assumed allowed wanted' := by
  induction p with
  | done result => exact himp result h
  | ask request next ih => exact ⟨h.1, fun reply hreply => ih reply (h.2 reply hreply) himp⟩
  | again body next ihBody ihNext =>
    exact ihBody h fun o ho b hb => ihNext b (ho b hb) himp

theorem Ensures.bind {p : Program α} {f : α → Program β} {wanted : β → Prop}
    (h : p.Ensures assumed allowed fun a => (f a).Ensures assumed allowed wanted) :
    (p.bind f).Ensures assumed allowed wanted := by
  induction p with
  | done result => exact h
  | ask request next ih => exact ⟨h.1, fun reply hreply => ih reply (h.2 reply hreply)⟩
  | again body next _ ih => exact Ensures.mono (p := body) h fun o ho b hb => ih b (ho b hb)

/-- What is known of the results of runs is ensured. -/
theorem ensures_of_runs {p : Program α} {wanted : α → Prop} (h : p.Uses allowed)
    (hwanted : ∀ t a, p.Runs t a → (∀ e ∈ t, assumed e) → wanted a) :
    p.Ensures assumed allowed wanted := by
  induction p with
  | done result => exact hwanted [] result ⟨rfl, rfl⟩ (by simp)
  | ask request next ih =>
    refine ⟨h.1, fun reply hreply => ih reply (h.2 reply) fun t a ht hassumed => ?_⟩
    refine hwanted (⟨request, reply⟩ :: t) a ⟨reply, t, rfl, ht⟩ fun e he => ?_
    rcases List.mem_cons.1 he with rfl | he
    · exact hreply
    · exact hassumed e he
  | again body next ihBody ihNext =>
    refine ihBody h.1 fun last o hlast hassumed b hb => ihNext b (h.2 b) fun rest a hrest hassumed' => ?_
    subst hb
    refine hwanted (last ++ rest) a ⟨[], last, rest, b, rfl, by simp, hlast, hrest⟩ fun e he => ?_
    rcases List.mem_append.1 he with he | he
    · exact hassumed e he
    · exact hassumed' e he

theorem Ensures.of_uses {p : Program α} (h : p.Uses allowed) {wanted : α → Prop}
    (hwanted : ∀ a, wanted a) : p.Ensures assumed allowed wanted :=
  ensures_of_runs h fun _ a _ _ => hwanted a

theorem Ensures.of_runs {p : Program α} {wanted : α → Prop} {t : List Exchange} {a : α}
    (h : p.Ensures assumed allowed wanted) (ht : p.Runs t a) (hassumed : ∀ e ∈ t, assumed e) :
    wanted a := by
  induction p generalizing t with
  | done result =>
    obtain ⟨-, rfl⟩ := ht
    exact h
  | ask request next ih =>
    obtain ⟨reply, rest, rfl, hrest⟩ := ht
    have hnext := h.2 reply (hassumed _ (by simp))
    exact ih reply hnext hrest fun e he => hassumed e (by simp [he])
  | again body next ihBody ihNext =>
    obtain ⟨idle, last, rest, b, rfl, -, hlast, hrest⟩ := ht
    have hbody := ihBody h hlast fun e he => hassumed e (by simp [he])
    exact ihNext b (hbody b rfl) hrest fun e he => hassumed e (by simp [he])

/-- Every request that was made so far is allowed. -/
theorem Ensures.of_begins {p : Program α} {wanted : α → Prop} {t : List Exchange}
    (h : p.Ensures assumed allowed wanted) (ht : p.Begins t) (hassumed : ∀ e ∈ t, assumed e) :
    ∀ e ∈ t, allowed e.request := by
  induction p generalizing t with
  | done result =>
    obtain rfl : t = [] := ht
    simp
  | ask request next ih =>
    obtain rfl | ⟨reply, rest, rfl, hrest⟩ := ht
    · simp
    · have hnext := h.2 reply (hassumed _ (by simp))
      have hlater := ih reply hnext hrest fun e he => hassumed e (by simp [he])
      intro e he
      rcases List.mem_cons.1 he with rfl | he
      · exact h.1
      · exact hlater e he
  | again body next ihBody ihNext =>
    obtain ⟨idle, rest, rfl, hidle, hrest⟩ := ht
    intro e he
    rcases List.mem_append.1 he with he | he
    · obtain ⟨u, hu, heu⟩ := List.mem_flatten.1 he
      refine ihBody h (hidle u hu).begins (fun d hd => ?_) e heu
      exact hassumed d (List.mem_append_left _ (List.mem_flatten.2 ⟨u, hu, hd⟩))
    · have hassumedRest : ∀ d ∈ rest, assumed d := fun d hd => hassumed d (by simp [hd])
      rcases hrest with hrest | ⟨last, more, b, rfl, hlast, hmore⟩
      · exact ihBody h hrest hassumedRest e he
      · have hassumedLast : ∀ d ∈ last, assumed d := fun d hd => hassumedRest d (by simp [hd])
        rcases List.mem_append.1 he with he | he
        · exact ihBody h hlast.begins hassumedLast e he
        · have hnext := Ensures.of_runs (p := body) h hlast hassumedLast b rfl
          exact ihNext b hnext hmore (fun d hd => hassumedRest d (by simp [hd])) e he

end Program

namespace Action
variable {assumed : Exchange → Prop} {allowed : Host.Request → Prop} {α β : Type}

/-- While the replies are as assumed, every request is allowed and a result is as wanted. -/
def Ensures (assumed : Exchange → Prop) (allowed : Host.Request → Prop) (a : Action α)
    (wanted : α → Prop) : Prop :=
  a.attempt.Ensures assumed allowed fun o => ∀ x, o = .ok x → wanted x

theorem ensures_of_runs {a : Action α} {wanted : α → Prop} (h : a.Uses allowed)
    (hwanted : ∀ t x, a.Runs t (.ok x) → (∀ e ∈ t, assumed e) → wanted x) :
    a.Ensures assumed allowed wanted := by
  refine Program.ensures_of_runs h fun t o ht hassumed x hx => ?_
  subst hx
  exact hwanted t x ht hassumed

theorem Ensures.of_uses {a : Action α} (h : a.Uses allowed) {wanted : α → Prop}
    (hwanted : ∀ x, wanted x) : a.Ensures assumed allowed wanted :=
  Program.Ensures.of_uses h fun _ x _ => hwanted x

theorem ensures_pure {x : α} {wanted : α → Prop} (h : wanted x) :
    (pure x : Action α).Ensures assumed allowed wanted := by
  rintro y hy
  cases hy
  exact h

theorem ensures_throw (e : Error) (wanted : α → Prop) :
    (throw e : Action α).Ensures assumed allowed wanted := by
  rintro y hy
  cases hy

theorem Ensures.bind {a : Action α} {f : α → Action β} {middle : α → Prop} {wanted : β → Prop}
    (h : a.Ensures assumed allowed middle)
    (hf : ∀ x, middle x → (f x).Ensures assumed allowed wanted) :
    (a >>= f).Ensures assumed allowed wanted := by
  refine Program.Ensures.bind (p := a.attempt) (Program.Ensures.mono h fun o ho => ?_)
  cases o with
  | error e =>
    rintro y hy
    cases hy
  | ok x => exact hf x (ho x rfl)

end Action
end VirtHost
