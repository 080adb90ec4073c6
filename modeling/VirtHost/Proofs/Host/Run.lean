import VirtHost.Host.Program

/-! # Runs of programs

What a program does on every host that there can be, read off its tree.

* `Exchange`: a request and the reply to it.
* `Program.Runs p t a`: when the requests of `p` are answered as in the exchanges `t`, it makes these
  requests and no others, in this order, and gives the result `a`.
* `Host.Answers host s t s'`: a host in state `s` gives the replies of `t` and is then in state `s'`.
* `Program.exists_run_iff`: the results of a program on a host are those of the runs that the host
  answers, and `Host.exists_answers` finds a host for any exchanges. So a statement about all runs is
  one about all behaviours of hosts.
* `Program.Runs.unique`: what has been answered so far decides how a program goes on.
* `Program.play`: the result that some exchanges lead to, if there are no repetitions.
* `Program.Returns`: a program gives a result on a host; `Program.Finite.returns`.
* `Program.Uses`: all requests that a program can ever make are of some kind; `Program.Uses.of_runs`.
-/

namespace VirtHost
set_option autoImplicit false

/-- A request and the reply to it. -/
structure Exchange where
  request : Host.Request
  reply : request.Reply

namespace Program

instance : LawfulMonad Program :=
  LawfulMonad.mk' Program bind_done (fun _ _ => rfl) bind_assoc

/-! ## Runs -/

/-- With the exchanges `t` the program gives the result `a`. A repetition makes its idle rounds, a
last one with a result, and goes on from there. -/
def Runs {α : Type} : Program α → List Exchange → α → Prop
  | done result, t, a => t = [] ∧ a = result
  | ask request next, t, a => ∃ reply rest, t = ⟨request, reply⟩ :: rest ∧ (next reply).Runs rest a
  | again body next, t, a => ∃ (idle : List (List Exchange)) (last rest : List Exchange) (b : _),
      t = idle.flatten ++ (last ++ rest) ∧ (∀ u ∈ idle, body.Runs u none) ∧
        body.Runs last (some b) ∧ (next b).Runs rest a

theorem runs_bind {α β : Type} {p : Program α} {f : α → Program β} {t : List Exchange} {b : β} :
    (p.bind f).Runs t b ↔ ∃ u v a, t = u ++ v ∧ p.Runs u a ∧ (f a).Runs v b := by
  induction p generalizing t b with
  | done result =>
    simp only [bind, Runs]
    constructor
    · intro h
      exact ⟨[], t, result, rfl, ⟨rfl, rfl⟩, h⟩
    · rintro ⟨u, v, a, rfl, ⟨rfl, rfl⟩, h⟩
      exact h
  | ask request next ih =>
    simp only [bind, Runs]
    constructor
    · rintro ⟨reply, rest, rfl, h⟩
      obtain ⟨u, v, a, rfl, hu, hv⟩ := (ih reply).1 h
      exact ⟨⟨request, reply⟩ :: u, v, a, rfl, ⟨reply, u, rfl, hu⟩, hv⟩
    · rintro ⟨u, v, a, rfl, ⟨reply, rest, rfl, hu⟩, hv⟩
      exact ⟨reply, rest ++ v, rfl, (ih reply).2 ⟨rest, v, a, rfl, hu, hv⟩⟩
  | again body next _ ih =>
    simp only [bind, Runs]
    constructor
    · rintro ⟨idle, last, rest, c, rfl, hidle, hlast, h⟩
      obtain ⟨u, v, a, rfl, hu, hv⟩ := (ih c).1 h
      exact ⟨idle.flatten ++ (last ++ u), v, a, by simp,
        ⟨idle, last, u, c, rfl, hidle, hlast, hu⟩, hv⟩
    · rintro ⟨u, v, a, rfl, ⟨idle, last, rest, c, rfl, hidle, hlast, hu⟩, hv⟩
      exact ⟨idle, last, rest ++ v, c, by simp, hidle, hlast,
        (ih c).2 ⟨rest, v, a, rfl, hu, hv⟩⟩

/-- Rounds of a repetition that answer alike are equal in number, in exchanges and in result. -/
theorem rounds_unique {β : Type} {body : Program (Option β)}
    (unique : ∀ {t t' u v : List Exchange} {b b' : Option β}, body.Runs t b → body.Runs t' b' →
      t ++ u = t' ++ v → t = t' ∧ b = b')
    {idle idle' : List (List Exchange)} {last last' u v : List Exchange} {b b' : β}
    (hidle : ∀ w ∈ idle, body.Runs w none) (hidle' : ∀ w ∈ idle', body.Runs w none)
    (hlast : body.Runs last (some b)) (hlast' : body.Runs last' (some b'))
    (h : idle.flatten ++ (last ++ u) = idle'.flatten ++ (last' ++ v)) :
    idle = idle' ∧ last = last' ∧ b = b' ∧ u = v := by
  induction idle generalizing idle' with
  | nil =>
    cases idle' with
    | nil =>
      obtain ⟨rfl, hb⟩ := unique hlast hlast' (by simpa using h)
      exact ⟨rfl, rfl, by simpa using hb, by simpa using h⟩
    | cons w rest =>
      have hw := hidle' w (by simp)
      obtain ⟨-, hb⟩ := unique hlast hw
        (u := u) (v := rest.flatten ++ (last' ++ v)) (by simpa using h)
      simp at hb
  | cons w rest ih =>
    have hw := hidle w (by simp)
    cases idle' with
    | nil =>
      obtain ⟨-, hb⟩ := unique hw hlast'
        (u := rest.flatten ++ (last ++ u)) (v := v) (by simpa using h)
      simp at hb
    | cons w' rest' =>
      obtain ⟨rfl, -⟩ := unique hw (hidle' w' (by simp))
        (u := rest.flatten ++ (last ++ u)) (v := rest'.flatten ++ (last' ++ v))
        (by simpa using h)
      obtain ⟨rfl, hrest⟩ := ih (fun z hz => hidle z (List.mem_cons_of_mem w hz))
        (fun z hz => hidle' z (List.mem_cons_of_mem w hz)) (by simpa using h)
      exact ⟨rfl, hrest⟩

/-- Two runs in which the same requests got the same replies are the same run. -/
theorem Runs.unique {α : Type} {p : Program α} {t t' u v : List Exchange} {a a' : α}
    (h : p.Runs t a) (h' : p.Runs t' a') (e : t ++ u = t' ++ v) : t = t' ∧ a = a' := by
  induction p generalizing t t' u v with
  | done result =>
    obtain ⟨rfl, rfl⟩ := h
    obtain ⟨rfl, rfl⟩ := h'
    exact ⟨rfl, rfl⟩
  | ask request next ih =>
    obtain ⟨reply, rest, rfl, h⟩ := h
    obtain ⟨reply', rest', rfl, h'⟩ := h'
    simp only [List.cons_append, List.cons.injEq, Exchange.mk.injEq, heq_eq_eq, true_and] at e
    obtain ⟨rfl, e⟩ := e
    obtain ⟨rfl, rfl⟩ := ih reply h h' e
    exact ⟨rfl, rfl⟩
  | again body next ihBody ihNext =>
    obtain ⟨idle, last, rest, b, rfl, hidle, hlast, h⟩ := h
    obtain ⟨idle', last', rest', b', rfl, hidle', hlast', h'⟩ := h'
    obtain ⟨rfl, rfl, rfl, e⟩ := rounds_unique ihBody hidle hidle' hlast hlast'
      (u := rest ++ u) (v := rest' ++ v) (by simpa using e)
    obtain ⟨rfl, rfl⟩ := ihNext b h h' e
    exact ⟨rfl, rfl⟩

/-- The result of a program without repetitions if its requests are answered as in some exchanges. -/
def play {α : Type} : Program α → List Exchange → Option α
  | done result, [] => some result
  | ask request next, ⟨asked, reply⟩ :: rest =>
    if h : asked = request then (next (h ▸ reply)).play rest else none
  | _, _ => none

theorem runs_of_play {α : Type} {p : Program α} {t : List Exchange} {a : α}
    (h : p.play t = some a) : p.Runs t a := by
  induction p generalizing t with
  | done result =>
    cases t with
    | nil =>
      obtain rfl : result = a := by simpa [play] using h
      exact ⟨rfl, rfl⟩
    | cons e rest => simp [play] at h
  | ask request next ih =>
    cases t with
    | nil => simp [play] at h
    | cons e rest =>
      obtain ⟨asked, reply⟩ := e
      rw [play] at h
      split at h
      · rename_i hasked
        subst hasked
        exact ⟨reply, rest, rfl, ih reply h⟩
      · cases h
  | again body next _ _ => simp [play] at h

end Program

/-! ## Hosts -/

/-- A host in a state gives the replies of some exchanges, and is then in another state. -/
def Host.Answers {σ : Type} (host : Host σ) : σ → List Exchange → σ → Prop
  | s, [], s' => s' = s
  | s, e :: rest, s' => (host s e.request).1 = e.reply ∧ Answers host (host s e.request).2 rest s'

namespace Host

theorem answers_append {σ : Type} {host : Host σ} {t u : List Exchange} {s s' : σ} :
    Answers host s (t ++ u) s' ↔ ∃ m, Answers host s t m ∧ Answers host m u s' := by
  induction t generalizing s with
  | nil => simp [Answers]
  | cons e rest ih => simp [Answers, ih, and_assoc]

/-- An arbitrary reply. -/
def anyReply : (request : Request) → request.Reply
  | .execute _ _ => .error .notEnoughRam
  | .start _ _ => .ok 0
  | .isRunning _ => .ok false
  | .read _ => .ok ""
  | .write _ _ => .ok ()
  | .fileExists _ => .ok false
  | .sleep _ => ()
  | .freshUuid => ""
  | .readLocal _ => .ok ""

/-- A host that gives the replies of some exchanges one after the other. -/
def replaying : Host (List Exchange)
  | [], request => (anyReply request, [])
  | e :: rest, request =>
    if h : e.request = request then (h ▸ e.reply, rest) else (anyReply request, rest)

/-- There is a host for any exchanges. -/
theorem exists_answers (t : List Exchange) : Answers replaying t t [] := by
  induction t with
  | nil => rfl
  | cons e rest ih => exact ⟨by simp [replaying], by simpa [replaying] using ih⟩

end Host

namespace Program

/-! ## Runs on hosts -/

section
variable {σ : Type} {host : Host σ}

/-- The rounds of a repetition that ends on a host. -/
theorem exists_rounds_of_repeatStep {β : Type} {body : Program (Option β)}
    {step : σ → Option (Option β × σ)}
    (hstep : ∀ {s s' : σ} {b : Option β}, step s = some (b, s') →
      ∃ t, body.Runs t b ∧ host.Answers s t s')
    {rounds : Nat} {s s' : σ} {b : β} (h : repeatStep step rounds s = some (b, s')) :
    ∃ (idle : List (List Exchange)) (last : List Exchange), (∀ u ∈ idle, body.Runs u none) ∧
      body.Runs last (some b) ∧ host.Answers s (idle.flatten ++ last) s' := by
  induction rounds generalizing s with
  | zero => simp [repeatStep] at h
  | succ rounds ih =>
    rw [repeatStep] at h
    split at h
    · simp at h
    · rename_i m hm
      obtain ⟨u, hu, hum⟩ := hstep hm
      obtain ⟨idle, last, hidle, hlast, hrest⟩ := ih h
      refine ⟨u :: idle, last, ?_, hlast, ?_⟩
      · intro w hw
        rcases List.mem_cons.1 hw with rfl | hw
        · exact hu
        · exact hidle w hw
      · rw [List.flatten_cons, List.append_assoc]
        exact Host.answers_append.2 ⟨m, hum, hrest⟩
    · rename_i m c hm
      obtain ⟨rfl, rfl⟩ : m = b ∧ c = s' := by simpa using h
      obtain ⟨u, hu, hum⟩ := hstep hm
      exact ⟨[], u, by simp, hu, hum⟩

/-- What a program does on a host is one of its runs. -/
theorem exists_runs_of_run {rounds : Nat} {α : Type} {p : Program α} {s s' : σ} {a : α}
    (h : p.run host rounds s = some (a, s')) : ∃ t, p.Runs t a ∧ host.Answers s t s' := by
  induction p generalizing s s' with
  | done result =>
    obtain ⟨rfl, rfl⟩ : result = a ∧ s = s' := by simpa [run] using h
    exact ⟨[], ⟨rfl, rfl⟩, rfl⟩
  | ask request next ih =>
    obtain ⟨t, ht, hs⟩ := ih _ h
    exact ⟨⟨request, _⟩ :: t, ⟨_, t, rfl, ht⟩, rfl, hs⟩
  | again body next ihBody ihNext =>
    rw [run] at h
    split at h
    · simp at h
    · rename_i b m hm
      obtain ⟨idle, last, hidle, hlast, hrounds⟩ := exists_rounds_of_repeatStep ihBody hm
      obtain ⟨rest, hrest, hs⟩ := ihNext b h
      refine ⟨idle.flatten ++ (last ++ rest), ⟨idle, last, rest, b, rfl, hidle, hlast, hrest⟩, ?_⟩
      rw [← List.append_assoc]
      exact Host.answers_append.2 ⟨m, hrounds, hs⟩

/-- Rounds that a host answers are those of a repetition, if it is allowed enough of them. -/
theorem exists_repeatStep {β : Type} {body : Program (Option β)}
    (hbody : ∀ {t : List Exchange} {s s' : σ} {b : Option β}, body.Runs t b → host.Answers s t s' →
      ∃ least, ∀ rounds, least ≤ rounds → body.run host rounds s = some (b, s'))
    {idle : List (List Exchange)} {last : List Exchange} {s s' : σ} {b : β}
    (hidle : ∀ u ∈ idle, body.Runs u none) (hlast : body.Runs last (some b))
    (h : host.Answers s (idle.flatten ++ last) s') :
    ∃ least, ∀ rounds inner, least ≤ rounds → least ≤ inner →
      repeatStep (body.run host inner) rounds s = some (b, s') := by
  induction idle generalizing s with
  | nil =>
    obtain ⟨least, hleast⟩ := hbody hlast h
    refine ⟨least + 1, fun rounds inner hrounds hinner => ?_⟩
    obtain ⟨rounds, rfl⟩ : ∃ n, rounds = n + 1 := ⟨rounds - 1, by omega⟩
    rw [repeatStep, hleast inner (by omega)]
  | cons u idle ih =>
    rw [List.flatten_cons, List.append_assoc] at h
    obtain ⟨m, hu, hrest⟩ := Host.answers_append.1 h
    obtain ⟨first, hfirst⟩ := hbody (hidle u (by simp)) hu
    obtain ⟨later, hlater⟩ := ih (fun w hw => hidle w (List.mem_cons_of_mem u hw)) hrest
    refine ⟨first + later + 1, fun rounds inner hrounds hinner => ?_⟩
    obtain ⟨rounds, rfl⟩ : ∃ n, rounds = n + 1 := ⟨rounds - 1, by omega⟩
    rw [repeatStep, hfirst inner (by omega)]
    exact hlater rounds inner (by omega) (by omega)

/-- A run that a host answers is what the program does there, if enough rounds are allowed. -/
theorem exists_run_of_runs {α : Type} {p : Program α} {t : List Exchange} {s s' : σ} {a : α}
    (h : p.Runs t a) (hs : host.Answers s t s') :
    ∃ least, ∀ rounds, least ≤ rounds → p.run host rounds s = some (a, s') := by
  induction p generalizing t s s' with
  | done result =>
    obtain ⟨rfl, rfl⟩ := h
    obtain rfl : s' = s := hs
    exact ⟨0, fun _ _ => rfl⟩
  | ask request next ih =>
    obtain ⟨reply, rest, rfl, h⟩ := h
    obtain ⟨rfl, hs⟩ : (host s request).1 = reply ∧ host.Answers (host s request).2 rest s' := hs
    exact ih _ h hs
  | again body next ihBody ihNext =>
    obtain ⟨idle, last, rest, b, rfl, hidle, hlast, h⟩ := h
    rw [← List.append_assoc] at hs
    obtain ⟨m, hm, hs⟩ := Host.answers_append.1 hs
    obtain ⟨first, hfirst⟩ := exists_repeatStep ihBody hidle hlast hm
    obtain ⟨later, hlater⟩ := ihNext b h hs
    refine ⟨first + later, fun rounds hrounds => ?_⟩
    rw [run, hfirst rounds rounds (by omega) (by omega)]
    exact hlater rounds (by omega)

/-- The results of a program on a host are those of its runs that the host answers. -/
theorem exists_run_iff {α : Type} {p : Program α} {s s' : σ} {a : α} :
    (∃ rounds, p.run host rounds s = some (a, s')) ↔ ∃ t, p.Runs t a ∧ host.Answers s t s' := by
  constructor
  · rintro ⟨rounds, h⟩
    exact exists_runs_of_run h
  · rintro ⟨t, h, hs⟩
    obtain ⟨least, hleast⟩ := exists_run_of_runs h hs
    exact ⟨least, hleast least (Nat.le_refl least)⟩

end

/-! ## Programs that give a result -/

/-- A program gives a result on a host in a state. -/
def Returns {σ : Type} (host : Host σ) (s : σ) {α : Type} (p : Program α) : Prop :=
  ∃ t a s', p.Runs t a ∧ host.Answers s t s'

/-- A program without repetitions. -/
def Finite {α : Type} : Program α → Prop
  | done _ => True
  | ask _ next => ∀ reply, (next reply).Finite
  | again _ _ => False

theorem returns_done {σ : Type} {host : Host σ} {s : σ} {α : Type} (a : α) :
    Returns host s (done a) :=
  ⟨[], a, s, ⟨rfl, rfl⟩, rfl⟩

theorem returns_bind {σ : Type} {host : Host σ} {s : σ} {α β : Type} {p : Program α}
    {f : α → Program β} (h : Returns host s p)
    (hf : ∀ t a s', p.Runs t a → host.Answers s t s' → Returns host s' (f a)) :
    Returns host s (p.bind f) := by
  obtain ⟨u, a, m, hu, hm⟩ := h
  obtain ⟨v, b, s', hv, hs'⟩ := hf u a m hu hm
  exact ⟨u ++ v, b, s', runs_bind.2 ⟨u, v, a, rfl, hu, hv⟩, Host.answers_append.2 ⟨m, hm, hs'⟩⟩

theorem Finite.returns {α : Type} {p : Program α} (h : p.Finite) {σ : Type} (host : Host σ) (s : σ) :
    Returns host s p := by
  induction p generalizing s with
  | done result => exact returns_done result
  | ask request next ih =>
    obtain ⟨t, a, s', ht, hs'⟩ := ih _ (h (host s request).1) (host s request).2
    exact ⟨⟨request, _⟩ :: t, a, s', ⟨_, t, rfl, ht⟩, rfl, hs'⟩
  | again body next _ _ => exact h.elim

/-- A program without repetitions ends on every host, in any number of rounds. -/
theorem Finite.exists_run {α : Type} {p : Program α} (h : p.Finite) {σ : Type} (host : Host σ)
    (rounds : Nat) (s : σ) : ∃ a s', p.run host rounds s = some (a, s') := by
  induction p generalizing s with
  | done result => exact ⟨result, s, rfl⟩
  | ask request next ih => exact ih _ (h (host s request).1) (host s request).2
  | again body next _ _ => exact h.elim

theorem Finite.bind {α β : Type} {p : Program α} {f : α → Program β} (h : p.Finite)
    (hf : ∀ a, (f a).Finite) : (p.bind f).Finite := by
  induction p with
  | done result => exact hf result
  | ask request next ih => exact fun reply => ih reply (h reply) hf
  | again body next _ _ => exact h.elim

/-! ## The requests of a program -/

/-- Every request of a program is allowed, whatever the replies are. -/
def Uses (allowed : Host.Request → Prop) {α : Type} : Program α → Prop
  | done _ => True
  | ask request next => allowed request ∧ ∀ reply, (next reply).Uses allowed
  | again body next => body.Uses allowed ∧ ∀ b, (next b).Uses allowed

variable {allowed : Host.Request → Prop}

theorem Uses.of_runs {α : Type} {p : Program α} {t : List Exchange} {a : α} (h : p.Uses allowed)
    (ht : p.Runs t a) : ∀ e ∈ t, allowed e.request := by
  induction p generalizing t with
  | done result =>
    obtain ⟨rfl, -⟩ := ht
    simp
  | ask request next ih =>
    obtain ⟨reply, rest, rfl, ht⟩ := ht
    intro e he
    rcases List.mem_cons.1 he with rfl | he
    · exact h.1
    · exact ih reply (h.2 reply) ht e he
  | again body next ihBody ihNext =>
    obtain ⟨idle, last, rest, b, rfl, hidle, hlast, ht⟩ := ht
    intro e he
    simp only [List.mem_append, List.mem_flatten] at he
    rcases he with ⟨u, hu, he⟩ | he | he
    · exact ihBody h.1 (hidle u hu) e he
    · exact ihBody h.1 hlast e he
    · exact ihNext b (h.2 b) ht e he

theorem Uses.bind {α β : Type} {p : Program α} {f : α → Program β} (h : p.Uses allowed)
    (hf : ∀ a, (f a).Uses allowed) : (p.bind f).Uses allowed := by
  induction p with
  | done result => exact hf result
  | ask request next ih => exact ⟨h.1, fun reply => ih reply (h.2 reply) hf⟩
  | again body next _ ih => exact ⟨h.1, fun b => ih b (h.2 b) hf⟩

theorem Uses.mono {allowed' : Host.Request → Prop} {α : Type} {p : Program α} (h : p.Uses allowed)
    (himp : ∀ request, allowed request → allowed' request) : p.Uses allowed' := by
  induction p with
  | done result => trivial
  | ask request next ih => exact ⟨himp request h.1, fun reply => ih reply (h.2 reply)⟩
  | again body next ihBody ihNext => exact ⟨ihBody h.1, fun b => ihNext b (h.2 b)⟩

end Program
end VirtHost
