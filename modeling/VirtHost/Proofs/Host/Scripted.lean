import VirtHost.Proofs.Host.Action
import VirtHost.Proofs.Host.ScriptedRules

/-! # Runs against a scripted host

What a scripted host does over any sequence of requests. Commands are answered from the rules, a rule for
one use answers one command at most, all commands are noted, and every process reports that it is running
as often as its entry in the queue says.

* `Scripted.Lawful`: these properties of a run.
* `Scripted.rules_of_answers`, `Scripted.calls_of_answers`, `Scripted.reports_of_answers`: rules, calls
  and processes along a run.
* `Scripted.exists_lawful`: every run has the properties.
-/

namespace VirtHost.Host.Scripted
set_option autoImplicit false

variable {s s' m : Scripted} {t : List Exchange}

/-! ## Moments -/

/-- The host has a state before every request of a run. -/
theorem exists_state (h : Answers answer s t s') (n : ℕ) :
    ∃ m, Answers answer s (t.take n) m ∧ Answers answer m (t.drop n) s' := by
  rw [← List.take_append_drop n t] at h
  exact answers_append.1 h

/-- The reply to a request is that of the host in the state before it. -/
theorem exists_state_of_getElem? (h : Answers answer s t s') {n : ℕ} {e : Exchange}
    (he : t[n]? = some e) :
    ∃ m, Answers answer s (t.take n) m ∧ (answer m e.request).1 = e.reply ∧
      Answers answer (answer m e.request).2 (t.drop (n + 1)) s' := by
  obtain ⟨m, hbefore, hafter⟩ := exists_state h n
  obtain ⟨hn, rfl⟩ := List.getElem?_eq_some_iff.1 he
  rw [List.drop_eq_getElem_cons hn] at hafter
  exact ⟨m, hbefore, hafter.1, hafter.2⟩

/-! ## Rules -/

/-- The place of the rule that answers an exchange, if it is a command that a rule answers. -/
def serverOf? (rules : List Rule) (used : List ℕ) : Exchange → Option ℕ
  | ⟨.execute command _, _⟩ => (chosen? rules used command).map Prod.snd
  | _ => none

/-- The places of the rules that answer the first `n` exchanges. -/
def usedBy (rules : List Rule) (t : List Exchange) : ℕ → List ℕ
  | 0 => []
  | n + 1 => (t[n]?.bind (serverOf? rules (usedBy rules t n))).toList ++ usedBy rules t n

/-- The place of the rule that answers exchange `n`. -/
def server (rules : List Rule) (t : List Exchange) (n : ℕ) : Option ℕ :=
  t[n]?.bind (serverOf? rules (usedBy rules t n))

theorem mem_usedBy {rules : List Rule} {n i : ℕ} :
    i ∈ usedBy rules t n ↔ ∃ j < n, server rules t j = some i := by
  induction n with
  | zero => simp [usedBy]
  | succ n ih =>
    rw [usedBy, List.mem_append, ih, Option.mem_toList]
    constructor
    · rintro (hlast | ⟨j, hj, hserver⟩)
      · exact ⟨n, Nat.lt_succ_self n, hlast⟩
      · exact ⟨j, Nat.lt_succ_of_lt hj, hserver⟩
    · rintro ⟨j, hj, hserver⟩
      rcases Nat.lt_succ_iff_lt_or_eq.1 hj with hj | rfl
      · exact .inr ⟨j, hj, hserver⟩
      · exact .inl hserver

/-- Only a command takes a rule away, and only the one that answers it. -/
theorem rules_step {rules : List Rule} {used : List ℕ} (hm : m.rules = (remaining rules used).map Prod.fst)
    (e : Exchange) :
    (answer m e.request).2.rules
      = (remaining rules ((serverOf? rules used e).toList ++ used)).map Prod.fst := by
  obtain ⟨request, reply⟩ := e
  cases request with
  | execute command options =>
    simp only [answer, runCommand, serverOf?, hm, replyFrom_remaining]
  | isRunning process =>
    simp only [answer, checkProcess]
    split <;> exact hm
  | _ => exact hm

theorem rules_of_answers {n : ℕ} (h : Answers answer s (t.take n) m) :
    m.rules = (remaining s.rules (usedBy s.rules t n)).map Prod.fst := by
  induction n generalizing m with
  | zero =>
    obtain rfl : m = s := h
    have hall : remaining m.rules [] = m.rules.zipIdx := List.filter_eq_self.2 fun x _ => by simp
    rw [usedBy, hall, List.zipIdx_map_fst]
  | succ n ih =>
    rw [List.take_add_one] at h
    obtain ⟨before, hbefore, hlast⟩ := answers_append.1 h
    have hrules := ih hbefore
    rw [usedBy]
    cases he : t[n]? with
    | none =>
      rw [he] at hlast
      obtain rfl : m = before := hlast
      exact hrules
    | some e =>
      rw [he] at hlast
      obtain ⟨-, rfl⟩ : (answer before e.request).1 = e.reply ∧ m = (answer before e.request).2 := hlast
      exact rules_step hrules e

/-! ## Calls -/

/-- What is noted of an exchange. -/
def callOf? : Exchange → Option Call
  | ⟨.execute command options, _⟩ => some ⟨command, options⟩
  | ⟨.start command shell, _⟩ => some ⟨command, { shell }⟩
  | _ => none

theorem calls_step (m : Scripted) (e : Exchange) :
    (answer m e.request).2.calls = m.calls ++ (callOf? e).toList := by
  obtain ⟨request, reply⟩ := e
  cases request with
  | execute command options => rfl
  | start command shell => rfl
  | isRunning process =>
    simp only [answer, checkProcess]
    split <;> exact (List.append_nil _).symm
  | _ => exact (List.append_nil _).symm

theorem calls_of_answers (h : Answers answer s t s') : s'.calls = s.calls ++ t.filterMap callOf? := by
  induction t generalizing s with
  | nil =>
    obtain rfl : s' = s := h
    rw [List.filterMap_nil, List.append_nil]
  | cons e t ih =>
    have hnext := ih h.2
    rw [hnext, calls_step, List.append_assoc]
    congr 1
    cases hcall : callOf? e with
    | none => rw [List.filterMap_cons_none hcall, Option.toList_none, List.nil_append]
    | some call =>
      rw [List.filterMap_cons_some hcall, Option.toList_some, List.singleton_append]

/-! ## Processes -/

/-- Whether an exchange starts a process. -/
def startsProcess : Exchange → Bool
  | ⟨.start _ _, _⟩ => true
  | _ => false

/-- The number of processes that some exchanges start. -/
def starts (t : List Exchange) : ℕ :=
  t.countP startsProcess

/-- The reports on a process in some exchanges. -/
def reportsOn (process : ℕ) (t : List Exchange) : List (Except Error Bool) :=
  t.filterMap fun
    | ⟨.isRunning asked, reply⟩ => if asked = process then some reply else none
    | _ => none

theorem processes_step (m : Scripted) (e : Exchange) :
    (answer m e.request).2.queue = m.queue.drop (starts [e]) ∧
      (answer m e.request).2.processes.length = m.processes.length + starts [e] := by
  obtain ⟨request, reply⟩ := e
  cases request with
  | start command shell =>
    refine ⟨?_, ?_⟩
    · simp [answer, startProcess, starts, startsProcess]
    · simp [answer, startProcess, starts, startsProcess]
  | isRunning process =>
    simp only [answer, checkProcess]
    split
    · exact ⟨rfl, List.length_set⟩
    · exact ⟨rfl, rfl⟩
  | _ => exact ⟨rfl, rfl⟩

/-- Every start takes an entry of the queue and a new handle. -/
theorem processes_of_answers (h : Answers answer s t s') :
    s'.queue = s.queue.drop (starts t) ∧ s'.processes.length = s.processes.length + starts t := by
  induction t generalizing s with
  | nil =>
    obtain rfl : s' = s := h
    exact ⟨rfl, rfl⟩
  | cons e t ih =>
    obtain ⟨hqueue, hlength⟩ := ih h.2
    obtain ⟨hqueue', hlength'⟩ := processes_step s e
    have hstarts : starts ([e] ++ t) = starts [e] + starts t := List.countP_append
    rw [List.singleton_append] at hstarts
    rw [hqueue, hqueue', List.drop_drop, hlength, hlength', hstarts]
    exact ⟨rfl, Nat.add_assoc _ _ _⟩

/-- A process that is not asked for keeps its checks. -/
theorem processes_of_ne {process : ℕ} {checks : ℕ} (hp : m.processes[process]? = some checks)
    {request : Request} (hrequest : request ≠ .isRunning process) :
    (answer m request).2.processes[process]? = some checks := by
  cases request with
  | start command shell =>
    obtain ⟨hlt, -⟩ := List.getElem?_eq_some_iff.1 hp
    simp only [answer, startProcess]
    rw [List.getElem?_append_left hlt, hp]
  | isRunning asked =>
    have hne : asked ≠ process := fun heq => hrequest (heq ▸ rfl)
    simp only [answer, checkProcess]
    split
    · simp only [List.getElem?_set_ne hne, hp]
    · exact hp
  | _ => exact hp

/-- A process reports that it is running as often as it has checks left, and never again. -/
theorem reports_of_answers {process checks : ℕ} (hp : s.processes[process]? = some checks)
    (h : Answers answer s t s') :
    reportsOn process t
      = (List.range (reportsOn process t).length).map fun j => .ok (decide (j < checks)) := by
  induction t generalizing s checks with
  | nil => rfl
  | cons e t ih =>
    obtain ⟨hreply, hrest⟩ := h
    by_cases hasked : e.request = .isRunning process
    · obtain ⟨request, reply⟩ := e
      obtain rfl : request = .isRunning process := hasked
      have hreports : reportsOn process (⟨.isRunning process, reply⟩ :: t)
          = reply :: reportsOn process t := by
        simp [reportsOn]
      cases checks with
      | zero =>
        have hstate : answer s (.isRunning process) = (.ok false, s) := by
          simp [answer, checkProcess, hp]
        rw [hstate] at hreply hrest
        have hlater := ih hp hrest
        obtain rfl : Except.ok false = reply := hreply
        rw [hreports, List.length_cons, List.range_succ_eq_map, List.map_cons, List.map_map]
        simpa [Function.comp_def] using hlater
      | succ checks =>
        have hstate : answer s (.isRunning process)
            = (.ok true, { s with processes := s.processes.set process checks }) := by
          simp [answer, checkProcess, hp]
        rw [hstate] at hreply hrest
        obtain ⟨hlt, -⟩ := List.getElem?_eq_some_iff.1 hp
        have hset : (s.processes.set process checks)[process]? = some checks := by simp [hlt]
        have hlater := ih hset hrest
        obtain rfl : Except.ok true = reply := hreply
        rw [hreports, List.length_cons, List.range_succ_eq_map, List.map_cons, List.map_map]
        simpa [Function.comp_def] using hlater
    · have hreports : reportsOn process (e :: t) = reportsOn process t := by
        obtain ⟨request, reply⟩ := e
        cases request with
        | isRunning asked =>
          have hne : asked ≠ process := fun heq => hasked (heq ▸ rfl)
          simp [reportsOn, hne]
        | _ => rfl
      rw [hreports]
      exact ih (processes_of_ne hp hasked) hrest

/-! ## Runs -/

/-- What a run from state `s` to state `s'` is like, if `server` tells the place of the rule that answers
each exchange. -/
structure Lawful (s : Scripted) (t : List Exchange) (s' : Scripted) (server : ℕ → Option ℕ) : Prop where
  /-- Each command is answered by the first rule for one use that is left and matches, else by the first
  lasting rule that does, else without output; the caller sees that completion checked. -/
  answered : ∀ k command options reply, t[k]? = some (.ran command options reply) →
    ∃ completion, AnsweredBy s.rules {i | ∃ j < k, server j = some i} command (server k) completion ∧
      reply = .ok completion ∧
      (execute command options).Runs [.ran command options reply] (completion.check options)
  /-- Nothing but a command uses a rule. -/
  commands : ∀ k i, server k = some i →
    ∃ command options reply, t[k]? = some (.ran command options reply)
  /-- A rule for one use answers one command at most. -/
  once : ∀ j k i r, server j = some i → server k = some i → s.rules[i]? = some r → r.once = true →
    j = k
  /-- After any number of exchanges the rules are the ones at first, in their order, without those for one
  use that have answered; and all commands have been noted. -/
  moments : ∀ n, ∃ m, Answers answer s (t.take n) m ∧ Answers answer m (t.drop n) s' ∧
    m.rules = (s.rules.zipIdx.filter fun x =>
      !(x.1.once && decide (∃ j < n, server j = some x.2))).map Prod.fst ∧
    m.calls = s.calls ++ (t.take n).filterMap callOf?
  /-- Each start gives the next handle. It takes the next entry of the queue, or zero, and the process
  reports so often that it is running, and never again. -/
  processes : ∀ i command shell reply, t[i]? = some ⟨.start command shell, reply⟩ →
    let k := starts (t.take i)
    let reports := reportsOn (s.processes.length + k) (t.drop (i + 1))
    reply = .ok (s.processes.length + k) ∧
      reports = (List.range reports.length).map fun j => .ok (decide (j < s.queue[k]?.getD 0))

theorem answered_of_answers (h : Answers answer s t s') {k : ℕ} {command : String} {options : Options}
    {reply : Except Error Completion} (he : t[k]? = some (.ran command options reply)) :
    ∃ completion, AnsweredBy s.rules {i | ∃ j < k, server s.rules t j = some i} command
        (server s.rules t k) completion ∧ reply = .ok completion := by
  obtain ⟨m, hbefore, hreply, -⟩ := exists_state_of_getElem? h he
  have hchosen := answeredBy_chosen s.rules (usedBy s.rules t k) command
  have hserver : server s.rules t k
      = (chosen? s.rules (usedBy s.rules t k) command).map Prod.snd := by
    rw [server, he]
    rfl
  have hused : {i | i ∈ usedBy s.rules t k} = {i | ∃ j < k, server s.rules t j = some i} :=
    Set.ext fun i => mem_usedBy
  rw [hused, ← hserver] at hchosen
  refine ⟨_, hchosen, ?_⟩
  have hcompletion : (m.runCommand command options).1
      = completionBy command (chosen? s.rules (usedBy s.rules t k) command) := by
    rw [runCommand, rules_of_answers hbefore, replyFrom_remaining]
  rw [← hcompletion]
  exact hreply.symm

theorem exists_command_of_server {rules : List Rule} {k i : ℕ} (h : server rules t k = some i) :
    ∃ command options reply, t[k]? = some (.ran command options reply) := by
  obtain ⟨e, he, hserver⟩ := Option.bind_eq_some_iff.1 h
  obtain ⟨request, reply⟩ := e
  cases request with
  | execute command options => exact ⟨command, options, reply, he⟩
  | _ => cases hserver

/-- A rule for one use that answers was not used before. -/
theorem AnsweredBy.unused {rules : List Rule} {used : Set ℕ} {command : String} {i : ℕ} {r : Rule}
    {completion : Completion} (h : AnsweredBy rules used command (some i) completion)
    (hrule : rules[i]? = some r) (honce : r.once = true) : i ∉ used := by
  cases h with
  | once _ hfirst =>
    obtain ⟨_, -, -, -, hunused⟩ := hfirst.1
    exact hunused
  | lasting _ _ hfirst =>
    obtain ⟨r', hrule', hlasting, -⟩ := hfirst.1
    obtain rfl : r = r' := Option.some.inj (hrule.symm.trans hrule')
    rw [honce] at hlasting
    cases hlasting

theorem not_lt_of_server (h : Answers answer s t s') {j k i : ℕ} {r : Rule}
    (hj : server s.rules t j = some i) (hk : server s.rules t k = some i)
    (hrule : s.rules[i]? = some r) (honce : r.once = true) : ¬ j < k := by
  intro hlt
  obtain ⟨command, options, reply, he⟩ := exists_command_of_server hk
  obtain ⟨completion, hanswered, -⟩ := answered_of_answers h he
  rw [hk] at hanswered
  exact hanswered.unused hrule honce ⟨j, hlt, hj⟩

/-- **Runs against a scripted host.** In every run each command is answered by the rule that comes first,
a rule for one use answers at most once, calls are noted in order, and processes report as queued. -/
theorem exists_lawful (h : Answers answer s t s') : ∃ server, Lawful s t s' server := by
  refine ⟨server s.rules t, ?_, fun k i => exists_command_of_server, ?_, ?_, ?_⟩
  · intro k command options reply he
    obtain ⟨completion, hanswered, rfl⟩ := answered_of_answers h he
    exact ⟨completion, hanswered, rfl, Action.runs_execute.2 ⟨_, rfl, rfl⟩⟩
  · intro j k i r hj hk hrule honce
    have hjk := not_lt_of_server h hj hk hrule honce
    have hkj := not_lt_of_server h hk hj hrule honce
    omega
  · intro n
    obtain ⟨m, hbefore, hafter⟩ := exists_state h n
    refine ⟨m, hbefore, hafter, ?_, calls_of_answers hbefore⟩
    rw [rules_of_answers hbefore, remaining]
    simp only [List.contains_eq_mem, mem_usedBy]
  · intro i command shell reply he
    obtain ⟨m, hbefore, hreply, hafter⟩ := exists_state_of_getElem? h he
    obtain ⟨hqueue, hlength⟩ := processes_of_answers hbefore
    have hstarted : (answer m (.start command shell)).2.processes[m.processes.length]?
        = some (m.queue.headD 0) := by
      simp [answer, startProcess]
    have hentry : m.queue.headD 0 = s.queue[starts (t.take i)]?.getD 0 := by
      rw [hqueue, List.headD_eq_head?_getD, List.head?_drop]
    rw [hlength, hentry] at hstarted
    refine ⟨?_, reports_of_answers hstarted hafter⟩
    rw [← hlength]
    exact hreply.symm

/-- Two rules for one use, one of them with a code that is not expected, and a lasting one that was added
before them; a process is checked between the commands. -/
theorem exists_lawful_overlapping :
    let rules : List Rule :=
      [{ head := "virsh" }, { head := "virsh d", code := 1, once := true },
        { head := "virsh", stdout := "b", once := true }]
    let s : Scripted := { rules, queue := [1] }
    let query (c : Completion) : Exchange := .ran "virsh dominfo vm" {} (.ok c)
    let t : List Exchange :=
      [query ⟨"virsh dominfo vm", 1, "", ""⟩, ⟨.start "cp a b" false, .ok 0⟩,
        ⟨.isRunning 0, .ok true⟩, query ⟨"virsh dominfo vm", 0, "b", ""⟩, ⟨.write "a" "b", .ok ()⟩,
        ⟨.isRunning 0, .ok false⟩, query ⟨"virsh dominfo vm", 0, "", ""⟩, ⟨.isRunning 0, .ok false⟩]
    ∃ s', Answers answer s t s' ∧ (∃ server, Lawful s t s' server) ∧
      reportsOn 0 (t.drop 2) = [.ok true, .ok false, .ok false] := by
  intro rules s query t
  have hfirst : replyFrom rules "virsh dominfo vm"
      = (⟨"virsh dominfo vm", 1, "", ""⟩,
        [{ head := "virsh" }, { head := "virsh", stdout := "b", once := true }]) := by decide
  have hsecond : replyFrom [{ head := "virsh" }, { head := "virsh", stdout := "b", once := true }]
      "virsh dominfo vm" = (⟨"virsh dominfo vm", 0, "b", ""⟩, [{ head := "virsh" }]) := by decide
  have hthird : replyFrom [{ head := "virsh" }] "virsh dominfo vm"
      = (⟨"virsh dominfo vm", 0, "", ""⟩, [{ head := "virsh" }]) := by decide
  have hanswers : ∃ s', Answers answer s t s' := by
    simp [Answers, answer, runCommand, startProcess, checkProcess, addFile, hfirst, hsecond, hthird, s, t,
      query, Exchange.ran]
  obtain ⟨s', hanswers⟩ := hanswers
  obtain ⟨server, hlawful⟩ := exists_lawful hanswers
  exact ⟨s', hanswers, ⟨server, hlawful⟩, (hlawful.processes 1 _ _ _ rfl).2⟩

end VirtHost.Host.Scripted
