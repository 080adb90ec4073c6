import VirtHost.Proofs.Host.Pauses
import VirtHost.Proofs.Host.Scripted
import VirtHost.Proofs.Hypervisor.Disk

/-! # Copies that are watched

* `Hypervisor.runs_cloneDisk_iff`: all runs that copy a disk, on any host.
* `Hypervisor.Copies`: a host on which a copy is running at its first checks, and then at an end.
* `Hypervisor.watched_of_rounds`: how often such a copy is looked at.
* `Hypervisor.cloneDisk_watches`: the requests for a copy, and what comes of it.
-/

namespace VirtHost.Hypervisor
open Host (Completion)
open Host.Scripted (reportsOn)
set_option autoImplicit false

variable {h : Hypervisor} {source destination : String} {seconds process checks more : Nat}
  {time : Duration} {t : List Exchange}

/-! ## Requests -/

def sized (path : String) (reply : Except Error Completion) : Exchange :=
  .ran ("stat -c %s " ++ path) ({} : Host.Options).anyCode reply

/-- Whatever the reply is, a size is read from it, or none. -/
theorem runs_fileSize? {path : String} {r : Except Error (Option Nat)} :
    (Action.ofProgram (fileSize? path)).Runs t r ↔
      ∃ reply, t = [sized path reply] ∧ r = .ok (match reply with
        | .ok c => if c.code = 0 then Listing.firstNumber c.stdout else none
        | .error _ => none) := by
  rw [Action.runs_ofProgram]
  constructor
  · rintro ⟨size, hsize, rfl⟩
    obtain ⟨u, w, reply, rfl, hu, hw⟩ := Program.runs_bind.1 hsize
    obtain rfl := Action.runs_execute_anyCode.1 hu
    refine ⟨reply, ?_⟩
    rcases reply with e | c
    all_goals
      obtain ⟨rfl, rfl⟩ := hw
      exact ⟨rfl, rfl⟩
  · rintro ⟨reply, rfl, rfl⟩
    refine ⟨_, Program.runs_bind.2 ⟨_, [], reply, rfl, Action.runs_execute_anyCode.2 rfl, ?_⟩, rfl⟩
    rcases reply with e | c <;> exact ⟨rfl, rfl⟩

theorem runs_fileSize?_bind {α : Type} {path : String} {a : Action α} {r : Except Error α} :
    (Action.ofProgram (fileSize? path) >>= fun _ => a).Runs t r ↔
      ∃ reply u, t = sized path reply :: u ∧ a.Runs u r := by
  rw [Action.runs_bind]
  constructor
  · rintro (⟨e, he, -⟩ | ⟨u, w, size, rfl, hu, hw⟩)
    · obtain ⟨reply, -, hreply⟩ := runs_fileSize?.1 he
      cases hreply
    · obtain ⟨reply, rfl, -⟩ := runs_fileSize?.1 hu
      exact ⟨reply, w, rfl, hw⟩
  · rintro ⟨reply, u, rfl, hu⟩
    exact .inr ⟨_, u, _, rfl, runs_fileSize?.2 ⟨reply, rfl, rfl⟩, hu⟩

/-! ## Checks -/

/-- A check that finds the copy running. -/
def foundRunning (process : Nat) (destination : String) (size : Except Error Completion) :
    List Exchange :=
  [⟨.isRunning process, .ok true⟩, sized destination size]

def foundEnded (process : Nat) : List Exchange :=
  [⟨.isRunning process, .ok false⟩]

theorem runs_isCopied_iff {r : Except Error Bool} :
    (isCopied process destination).Runs t r ↔
      (∃ e, t = [⟨.isRunning process, .error e⟩] ∧ r = .error e) ∨
      (t = foundEnded process ∧ r = .ok true) ∨
      ∃ size, t = foundRunning process destination size ∧ r = .ok false := by
  refine Action.runs_bind.trans ?_
  constructor
  · rintro (⟨e, he, rfl⟩ | ⟨u, w, b, rfl, hu, hw⟩)
    · exact .inl ⟨e, Action.runs_isRunning.1 he, rfl⟩
    · obtain rfl := Action.runs_isRunning.1 hu
      cases b with
      | false =>
        obtain ⟨rfl, rfl⟩ := Action.runs_pure.1 hw
        exact .inr (.inl ⟨rfl, rfl⟩)
      | true =>
        obtain ⟨size, u, rfl, hu⟩ := runs_fileSize?_bind.1 hw
        obtain ⟨rfl, rfl⟩ := Action.runs_pure.1 hu
        exact .inr (.inr ⟨size, rfl, rfl⟩)
  · rintro (⟨e, rfl, rfl⟩ | ⟨rfl, rfl⟩ | ⟨size, rfl, rfl⟩)
    · exact .inl ⟨e, Action.runs_isRunning.2 rfl, rfl⟩
    · exact .inr ⟨_, [], false, rfl, Action.runs_isRunning.2 rfl, Action.runs_pure.2 ⟨rfl, rfl⟩⟩
    · exact .inr ⟨[_], _, true, rfl, Action.runs_isRunning.2 rfl,
        runs_fileSize?_bind.2 ⟨size, [], rfl, Action.runs_pure.2 ⟨rfl, rfl⟩⟩⟩

/-! ## Copies -/

/-- What comes of a copy that was found at an end in time, or was not. -/
def copyOutcome (source destination : String) (seconds : Nat) (ended : Bool) : Except Error String :=
  if ended then .ok destination else .error (.cloneTimeout source seconds)

/-- The requests before the first check. -/
def begun (source destination : String) (size : Except Error Completion) (process : Except Error Nat) :
    List Exchange :=
  [⟨.fileExists source, .ok true⟩, sized source size,
    ⟨.start ("cp " ++ source ++ " " ++ destination) false, process⟩]

/-- The time between two checks. -/
def cloneInterval (h : Hypervisor) : Duration :=
  Duration.ofSeconds h.settings.cloneInterval

/-- There is time for a pause for each interval in the timeout. -/
theorem runs_await_isCopied_iff (hinterval : h.settings.cloneInterval ≠ 0) {r : Except Error Bool} :
    (Poll.await ⟨Duration.ofSeconds seconds, h.cloneInterval⟩ (isCopied process destination)).Runs t r ↔
      Poll.Rounds (isCopied process destination) h.cloneInterval
        (seconds / h.settings.cloneInterval) t r := by
  have hseconds : (Duration.ofSeconds seconds).millis / h.cloneInterval.millis
      = seconds / h.settings.cloneInterval :=
    Nat.mul_div_mul_right seconds h.settings.cloneInterval (by omega)
  rw [Poll.runs_await_iff (Poll.millis_ne_zero hinterval), hseconds]

theorem runs_await_bind_iff (hinterval : h.settings.cloneInterval ≠ 0) {r : Except Error String} :
    (Poll.await ⟨Duration.ofSeconds seconds, h.cloneInterval⟩ (isCopied process destination) >>=
        fun finished => if finished then pure destination else throw (.cloneTimeout source seconds)).Runs
          t r ↔
      ∃ o, Poll.Rounds (isCopied process destination) h.cloneInterval
          (seconds / h.settings.cloneInterval) t o ∧
        r = o.bind (copyOutcome source destination seconds) := by
  have hend : (fun finished : Bool => (if finished then pure destination
      else throw (.cloneTimeout source seconds) : Action String))
      = fun finished => Action.ofExcept (copyOutcome source destination seconds finished) := by
    funext finished
    cases finished <;> rfl
  rw [hend, Action.runs_bind_ofExcept]
  exact exists_congr fun o => and_congr_left' (runs_await_isCopied_iff hinterval)

theorem runs_cloneDisk_iff (hinterval : h.settings.cloneInterval ≠ 0) {r : Except Error String} :
    (h.cloneDisk source destination seconds).Runs t r ↔
      (∃ e, t = [⟨.fileExists source, .error e⟩] ∧ r = .error e) ∨
      (t = [⟨.fileExists source, .ok false⟩] ∧ r = .error (.fileNotFound source)) ∨
      (∃ size e, t = begun source destination size (.error e) ∧ r = .error e) ∨
      ∃ size process u o, t = begun source destination size (.ok process) ++ u ∧
        Poll.Rounds (isCopied process destination) h.cloneInterval
          (seconds / h.settings.cloneInterval) u o ∧
        r = o.bind (copyOutcome source destination seconds) := by
  refine Action.runs_bind.trans ?_
  constructor
  · rintro (⟨e, he, rfl⟩ | ⟨u, w, found, rfl, hu, hw⟩)
    · exact .inl ⟨e, Action.runs_fileExists.1 he, rfl⟩
    · obtain rfl := Action.runs_fileExists.1 hu
      cases found with
      | false =>
        obtain ⟨rfl, rfl⟩ := Action.runs_throw.1 hw
        exact .inr (.inl ⟨rfl, rfl⟩)
      | true =>
        obtain ⟨size, x, rfl, hx⟩ := runs_fileSize?_bind.1 hw
        rcases Action.runs_bind.1 hx with ⟨e, he, rfl⟩ | ⟨y, z, process, rfl, hy, hz⟩
        · obtain rfl := Action.runs_start.1 he
          exact .inr (.inr (.inl ⟨size, e, rfl, rfl⟩))
        · obtain rfl := Action.runs_start.1 hy
          obtain ⟨o, ho, rfl⟩ := (runs_await_bind_iff hinterval).1 hz
          exact .inr (.inr (.inr ⟨size, process, z, o, rfl, ho, rfl⟩))
  · rintro (⟨e, rfl, rfl⟩ | ⟨rfl, rfl⟩ | ⟨size, e, rfl, rfl⟩ | ⟨size, process, u, o, rfl, ho, rfl⟩)
    · exact .inl ⟨e, Action.runs_fileExists.2 rfl, rfl⟩
    · exact .inr ⟨[_], [], false, rfl, Action.runs_fileExists.2 rfl, Action.runs_throw.2 ⟨rfl, rfl⟩⟩
    · refine .inr ⟨[_], _, true, rfl, Action.runs_fileExists.2 rfl,
        runs_fileSize?_bind.2 ⟨size, [_], rfl, ?_⟩⟩
      exact Action.runs_bind.2 (.inl ⟨e, Action.runs_start.2 rfl, rfl⟩)
    · refine .inr ⟨[_], _, true, rfl, Action.runs_fileExists.2 rfl,
        runs_fileSize?_bind.2 ⟨size, _, rfl, ?_⟩⟩
      refine Action.runs_bind.2 (.inr ⟨[_], u, process, rfl, Action.runs_start.2 rfl, ?_⟩)
      exact (runs_await_bind_iff hinterval).2 ⟨o, ho, rfl⟩

/-! ## Copies that end -/

/-- The reports on a process that is running at its first `checks` checks. -/
def RunsFor (checks : Nat) (reports : List (Except Error Bool)) : Prop :=
  reports = (List.range reports.length).map fun k => .ok (decide (k < checks))

/-- The replies of a host on which the source is there or is not, and a copy can be started that is running
at its first `checks` checks. -/
structure Copies (source : String) (found : Bool) (checks : Nat) (t : List Exchange) : Prop where
  source_found : ∀ reply, ⟨.fileExists source, reply⟩ ∈ t → reply = .ok found
  started : ∀ command shell reply, ⟨.start command shell, reply⟩ ∈ t → ∃ process, reply = .ok process
  reported : ∀ process, RunsFor checks (reportsOn process t)

theorem runsFor_cons {reply : Except Error Bool} {reports : List (Except Error Bool)} :
    RunsFor checks (reply :: reports) ↔
      reply = .ok (decide (0 < checks)) ∧ RunsFor (checks - 1) reports := by
  have hshift (k : Nat) : (k + 1 < checks) = (k < checks - 1) := by
    rw [eq_iff_iff]
    omega
  rw [RunsFor, RunsFor, List.length_cons, List.range_succ_eq_map, List.map_cons, List.map_map,
    List.cons_eq_cons]
  simp only [Function.comp_def, Nat.succ_eq_add_one, hshift]

theorem reportsOn_foundEnded : reportsOn process (foundEnded process) = [.ok false] := by
  simp [reportsOn, foundEnded]

theorem reportsOn_foundRunning (size : Except Error Completion) :
    reportsOn process (foundRunning process destination size) = [.ok true] := by
  simp [reportsOn, foundRunning, sized, Exchange.ran]

def checksOf (process : Nat) (destination : String) (sizes : List (Except Error Completion))
    (ended : Bool) : List (List Exchange) :=
  sizes.map (foundRunning process destination) ++ if ended then [foundEnded process] else []

theorem checksOf_cons (process : Nat) (destination : String) (size : Except Error Completion)
    (sizes : List (Except Error Completion)) (ended : Bool) :
    checksOf process destination (size :: sizes) ended
      = foundRunning process destination size :: checksOf process destination sizes ended :=
  rfl

/-- A check that finds the copy running is one of those that it is running at. -/
theorem runsFor_foundRunning {size : Except Error Completion}
    (h : RunsFor checks (reportsOn process (foundRunning process destination size ++ t))) :
    ∃ k, checks = k + 1 ∧ RunsFor k (reportsOn process t) := by
  rw [reportsOn, List.filterMap_append, ← reportsOn, reportsOn_foundRunning, List.singleton_append,
    runsFor_cons] at h
  obtain ⟨hrunning, hlater⟩ := h
  have hpos : 0 < checks := by simpa using hrunning
  exact ⟨checks - 1, by omega, hlater⟩

variable {size : Except Error Completion} {sizes : List (Except Error Completion)} {ended : Bool}

/-- Some check follows one that finds the copy running, if there is time for it. -/
theorem checksOf_ne_nil (hsizes : sizes.length = min checks (more + 1)) :
    checksOf process destination sizes (decide (checks ≤ more)) ≠ [] := by
  by_cases hle : checks ≤ more
  · simp [checksOf, hle]
  · have hpos : 0 < sizes.length := by omega
    simp [checksOf, hle, List.length_pos_iff.1 hpos]

/-- A copy that is running at its first `checks` checks is found running as often, unless the time is over
before. -/
theorem watched_of_rounds {r : Except Error Bool}
    (h : Poll.Rounds (isCopied process destination) time more t r)
    (hreports : RunsFor checks (reportsOn process t)) :
    ∃ sizes, sizes.length = min checks (more + 1) ∧
      t = paced time (checksOf process destination sizes (decide (checks ≤ more))) ∧
      r = .ok (decide (checks ≤ more)) := by
  -- Each round that goes on uses up one report that the copy is running, and one pause.
  induction h generalizing checks with
  | @ended more t r hcheck hr =>
    rcases runs_isCopied_iff.1 hcheck with ⟨e, rfl, rfl⟩ | ⟨rfl, rfl⟩ | ⟨size, rfl, rfl⟩
    · have hreport : reportsOn process [⟨.isRunning process, .error e⟩] = [.error e] := by
        simp [reportsOn]
      rw [hreport, runsFor_cons] at hreports
      cases hreports.1
    · rw [reportsOn_foundEnded, runsFor_cons] at hreports
      obtain rfl : checks = 0 := by simpa using hreports.1
      exact ⟨[], by simp, by simp [checksOf], by simp⟩
    · exact absurd rfl hr
  | @late t hcheck =>
    rcases runs_isCopied_iff.1 hcheck with ⟨e, -, hr⟩ | ⟨-, hr⟩ | ⟨size, rfl, -⟩
    · cases hr
    · cases hr
    · rw [← List.append_nil (foundRunning process destination size)] at hreports
      obtain ⟨k, rfl, -⟩ := runsFor_foundRunning hreports
      exact ⟨[size], by simp, by simp [checksOf], by simp⟩
  | @again more u t r hcheck hrest ih =>
    rcases runs_isCopied_iff.1 hcheck with ⟨e, -, hr⟩ | ⟨-, hr⟩ | ⟨size, rfl, -⟩
    · cases hr
    · cases hr
    · obtain ⟨k, rfl, hlater⟩ := runsFor_foundRunning hreports
      obtain ⟨sizes, hlength, rfl, rfl⟩ := ih hlater
      have hle : decide (k + 1 ≤ more + 1) = decide (k ≤ more) := by simp
      refine ⟨size :: sizes, ?_, ?_, by rw [hle]⟩
      · rw [List.length_cons, hlength]
        omega
      · rw [hle, checksOf_cons, paced_cons _ (checksOf_ne_nil hlength)]

theorem rounds_of_watched (hsizes : sizes.length = min checks (more + 1)) :
    Poll.Rounds (isCopied process destination) time more
      (paced time (checksOf process destination sizes (decide (checks ≤ more))))
      (.ok (decide (checks ≤ more))) := by
  induction more generalizing checks sizes with
  | zero =>
    cases checks with
    | zero =>
      obtain rfl : sizes = [] := List.length_eq_zero_iff.1 (by omega)
      exact .ended (runs_isCopied_iff.2 (.inr (.inl ⟨by simp [checksOf], rfl⟩))) (by simp)
    | succ checks =>
      obtain ⟨size, rfl⟩ : ∃ size, sizes = [size] := List.length_eq_one_iff.1 (by omega)
      exact .late (runs_isCopied_iff.2 (.inr (.inr ⟨size, by simp [checksOf], rfl⟩)))
  | succ more ih =>
    cases checks with
    | zero =>
      obtain rfl : sizes = [] := List.length_eq_zero_iff.1 (by omega)
      exact .ended (runs_isCopied_iff.2 (.inr (.inl ⟨by simp [checksOf], rfl⟩))) (by simp)
    | succ checks =>
      obtain ⟨size, rest, rfl⟩ : ∃ size rest, sizes = size :: rest :=
        List.exists_cons_of_length_pos (by omega)
      have hlength : rest.length = min checks (more + 1) := by
        rw [List.length_cons] at hsizes
        omega
      have hle : decide (checks + 1 ≤ more + 1) = decide (checks ≤ more) := by simp
      rw [hle, checksOf_cons, paced_cons _ (checksOf_ne_nil hlength)]
      exact .again (runs_isCopied_iff.2 (.inr (.inr ⟨size, rfl, rfl⟩))) (ih hlength)

/-- The exchanges of a copy that was begun. -/
def watched (h : Hypervisor) (source destination : String) (size : Except Error Completion)
    (process : Nat) (sizes : List (Except Error Completion)) (ended : Bool) : List Exchange :=
  begun source destination size (.ok process) ++
    paced h.cloneInterval (checksOf process destination sizes ended)

/-! ## Counts -/

/-- The command that an exchange starts in the background, if it does. -/
def started? : Exchange → Option String
  | ⟨.start command _, _⟩ => some command
  | _ => none

/-- The commands that some exchanges start, in order. -/
def startedIn (t : List Exchange) : List String :=
  t.filterMap started?

theorem startedIn_watched :
    startedIn (h.watched source destination size process sizes ended)
      = ["cp " ++ source ++ " " ++ destination] := by
  have hchecks : (checksOf process destination sizes ended).flatMap (fun u => u.filterMap started?)
      = [] := by
    rw [checksOf, List.flatMap_append, List.flatMap_map]
    cases ended <;> simp [foundRunning, foundEnded, sized, Exchange.ran, started?]
  rw [startedIn, watched, List.filterMap_append, filterMap_paced rfl, hchecks]
  rfl

theorem commandsOf_watched :
    commandsOf (h.watched source destination size process sizes ended)
      = ("stat -c %s " ++ source) :: List.replicate sizes.length ("stat -c %s " ++ destination) := by
  have hchecks : (checksOf process destination sizes ended).flatMap commandsOf
      = List.replicate sizes.length ("stat -c %s " ++ destination) := by
    have hrunning (size : Except Error Completion) :
        commandsOf (foundRunning process destination size) = ["stat -c %s " ++ destination] := rfl
    have hended : (if ended then [foundEnded process] else []).flatMap commandsOf = [] := by
      cases ended <;> rfl
    rw [checksOf, List.flatMap_append, hended, List.append_nil, List.flatMap_map]
    simp only [hrunning]
    rw [← List.map_eq_flatMap, List.map_const']
  rw [watched, commandsOf_append, commandsOf_paced, hchecks]
  rfl

theorem pausesOf_watched :
    pausesOf (h.watched source destination size process sizes ended)
      = List.replicate (sizes.length + ended.toNat - 1) h.cloneInterval := by
  have hnone : ∀ u ∈ checksOf process destination sizes ended, pausesOf u = [] := by
    intro u hu
    rcases List.mem_append.1 hu with hrunning | hended
    · obtain ⟨size, -, rfl⟩ := List.mem_map.1 hrunning
      rfl
    · obtain ⟨-, rfl⟩ : ended = true ∧ u = foundEnded process := by simpa using hended
      rfl
  have hlength : (checksOf process destination sizes ended).length = sizes.length + ended.toNat := by
    cases ended <;> simp [checksOf]
  rw [watched, pausesOf_append, pausesOf_paced hnone, hlength]
  rfl

/-- There is a pause behind each check that finds the copy running, unless it is the last one for which
there is time. -/
theorem pauses_eq_min (checks most : Nat) :
    min checks (most + 1) + (decide (checks ≤ most)).toNat - 1 = min checks most := by
  by_cases hle : checks ≤ most
  · rw [decide_eq_true hle, Bool.toNat_true]
    omega
  · rw [decide_eq_false hle, Bool.toNat_false]
    omega

/-! ## Replies -/

/-- What is asked for while a copy is watched. -/
theorem request_of_mem_checks {e : Exchange}
    (he : e ∈ paced time (checksOf process destination sizes ended)) :
    e.request ∈ [.sleep time, .isRunning process,
      .execute ("stat -c %s " ++ destination) ({} : Host.Options).anyCode] := by
  rcases mem_paced he with rfl | ⟨u, hu, heu⟩
  · simp
  · rcases List.mem_append.1 hu with hrunning | hended
    · obtain ⟨size, -, rfl⟩ := List.mem_map.1 hrunning
      obtain rfl | rfl : e = ⟨.isRunning process, .ok true⟩ ∨ e = sized destination size := by
        simpa [foundRunning] using heu
      · simp
      · simp [sized, Exchange.ran]
    · obtain ⟨-, rfl⟩ : ended = true ∧ u = foundEnded process := by simpa using hended
      obtain rfl : e = ⟨.isRunning process, .ok false⟩ := by simpa [foundEnded] using heu
      simp

theorem reportsOn_checksOf (asked : Nat) :
    reportsOn asked (paced time (checksOf process destination sizes ended))
      = if process = asked then
          List.replicate sizes.length (.ok true) ++ if ended then [.ok false] else []
        else [] := by
  have hrunning (size : Except Error Completion) :
      reportsOn asked (foundRunning process destination size)
        = if process = asked then [.ok true] else [] := by
    by_cases hasked : process = asked <;>
      simp [reportsOn, foundRunning, sized, Exchange.ran, hasked]
  have hended : (if ended then [foundEnded process] else []).flatMap (reportsOn asked)
      = if process = asked then (if ended then [.ok false] else []) else [] := by
    by_cases hasked : process = asked <;> cases ended <;> simp [reportsOn, foundEnded, hasked]
  have hpaced : reportsOn asked (paced time (checksOf process destination sizes ended))
      = (checksOf process destination sizes ended).flatMap (reportsOn asked) :=
    filterMap_paced rfl _
  rw [hpaced, checksOf, List.flatMap_append, hended, List.flatMap_map]
  simp only [hrunning]
  split
  · rw [← List.map_eq_flatMap, List.map_const']
  · simp

/-- The reports on a process that is asked for no more often than it runs, or once more. -/
theorem runsFor_replicate_append {n : Nat} {last : List (Except Error Bool)}
    (hlast : last = [] ∧ n ≤ checks ∨ last = [.ok false] ∧ n = checks) :
    RunsFor checks (List.replicate n (.ok true) ++ last) := by
  induction n generalizing checks with
  | zero =>
    rcases hlast with ⟨rfl, -⟩ | ⟨rfl, rfl⟩
    · rfl
    · exact runsFor_cons.2 ⟨rfl, rfl⟩
  | succ n ih =>
    have hpos : 0 < checks := by omega
    rw [List.replicate_succ, List.cons_append, runsFor_cons]
    refine ⟨by simp [hpos], ih ?_⟩
    rcases hlast with ⟨rfl, hle⟩ | ⟨rfl, rfl⟩
    · exact .inl ⟨rfl, by omega⟩
    · exact .inr ⟨rfl, rfl⟩

theorem copies_watched (hsizes : sizes.length = min checks (more + 1)) :
    Copies source true checks
      (h.watched source destination size process sizes (decide (checks ≤ more))) where
  source_found reply hreply := by
    rcases List.mem_append.1 hreply with hbegun | hpaced
    · simpa [begun, sized, Exchange.ran] using hbegun
    · simpa using request_of_mem_checks hpaced
  started command shell reply hreply := by
    rcases List.mem_append.1 hreply with hbegun | hpaced
    · obtain ⟨⟨rfl, rfl⟩, rfl⟩ : (command = "cp " ++ source ++ " " ++ destination ∧ shell = false) ∧
          reply = .ok process := by
        simpa [begun, sized, Exchange.ran] using hbegun
      exact ⟨process, rfl⟩
    · simpa using request_of_mem_checks hpaced
  reported asked := by
    have hreports : reportsOn asked (h.watched source destination size process sizes
        (decide (checks ≤ more))) = reportsOn asked (paced h.cloneInterval
          (checksOf process destination sizes (decide (checks ≤ more)))) := rfl
    rw [hreports, reportsOn_checksOf]
    split
    · refine runsFor_replicate_append ?_
      by_cases hle : checks ≤ more
      · exact .inr ⟨by simp [hle], by omega⟩
      · exact .inl ⟨by simp [hle], by omega⟩
    · rfl

/-! ## Runs -/

theorem runs_of_copies {found : Bool} {r : Except Error String}
    (hinterval : h.settings.cloneInterval ≠ 0)
    (hrun : (h.cloneDisk source destination seconds).Runs t r) (hcopies : Copies source found checks t) :
    (found = false ∧ t = [⟨.fileExists source, .ok false⟩] ∧ r = .error (.fileNotFound source)) ∨
      found = true ∧ ∃ size process sizes,
        sizes.length = min checks (seconds / h.settings.cloneInterval + 1) ∧
        t = h.watched source destination size process sizes
          (decide (checks ≤ seconds / h.settings.cloneInterval)) ∧
        r = copyOutcome source destination seconds
          (decide (checks ≤ seconds / h.settings.cloneInterval)) := by
  -- The host answers about the source and starts the copy, so neither request fails.
  rcases (runs_cloneDisk_iff hinterval).1 hrun with ⟨e, rfl, rfl⟩ | ⟨rfl, rfl⟩ | ⟨size, e, rfl, rfl⟩
    | ⟨size, process, u, o, rfl, ho, rfl⟩
  · cases hcopies.source_found (.error e) (by simp)
  · refine .inl ⟨?_, rfl, rfl⟩
    exact (Except.ok.inj (hcopies.source_found (.ok false) (by simp))).symm
  · obtain ⟨process, hprocess⟩ :=
      hcopies.started ("cp " ++ source ++ " " ++ destination) false (.error e) (by simp [begun])
    cases hprocess
  · have hfound := hcopies.source_found (.ok true) (by simp [begun])
    have hreports : reportsOn process (begun source destination size (.ok process) ++ u)
        = reportsOn process u := rfl
    have hreported := hcopies.reported process
    rw [hreports] at hreported
    obtain ⟨sizes, hlength, rfl, rfl⟩ := watched_of_rounds ho hreported
    exact .inr ⟨(Except.ok.inj hfound).symm, size, process, sizes, hlength, rfl, rfl⟩

/-- **Watching a copy.** However a host answers, a copy ends or is given up. If the source is not there,
nothing is run. If it is, its size is asked for and the copy is started once. Then the size of what there is
is asked for at each check that finds the copy running: at all of those that it is running at, or as long as
there is time. The result tells whether there was, and no reply about a size matters. -/
theorem cloneDisk_watches (hinterval : h.settings.cloneInterval ≠ 0) (source destination : String)
    (seconds checks : Nat) :
    let most := seconds / h.settings.cloneInterval
    (∀ {σ : Type} (host : Host σ) (s : σ), (h.cloneDisk source destination seconds).Returns host s) ∧
    (∀ t r, (h.cloneDisk source destination seconds).Runs t r ∧ Copies source false checks t ↔
      t = [⟨.fileExists source, .ok false⟩] ∧ r = .error (.fileNotFound source)) ∧
    (∀ t r, (h.cloneDisk source destination seconds).Runs t r ∧ Copies source true checks t ↔
      ∃ size process sizes, sizes.length = min checks (most + 1) ∧
        t = h.watched source destination size process sizes (checks ≤ most) ∧
        r = if checks ≤ most then .ok destination else .error (.cloneTimeout source seconds)) ∧
    ∀ size process sizes, sizes.length = min checks (most + 1) →
      let t := h.watched source destination size process sizes (checks ≤ most)
      startedIn t = ["cp " ++ source ++ " " ++ destination] ∧
        commandsOf t = ("stat -c %s " ++ source) ::
          List.replicate (min checks (most + 1)) ("stat -c %s " ++ destination) ∧
        pausesOf t = List.replicate (min checks most) h.cloneInterval := by
  intro most
  have houtcome : copyOutcome source destination seconds (decide (checks ≤ most))
      = if checks ≤ most then .ok destination else .error (.cloneTimeout source seconds) := by
    simp only [copyOutcome, decide_eq_true_eq]
  refine ⟨fun host s => (finite_cloneDisk hinterval).returns host s, fun t r => ?_, fun t r => ?_, ?_⟩
  · constructor
    · rintro ⟨hrun, hcopies⟩
      obtain ⟨-, ht, hr⟩ | ⟨hfound, -⟩ := runs_of_copies hinterval hrun hcopies
      · exact ⟨ht, hr⟩
      · cases hfound
    · rintro ⟨rfl, rfl⟩
      refine ⟨(runs_cloneDisk_iff hinterval).2 (.inr (.inl ⟨rfl, rfl⟩)), ?_, ?_, fun _ => rfl⟩
      · intro reply hreply
        simpa using hreply
      · intro command shell reply hreply
        simp at hreply
  · constructor
    · rintro ⟨hrun, hcopies⟩
      obtain ⟨hfound, -⟩ | ⟨-, size, process, sizes, hlength, ht, hr⟩ :=
        runs_of_copies hinterval hrun hcopies
      · cases hfound
      · exact ⟨size, process, sizes, hlength, ht, hr.trans houtcome⟩
    · rintro ⟨size, process, sizes, hlength, rfl, rfl⟩
      refine ⟨(runs_cloneDisk_iff hinterval).2 ?_, copies_watched hlength⟩
      exact .inr (.inr (.inr ⟨size, process, _, _, rfl, rounds_of_watched hlength, houtcome.symm⟩))
  · intro size process sizes hlength t
    refine ⟨startedIn_watched, ?_, ?_⟩
    · rw [commandsOf_watched, hlength]
    · rw [pausesOf_watched, hlength, pauses_eq_min]

/-- A copy that comes to its end between the only two checks for which there is time. No size can be told. -/
theorem cloneDisk_watches_twice :
    let h : Hypervisor := {}
    let unknown := Host.refused "stat: cannot statx"
    let t := h.watched "/base.img" "/vm.img" unknown 0 [.error .notEnoughRam] true
    h.settings.cloneInterval ≠ 0 ∧ (h.cloneDisk "/base.img" "/vm.img" 30).Runs t (.ok "/vm.img") ∧
      Copies "/base.img" true 1 t ∧
      commandsOf t = ["stat -c %s /base.img", "stat -c %s /vm.img"] ∧
      pausesOf t = [.ofSeconds 30] := by
  intro h unknown t
  have hinterval : h.settings.cloneInterval ≠ 0 := by decide
  obtain ⟨-, -, hruns, hcounts⟩ := cloneDisk_watches hinterval "/base.img" "/vm.img" 30 1
  have hmost : 30 / h.settings.cloneInterval = 1 := by decide
  rw [hmost] at hruns hcounts
  obtain ⟨hrun, hcopies⟩ := (hruns t (.ok "/vm.img")).2 ⟨unknown, 0, [.error .notEnoughRam], rfl, rfl, rfl⟩
  obtain ⟨-, hcommands, hpauses⟩ := hcounts unknown 0 [.error .notEnoughRam] rfl
  exact ⟨hinterval, hrun, hcopies, hcommands, hpauses⟩

end VirtHost.Hypervisor
