import VirtHost.Proofs.Host.PollRounds
import VirtHost.Proofs.Hypervisor.Disk
import VirtHost.Proofs.Hypervisor.Lifecycle
import VirtHost.Proofs.Text.Scan

/-! # Settings that bound polling

A wait for a state asks for the state at most once for each interval in its timeout, and once more, and a
wait for a copy checks it as often. This needs an interval, and nothing in the settings but the timeout
and the interval counts. Without an interval there is no bound at all, and a host that never reaches the
state is asked for ever; validation does not look at the intervals.

* `Settings.BoundsWaits`, `Settings.BoundsClones`: a number bounds the polls on every host.
* `Settings.WaitsEndless`, `Settings.ClonesEndless`: no number does, and some host is polled for ever.
* `Settings.polls_bounded_iff`: which settings bound their polls.
-/

namespace VirtHost
set_option autoImplicit false

/-- The queries for the state of a virtual machine. -/
def Host.isStateQuery : Host.Request → Bool
  | .execute command _ => Text.startsWith command "virsh dominfo "
  | _ => false

/-- The checks whether a process is still running. -/
def Host.isProcessCheck : Host.Request → Bool
  | .isRunning _ => true
  | _ => false

/-- The replies of a host on which every command succeeds without output and no process ever ends. -/
def Host.stalledReply : (request : Host.Request) → request.Reply
  | .execute command _ => .ok ⟨command, 0, "", ""⟩
  | .isRunning _ => .ok true
  | .fileExists _ => .ok true
  | request => Host.anyReply request

/-- That host. -/
def Host.stalled : Host Unit := fun _ request =>
  (stalledReply request, ())

theorem Host.isStateQuery_dominfo (name : String) (options : Host.Options) :
    isStateQuery (.execute ("virsh " ++ ("dominfo " ++ name)) options) = true := by
  have hhead : Text.startsWith ("virsh dominfo " ++ name) "virsh dominfo "
      = Text.startsWith "virsh dominfo " "virsh dominfo " :=
    Text.startsWith_append (Nat.le_refl _)
  have hsplit : "virsh " ++ ("dominfo " ++ name) = "virsh dominfo " ++ name := by
    rw [← String.append_assoc]
    rfl
  rw [isStateQuery, hsplit, hhead]
  decide

namespace Hypervisor
open Host (isStateQuery isProcessCheck stalled)

variable {h : Hypervisor}

/-! ## Waiting for a state -/

theorem atMost_isInState (name : String) (state : Vm.State) :
    (h.isInState name state).AtMost isStateQuery 1 := by
  intro t r hrun
  obtain ⟨reply, rfl, -⟩ := runs_isInState.1 hrun
  exact List.countP_le_length

theorem bounded_awaitState (hinterval : h.settings.vmStateInterval ≠ 0) (name : String)
    (state : Vm.State) (seconds : Nat) :
    (h.awaitState name state (Duration.ofSeconds seconds)).Bounded isStateQuery
      (seconds / h.settings.vmStateInterval + 1) := by
  have hbounded := Poll.bounded_await
    (p := ⟨Duration.ofSeconds seconds, Duration.ofSeconds h.settings.vmStateInterval⟩)
    (Poll.millis_ne_zero hinterval) (h.finite_isInState name state) (atMost_isInState name state)
    (fun _ => rfl)
  have hseconds : (Duration.ofSeconds seconds).millis
      / (Duration.ofSeconds h.settings.vmStateInterval).millis
      = seconds / h.settings.vmStateInterval :=
    Nat.mul_div_mul_right seconds h.settings.vmStateInterval (by omega)
  rw [hseconds] at hbounded
  exact hbounded

/-- A state that an empty report does not show can be waited for without end. -/
theorem endless_awaitState (hinterval : h.settings.vmStateInterval = 0) (name : String)
    (state : Vm.State) (timeout : Duration) :
    (h.awaitState name state timeout).Endless isStateQuery := by
  have hp : (Duration.ofSeconds h.settings.vmStateInterval).millis = 0 := by
    rw [hinterval]
    rfl
  have hnone : (Listing.status "").state? = none := by decide
  have hunseen : decide ((Listing.status "").state? = some state) = false := by
    rw [hnone]
    rfl
  constructor
  · intro n
    have hfalse : (h.isInState name state).Runs
        [h.tool.ran ("dominfo " ++ name) (.ok ⟨"", 0, "", ""⟩)] (.ok false) :=
      runs_isInState.2 ⟨_, rfl, congrArg Except.ok hunseen.symm⟩
    have herror : (h.isInState name state).Runs
        [h.tool.ran ("dominfo " ++ name) (.error .notEnoughRam)] (.error .notEnoughRam) :=
      runs_isInState.2 ⟨_, rfl, rfl⟩
    have hone : 0 < requestsOf isStateQuery
        [h.tool.ran ("dominfo " ++ name) (.ok ⟨"", 0, "", ""⟩)] :=
      List.countP_pos_iff.2 ⟨_, List.mem_singleton_self _, Host.isStateQuery_dominfo name _⟩
    obtain ⟨t, hrun, hn⟩ := Poll.exceeds_await (p := ⟨timeout, _⟩) hp hfalse hone herror (by simp) n
    exact ⟨t, _, hrun, hn⟩
  · refine ⟨stalled, Action.not_returns_of_run_eq_none fun rounds => ?_⟩
    refine Poll.run_await_eq_none (p := ⟨timeout, _⟩) hp (fun s => ⟨(), ?_⟩) ()
    have hrun : (h.isInState name state).attempt.run stalled rounds s
        = some (.ok (decide ((Listing.status "").state? = some state)), ()) := rfl
    rw [hrun, hunseen]

/-! ## Waiting for a copy -/

theorem uses_fileSize?_isProcessCheck (path : String) :
    (Action.ofProgram (fileSize? path)).Uses fun request => isProcessCheck request = false :=
  uses_fileSize? rfl

theorem atMost_isCopied (process : Nat) (destination : String) :
    (isCopied process destination).AtMost isProcessCheck 1 := by
  refine Action.AtMost.before (a := Host.isRunning process) ?_ fun running => ?_
  · rintro t r ⟨reply, rest, rfl, rfl, rfl⟩
    exact List.countP_le_length
  · split
    · exact (uses_fileSize?_isProcessCheck destination).bind fun _ => Action.uses_pure false
    · exact Action.uses_pure true

theorem bounded_cloneDisk (hinterval : h.settings.cloneInterval ≠ 0) (source destination : String)
    (seconds : Nat) :
    (h.cloneDisk source destination seconds).Bounded isProcessCheck
      (seconds / h.settings.cloneInterval + 1) where
  returns host s := (finite_cloneDisk hinterval).returns host s
  atMost := by
    have hseconds : (Duration.ofSeconds seconds).millis
        / (Duration.ofSeconds h.settings.cloneInterval).millis = seconds / h.settings.cloneInterval :=
      Nat.mul_div_mul_right seconds h.settings.cloneInterval (by omega)
    refine Action.AtMost.after (a := Host.fileExists source) ⟨rfl, fun _ => trivial⟩ fun found => ?_
    split
    · refine Action.AtMost.after (uses_fileSize?_isProcessCheck source) fun _ => ?_
      refine Action.AtMost.after (a := Host.start _) ⟨rfl, fun _ => trivial⟩ fun process => ?_
      have hpoll := (Poll.bounded_await
        (p := ⟨Duration.ofSeconds seconds, Duration.ofSeconds h.settings.cloneInterval⟩)
        (Poll.millis_ne_zero hinterval) (finite_isCopied process destination)
        (atMost_isCopied process destination) fun _ => rfl).atMost
      rw [hseconds] at hpoll
      refine hpoll.before fun finished => ?_
      split
      · exact Action.uses_pure destination
      · exact Action.uses_throw _
    · exact Action.atMost_of_uses (Action.uses_throw _) _

/-- A size can be looked up with some reply. -/
theorem exists_runs_fileSize? (path : String) :
    ∃ t size, (Action.ofProgram (fileSize? path)).Runs t (.ok size) := by
  obtain ⟨t, r, s', hrun, -⟩ := (finite_fileSize? path).returns stalled ()
  obtain ⟨size, -, rfl⟩ := Action.runs_ofProgram.1 hrun
  exact ⟨t, size, hrun⟩

theorem runs_isRunning {process : Nat} {r : Except Error Bool} :
    (Host.isRunning process).Runs [⟨.isRunning process, r⟩] r :=
  ⟨r, [], rfl, rfl, rfl⟩

theorem runs_isCopied_false {process : Nat} {destination : String} {t : List Exchange}
    {size : Option Nat} (hsize : (Action.ofProgram (fileSize? destination)).Runs t (.ok size)) :
    (isCopied process destination).Runs (⟨.isRunning process, .ok true⟩ :: t) (.ok false) := by
  refine Action.runs_bind_ok.2 ⟨[⟨.isRunning process, .ok true⟩], t, true, rfl, runs_isRunning, ?_⟩
  rw [if_pos rfl]
  exact Action.runs_bind_ok.2 ⟨t, [], size, (List.append_nil t).symm, hsize, rfl, rfl⟩

theorem runs_isCopied_true {process : Nat} {destination : String} :
    (isCopied process destination).Runs [⟨.isRunning process, .ok false⟩] (.ok true) :=
  Action.runs_bind_ok.2 ⟨[⟨.isRunning process, .ok false⟩], [], false, rfl, runs_isRunning, rfl, rfl⟩

/-- A copy that does not end can be waited for without end. -/
theorem endless_cloneDisk (hinterval : h.settings.cloneInterval = 0) (source destination : String)
    (seconds : Nat) : (h.cloneDisk source destination seconds).Endless isProcessCheck := by
  have hp : (Duration.ofSeconds h.settings.cloneInterval).millis = 0 := by
    rw [hinterval]
    rfl
  constructor
  · intro n
    obtain ⟨u, before, hu⟩ := exists_runs_fileSize? source
    obtain ⟨w, during, hw⟩ := exists_runs_fileSize? destination
    have hone : 0 < requestsOf isProcessCheck (⟨.isRunning 0, .ok true⟩ :: w) :=
      List.countP_pos_iff.2 ⟨_, List.mem_cons_self, rfl⟩
    obtain ⟨t, hpoll, hn⟩ := Poll.exceeds_await (p := ⟨Duration.ofSeconds seconds, _⟩) hp
      (runs_isCopied_false hw) hone runs_isCopied_true (by simp) n
    refine ⟨[⟨.fileExists source, .ok true⟩] ++ (u ++
      ([⟨.start (Command.copyFile source destination) false, .ok 0⟩] ++ (t ++ []))),
      .ok destination, ?_, ?_⟩
    · refine Action.runs_bind_ok.2 ⟨_, _, true, rfl, ⟨.ok true, [], rfl, rfl, rfl⟩, ?_⟩
      rw [if_pos rfl]
      refine Action.runs_bind_ok.2 ⟨u, _, before, rfl, hu, ?_⟩
      refine Action.runs_bind_ok.2 ⟨_, _, 0, rfl, ⟨.ok 0, [], rfl, rfl, rfl⟩, ?_⟩
      exact Action.runs_bind_ok.2 ⟨t, [], true, rfl, hpoll, rfl, rfl⟩
    · simp only [requestsOf_append]
      omega
  · refine ⟨stalled, Action.not_returns_of_run_eq_none fun rounds => ?_⟩
    have hpoll : ((Poll.await ⟨Duration.ofSeconds seconds,
        Duration.ofSeconds h.settings.cloneInterval⟩ (isCopied 0 destination)).attempt.run stalled
          rounds ()) = none :=
      Poll.run_await_eq_none hp (fun _ => ⟨(), rfl⟩) ()
    have hexists : (Host.fileExists source).attempt.run stalled rounds () = some (.ok true, ()) := rfl
    have hsize : ∃ size, (Action.ofProgram (fileSize? source)).attempt.run stalled rounds ()
        = some (.ok size, ()) := ⟨_, rfl⟩
    obtain ⟨size, hsize⟩ := hsize
    have hstart : (Host.start (Command.copyFile source destination)).attempt.run stalled rounds ()
        = some (.ok 0, ()) := rfl
    rw [cloneDisk, Action.run_bind_of_ok hexists, if_pos rfl,
      Action.run_bind_of_ok hsize, Action.run_bind_of_ok hstart, Action.run_bind, hpoll]
    rfl

end Hypervisor

/-! ## Settings -/

namespace Settings
open Hypervisor (ofSettings)
open Host (isStateQuery isProcessCheck)

/-- On every host a wait for a state ends after at most `most` queries for it. -/
def BoundsWaits (s : Settings) (most : Nat) : Prop :=
  ∀ name, ((ofSettings s).awaitRunning name).Bounded isStateQuery most ∧
    ((ofSettings s).awaitShutOff name).Bounded isStateQuery most

/-- On every host the wait for a copy ends after at most `most` checks of it. -/
def BoundsClones (s : Settings) (most : Nat) : Prop :=
  ∀ source destination,
    ((ofSettings s).cloneDisk source destination s.cloneTimeout).Bounded isProcessCheck most

def WaitsEndless (s : Settings) : Prop :=
  ∀ name, ((ofSettings s).awaitRunning name).Endless isStateQuery ∧
    ((ofSettings s).awaitShutOff name).Endless isStateQuery

def ClonesEndless (s : Settings) : Prop :=
  ∀ source destination,
    ((ofSettings s).cloneDisk source destination s.cloneTimeout).Endless isProcessCheck

theorem boundsWaits {s : Settings} (hinterval : s.vmStateInterval ≠ 0) :
    s.BoundsWaits (s.vmStateTimeout / s.vmStateInterval + 1) := fun name =>
  ⟨Hypervisor.bounded_awaitState (h := ofSettings s) hinterval name .running s.vmStateTimeout,
    Hypervisor.bounded_awaitState (h := ofSettings s) hinterval name .shutOff s.vmStateTimeout⟩

theorem waitsEndless {s : Settings} (hinterval : s.vmStateInterval = 0) : s.WaitsEndless := fun name =>
  ⟨Hypervisor.endless_awaitState (h := ofSettings s) hinterval name .running _,
    Hypervisor.endless_awaitState (h := ofSettings s) hinterval name .shutOff _⟩

theorem boundsClones {s : Settings} (hinterval : s.cloneInterval ≠ 0) :
    s.BoundsClones (s.cloneTimeout / s.cloneInterval + 1) := fun source destination =>
  Hypervisor.bounded_cloneDisk (h := ofSettings s) hinterval source destination s.cloneTimeout

theorem clonesEndless {s : Settings} (hinterval : s.cloneInterval = 0) : s.ClonesEndless :=
  fun source destination =>
    Hypervisor.endless_cloneDisk (h := ofSettings s) hinterval source destination s.cloneTimeout

theorem WaitsEndless.not_boundsWaits {s : Settings} (h : s.WaitsEndless) (most : Nat) :
    ¬ s.BoundsWaits most := fun hbounds =>
  (h "").1.not_bounded most (hbounds "").1

theorem ClonesEndless.not_boundsClones {s : Settings} (h : s.ClonesEndless) (most : Nat) :
    ¬ s.BoundsClones most := fun hbounds =>
  (h "" "").not_bounded most (hbounds "" "")

/-- **Which settings bound polling.** A wait for a state is bounded exactly if its interval is not zero,
and then by the timeout over the interval, and one; without an interval nothing bounds it. The same holds
of a wait for a copy. Validation accepts the same settings whatever the intervals are. -/
theorem polls_bounded_iff (s : Settings) :
    (s.BoundsWaits (s.vmStateTimeout / s.vmStateInterval + 1) ↔ s.vmStateInterval ≠ 0) ∧
      (s.WaitsEndless ↔ s.vmStateInterval = 0) ∧
      (s.BoundsClones (s.cloneTimeout / s.cloneInterval + 1) ↔ s.cloneInterval ≠ 0) ∧
      (s.ClonesEndless ↔ s.cloneInterval = 0) ∧
      ∀ state clone : Nat,
        ({ s with vmStateInterval := state, cloneInterval := clone } : Settings).validate
          = s.validate := by
  refine ⟨⟨fun hbounds hzero => ?_, boundsWaits⟩, ⟨fun hendless => ?_, waitsEndless⟩,
    ⟨fun hbounds hzero => ?_, boundsClones⟩, ⟨fun hendless => ?_, clonesEndless⟩, fun _ _ => rfl⟩
  · exact (waitsEndless hzero).not_boundsWaits _ hbounds
  · by_contra hinterval
    exact hendless.not_boundsWaits _ (boundsWaits hinterval)
  · exact (clonesEndless hzero).not_boundsClones _ hbounds
  · by_contra hinterval
    exact hendless.not_boundsClones _ (boundsClones hinterval)

/-- Settings in which one of the intervals is missing are accepted, and bound its polls by no number. -/
theorem accepted_without_bound :
    let noWaits : Settings := { vmStateInterval := 0 }
    let noClones : Settings := { cloneInterval := 0 }
    (noWaits.validate = .ok () ∧ ∀ most, ¬ noWaits.BoundsWaits most) ∧
      (noClones.validate = .ok () ∧ ∀ most, ¬ noClones.BoundsClones most) :=
  ⟨⟨by decide, (waitsEndless rfl).not_boundsWaits⟩, by decide, (clonesEndless rfl).not_boundsClones⟩

end Settings
end VirtHost
