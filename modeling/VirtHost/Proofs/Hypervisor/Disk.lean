import VirtHost.Hypervisor.Disk
import VirtHost.Proofs.Host.Poll

/-! # Runs that copy a disk

* `finite_cloneDisk`: a copy that is looked at in intervals ends, or is given up.
* `uses_cloneDisk`: what a copy asks the host for.
* `eq_of_runs_cloneDisk`: a copy is where it was asked for.
-/

namespace VirtHost.Hypervisor
set_option autoImplicit false

variable {h : Hypervisor} {source destination : String} {seconds : Nat}

theorem finite_fileSize? (path : String) : (Action.ofProgram (fileSize? path)).Finite := by
  refine Action.Finite.ofProgram (Program.Finite.bind (Action.finite_execute _ _) fun outcome => ?_)
  split <;> exact trivial

theorem finite_isCopied (process : Nat) (destination : String) :
    (isCopied process destination).Finite := by
  refine Action.Finite.bind (a := Host.isRunning process) (fun _ => trivial) fun running => ?_
  split
  · exact (finite_fileSize? destination).bind fun _ => Action.finite_pure false
  · exact Action.finite_pure true

theorem finite_cloneDisk (hinterval : h.settings.cloneInterval ≠ 0) :
    (h.cloneDisk source destination seconds).Finite := by
  refine Action.Finite.bind (a := Host.fileExists source) (fun _ => trivial) fun found => ?_
  split
  · refine (finite_fileSize? source).bind fun _ => ?_
    refine Action.Finite.bind (a := Host.start _) (fun _ => trivial) fun process => ?_
    refine (Poll.finite_await (Poll.millis_ne_zero hinterval)
      (finite_isCopied process destination)).bind fun finished => ?_
    split
    · exact Action.finite_pure destination
    · exact Action.finite_throw _
  · exact Action.finite_throw _

section
variable {allowed : Host.Request → Prop}

theorem uses_fileSize? {path : String}
    (hsize : allowed (.execute (Command.fileSize path) ({} : Host.Options).anyCode)) :
    (Action.ofProgram (fileSize? path)).Uses allowed := by
  refine Action.Uses.ofProgram (Program.Uses.bind (Action.uses_execute hsize) fun outcome => ?_)
  split <;> exact trivial

theorem uses_cloneDisk (hexists : allowed (.fileExists source))
    (hsize : ∀ path ∈ [source, destination],
      allowed (.execute (Command.fileSize path) ({} : Host.Options).anyCode))
    (hstart : allowed (.start (Command.copyFile source destination) false))
    (hrunning : ∀ process, allowed (.isRunning process)) (hsleep : ∀ time, allowed (.sleep time)) :
    (h.cloneDisk source destination seconds).Uses allowed := by
  refine Action.Uses.bind (a := Host.fileExists source) ⟨hexists, fun _ => trivial⟩ fun found => ?_
  split
  · refine (uses_fileSize? (hsize source (by simp))).bind fun _ => ?_
    refine Action.Uses.bind (a := Host.start _) ⟨hstart, fun _ => trivial⟩ fun process => ?_
    have hcopied : (isCopied process destination).Uses allowed := by
      refine Action.Uses.bind (a := Host.isRunning process) ⟨hrunning process, fun _ => trivial⟩
        fun running => ?_
      split
      · exact (uses_fileSize? (hsize destination (by simp))).bind fun _ => Action.uses_pure false
      · exact Action.uses_pure true
    refine (Poll.uses_await hcopied hsleep).bind fun finished => ?_
    split
    · exact Action.uses_pure destination
    · exact Action.uses_throw _
  · exact Action.uses_throw _

end

theorem eq_of_runs_cloneDisk {t : List Exchange} {path : String}
    (hrun : (h.cloneDisk source destination seconds).Runs t (.ok path)) : path = destination := by
  obtain ⟨_, v, found, rfl, -, hv⟩ := Action.runs_bind_ok.1 hrun
  split at hv
  · obtain ⟨_, v, _, rfl, -, hv⟩ := Action.runs_bind_ok.1 hv
    obtain ⟨_, v, process, rfl, -, hv⟩ := Action.runs_bind_ok.1 hv
    obtain ⟨_, v, finished, rfl, -, hv⟩ := Action.runs_bind_ok.1 hv
    split at hv
    · exact Except.ok.inj (Action.runs_pure.1 hv).2
    · cases (Action.runs_throw.1 hv).2
  · cases (Action.runs_throw.1 hv).2

end VirtHost.Hypervisor
