import VirtHost.Hypervisor.VirtualFunctions
import VirtHost.Proofs.Host.Action

/-! # Writing the number of virtual functions

* `PhysicalFunction`: a device named by its interface or by its address, and its `setCount`.
* `Writing`: the numbers that are written until one is accepted or an error is final.
* `Counted`: what a listing says about the number of virtual functions.
* `runs_setCount`, `runs_setCountIn`: the order in which these are asked for.
-/

namespace VirtHost.Hypervisor
open Host (Succeeded)
open Text (decimal)
set_option autoImplicit false

/-- A physical function, named by its interface or by its address. -/
inductive PhysicalFunction
  | interface (name : String)
  | address (pci : Pci.Address)

namespace PhysicalFunction

/-- The directory of its device. -/
def directory : PhysicalFunction → String
  | interface name => "/sys/class/net/" ++ name ++ "/device"
  | address pci => "/sys/bus/pci/devices/" ++ pci.text

/-- Sets its number of virtual functions and checks it if asked to. -/
def setCount (h : Hypervisor) (count : Nat) (check : Bool) : PhysicalFunction → Action Unit
  | interface name => h.setCount name count check
  | address pci => h.setCountAt pci count check

end PhysicalFunction

/-! ## Writing -/

/-- The reply of a device that has to be set to no virtual functions first. -/
def Busy (reply : Except Error Host.Completion) : Prop :=
  ∃ c, reply = .ok c ∧ c.code = 1 ∧ Text.includes c.stderr deviceBusy = true

@[simp] theorem busy_ok {c : Host.Completion} :
    Busy (.ok c) ↔ c.code = 1 ∧ Text.includes c.stderr deviceBusy = true := by
  simp [Busy]

/-- How a number is written that may be rejected because the device is busy. -/
def firstOptions (h : Hypervisor) : Host.Options :=
  (({} : Host.Options).inShell.within (Duration.ofSeconds h.settings.sysfsTimeout)).expecting [0, 1]

/-- How the other numbers are written. -/
def laterOptions (h : Hypervisor) : Host.Options :=
  ({} : Host.Options).inShell.within (Duration.ofSeconds h.settings.sysfsTimeout)

/-- The exchange in which a number of virtual functions is written. -/
def wrote (directory : String) (options : Host.Options) (number : Nat)
    (reply : Except Error Host.Completion) : Exchange :=
  .ran ("echo " ++ decimal number ++ " > " ++ directory ++ "/sriov_numvfs") options reply

/-- The exchanges in which a number is written, and the result of that. -/
inductive Writing (h : Hypervisor) (directory : String) (count : Nat) :
    List Exchange → Except Error Unit → Prop
  | once {first : Except Error Host.Completion} {r : Except Error Unit} (hfirst : ¬ Busy first)
      (hr : r = .ok () ↔ Succeeded first) :
      Writing h directory count [wrote directory h.firstOptions count first] r
  | reset {first second : Except Error Host.Completion} {e : Error} (hfirst : Busy first)
      (hsecond : ¬ Succeeded second) :
      Writing h directory count [wrote directory h.firstOptions count first,
        wrote directory h.laterOptions 0 second] (.error e)
  | again {first second third : Except Error Host.Completion} {r : Except Error Unit}
      (hfirst : Busy first) (hsecond : Succeeded second) (hr : r = .ok () ↔ Succeeded third) :
      Writing h directory count [wrote directory h.firstOptions count first,
        wrote directory h.laterOptions 0 second, wrote directory h.laterOptions count third] r

section
variable {h : Hypervisor} {directory command : String} {count : Nat} {check : Bool}
  {t : List Exchange} {r : Except Error Unit} {options : Host.Options}

theorem firstOptions_outcome {first : Except Error Host.Completion} {c : Host.Completion} :
    h.firstOptions.outcome first = .ok c ↔ first = .ok c ∧ (c.code = 0 ∨ c.code = 1) := by
  rw [Host.Options.outcome_eq_ok_iff_accepts]
  simp [Host.Options.accepts, firstOptions, Host.Options.expecting]

/-- The ways in which a number is written. -/
theorem runs_writeCount (hrun : (h.writeCount directory count).Runs t r) :
    Writing h directory count t r := by
  rcases Action.runs_bind.1 hrun with ⟨e, he, rfl⟩ | ⟨u, v, c, rfl, hu, hv⟩
  · obtain ⟨first, rfl, hfirst⟩ := Action.runs_execute.1 he
    have hrejected : ∀ c, first = .ok c → ¬ (c.code = 0 ∨ c.code = 1) := by
      intro c hc hcode
      have := (firstOptions_outcome (h := h)).2 ⟨hc, hcode⟩
      rw [show h.firstOptions.outcome first = .error e from hfirst.symm] at this
      cases this
    refine .once ?_ ?_
    · rintro ⟨c, hc, hcode, -⟩
      exact hrejected c hc (.inr hcode)
    · simp only [reduceCtorEq, false_iff]
      rintro ⟨c, hc, hcode⟩
      exact hrejected c hc (.inl hcode)
  · obtain ⟨first, rfl, hfirst⟩ := Action.runs_execute.1 hu
    obtain ⟨rfl, hcode⟩ := (firstOptions_outcome (h := h)).1 hfirst.symm
    split at hv
    · rename_i hzero
      obtain ⟨rfl, rfl⟩ := Action.runs_pure.1 hv
      exact .once (by simp [hzero]) (by simp [hzero])
    · rename_i hnonzero
      have hone : c.code = 1 := hcode.resolve_left hnonzero
      split at hv
      · rename_i hbusy
        have hbusy : Busy (.ok c) := busy_ok.2 ⟨hone, hbusy⟩
        rcases Action.runs_bind.1 hv with ⟨e, he, rfl⟩ | ⟨v, w, x, rfl, hv, hw⟩
        · obtain ⟨second, rfl, hsecond⟩ := Action.runs_perform_succeeded rfl he
          exact .reset hbusy (by simpa using hsecond)
        · obtain ⟨second, rfl, hsecond⟩ := Action.runs_perform_succeeded rfl hv
          obtain ⟨third, rfl, hthird⟩ := Action.runs_perform_succeeded rfl hw
          exact .again hbusy (hsecond.1 rfl) hthird
      · rename_i hother
        obtain ⟨rfl, rfl⟩ := Action.runs_throw.1 hv
        exact .once (by simp [hother]) (by simp [hnonzero])

/-! ## Counting -/

/-- The reply of a listing command from which some number of virtual functions is read off. -/
def Counted (reply : Except Error Host.Completion) (k : Nat) : Prop :=
  ∃ c, reply = .ok c ∧
    ((c.code = 0 ∧ ∃ links, Listing.virtualFunctionLinks c.stdout = .ok links ∧ links.length = k) ∨
      (c.code ≠ 0 ∧ Text.includes c.stderr noSuchFile = true ∧ k = 0))

/-- The exchange in which the virtual functions are listed. -/
def listed (directory : String) (reply : Except Error Host.Completion) : Exchange :=
  .ran (Command.listVirtualFunctions directory) ({} : Host.Options).inShell.anyCode reply

theorem runs_countFunctions {r : Except Error Nat} (hrun : (countFunctions directory).Runs t r) :
    ∃ reply, t = [listed directory reply] ∧ ∀ k, Counted reply k → r = .ok k := by
  rcases Action.runs_bind.1 hrun with ⟨e, he, rfl⟩ | ⟨u, v, c, rfl, hu, hv⟩
  · obtain ⟨reply, rfl, hreply⟩ := Action.runs_execute.1 he
    refine ⟨reply, rfl, ?_⟩
    rintro k ⟨c, rfl, -⟩
    cases hreply
  · obtain ⟨reply, rfl, hreply⟩ := Action.runs_execute.1 hu
    obtain ⟨rfl, -⟩ := Host.Options.outcome_eq_ok_iff_accepts.1 hreply.symm
    refine ⟨.ok c, ?_⟩
    split at hv
    · rename_i hzero
      obtain ⟨o, ho, rfl⟩ := Action.runs_bind_pure.1 hv
      obtain ⟨rfl, rfl⟩ := Action.runs_ofExcept.1 ho
      refine ⟨by rw [List.append_nil]; rfl, ?_⟩
      rintro k ⟨_, ⟨⟩, ⟨-, links, hlinks, rfl⟩ | ⟨hcode, -⟩⟩
      · rw [hlinks]
        rfl
      · exact absurd hzero hcode
    · rename_i hnonzero
      split at hv
      · obtain ⟨rfl, rfl⟩ := Action.runs_pure.1 hv
        refine ⟨by rw [List.append_nil]; rfl, ?_⟩
        rintro k ⟨_, ⟨⟩, ⟨hcode, -⟩ | ⟨-, -, rfl⟩⟩
        · exact absurd hcode hnonzero
        · rfl
      · rename_i hother
        obtain ⟨rfl, rfl⟩ := Action.runs_throw.1 hv
        refine ⟨by rw [List.append_nil]; rfl, ?_⟩
        rintro k ⟨_, ⟨⟩, ⟨hcode, -⟩ | ⟨-, hmissing, -⟩⟩
        · exact absurd hcode hnonzero
        · exact absurd hmissing hother

theorem runs_checkCountIn (hrun : (checkCountIn directory count).Runs t r) :
    ∃ reply, t = [listed directory reply] ∧ (Counted reply count → r = .ok ()) := by
  rcases Action.runs_bind.1 hrun with ⟨e, he, rfl⟩ | ⟨u, v, actual, rfl, hu, hv⟩
  · obtain ⟨reply, rfl, hreply⟩ := runs_countFunctions he
    refine ⟨reply, rfl, fun hcounted => ?_⟩
    cases hreply count hcounted
  · obtain ⟨reply, rfl, hreply⟩ := runs_countFunctions hu
    split at hv
    · obtain ⟨rfl, rfl⟩ := Action.runs_pure.1 hv
      exact ⟨reply, rfl, fun _ => rfl⟩
    · rename_i hne
      obtain ⟨rfl, rfl⟩ := Action.runs_throw.1 hv
      refine ⟨reply, rfl, fun hcounted => ?_⟩
      cases hreply count hcounted
      exact absurd rfl hne

/-! ## Setting -/

/-- A number is written, and checked after that if it was accepted. -/
theorem runs_setCountIn (hrun : (h.setCountIn directory count check).Runs t r) :
    (Writing h directory count t r ∧ (r = .ok () → check = false)) ∨
      ∃ u reply, t = u ++ [listed directory reply] ∧ Writing h directory count u (.ok ()) ∧
        (Counted reply count → r = .ok ()) := by
  rcases Action.runs_bind.1 hrun with ⟨e, he, rfl⟩ | ⟨u, v, x, rfl, hu, hv⟩
  · exact .inl ⟨runs_writeCount he, fun h => by cases h⟩
  · cases check with
    | true =>
      obtain ⟨reply, rfl, hreply⟩ := runs_checkCountIn hv
      exact .inr ⟨u, reply, rfl, runs_writeCount hu, hreply⟩
    | false =>
      obtain ⟨rfl, rfl⟩ := Action.runs_pure.1 hv
      rw [List.append_nil]
      exact .inl ⟨runs_writeCount hu, fun _ => rfl⟩

/-- The exchange in which an interface is looked for. -/
def lookedFor (name : String) (reply : Except Error Host.Completion) : Exchange :=
  .ran (Command.listInterface name) {} reply

/-- The exchanges before a number is written: an interface has to be found. -/
inductive Found : PhysicalFunction → List Exchange → Prop
  | interface {name : String} {reply : Except Error Host.Completion} (hreply : Succeeded reply) :
      Found (.interface name) [lookedFor name reply]
  | address {pci : Pci.Address} : Found (.address pci) []

/-- Nothing is written if the interface is not found. -/
theorem runs_setCount {f : PhysicalFunction} (hrun : (f.setCount h count check).Runs t r) :
    (∃ name reply e, f = .interface name ∧ t = [lookedFor name reply] ∧ ¬ Succeeded reply ∧
      r = .error e) ∨
      ∃ u v, t = u ++ v ∧ Found f u ∧ (h.setCountIn f.directory count check).Runs v r := by
  cases f with
  | address pci => exact .inr ⟨[], t, rfl, .address, hrun⟩
  | interface name =>
    rcases Action.runs_bind.1 hrun with ⟨e, he, rfl⟩ | ⟨u, v, x, rfl, hu, hv⟩
    · obtain ⟨o, ho, hr⟩ := Action.runs_withError.1 he
      obtain ⟨reply, rfl, hreply⟩ := Action.runs_perform_succeeded rfl ho
      refine .inl ⟨name, reply, e, rfl, rfl, fun hsucceeded => ?_, rfl⟩
      rw [hreply.2 hsucceeded] at hr
      cases hr
    · obtain ⟨o, ho, hr⟩ := Action.runs_withError.1 hu
      obtain ⟨reply, rfl, hreply⟩ := Action.runs_perform_succeeded rfl ho
      refine .inr ⟨_, v, rfl, .interface (hreply.1 ?_), hv⟩
      cases o with
      | error e => cases hr
      | ok x => rfl

theorem finite_checkCountIn (directory : String) (count : Nat) :
    (checkCountIn directory count).Finite := by
  have hcount : (countFunctions directory).Finite := by
    refine (Action.finite_execute _ _).bind fun c => ?_
    split
    · exact (Action.finite_ofExcept _).bind fun _ => Action.finite_pure _
    · split
      · exact Action.finite_pure 0
      · exact Action.finite_throw _
  refine hcount.bind fun actual => ?_
  split
  · exact Action.finite_pure ()
  · exact Action.finite_throw _

theorem finite_setCountIn (h : Hypervisor) (directory : String) (count : Nat) (check : Bool) :
    (h.setCountIn directory count check).Finite := by
  have hwrite : (h.writeCount directory count).Finite := by
    refine (Action.finite_execute _ _).bind fun c => ?_
    split
    · exact Action.finite_pure ()
    · split
      · exact (Action.finite_perform _ _).bind fun _ => Action.finite_perform _ _
      · exact Action.finite_throw _
  refine hwrite.bind fun _ => ?_
  cases check with
  | true => exact finite_checkCountIn directory count
  | false => exact Action.finite_pure ()

theorem finite_setCount (f : PhysicalFunction) : (f.setCount h count check).Finite := by
  cases f with
  | address pci => exact h.finite_setCountIn _ count check
  | interface name =>
    refine Action.Finite.bind ?_ fun _ => h.finite_setCountIn _ count check
    exact (Action.finite_perform _ _).withError _

end

end VirtHost.Hypervisor
