import VirtHost.Proofs.Host.PollRounds
import VirtHost.Proofs.Hypervisor.Lifecycle
import VirtHost.Proofs.Hypervisor.Printed
import VirtHost.Proofs.Listing.Record

/-! # Reported states

* `Host.record`: the reply of a host that is asked for the record of a virtual machine.
* `run_awaitState_of_reported`: a wait for a state is over at once if the record has it.
* `record_read_back`: what is read from a printed record, and what a wait makes of it.
-/

namespace VirtHost
set_option autoImplicit false

/-- The reply of a host to a query for the record of a virtual machine, and the state after it. -/
def Host.record {σ : Type} (host : Host σ) (s : σ) (v : Virsh) (name : String) :
    Except Error Host.Completion × σ :=
  host s (.execute ("virsh " ++ ("dominfo " ++ name)) v.options)

namespace Hypervisor
open Listing (IsField ShowsField LacksField)
open Text (Among Lined)

section
variable {σ : Type} {host : Host σ} {s : σ} {h : Hypervisor} {name report : String} {state : Vm.State}

theorem run_isInState (rounds : Nat) (hprints : Prints report (host.record s h.tool name).1) :
    (h.isInState name state).attempt.run host rounds s =
      some (.ok (decide ((Listing.status report).state? = some state)), (host.record s h.tool name).2) := by
  obtain ⟨c, rfl, hcommand⟩ := run_execute_of_prints rounds rfl hprints
  have hstatus : (h.tool.status name).attempt.run host rounds s =
      some (.ok (Listing.status c.stdout), (host.record s h.tool name).2) :=
    Action.run_bind_of_ok hcommand
  exact Action.run_bind_of_ok hstatus

/-- The only request is the one for the record. -/
theorem run_awaitState_of_reported (timeout : Duration) (rounds : Nat)
    (hprints : Prints report (host.record s h.tool name).1)
    (hstate : (Listing.status report).state? = some state) :
    (h.awaitState name state timeout).attempt.run host (rounds + 1) s =
      some (.ok true, (host.record s h.tool name).2) := by
  apply Poll.run_await_of_true
  rw [run_isInState (rounds + 1) hprints, hstate, decide_eq_true rfl]

end

/-- **Records read back.** From a record exactly its fields are read, in order and with repetitions. A lookup
finds the first field of a name. If the first field that tells the state has the text of a state, then that
is the state, and a wait for it is over with success at the first look at the record. -/
theorem record_read_back {fields : List (String × String)} {ls : List (List Char)} {text : String}
    (hfields : ∀ f ∈ fields, IsField f) (hls : Among ShowsField LacksField fields ls)
    (htext : Lined ls text) :
    Listing.status text = ⟨fields⟩ ∧
    (∀ key value, (Listing.status text).get? key = some value ↔ Vm.FirstOf fields key value) ∧
    (∀ key, (Listing.status text).get? key = none ↔ ∀ f ∈ fields, f.1 ≠ key) ∧
    ∀ raw, Vm.FirstOf fields "State" (Vm.State.parse raw).text →
      (Listing.status text).state? = some (Vm.State.parse raw) ∧
      ∀ (h : Hypervisor) (name : String) (timeout : Duration) {σ : Type} (host : Host σ) (s : σ) (rounds : Nat),
        Prints text (host.record s h.tool name).1 →
        (h.awaitState name (Vm.State.parse raw) timeout).attempt.run host (rounds + 1) s =
          some (.ok true, (host.record s h.tool name).2) := by
  have hstatus := Listing.status_of_lined hfields hls htext
  have hfirst (key value : String) :
      (Listing.status text).get? key = some value ↔ Vm.FirstOf fields key value := by
    rw [hstatus, Vm.Status.get?_eq_some_iff]
  refine ⟨hstatus, hfirst, fun key => ?_, fun raw hraw => ?_⟩
  · rw [hstatus, Vm.Status.get?, Option.map_eq_none_iff]
    simp
  · have hstate : (Listing.status text).state? = some (Vm.State.parse raw) := by
      rw [Vm.Status.state?, (hfirst _ _).2 hraw, Option.map_some, Vm.State.parse_text_parse]
    exact ⟨hstate, fun h name timeout σ host s rounds hprints =>
      run_awaitState_of_reported timeout rounds hprints hstate⟩

/-- The lines of a record with a repeated field, an empty value, a value with colons and lines that show no
field. -/
def recordLines : List (List Char) :=
  ["record".toList, "  Id: 7 ".toList, "State:\t shut off\r".toList, " : lost".toList,
    "Start:12:30:05".toList, "Label:".toList, "State: running".toList, []]

/-- The fields of that record. -/
def recordFields : List (String × String) :=
  [("Id", "7"), ("State", "shut off"), ("Start", "12:30:05"), ("Label", ""), ("State", "running")]

theorem record_read_back_repeated :
    let text := String.ofList (Text.join ['\n'] recordLines)
    Listing.status text = ⟨recordFields⟩ ∧ Vm.FirstOf recordFields "State" "shut off" ∧
      (Listing.status text).state? = some .shutOff ∧
      (({} : Hypervisor).awaitState "vm" .shutOff ⟨0⟩).attempt.run (printing text) 1 () =
        some (.ok true, ()) := by
  intro text
  have hfields : ∀ f ∈ recordFields, IsField f := by decide +kernel
  have hlines : Among ShowsField LacksField recordFields recordLines := by
    have hshows (f : String × String) (indent gap behind : String)
        (h : Text.IsGap indent.toList ∧ Text.IsGap gap.toList ∧ Text.IsGap behind.toList) :
        ShowsField f (indent.toList ++ (f.1.toList ++ ':' :: (gap.toList ++ (f.2.toList ++ behind.toList)))) :=
      ⟨_, _, _, h.1, h.2.1, h.2.2, rfl⟩
    refine .other (.inl (by decide)) (.shown (hshows ("Id", "7") "  " " " " " (by decide))
      (.shown (hshows ("State", "shut off") "" "\t " "\r" (by decide))
      (.other (.inr ⟨[' '], " lost".toList, by decide, rfl⟩)
      (.shown (hshows ("Start", "12:30:05") "" "" "" (by decide))
      (.shown (hshows ("Label", "") "" "" "" (by decide))
      (.shown (hshows ("State", "running") "" " " "" (by decide))
      (.other (.inl (by decide)) .nil)))))))
  have htext : Lined recordLines text := ⟨String.toList_ofList, by decide⟩
  have hfirst : Vm.FirstOf recordFields "State" "shut off" :=
    ⟨[("Id", "7")], _, rfl, by decide⟩
  have hparse : Vm.State.parse "shut off" = .shutOff := by decide +kernel
  obtain ⟨hstatus, -, -, hstate⟩ := record_read_back hfields hlines htext
  obtain ⟨hread, hawait⟩ := hstate "shut off" (by rw [hparse]; exact hfirst)
  rw [hparse] at hread hawait
  exact ⟨hstatus, hfirst, hread, hawait {} "vm" ⟨0⟩ (printing text) () 0 ⟨_, rfl, rfl, rfl⟩⟩

end Hypervisor
end VirtHost
