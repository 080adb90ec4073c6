import VirtHost.Proofs.Hypervisor.Printed
import VirtHost.Proofs.Host.Run
import VirtHost.Proofs.Listing.Details
import VirtHost.Hypervisor.VirtualFunctions

/-! # Virtual functions by MAC

* `Host.report`: the reply of a host that is asked about an interface.
* `run_idOfMac`: what comes of a search by MAC on a host.
* `details_read_back`: the virtual functions of a report, and each of them by its MAC.
-/

namespace VirtHost
set_option autoImplicit false

/-- The reply of a host to a query about an interface, and the state after it. -/
def Host.report {σ : Type} (host : Host σ) (s : σ) (interface : String) :
    Except Error Host.Completion × σ :=
  host s (.execute (Command.showLink interface) {})

namespace Hypervisor
open Listing (IsDetail ShowsDetail LacksDetail lowered isMac)
open Text (Among Lined)
open VirtualFunction (Detail)

/-- How it is said that no virtual function of an interface has a MAC. -/
def missingMac (interface mac : String) : Error :=
  .virtualFunction ("Not found VF with MAC " ++ mac ++ " on interface " ++ interface ++ ".")

section
variable {σ : Type} {host : Host σ} {s : σ} {text interface mac : String} {details : List Detail}
  (rounds : Nat)

theorem run_functionDetails (hdetails : Listing.virtualFunctionDetails text = .ok details)
    (h : Prints text (host.report s interface).1) :
    (functionDetails interface).attempt.run host rounds s =
      some (.ok details, (host.report s interface).2) := by
  obtain ⟨c, rfl, hcommand⟩ := run_execute_of_prints rounds rfl h
  refine (Action.run_bind_of_ok hcommand).trans ?_
  rw [hdetails]
  rfl

/-- The case of the MAC that is asked for does not matter. -/
theorem run_idOfMac (hmac : isMac mac.toList = true)
    (hdetails : Listing.virtualFunctionDetails text = .ok details)
    (h : Prints text (host.report s interface).1) :
    (idOfMac interface mac).attempt.run host rounds s =
      some ((details.find? (·.mac = mac.toLower)).elim (.error (missingMac interface mac.toLower))
        fun d => .ok d.id, (host.report s interface).2) := by
  rw [← Listing.lower_of_isMac hmac]
  refine (Action.run_bind_of_ok (run_functionDetails rounds hdetails h)).trans ?_
  cases details.find? (·.mac = Text.lower mac) <;> rfl

end

/-- **Details read back.** From a report exactly the virtual functions are read that its lines describe, in
order and with their MACs in lower case. If these differ in more than letter case, then each of them is
found by its MAC, whatever the case of its letters; a MAC that none of them has is reported. -/
theorem details_read_back {details : List Detail} {ls : List (List Char)} {text : String}
    (hdetails : ∀ d ∈ details, IsDetail d) (hls : Among ShowsDetail LacksDetail details ls)
    (htext : Lined ls text) :
    Listing.virtualFunctionDetails text = .ok (details.map lowered) ∧
    ∀ (interface mac : String), isMac mac.toList = true →
      ∀ {σ : Type} (host : Host σ) (s : σ) (rounds : Nat), Prints text (host.report s interface).1 →
        let run := (idOfMac interface mac).attempt.run host rounds s
        let after := (host.report s interface).2
        ((details.map fun d => d.mac.toLower).Nodup → ∀ d ∈ details, d.mac.toLower = mac.toLower →
          run = some (.ok d.id, after)) ∧
        ((∀ d ∈ details, d.mac.toLower ≠ mac.toLower) →
          run = some (.error (missingMac interface mac.toLower), after)) := by
  have hread := Listing.virtualFunctionDetails_of_lined hdetails hls htext
  refine ⟨hread, fun interface mac hmac σ host s rounds hprints => ?_⟩
  intro run after
  have hrun : run = _ := run_idOfMac rounds hmac hread hprints
  rw [List.find?_map] at hrun
  have hlowered (d : Detail) : ((fun e : Detail => decide (e.mac = mac.toLower)) ∘ lowered) d = true ↔
      d.mac.toLower = mac.toLower := decide_eq_true_iff
  refine ⟨fun hdistinct d hd hdmac => ?_, fun hnone => ?_⟩
  · have hfind := Text.find?_eq_some_of_nodup hdistinct hd fun e _ => (hlowered e).trans (by rw [hdmac])
    rw [hrun, hfind]
    rfl
  · have hfind := List.find?_eq_none.2 fun e he => (hlowered e).not.2 (hnone e he)
    rw [hrun, hfind]
    rfl

/-- A report with lines of both wordings and other lines. -/
def reportLines : List (List Char) :=
  ["3: eth1: <BROADCAST> mtu 1500".toList, "    link/ether aa:bb:cc:de:ed:be brd ff:ff:ff:ff:ff:ff".toList,
    ("    vf 0     link/ether 00:00:00:00:AA:01 brd ff:ff:ff:ff:ff:ff, spoof checking on, " ++
      "link-state auto, trust off").toList,
    "\tvf 9 MAC 00:00:00:00:aa:02, spoof checking off, link-state auto, trust on".toList, []]

theorem details_read_back_both :
    let text := String.ofList (Text.join ['\n'] reportLines)
    let first : Detail := ⟨0, "00:00:00:00:AA:01", true, false⟩
    let second : Detail := ⟨9, "00:00:00:00:aa:02", false, true⟩
    Among ShowsDetail LacksDetail [first, second] reportLines ∧
    Listing.virtualFunctionDetails text = .ok ([first, second].map lowered) ∧
      (idOfMac "eth1" "00:00:00:00:Aa:02").attempt.run (printing text) 0 () = some (.ok 9, ()) ∧
      (idOfMac "eth1" "00:00:00:00:AA:03").attempt.run (printing text) 0 () =
        some (.error (missingMac "eth1" "00:00:00:00:AA:03".toLower), ()) := by
  intro text first second
  have hdetails : ∀ d ∈ [first, second], IsDetail d := by decide +kernel
  have hlines : Among ShowsDetail LacksDetail [first, second] reportLines := by
    refine .other (by decide +kernel) (.other (by decide +kernel) (.shown ?_ (.shown ?_
      (.other (by decide +kernel) .nil))))
    · exact ⟨.current, "    ".toList, "     ".toList, by decide +kernel, by decide +kernel, by decide,
        by decide +kernel⟩
    · exact ⟨.older, "\t".toList, " ".toList, by decide +kernel, by decide +kernel, by decide,
        by decide +kernel⟩
  have htext : Lined reportLines text := ⟨String.toList_ofList, by decide +kernel⟩
  have hprints : Prints text ((printing text).report () "eth1").1 := ⟨_, rfl, rfl, rfl⟩
  have hdistinct : ([first, second].map fun d => d.mac.toLower).Nodup := by
    simp only [Listing.toLower_eq]
    decide +kernel
  have hsame : second.mac.toLower = "00:00:00:00:Aa:02".toLower := by
    simp only [Listing.toLower_eq]
    decide +kernel
  have hother : ∀ d ∈ [first, second], d.mac.toLower ≠ "00:00:00:00:AA:03".toLower := by
    simp only [Listing.toLower_eq]
    decide +kernel
  obtain ⟨hread, hfind⟩ := details_read_back hdetails hlines htext
  obtain ⟨hfound, -⟩ := hfind "eth1" "00:00:00:00:Aa:02" (by decide +kernel) (printing text) () 0 hprints
  obtain ⟨-, hmissing⟩ := hfind "eth1" "00:00:00:00:AA:03" (by decide +kernel) (printing text) () 0 hprints
  exact ⟨hlines, hread, hfound hdistinct second (by simp) hsame, hmissing hother⟩

end Hypervisor
end VirtHost
