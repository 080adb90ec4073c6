import VirtHost.Proofs.Hypervisor.Printed
import VirtHost.Proofs.Hypervisor.VirtualFunctionLookup
import VirtHost.Proofs.Listing.LinkLines

/-! # The virtual functions of a listing

* `run_functionIds`, `run_functionAddresses`, `run_checkCount`: what is told about the virtual functions
  of an interface whose links are printed.
* `listed_functions`: ids in ascending order, addresses in the order of the listing, and their number.
-/

namespace VirtHost.Hypervisor
open VirtualFunction (Link)
open Listing (ListingLine)
set_option autoImplicit false

/-- The command that lists the virtual functions of an interface. -/
def listingCommand (interface : String) : String :=
  Command.listVirtualFunctions (Command.interfaceDirectory interface)

/-- The ids of some links, in ascending order. -/
def sortedIds (links : List Link) : List Nat :=
  (links.map Link.id).mergeSort fun a b => decide (a ≤ b)

theorem perm_sortedIds (links : List Link) : (sortedIds links).Perm (links.map Link.id) :=
  List.mergeSort_perm _ _

theorem pairwise_sortedIds (links : List Link) : (sortedIds links).Pairwise (· ≤ ·) := by
  have htrans : ∀ a b c : Nat, decide (a ≤ b) = true → decide (b ≤ c) = true → decide (a ≤ c) = true := by
    simp only [decide_eq_true_eq]
    exact fun _ _ _ => Nat.le_trans
  have htotal : ∀ a b : Nat, (decide (a ≤ b) || decide (b ≤ a)) = true := by
    simp only [Bool.or_eq_true, decide_eq_true_eq]
    exact Nat.le_total
  exact (List.pairwise_mergeSort htrans htotal _).imp of_decide_eq_true

section
variable {σ : Type} {host : Host σ} {s : σ} {links : List Link} {output : String} (rounds : Nat)
  (interface : String)

theorem run_functionIds (hlinks : Listing.virtualFunctionLinks output = .ok links)
    (h : Prints output (host.listing s (listingCommand interface)).1) :
    (functionIds interface).attempt.run host rounds s =
      some (if links = [] then
          .error (.virtualFunction ("Not found VFs for interface " ++ interface ++ "."))
        else .ok (sortedIds links), (host.listing s (listingCommand interface)).2) := by
  obtain ⟨c, hreply, hcode, rfl⟩ := h
  refine (Action.run_bind_of_ok (run_linksOf_of_ok rounds hreply hcode hlinks)).trans ?_
  cases links <;> rfl

theorem run_functionAddresses (hlinks : Listing.virtualFunctionLinks output = .ok links)
    (h : Prints output (host.listing s (listingCommand interface)).1) :
    (functionAddresses interface).attempt.run host rounds s =
      some (.ok (links.map Link.target), (host.listing s (listingCommand interface)).2) := by
  obtain ⟨c, hreply, hcode, rfl⟩ := h
  exact Action.run_bind_of_ok (run_linksOf_of_ok rounds hreply hcode hlinks)

theorem run_checkCount (hlinks : Listing.virtualFunctionLinks output = .ok links) (count : Nat)
    (h : Prints output (host s (.execute (listingCommand interface) ({} : Host.Options).inShell.anyCode)).1) :
    (checkCount interface count).attempt.run host rounds s =
      some (if links.length = count then .ok () else .error (.vfCountMismatch count links.length),
        (host s (.execute (listingCommand interface) ({} : Host.Options).inShell.anyCode)).2) := by
  obtain ⟨c, hreply, hcode, rfl⟩ := h
  let request : Host.Request := .execute (listingCommand interface) ({} : Host.Options).inShell.anyCode
  have hexecute : (Host.execute (listingCommand interface)
      ({} : Host.Options).inShell.anyCode).attempt.run host rounds s = some (.ok c, (host s request).2) := by
    rw [Action.run_execute, Host.Options.outcome_anyCode, hreply]
  have hcount : (countFunctions (Command.interfaceDirectory interface)).attempt.run host rounds s =
      some (.ok links.length, (host s request).2) := by
    refine (Action.run_bind_of_ok hexecute).trans ?_
    rw [if_pos hcode, hlinks]
    rfl
  refine (Action.run_bind_of_ok hcount).trans ?_
  split <;> rfl

end

/-- **Listed functions.** Exactly the links of its lines are read from a listing, in their order. So of an
interface whose listing is printed the ids are told in ascending order, unless there is none, and the
addresses in the order of the listing, and the expected number is right exactly if it is theirs. -/
theorem listed_functions (lines : List ListingLine) (interface : String) {σ : Type} (host : Host σ) (s : σ)
    (rounds : Nat) :
    let links := Listing.linksOf lines
    let output := Listing.listing lines
    Listing.virtualFunctionLinks output = .ok links ∧
    (Prints output (host.listing s (listingCommand interface)).1 →
      (∃ ids, ids.Perm (links.map Link.id) ∧ ids.Pairwise (· ≤ ·) ∧
        (functionIds interface).attempt.run host rounds s =
          some (if links = [] then
              .error (.virtualFunction ("Not found VFs for interface " ++ interface ++ "."))
            else .ok ids, (host.listing s (listingCommand interface)).2)) ∧
      (functionAddresses interface).attempt.run host rounds s =
        some (.ok (links.map Link.target), (host.listing s (listingCommand interface)).2)) ∧
    ∀ count,
      Prints output (host s (.execute (listingCommand interface) ({} : Host.Options).inShell.anyCode)).1 →
      (checkCount interface count).attempt.run host rounds s =
        some (if links.length = count then .ok () else .error (.vfCountMismatch count links.length),
          (host s (.execute (listingCommand interface) ({} : Host.Options).inShell.anyCode)).2) := by
  intro links output
  have hlinks : Listing.virtualFunctionLinks output = .ok links :=
    Listing.virtualFunctionLinks_listing lines
  refine ⟨hlinks, fun h => ⟨?_, run_functionAddresses rounds interface hlinks h⟩, fun count h => ?_⟩
  · exact ⟨sortedIds links, perm_sortedIds links, pairwise_sortedIds links,
      run_functionIds rounds interface hlinks h⟩
  · exact run_checkCount rounds interface hlinks count h

/-- Two functions, the second of which has the lower id, between other lines. -/
def twoFunctions : List ListingLine :=
  let columns := "lrwxrwxrwx 1 root root 0 Jan 27 13:53".toList
  let path := "/sys/class/net/eth1/device".toList
  [.other "total 0".toList (by decide +kernel),
    .link columns path ⟨25, ⟨0, 0x18, 0x10, 0x19⟩⟩ (by decide +kernel) (by decide +kernel) (by decide)
      (by decide),
    .link columns path ⟨3, ⟨0xffff, 0x18, 0x10, 7⟩⟩ (by decide +kernel) (by decide +kernel) (by decide)
      (by decide),
    .other [] (by decide)]

theorem listed_functions_two :
    let host := printing (Listing.listing twoFunctions)
    Prints (Listing.listing twoFunctions) (host.listing () (listingCommand "eth1")).1 ∧
      (∃ ids, ids.Perm [25, 3] ∧ ids.Pairwise (· ≤ ·) ∧
        (functionIds "eth1").attempt.run host 0 () = some (.ok ids, ())) ∧
      (functionAddresses "eth1").attempt.run host 0 () =
        some (.ok [⟨0, 0x18, 0x10, 0x19⟩, ⟨0xffff, 0x18, 0x10, 7⟩], ()) ∧
      (checkCount "eth1" 2).attempt.run host 0 () = some (.ok (), ()) ∧
      (checkCount "eth1" 3).attempt.run host 0 () = some (.error (.vfCountMismatch 3 2), ()) := by
  intro host
  have hprints : Prints (Listing.listing twoFunctions) (host.listing () (listingCommand "eth1")).1 :=
    ⟨_, rfl, rfl, rfl⟩
  obtain ⟨-, htold, hcount⟩ := listed_functions twoFunctions "eth1" host () 0
  obtain ⟨hids, haddresses⟩ := htold hprints
  exact ⟨hprints, hids, haddresses, hcount 2 hprints, hcount 3 hprints⟩

end VirtHost.Hypervisor
