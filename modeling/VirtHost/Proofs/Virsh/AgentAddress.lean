import VirtHost.Proofs.Host.Pauses
import VirtHost.Proofs.Listing.Mac
import VirtHost.Proofs.Virsh

/-! # Queries for the address of a guest

* `Virsh.Reachable`: a reported address is the one that is looked for.
* `Virsh.Good`: an attempt that reports such an address.
* `Virsh.Settles`: what comes of a number of attempts.
* `Virsh.agentAddress_attempts`: the queries for an address, the pauses between them, and the result.
-/

namespace VirtHost.Virsh
open Host (Completion)
set_option autoImplicit false

variable {v : Virsh} {mac name report : String} {ip : Ipv4} {c : Completion} {tries more : Nat}
  {t : List Exchange} {r : Except Error Ipv4} {replies : List (Except Error Completion)}

/-! ## Reports -/

/-- A reported address is an IPv4 address of the interface with this MAC, and neither a loopback nor a
link-local one. -/
def Reachable (mac : String) (a : Network.InterfaceAddress) (ip : Ipv4) : Prop :=
  Text.lower a.mac = Text.lower mac ∧ a.protocol = "ipv4" ∧ Ipv4.read? a.address.toList = some ip ∧
    ip.first ≠ 127 ∧ ¬ (ip.first = 169 ∧ ip.second = 254)

/-- The first reachable address of a report. -/
def FirstReachable (mac report : String) (ip : Ipv4) : Prop :=
  ∃ before a after, Listing.agentAddresses report = before ++ a :: after ∧ Reachable mac a ip ∧
    ∀ b ∈ before, ∀ other, ¬ Reachable mac b other

/-- The guest answers, and reports a reachable address. -/
def Good (mac : String) (c : Completion) : Prop :=
  c.code = 0 ∧ ∃ a ∈ Listing.agentAddresses c.stdout, ∃ ip, Reachable mac a ip

theorem isLocal_eq_false_iff :
    ip.isLocal = false ↔ ip.first ≠ 127 ∧ ¬ (ip.first = 169 ∧ ip.second = 254) := by
  simp [Ipv4.isLocal]

/-- The address that is looked for in an entry of a report. -/
def reachable? (mac : String) (a : Network.InterfaceAddress) : Option Ipv4 :=
  if a.mac = Text.lower mac ∧ a.protocol = "ipv4" then
    (Ipv4.read? a.address.toList).filter fun ip => !ip.isLocal
  else none

theorem reachable?_eq_some_iff {a : Network.InterfaceAddress}
    (ha : a ∈ Listing.agentAddresses report) :
    reachable? mac a = some ip ↔ Reachable mac a ip := by
  have hlower := Listing.lower_mac_of_mem ha
  rw [reachable?, Reachable, ← isLocal_eq_false_iff, hlower]
  split
  · rename_i hentry
    simp [hentry, Option.filter_eq_some_iff]
  · rename_i hentry
    simp only [reduceCtorEq, false_iff]
    rintro ⟨hmac, hprotocol, -⟩
    exact hentry ⟨hmac, hprotocol⟩

theorem routableAddress?_eq :
    routableAddress? (Text.lower mac) report
      = (Listing.agentAddresses report).findSome? (reachable? mac) := by
  rw [routableAddress?]
  induction Listing.agentAddresses report with
  | nil => rfl
  | cons a rest ih =>
    rw [List.filter_cons, List.findSome?_cons, reachable?]
    by_cases h : a.mac = Text.lower mac ∧ a.protocol = "ipv4"
    · rw [if_pos (decide_eq_true h), if_pos h, List.findSome?_cons, ih]
    · rw [if_neg (by rwa [decide_eq_true_iff]), if_neg h, ih]

theorem routableAddress?_eq_some_iff :
    routableAddress? (Text.lower mac) report = some ip ↔ FirstReachable mac report ip := by
  rw [routableAddress?_eq, List.findSome?_eq_some_iff]
  have hentry {a : Network.InterfaceAddress} (ha : a ∈ Listing.agentAddresses report) (ip : Ipv4) :
      reachable? mac a = some ip ↔ Reachable mac a ip :=
    reachable?_eq_some_iff ha
  constructor
  · rintro ⟨before, a, after, hreport, ha, hbefore⟩
    refine ⟨before, a, after, hreport, (hentry (by simp [hreport]) ip).1 ha, ?_⟩
    intro b hb other hother
    rw [← hentry (by simp [hreport, hb]), hbefore b hb] at hother
    cases hother
  · rintro ⟨before, a, after, hreport, ha, hbefore⟩
    refine ⟨before, a, after, hreport, (hentry (by simp [hreport]) ip).2 ha, ?_⟩
    intro b hb
    refine Option.eq_none_iff_forall_ne_some.2 fun other hother => ?_
    exact hbefore b hb other ((hentry (by simp [hreport, hb]) other).1 hother)

theorem routableAddress?_eq_none_iff :
    routableAddress? (Text.lower mac) report = none ↔
      ∀ a ∈ Listing.agentAddresses report, ∀ ip, ¬ Reachable mac a ip := by
  rw [routableAddress?_eq, List.findSome?_eq_none_iff]
  refine forall₂_congr fun a ha => ?_
  rw [Option.eq_none_iff_forall_ne_some]
  exact forall_congr' fun ip => not_congr (reachable?_eq_some_iff ha)

/-! ## One attempt -/

/-- The address in the output of an attempt, if the guest answers. -/
def found? (mac : String) (c : Completion) : Option Ipv4 :=
  if c.code = 0 then routableAddress? (Text.lower mac) c.stdout else none

theorem found?_eq_some_iff :
    found? mac c = some ip ↔ c.code = 0 ∧ FirstReachable mac c.stdout ip := by
  rw [found?]
  split
  · rename_i hcode
    rw [routableAddress?_eq_some_iff]
    exact (and_iff_right hcode).symm
  · rename_i hcode
    simp [hcode]

theorem found?_eq_none_iff : found? mac c = none ↔ ¬ Good mac c := by
  rw [found?, Good]
  split
  · rename_i hcode
    rw [routableAddress?_eq_none_iff]
    simp [hcode]
  · rename_i hcode
    simp [hcode]

/-- The query for the addresses of a guest. -/
def queryCommand (name : String) : String :=
  "virsh domifaddr " ++ name ++ " --source agent"

/-- A query and the reply to it. -/
def query (v : Virsh) (name : String) (reply : Except Error Completion) : Exchange :=
  .ran (queryCommand name) v.options.anyCode reply

/-- The pause before the next of `more` attempts. -/
def pauseBefore (v : Virsh) (more : Nat) : Action Unit :=
  if 0 < more then Host.sleep v.addressInterval else pure ()

def pausedBefore (v : Virsh) (more : Nat) : List Exchange :=
  if 0 < more then [⟨.sleep v.addressInterval, ()⟩] else []

theorem agentQueries_succ (v : Virsh) (mac name : String) (tries : Nat) (past : Bool) (more : Nat) :
    agentQueries v mac name tries past (more + 1)
      = Host.execute (queryCommand name) v.options.anyCode >>= fun c =>
          match found? mac c with
          | some ip => pure ip
          | none => v.pauseBefore more >>= fun _ =>
              agentQueries v mac name tries (past || c.code = 0) more := by
  rw [agentQueries]
  refine congrArg (Host.execute (queryCommand name) v.options.anyCode >>= ·) (funext fun c => ?_)
  show (match found? mac c with | some ip => _ | none => _) = _
  cases found? mac c with
  | some ip => rfl
  | none =>
    rw [pauseBefore]
    by_cases hmore : 0 < more
    · rw [if_pos hmore, if_pos hmore]
    · rw [if_neg hmore, if_neg hmore]
      rfl

theorem runs_pauseBefore {t : List Exchange} {r : Except Error Unit} :
    (v.pauseBefore more).Runs t r ↔ t = v.pausedBefore more ∧ r = .ok () := by
  rw [pauseBefore, pausedBefore]
  split
  · exact Poll.runs_sleep
  · exact Action.runs_pure

/-- An attempt ends the queries if it fails or reports an address, and is followed by others if not. -/
theorem runs_agentQueries_succ {past : Bool} :
    (agentQueries v mac name tries past (more + 1)).Runs t r ↔
      (∃ e, t = [v.query name (.error e)] ∧ r = .error e) ∨
      (∃ c ip, t = [v.query name (.ok c)] ∧ found? mac c = some ip ∧ r = .ok ip) ∨
      ∃ c u, t = v.query name (.ok c) :: (v.pausedBefore more ++ u) ∧ found? mac c = none ∧
        (agentQueries v mac name tries (past || c.code = 0) more).Runs u r := by
  rw [agentQueries_succ, Action.runs_bind]
  constructor
  · rintro (⟨e, he, rfl⟩ | ⟨u, w, c, rfl, hu, hw⟩)
    · exact .inl ⟨e, Action.runs_execute_anyCode.1 he, rfl⟩
    · obtain rfl := Action.runs_execute_anyCode.1 hu
      cases hfound : found? mac c with
      | some ip =>
        rw [hfound] at hw
        obtain ⟨rfl, rfl⟩ := Action.runs_pure.1 hw
        exact .inr (.inl ⟨c, ip, rfl, hfound, rfl⟩)
      | none =>
        rw [hfound] at hw
        rcases Action.runs_bind.1 hw with ⟨e, he, -⟩ | ⟨x, y, _, rfl, hx, hy⟩
        · cases (runs_pauseBefore.1 he).2
        · obtain ⟨rfl, -⟩ := runs_pauseBefore.1 hx
          exact .inr (.inr ⟨c, y, rfl, hfound, hy⟩)
  · rintro (⟨e, rfl, rfl⟩ | ⟨c, ip, rfl, hfound, rfl⟩ | ⟨c, u, rfl, hfound, hu⟩)
    · exact .inl ⟨e, Action.runs_execute_anyCode.2 rfl, rfl⟩
    · refine .inr ⟨[_], [], c, rfl, Action.runs_execute_anyCode.2 rfl, ?_⟩
      rw [hfound]
      exact Action.runs_pure.2 ⟨rfl, rfl⟩
    · refine .inr ⟨[_], _, c, rfl, Action.runs_execute_anyCode.2 rfl, ?_⟩
      rw [hfound]
      exact Action.runs_bind.2 (.inr ⟨_, u, (), rfl, runs_pauseBefore.2 ⟨rfl, rfl⟩, hu⟩)

/-! ## All attempts -/

/-- Queries with these replies, and the pauses between them. -/
def queries (v : Virsh) (name : String) (replies : List (Except Error Completion)) : List Exchange :=
  paced v.addressInterval (replies.map fun reply => [v.query name reply])

/-- The error of some attempts none of which is good. -/
def givenUp (mac : String) (useless : List Completion) : Error :=
  if ∃ c ∈ useless, c.code = 0 then .managementIpUnavailable mac else .vmNotBooted useless.length

/-- How up to `most` attempts end of which some are `useless`: with an address in the next reply, with an
error in its place, or after all of them. -/
inductive Settles (mac : String) (most : Nat) (useless : List Completion) :
    List (Except Error Completion) → Except Error Ipv4 → Prop
  | found {c : Completion} {ip : Ipv4} (hmost : useless.length < most) (hcode : c.code = 0)
      (hip : FirstReachable mac c.stdout ip) : Settles mac most useless [.ok c] (.ok ip)
  | failed {e : Error} (hmost : useless.length < most) :
      Settles mac most useless [.error e] (.error e)
  | exhausted (hmost : useless.length = most) :
      Settles mac most useless [] (.error (givenUp mac useless))

variable {past useless : List Completion} {last replies : List (Except Error Completion)}

theorem commandsOf_queries (v : Virsh) (name : String) (replies : List (Except Error Completion)) :
    commandsOf (v.queries name replies) = List.replicate replies.length (queryCommand name) := by
  have hone (reply : Except Error Completion) :
      commandsOf [v.query name reply] = [queryCommand name] := rfl
  rw [queries, commandsOf_paced, List.flatMap_map]
  simp only [hone]
  rw [← List.map_eq_flatMap, List.map_const']

theorem pausesOf_queries (v : Virsh) (name : String) (replies : List (Except Error Completion)) :
    pausesOf (v.queries name replies) = List.replicate (replies.length - 1) v.addressInterval := by
  have hnone : ∀ u ∈ replies.map fun reply => [v.query name reply], pausesOf u = [] := by
    rw [List.forall_mem_map]
    exact fun reply _ => rfl
  rw [queries, pausesOf_paced hnone, List.length_map]

theorem queries_cons (v : Virsh) (name : String) (reply : Except Error Completion)
    (replies : List (Except Error Completion)) :
    v.queries name (reply :: replies)
      = v.query name reply :: (v.pausedBefore replies.length ++ v.queries name replies) := by
  cases replies with
  | nil => rfl
  | cons next replies => rfl

theorem Settles.lt_iff (h : Settles mac tries useless last r) :
    useless.length < tries ↔ 0 < last.length := by
  cases h with
  | found hmost _ _ => simpa using hmost
  | failed hmost => simpa using hmost
  | exhausted hmost => simp [hmost]

theorem Settles.le (h : Settles mac tries useless last r) : useless.length ≤ tries := by
  cases h <;> omega

theorem givenUp_eq (mac : String) (past : List Completion) :
    (if past.any fun c => c.code = 0 then Error.managementIpUnavailable mac
      else .vmNotBooted past.length) = givenUp mac past := by
  simp [givenUp]

/-- The attempts from one on, `past` being the replies to those before it. -/
theorem runs_agentQueries (past : List Completion) (htries : past.length + more = tries) :
    (agentQueries v mac name tries (past.any fun c => c.code = 0) more).Runs t r ↔
      ∃ useless last, t = v.queries name (useless.map .ok ++ last) ∧ (∀ c ∈ useless, ¬ Good mac c) ∧
        Settles mac tries (past ++ useless) last r := by
  -- Induction on the attempts that are left; with `past`, the error at the end is that of all of them.
  induction more generalizing past t with
  | zero =>
    rw [agentQueries, Action.runs_throw, ← htries, Nat.add_zero, givenUp_eq]
    constructor
    · rintro ⟨rfl, rfl⟩
      exact ⟨[], [], rfl, by simp, by rw [List.append_nil]; exact .exhausted rfl⟩
    · rintro ⟨useless, last, rfl, -, hend⟩
      obtain rfl : useless = [] := List.length_eq_zero_iff.1 (by
        have hle := hend.le
        rw [List.length_append] at hle
        omega)
      rw [List.append_nil] at hend
      cases hend with
      | found hmost _ _ => omega
      | failed hmost => omega
      | exhausted _ => exact ⟨rfl, rfl⟩
  | succ more ih =>
    have hany (c : Completion) : ((past.any fun c => c.code = 0) || decide (c.code = 0))
        = ((past ++ [c]).any fun c => c.code = 0) := by simp
    have hnext (c : Completion) : (past ++ [c]).length + more = tries := by
      rw [List.length_append, List.length_singleton]
      omega
    -- The loop counts attempts down, the exchanges count replies: both tell whether a pause comes next.
    have hpause {c : Completion} {useless : List Completion} {last : List (Except Error Completion)}
        (hend : Settles mac tries (past ++ [c] ++ useless) last r) :
        0 < more ↔ 0 < (useless.map Except.ok ++ last).length := by
      have hle := hend.le
      have hlt := hend.lt_iff
      simp only [List.length_append, List.length_map, List.length_singleton] at hle hlt ⊢
      omega
    rw [runs_agentQueries_succ]
    constructor
    · rintro (⟨e, rfl, rfl⟩ | ⟨c, ip, rfl, hfound, rfl⟩ | ⟨c, u, rfl, hnone, hu⟩)
      · exact ⟨[], [.error e], rfl, by simp, .failed (by simp; omega)⟩
      · obtain ⟨hcode, hip⟩ := found?_eq_some_iff.1 hfound
        exact ⟨[], [.ok c], rfl, by simp, .found (by simp; omega) hcode hip⟩
      · rw [hany] at hu
        obtain ⟨useless, last, rfl, huseless, hend⟩ := (ih _ (hnext c)).1 hu
        have hc := found?_eq_none_iff.1 hnone
        refine ⟨c :: useless, last, ?_, List.forall_mem_cons.2 ⟨hc, huseless⟩, ?_⟩
        · rw [List.map_cons, List.cons_append, queries_cons]
          simp only [pausedBefore, hpause hend]
        · rwa [List.append_assoc] at hend
    · rintro ⟨useless, last, rfl, huseless, hend⟩
      cases useless with
      | nil =>
        rw [List.append_nil] at hend
        cases hend with
        | @found c ip hmost hcode hip =>
          exact .inr (.inl ⟨c, ip, rfl, found?_eq_some_iff.2 ⟨hcode, hip⟩, rfl⟩)
        | failed hmost => exact .inl ⟨_, rfl, rfl⟩
        | exhausted hmost => omega
      | cons c useless =>
        obtain ⟨hc, huseless⟩ := List.forall_mem_cons.1 huseless
        have hrest : Settles mac tries (past ++ [c] ++ useless) last r := by simpa using hend
        have hnone := found?_eq_none_iff.2 hc
        refine .inr (.inr ⟨c, v.queries name (useless.map .ok ++ last), ?_, hnone, ?_⟩)
        · rw [List.map_cons, List.cons_append, queries_cons]
          simp only [pausedBefore, hpause hrest]
        · rw [hany]
          exact (ih _ (hnext c)).2 ⟨useless, last, rfl, huseless, hrest⟩

theorem finite_agentQueries (v : Virsh) (mac name : String) (tries : Nat) (past : Bool) (more : Nat) :
    (agentQueries v mac name tries past more).Finite := by
  induction more generalizing past with
  | zero => exact Action.finite_throw _
  | succ more ih =>
    rw [agentQueries_succ]
    refine (Action.finite_execute _ _).bind fun c => ?_
    cases found? mac c with
    | some ip => exact Action.finite_pure ip
    | none =>
      refine Action.Finite.bind ?_ fun _ => ih _
      rw [pauseBefore]
      split
      · exact Action.Finite.ofProgram fun _ => trivial
      · exact Action.finite_pure ()

/-- **The address of a guest.** However a host answers, the attempts end. All but the last of them are
useless; the result is the first reachable address that the last one reports, an error in its place, or,
after all attempts, an error that says whether the guest has answered. Each attempt is one query, and there
is one pause less than there are attempts. No result is a loopback or a link-local address. -/
theorem agentAddress_attempts (v : Virsh) (mac name : String) (tries : Nat) :
    (∀ {σ : Type} (host : Host σ) (s : σ), (v.agentAddress mac name tries).Returns host s) ∧
    (∀ t r, (v.agentAddress mac name tries).Runs t r ↔
      ∃ useless last, t = v.queries name (useless.map .ok ++ last) ∧ (∀ c ∈ useless, ¬ Good mac c) ∧
        Settles mac tries useless last r) ∧
    (∀ replies,
      commandsOf (v.queries name replies) = List.replicate replies.length (queryCommand name) ∧
      pausesOf (v.queries name replies) = List.replicate (replies.length - 1) v.addressInterval) ∧
    ∀ t ip, (v.agentAddress mac name tries).Runs t (.ok ip) → ip.isLocal = false := by
  have hruns (t : List Exchange) (r : Except Error Ipv4) : (v.agentAddress mac name tries).Runs t r ↔
      ∃ useless last, t = v.queries name (useless.map .ok ++ last) ∧ (∀ c ∈ useless, ¬ Good mac c) ∧
        Settles mac tries useless last r :=
    runs_agentQueries [] (Nat.zero_add tries)
  refine ⟨fun host s => (finite_agentQueries v mac name tries false tries).returns host s, hruns,
    fun replies => ⟨commandsOf_queries v name replies, pausesOf_queries v name replies⟩, ?_⟩
  intro t ip hrun
  obtain ⟨useless, last, -, -, hend⟩ := (hruns t (.ok ip)).1 hrun
  cases hend with
  | found _ _ hip =>
    obtain ⟨-, a, -, -, ⟨-, -, -, hlocal⟩, -⟩ := hip
    exact isLocal_eq_false_iff.2 hlocal

/-- A guest that does not answer at first, and has a link-local address before another one. -/
theorem agentAddress_attempts_third :
    let v : Virsh := {}
    let booting : Completion := ⟨"", 1, "", "error: Guest agent is not responding"⟩
    let alone : Completion := ⟨"", 0, "---\neth0 52:54:00:aa:bb:01 ipv4 169.254.7.9/16", ""⟩
    let connected : Completion := ⟨"", 0, "---\neth0 52:54:00:aa:bb:01 ipv4 10.0.0.5/24", ""⟩
    let t := v.queries "vm" [.ok booting, .ok alone, .ok connected]
    (v.agentAddress "52:54:00:AA:BB:01" "vm" 3).Runs t (.ok ⟨10, 0, 0, 5⟩) ∧
      pausesOf t = [.ofSeconds 5, .ofSeconds 5] := by
  intro v booting alone connected t
  obtain ⟨-, hruns, hcounts, -⟩ := agentAddress_attempts v "52:54:00:AA:BB:01" "vm" 3
  have hbooting : ¬ Good "52:54:00:AA:BB:01" booting := fun h => absurd h.1 (by decide)
  have halone : ¬ Good "52:54:00:AA:BB:01" alone := found?_eq_none_iff.1 (by decide +kernel)
  have hfound : found? "52:54:00:AA:BB:01" connected = some ⟨10, 0, 0, 5⟩ := by decide +kernel
  obtain ⟨hcode, hip⟩ := found?_eq_some_iff.1 hfound
  refine ⟨(hruns t _).2 ⟨[booting, alone], [.ok connected], rfl, ?_, .found (by decide) hcode hip⟩, ?_⟩
  · simp [hbooting, halone]
  · exact (hcounts _).2

end VirtHost.Virsh
