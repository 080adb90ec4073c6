import Mathlib.Algebra.Group.Nat.Defs
import VirtHost.Hypervisor.Network
import VirtHost.Proofs.Host.Action

/-! # Free network data

Entries are probed in order until enough of them are free.

* `Probe`: an entry and what its probe left behind; `freeEntries`: the entries that are free then.
* `Made`: which of the probes of all entries are made.
* `runs_takeFree`: the probes and the entries that are taken, or a probe that could not be made.
* `runs_selectFree_of_room`, `runs_selectFree_of_no_room`: room in memory for the entries, or the end of
  the program.
* `selectFree_probes`: the entries that are selected, or too few of them.
-/

namespace VirtHost.Hypervisor
set_option autoImplicit false

/-- The probe of an entry. -/
structure Probe where
  entry : Network.Entry
  completion : Host.Completion
  deriving DecidableEq

namespace Probe

/-- The exchange in which an entry is probed. -/
def asked (entry : Network.Entry) (reply : Except Error Host.Completion) : Exchange :=
  .ran (Command.ping entry.ip.text) ({} : Host.Options).anyCode reply

def exchange (p : Probe) : Exchange :=
  asked p.entry (.ok p.completion)

/-- The probe ended with one of the codes that say that nothing answers. -/
def isFree (h : Hypervisor) (p : Probe) : Bool :=
  h.settings.freeCodes.contains p.completion.code

end Probe

variable {h : Hypervisor} {count : Nat} {p : Probe} {probes made : List Probe}
  {entries : List Network.Entry} {t : List Exchange}

/-- The entries that some probes found free, in order. -/
def freeEntries (h : Hypervisor) (probes : List Probe) : List Network.Entry :=
  (probes.filter (Probe.isFree h)).map Probe.entry

theorem freeEntries_cons_of_free (hp : p.isFree h = true) (probes : List Probe) :
    h.freeEntries (p :: probes) = p.entry :: h.freeEntries probes := by
  simp [freeEntries, hp]

theorem freeEntries_cons_of_taken (hp : p.isFree h = false) (probes : List Probe) :
    h.freeEntries (p :: probes) = h.freeEntries probes := by
  simp [freeEntries, hp]

theorem freeEntries_sublist (h : Hypervisor) (probes : List Probe) :
    (h.freeEntries probes).Sublist (probes.map Probe.entry) :=
  List.filter_sublist.map Probe.entry

/-! ## Probes that are made -/

/-- Which of the probes of all entries are made if `count` free entries are needed: none if none is
needed, those up to the one that finds the last of them, or all if there are fewer. -/
inductive Made (h : Hypervisor) : Nat → List Probe → List Probe → Prop
  | none (probes : List Probe) : Made h 0 probes []
  | upTo {count : Nat} (before after : List Probe) {last : Probe} (hlast : last.isFree h = true)
      (hcount : (h.freeEntries before).length + 1 = count) :
      Made h count (before ++ last :: after) (before ++ [last])
  | all {count : Nat} {probes : List Probe} (hfew : (h.freeEntries probes).length < count) :
      Made h count probes probes

namespace Made

theorem cons_free (hp : p.isFree h = true) (hmade : Made h count probes made) :
    Made h (count + 1) (p :: probes) (p :: made) := by
  cases hmade with
  | none => exact .upTo [] probes hp rfl
  | upTo before after hlast hcount =>
    apply Made.upTo (p :: before) after hlast
    rw [freeEntries_cons_of_free hp, List.length_cons, hcount]
  | all hfew =>
    apply Made.all
    rw [freeEntries_cons_of_free hp]
    exact Nat.succ_lt_succ hfew

theorem cons_taken (hp : p.isFree h = false) (hmade : Made h (count + 1) probes made) :
    Made h (count + 1) (p :: probes) (p :: made) := by
  generalize hneeded : count + 1 = needed at hmade
  cases hmade with
  | none => cases hneeded
  | upTo before after hlast hcount =>
    apply Made.upTo (p :: before) after hlast
    rw [freeEntries_cons_of_taken hp, hcount]
  | all hfew =>
    apply Made.all
    rw [freeEntries_cons_of_taken hp]
    exact hfew

end Made

/-- An entry could not be probed, and there were not enough free ones before it. -/
def Broken (h : Hypervisor) (count : Nat) (entries : List Network.Entry) (t : List Exchange)
    (e : Error) : Prop :=
  ∃ made entry rest, entries = made.map Probe.entry ++ entry :: rest ∧
    (h.freeEntries made).length < count ∧ t = made.map Probe.exchange ++ [Probe.asked entry (.error e)]

namespace Broken
variable {e : Error}

theorem cons_free (hp : p.isFree h = true) (hbroken : Broken h count entries t e) :
    Broken h (count + 1) (p.entry :: entries) (p.exchange :: t) e := by
  obtain ⟨made, entry, rest, rfl, hfew, rfl⟩ := hbroken
  refine ⟨p :: made, entry, rest, rfl, ?_, rfl⟩
  rw [freeEntries_cons_of_free hp]
  exact Nat.succ_lt_succ hfew

theorem cons_taken (hp : p.isFree h = false) (hbroken : Broken h count entries t e) :
    Broken h count (p.entry :: entries) (p.exchange :: t) e := by
  obtain ⟨made, entry, rest, rfl, hfew, rfl⟩ := hbroken
  refine ⟨p :: made, entry, rest, rfl, ?_, rfl⟩
  rw [freeEntries_cons_of_taken hp]
  exact hfew

end Broken

/-! ## Entries that are taken -/

theorem runs_isFree {entry : Network.Entry} {r : Except Error Bool} :
    (h.isFree entry).Runs t r ↔ ∃ reply, t = [Probe.asked entry reply] ∧
      r = reply.map fun completion => h.settings.freeCodes.contains completion.code :=
  Action.runs_bind_pure.trans (exists_congr fun _ => and_congr_left fun _ => Action.runs_execute_anyCode)

theorem runs_isFree_exchange (h : Hypervisor) (p : Probe) :
    (h.isFree p.entry).Runs [p.exchange] (.ok (p.isFree h)) :=
  runs_isFree.2 ⟨.ok p.completion, rfl, rfl⟩

theorem runs_takeFree_cons_free (hp : p.isFree h = true) {r : Except Error (List Network.Entry)}
    (hrun : (h.takeFree count entries).Runs t r) :
    (h.takeFree (count + 1) (p.entry :: entries)).Runs (p.exchange :: t) (r.map (p.entry :: ·)) := by
  refine Action.runs_bind.2 (.inr ⟨[p.exchange], t, true, rfl, hp ▸ runs_isFree_exchange h p, ?_⟩)
  exact Action.runs_bind_pure.2 ⟨r, hrun, rfl⟩

theorem runs_takeFree_cons_taken (hp : p.isFree h = false) {r : Except Error (List Network.Entry)}
    (hrun : (h.takeFree (count + 1) entries).Runs t r) :
    (h.takeFree (count + 1) (p.entry :: entries)).Runs (p.exchange :: t) r :=
  Action.runs_bind.2 (.inr ⟨[p.exchange], t, false, rfl, hp ▸ runs_isFree_exchange h p, hrun⟩)

theorem runs_takeFree_cons {entry : Network.Entry} {r : Except Error (List Network.Entry)}
    (hrun : (h.takeFree (count + 1) (entry :: entries)).Runs t r) :
    (∃ e, t = [Probe.asked entry (.error e)] ∧ r = .error e) ∨
      ∃ (p : Probe) (u : List Exchange), p.entry = entry ∧ t = p.exchange :: u ∧
        ((p.isFree h = true ∧ ∃ o, (h.takeFree count entries).Runs u o ∧ r = o.map (entry :: ·)) ∨
          (p.isFree h = false ∧ (h.takeFree (count + 1) entries).Runs u r)) := by
  rcases Action.runs_bind.1 hrun with ⟨e, he, rfl⟩ | ⟨v, u, free, rfl, hv, hu⟩
  · obtain ⟨reply, rfl, hreply⟩ := runs_isFree.1 he
    cases reply with
    | ok completion => cases hreply
    | error e' =>
      cases hreply
      exact .inl ⟨e, rfl, rfl⟩
  · obtain ⟨reply, rfl, hreply⟩ := runs_isFree.1 hv
    cases reply with
    | error e' => cases hreply
    | ok completion =>
      have hfree : Probe.isFree h ⟨entry, completion⟩ = free := (Except.ok.inj hreply).symm
      refine .inr ⟨⟨entry, completion⟩, u, rfl, rfl, ?_⟩
      cases free with
      | true => exact .inl ⟨hfree, Action.runs_bind_pure.1 hu⟩
      | false => exact .inr ⟨hfree, hu⟩

/-- Whatever the probes would find, some of them are made, and the first free entries are taken. -/
theorem exists_runs_takeFree (h : Hypervisor) (count : Nat) (probes : List Probe) :
    ∃ made, Made h count probes made ∧
      (h.takeFree count (probes.map Probe.entry)).Runs (made.map Probe.exchange)
        (.ok ((h.freeEntries probes).take count)) := by
  induction probes generalizing count with
  | nil =>
    cases count with
    | zero => exact ⟨[], .none [], Action.runs_pure.2 ⟨rfl, rfl⟩⟩
    | succ count => exact ⟨[], .all (Nat.succ_pos count), Action.runs_pure.2 ⟨rfl, rfl⟩⟩
  | cons p probes ih =>
    cases count with
    | zero => exact ⟨[], .none _, Action.runs_pure.2 ⟨rfl, rfl⟩⟩
    | succ count =>
      cases hp : p.isFree h with
      | true =>
        obtain ⟨made, hmade, hrun⟩ := ih count
        refine ⟨p :: made, hmade.cons_free hp, ?_⟩
        rw [freeEntries_cons_of_free hp]
        exact runs_takeFree_cons_free hp hrun
      | false =>
        obtain ⟨made, hmade, hrun⟩ := ih (count + 1)
        refine ⟨p :: made, hmade.cons_taken hp, ?_⟩
        rw [freeEntries_cons_of_taken hp]
        exact runs_takeFree_cons_taken hp hrun

/-- Nothing else happens unless an entry cannot be probed. -/
theorem runs_takeFree {r : Except Error (List Network.Entry)}
    (hrun : (h.takeFree count entries).Runs t r) :
    (∃ probes made, probes.map Probe.entry = entries ∧ Made h count probes made ∧
        t = made.map Probe.exchange ∧ r = .ok ((h.freeEntries probes).take count)) ∨
      ∃ e, Broken h count entries t e ∧ r = .error e := by
  induction entries generalizing count t r with
  | nil =>
    cases count with
    | zero =>
      obtain ⟨rfl, rfl⟩ := Action.runs_pure.1 hrun
      exact .inl ⟨[], [], rfl, .none [], rfl, rfl⟩
    | succ count =>
      obtain ⟨rfl, rfl⟩ := Action.runs_pure.1 hrun
      exact .inl ⟨[], [], rfl, .all (Nat.succ_pos count), rfl, rfl⟩
  | cons entry entries ih =>
    cases count with
    | zero =>
      obtain ⟨rfl, rfl⟩ := Action.runs_pure.1 hrun
      -- Nothing is probed, so what the probes would find is up to us.
      let unasked : List Probe := (entry :: entries).map fun entry => ⟨entry, "", 0, "", ""⟩
      refine .inl ⟨unasked, [], ?_, .none _, rfl, rfl⟩
      rw [List.map_map]
      exact List.map_id _
    | succ count =>
      rcases runs_takeFree_cons hrun with
        ⟨e, rfl, rfl⟩ | ⟨p, u, rfl, rfl, ⟨hp, o, hu, rfl⟩ | ⟨hp, hu⟩⟩
      · exact .inr ⟨e, ⟨[], entry, entries, rfl, Nat.succ_pos count, rfl⟩, rfl⟩
      · rcases ih hu with ⟨probes, made, rfl, hmade, rfl, rfl⟩ | ⟨e, hbroken, rfl⟩
        · refine .inl ⟨p :: probes, p :: made, rfl, hmade.cons_free hp, rfl, ?_⟩
          rw [freeEntries_cons_of_free hp]
          rfl
        · exact .inr ⟨e, hbroken.cons_free hp, rfl⟩
      · rcases ih hu with ⟨probes, made, rfl, hmade, rfl, rfl⟩ | ⟨e, hbroken, rfl⟩
        · refine .inl ⟨p :: probes, p :: made, rfl, hmade.cons_taken hp, rfl, ?_⟩
          rw [freeEntries_cons_of_taken hp]
        · exact .inr ⟨e, hbroken.cons_taken hp, rfl⟩

theorem sublist_of_runs_takeFree {free : List Network.Entry}
    (hrun : (h.takeFree count entries).Runs t (.ok free)) :
    free.Sublist entries ∧ free.length ≤ count := by
  rcases runs_takeFree hrun with ⟨probes, made, rfl, -, -, hfree⟩ | ⟨e, -, he⟩
  · obtain rfl := Except.ok.inj hfree
    exact ⟨(List.take_sublist _ _).trans (freeEntries_sublist h probes), List.length_take_le _ _⟩
  · cases he

theorem finite_takeFree (h : Hypervisor) (count : Nat) (entries : List Network.Entry) :
    (h.takeFree count entries).Finite := by
  induction entries generalizing count with
  | nil => cases count <;> exact trivial
  | cons entry entries ih =>
    cases count with
    | zero => exact trivial
    | succ count =>
      have hprobe : (h.isFree entry).Finite := (Action.finite_execute _ _).bind fun _ => trivial
      refine hprobe.bind fun free => ?_
      cases free with
      | true => exact (ih count).bind fun _ => trivial
      | false => exact ih (count + 1)

/-! ## Room for the entries -/

theorem finite_reserve (h : Hypervisor) (count : Nat) : (h.reserve count).Finite := by
  rw [reserve]
  split <;> exact trivial

/-- No memory has room for 2 ^ 58 entries. -/
theorem lt_of_capacity (h : Hypervisor) (hcount : 2 ^ 58 ≤ count) : h.memory.entries < count := by
  have hlargest : Error.largestCapacity < 2 ^ 58 := by decide
  have hle := h.memory.entries_le
  omega

/-! ## Entries that are selected -/

/-- Some free entries if there are as many as were asked for. -/
def enough (count : Nat) (free : List Network.Entry) : Except Error (List Network.Entry) :=
  if free.length < count then .error (.networkDataExhausted count free.length) else .ok free

/-- The free entries that are selected if the probes find what they find. -/
def selection (h : Hypervisor) (count : Nat) (probes : List Probe) :
    Except Error (List Network.Entry) :=
  if count ≤ (h.freeEntries probes).length then .ok ((h.freeEntries probes).take count)
  else .error (.networkDataExhausted count (h.freeEntries probes).length)

theorem enough_take (h : Hypervisor) (count : Nat) (probes : List Probe) :
    enough count ((h.freeEntries probes).take count) = h.selection count probes := by
  rw [enough, selection, List.length_take]
  by_cases hmany : count ≤ (h.freeEntries probes).length
  · rw [if_pos hmany, if_neg (by omega)]
  · rw [if_neg hmany, if_pos (by omega), Nat.min_eq_right (by omega)]

theorem selectFree_eq (h : Hypervisor) (entries : List Network.Entry) (count : Nat) :
    h.selectFree entries count = h.reserve count >>= fun _ =>
      h.takeFree count entries >>= fun free => Action.ofExcept (enough count free) := by
  rw [selectFree]
  congr 1
  funext _
  congr 1
  funext free
  rw [enough]
  split <;> rfl

theorem runs_selectFree_of_room (hroom : count ≤ h.memory.entries)
    {r : Except Error (List Network.Entry)} : (h.selectFree entries count).Runs t r ↔
      ∃ o, (h.takeFree count entries).Runs t o ∧ r = o.bind (enough count) := by
  rw [selectFree_eq, reserve, if_pos hroom]
  exact Action.runs_bind_ofExcept

theorem runs_selectFree_of_no_room (hroom : h.memory.entries < count)
    {r : Except Error (List Network.Entry)} : (h.selectFree entries count).Runs t r ↔
      t = [] ∧ r = .error (.outOfMemory count) := by
  rw [selectFree_eq, reserve, if_neg (Nat.not_le.2 hroom)]
  exact Action.runs_throw

theorem enough_eq_ok {found free : List Network.Entry} (henough : enough count found = .ok free) :
    found = free ∧ count ≤ free.length := by
  rw [enough] at henough
  split at henough
  · cases henough
  · obtain rfl := Except.ok.inj henough
    exact ⟨rfl, by omega⟩

theorem sublist_of_runs_selectFree {free : List Network.Entry}
    (hrun : (h.selectFree entries count).Runs t (.ok free)) :
    free.Sublist entries ∧ free.length = count := by
  by_cases hroom : count ≤ h.memory.entries
  · obtain ⟨o, htake, hfree⟩ := (runs_selectFree_of_room hroom).1 hrun
    cases o with
    | error e => cases hfree
    | ok found =>
      obtain ⟨hsub, hlength⟩ := sublist_of_runs_takeFree htake
      obtain ⟨rfl, hmany⟩ := enough_eq_ok hfree.symm
      exact ⟨hsub, Nat.le_antisymm hlength hmany⟩
  · cases ((runs_selectFree_of_no_room (Nat.not_le.1 hroom)).1 hrun).2

/-- **Selection of network data.** Entries are probed in order up to the one that is the last of as many
free ones as were asked for, and these are selected; if there are fewer, all are probed and their number
is reported. A probe that cannot be made is the only other end. This is so if memory has room for as
many entries as were asked for. If it has not, and it never has for 2 ^ 58 entries or more, the program
ends before the first probe. -/
theorem selectFree_probes (h : Hypervisor) (entries : List Network.Entry) (count : Nat) :
    (∀ {σ : Type} (host : Host σ) (s : σ), (h.selectFree entries count).Returns host s) ∧
    (count ≤ h.memory.entries →
      (∀ probes : List Probe, probes.map Probe.entry = entries →
        ∃ made, Made h count probes made ∧
          (h.selectFree entries count).Runs (made.map Probe.exchange) (h.selection count probes)) ∧
      ∀ t r, (h.selectFree entries count).Runs t r →
        (∃ probes made, probes.map Probe.entry = entries ∧ Made h count probes made ∧
            t = made.map Probe.exchange ∧ r = h.selection count probes) ∨
          ∃ e, Broken h count entries t e ∧ r = .error e) ∧
    (2 ^ 58 ≤ count ∨ h.memory.entries < count → ∀ t r, (h.selectFree entries count).Runs t r ↔
      t = [] ∧ r = .error (.outOfMemory count)) := by
  refine ⟨?_, fun hroom => ⟨?_, ?_⟩, fun hroom t r => ?_⟩
  · intro σ host s
    rw [selectFree_eq]
    refine Action.Finite.returns ((finite_reserve h count).bind fun _ => ?_) host s
    exact (finite_takeFree h count entries).bind fun free => trivial
  · rintro probes rfl
    obtain ⟨made, hmade, hrun⟩ := exists_runs_takeFree h count probes
    exact ⟨made, hmade,
      (runs_selectFree_of_room hroom).2 ⟨_, hrun, (enough_take h count probes).symm⟩⟩
  · intro t r hrun
    obtain ⟨o, ho, rfl⟩ := (runs_selectFree_of_room hroom).1 hrun
    rcases runs_takeFree ho with ⟨probes, made, hentries, hmade, ht, rfl⟩ | ⟨e, hbroken, rfl⟩
    · exact .inl ⟨probes, made, hentries, hmade, ht, enough_take h count probes⟩
    · exact .inr ⟨e, hbroken, rfl⟩
  · exact runs_selectFree_of_no_room (hroom.elim (lt_of_capacity h) id)

/-- The first of three entries answers, so the second one is selected. None is if 2 ^ 64 - 1 entries
are asked for. -/
theorem selectFree_probes_second :
    let h : Hypervisor := {}
    let probes : List Probe := [⟨⟨⟨10, 0, 0, 1⟩, "52:54:00:00:00:01"⟩, ⟨"", 0, "", ""⟩⟩,
      ⟨⟨⟨10, 0, 0, 2⟩, "52:54:00:00:00:02"⟩, ⟨"", 1, "", ""⟩⟩,
      ⟨⟨⟨10, 0, 0, 3⟩, "52:54:00:00:00:03"⟩, ⟨"", 1, "", ""⟩⟩]
    (1 ≤ h.memory.entries ∧ ∃ made, Made h 1 probes made ∧
      (h.selectFree (probes.map Probe.entry) 1).Runs
        (made.map Probe.exchange) (.ok [⟨⟨10, 0, 0, 2⟩, "52:54:00:00:00:02"⟩])) ∧
    2 ^ 58 ≤ 2 ^ 64 - 1 ∧ (h.selectFree (probes.map Probe.entry) (2 ^ 64 - 1)).Runs []
      (.error (.outOfMemory (2 ^ 64 - 1))) := by
  intro h probes
  have hroom : 1 ≤ h.memory.entries := by decide
  have hcount : 2 ^ 58 ≤ 2 ^ 64 - 1 := by decide
  obtain ⟨-, hselected, -⟩ := selectFree_probes h (probes.map Probe.entry) 1
  obtain ⟨-, -, hended⟩ := selectFree_probes h (probes.map Probe.entry) (2 ^ 64 - 1)
  exact ⟨⟨hroom, (hselected hroom).1 probes rfl⟩, hcount, (hended (.inl hcount) _ _).2 ⟨rfl, rfl⟩⟩

/-- If 2 ^ 64 - 1 entries are asked for and there is one, which is free, it is not probed, and its number
is not reported. -/
theorem selectFree_unprobed :
    let h : Hypervisor := {}
    let probes : List Probe := [⟨⟨⟨10, 0, 0, 1⟩, "52:54:00:00:00:01"⟩, ⟨"", 1, "", ""⟩⟩]
    let count := 2 ^ 64 - 1
    Made h count probes probes ∧
      h.selection count probes = .error (.networkDataExhausted count 1) ∧
      ¬ (h.selectFree (probes.map Probe.entry) count).Runs (probes.map Probe.exchange)
        (.error (.networkDataExhausted count 1)) ∧
      (h.selectFree (probes.map Probe.entry) count).Runs [] (.error (.outOfMemory count)) := by
  intro h probes count
  have hroom : h.memory.entries < count := lt_of_capacity h (by decide)
  refine ⟨.all (by decide), by decide, fun hrun => ?_, (runs_selectFree_of_no_room hroom).2 ⟨rfl, rfl⟩⟩
  cases ((runs_selectFree_of_no_room hroom).1 hrun).2

end VirtHost.Hypervisor
