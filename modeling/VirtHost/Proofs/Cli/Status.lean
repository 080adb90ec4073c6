import Mathlib.Data.String.Basic
import VirtHost.Proofs.Cli.Job
import VirtHost.Proofs.Virsh
import VirtHost.Proofs.Vm.State

/-! # The printed record of a virtual machine

A record may have several fields of one name. A lookup takes the first of them, and so does every
decision about a state. What is printed has one field for each name, with the value of the last of them.

* `Vm.LastOf`: the last value of a name among some fields, beside the first one.
* `find?_sortedFields`, `pairwise_sortedFields`: the fields that are printed.
* `status_prints_last`: what is printed, beside what is looked up.
-/

namespace VirtHost.Vm
set_option autoImplicit false

variable {fields : List (String × String)} {key value : String}

/-- The last field called `key` has this value. -/
def LastOf (fields : List (String × String)) (key value : String) : Prop :=
  ∃ before after, fields = before ++ (key, value) :: after ∧ ∀ f ∈ after, f.1 ≠ key

theorem firstOf_reverse_iff : FirstOf fields.reverse key value ↔ LastOf fields key value := by
  constructor
  · rintro ⟨before, after, hfields, hbefore⟩
    refine ⟨after.reverse, before.reverse, ?_, by simpa using hbefore⟩
    rw [← List.reverse_reverse fields, hfields]
    simp
  · rintro ⟨before, after, rfl, hafter⟩
    exact ⟨after.reverse, before.reverse, by simp, by simpa using hafter⟩

/-- The values found from either end are the same if the first and the last one are. -/
theorem find?_reverse_eq_iff :
    (fields.reverse.find? (·.1 = key)).map (·.2) = (fields.find? (·.1 = key)).map (·.2) ↔
      ∀ first last, FirstOf fields key first → LastOf fields key last → first = last := by
  have hboth : (fields.reverse.find? (·.1 = key)).isSome = (fields.find? (·.1 = key)).isSome := by
    rw [Bool.eq_iff_iff, List.find?_isSome, List.find?_isSome]
    simp only [List.mem_reverse]
  simp only [← firstOf_reverse_iff, ← find?_eq_some_iff_firstOf]
  cases hfirst : fields.find? (·.1 = key) with
  | none =>
    have hlast : fields.reverse.find? (·.1 = key) = none := by simpa [hfirst] using hboth
    simp [hlast]
  | some f =>
    obtain ⟨g, hlast⟩ := Option.isSome_iff_exists.1 (hboth.trans (by rw [hfirst]; rfl))
    simp only [hlast, Option.map_some, Option.some.injEq]
    constructor
    · rintro h first last rfl rfl
      exact h.symm
    · exact fun h => (h f.2 g.2 rfl rfl).symm

end VirtHost.Vm

namespace VirtHost.Cli
open Data (Document)
set_option autoImplicit false

variable {key value : String} {fields sorted : List (String × String)}

/-! ## Fields in order -/

theorem find?_insertField_self (key value : String) (sorted : List (String × String)) :
    ((insertField key value sorted).find? (·.1 = key)).map (·.2) = some value := by
  induction sorted with
  | nil => simp [insertField]
  | cons f sorted ih =>
    obtain ⟨k, v⟩ := f
    rw [insertField]
    split_ifs with hlt heq
    · simp
    · simp
    · simpa [Ne.symm heq] using ih

theorem find?_insertField_of_ne {other : String} (h : other ≠ key) (value : String)
    (sorted : List (String × String)) :
    (insertField key value sorted).find? (·.1 = other) = sorted.find? (·.1 = other) := by
  induction sorted with
  | nil => simp [insertField, Ne.symm h]
  | cons f sorted ih =>
    obtain ⟨k, v⟩ := f
    rw [insertField]
    split_ifs with hlt heq
    · simp [Ne.symm h]
    · subst heq
      simp [Ne.symm h]
    · by_cases hk : k = other <;> simp [hk, ih]

/-- A field that is put in its place comes before all that were added earlier. -/
theorem find?_foldl_insertField (fields sorted : List (String × String)) (key : String) :
    ((fields.foldl (fun sorted f => insertField f.1 f.2 sorted) sorted).find? (·.1 = key)).map (·.2)
      = ((fields.reverse ++ sorted).find? (·.1 = key)).map (·.2) := by
  induction fields generalizing sorted with
  | nil => rfl
  | cons f fields ih =>
    rw [List.foldl_cons, ih, List.reverse_cons, List.append_assoc, List.find?_append,
      List.find?_append]
    -- A later field called `key` hides `f` in both lists, whatever its place among the sorted ones.
    cases hlater : fields.reverse.find? (·.1 = key) with
    | some g => rfl
    | none =>
      by_cases hkey : f.1 = key
      · subst hkey
        simp [find?_insertField_self]
      · simp [find?_insertField_of_ne (Ne.symm hkey), hkey]

theorem find?_sortedFields (fields : List (String × String)) (key : String) :
    ((sortedFields fields).find? (·.1 = key)).map (·.2)
      = (fields.reverse.find? (·.1 = key)).map (·.2) := by
  have h := find?_foldl_insertField fields [] key
  rwa [List.append_nil] at h

theorem mem_insertField {f : String × String} (h : f ∈ insertField key value sorted) :
    f = (key, value) ∨ f ∈ sorted := by
  induction sorted with
  | nil => simpa [insertField] using h
  | cons g sorted ih =>
    obtain ⟨k, v⟩ := g
    rw [insertField] at h
    split_ifs at h <;> grind

theorem pairwise_insertField (h : sorted.Pairwise fun f g => f.1 < g.1) :
    (insertField key value sorted).Pairwise fun f g => f.1 < g.1 := by
  induction sorted with
  | nil => simp [insertField]
  | cons g sorted ih =>
    obtain ⟨k, v⟩ := g
    obtain ⟨hhead, htail⟩ := List.pairwise_cons.1 h
    rw [insertField]
    split_ifs with hlt heq
    · refine List.pairwise_cons.2 ⟨fun f hf => ?_, h⟩
      rcases List.mem_cons.1 hf with rfl | hf
      · exact hlt
      · exact hlt.trans (hhead f hf)
    · subst heq
      exact List.pairwise_cons.2 ⟨hhead, htail⟩
    · refine List.pairwise_cons.2 ⟨fun f hf => ?_, ih htail⟩
      rcases mem_insertField hf with rfl | hf
      · exact lt_of_le_of_ne (not_lt.1 hlt) (Ne.symm heq)
      · exact hhead f hf

theorem pairwise_sortedFields (fields : List (String × String)) :
    (sortedFields fields).Pairwise fun f g => f.1 < g.1 := by
  have hkeeps : ∀ sorted : List (String × String), (sorted.Pairwise fun f g => f.1 < g.1) →
      (fields.foldl (fun sorted f => insertField f.1 f.2 sorted) sorted).Pairwise
        fun f g => f.1 < g.1 := by
    induction fields with
    | nil => exact fun _ h => h
    | cons f fields ih => exact fun sorted h => ih _ (pairwise_insertField h)
  exact hkeeps [] List.Pairwise.nil

/-! ## The document -/

/-- The value of a field of a document. -/
def printed? : Document → String → Option Document
  | .record fields, key => (fields.find? (·.1 = key)).map (·.2)
  | _, _ => none

theorem printed?_statusDocument (status : Vm.Status) (key : String) :
    printed? (statusDocument status) key
      = ((status.fields.reverse.find? (·.1 = key)).map (·.2)).map Document.text := by
  rw [← find?_sortedFields]
  simp [printed?, statusDocument, List.find?_map, Function.comp_def]

theorem runs_status {h : Hypervisor} {name : String} {c : Host.Completion} (hcode : c.code = 0)
    {r : Except Failure (Option Document)} :
    (run h (.status name)).Runs [h.tool.ran ("dominfo " ++ name) (.ok c)] r ↔
      r = .ok (some (statusDocument (Listing.status c.stdout))) := by
  have hcompletes : h.tool.outcome (.ok c) = .ok c := Virsh.outcome_eq_ok_iff.2 ⟨rfl, hcode⟩
  refine Job.runs_bind_pure.trans ?_
  constructor
  · rintro ⟨o, ho, rfl⟩
    obtain ⟨o', ho', rfl⟩ := Job.runs_doing.1 ho
    obtain ⟨reply, ht, rfl⟩ := Virsh.runs_status.1 ho'
    obtain rfl : Except.ok c = reply := by simpa [Virsh.ran, Exchange.ran] using ht
    rw [hcompletes]
    rfl
  · rintro rfl
    refine ⟨.ok (Listing.status c.stdout), Job.runs_doing.2 ⟨.ok (Listing.status c.stdout), ?_, rfl⟩, rfl⟩
    refine Virsh.runs_status.2 ⟨.ok c, rfl, ?_⟩
    rw [hcompletes]
    rfl

/-- **The printed record.** If a virtual machine was reported on, its record is printed with every name
once, in ascending order. Under a name stands the value of its last field, while the value that is looked
up, and by which a state is decided, is that of the first one: the two are equal exactly if these fields
agree. -/
theorem status_prints_last (h : Hypervisor) (name : String) {c : Host.Completion}
    (hcode : c.code = 0) :
    let status := Listing.status c.stdout
    ∃ fields : List (String × Document),
      (∀ r, (run h (.status name)).Runs [h.tool.ran ("dominfo " ++ name) (.ok c)] r ↔
        r = .ok (some (.record fields))) ∧
      (fields.Pairwise fun f g => f.1 < g.1) ∧
      (∀ key value, printed? (.record fields) key = some (.text value) ↔
        Vm.LastOf status.fields key value) ∧
      (∀ key value, status.get? key = some value ↔ Vm.FirstOf status.fields key value) ∧
      ∀ key, printed? (.record fields) key = (status.get? key).map .text ↔
        ∀ first last, Vm.FirstOf status.fields key first → Vm.LastOf status.fields key last →
          first = last := by
  intro status
  have hlast : ∀ key value, printed? (statusDocument status) key = some (.text value) ↔
      Vm.LastOf status.fields key value := by
    intro key value
    rw [printed?_statusDocument, ← Vm.firstOf_reverse_iff, ← Vm.find?_eq_some_iff_firstOf]
    simp
  refine ⟨_, fun r => runs_status hcode, ?_, hlast, fun _ _ => Vm.Status.get?_eq_some_iff, ?_⟩
  · exact List.pairwise_map.2 (pairwise_sortedFields status.fields)
  · intro key
    have htext : Function.Injective Document.text := fun a b hab => by simpa using hab
    rw [← Vm.find?_reverse_eq_iff]
    refine Eq.congr_left (printed?_statusDocument status key) |>.trans ?_
    exact (Option.map_injective htext).eq_iff

/-- The report on a running virtual machine with two messages of one kind. -/
def reportWithMessages : String :=
  "State: running\nMessages: tainted: deprecated settings\n" ++
    "  deprecated configuration: machine type 'pc-1.3'\n" ++
    "  deprecated configuration: CPU model 'host'\n"

/-- The last of two messages is printed, the first one is looked up. -/
theorem status_prints_last_message :
    let c : Host.Completion := ⟨"virsh dominfo vm", 0, reportWithMessages, ""⟩
    let h : Hypervisor := {}
    c.code = 0 ∧ ∃ fields : List (String × Document),
      (run h (.status "vm")).Runs [h.tool.ran "dominfo vm" (.ok c)] (.ok (some (.record fields))) ∧
        printed? (.record fields) "deprecated configuration" = some (.text "CPU model 'host'") ∧
        (Listing.status reportWithMessages).get? "deprecated configuration"
          = some "machine type 'pc-1.3'" ∧
        printed? (.record fields) "State" = some (.text "running") := by
  intro c h
  obtain ⟨fields, hruns, -, hlast, hfirst, -⟩ := status_prints_last h "vm" (c := c) rfl
  let early := [("State", "running"), ("Messages", "tainted: deprecated settings")]
  let messages := [("deprecated configuration", "machine type 'pc-1.3'"),
    ("deprecated configuration", "CPU model 'host'")]
  have hfields : (Listing.status reportWithMessages).fields = early ++ messages := by decide +kernel
  exact ⟨rfl, fields, (hruns _).2 rfl,
    (hlast _ _).2 ⟨early ++ messages.take 1, [], hfields, by simp⟩,
    (hfirst _ _).2 ⟨early, messages.drop 1, hfields, by decide⟩,
    (hlast _ _).2 ⟨[], early.drop 1 ++ messages, hfields, by decide⟩⟩

/-- A report with two states. The last one is printed, and the machine passes for one in the first. -/
theorem status_prints_other_state :
    let report := "State:          running\nState:          shut off\n"
    let c : Host.Completion := ⟨"virsh dominfo vm", 0, report, ""⟩
    let h : Hypervisor := {}
    let document : Document := .record [("State", .text "shut off")]
    (run h (.status "vm")).Runs [h.tool.ran "dominfo vm" (.ok c)] (.ok (some document)) ∧
      output false (some document) = "State: shut off\n" ∧
      (Listing.status report).get? "State" = some "running" ∧
      (h.isInState "vm" .running).Runs [h.tool.ran "dominfo vm" (.ok c)] (.ok true) := by
  intro report c h document
  have hstatus : Listing.status report = ⟨[("State", "running"), ("State", "shut off")]⟩ := by
    decide +kernel
  refine ⟨(runs_status rfl).2 ?_, by decide +kernel, by rw [hstatus]; rfl, ?_⟩
  · rw [hstatus]
    rfl
  · exact Action.runs_of_play (by decide +kernel)

end VirtHost.Cli
