import Mathlib.Data.List.Sigma
import Mathlib.Data.Set.Basic
import Mathlib.Order.Bounds.Defs
import VirtHost.Host.Scripted

/-! # The rules of a scripted host

A rule is known by its place in the list in which it was added, since other rules may be equal to it. The
rules that are left at some time are those of the list, in its order, without the ones for one use that
have answered a command.

* `Scripted.remaining`: those rules.
* `Scripted.AnsweredBy`: which rule answers a command, if some have been used, and with what.
* `Scripted.replyFrom_remaining`, `Scripted.answeredBy_chosen`: one command.
-/

namespace VirtHost.Host.Scripted
set_option autoImplicit false

variable {rules : List Rule} {used : List ℕ} {command : String}

/-- The rules with their places that are left when those at the places `used` have answered. -/
def remaining (rules : List Rule) (used : List ℕ) : List (Rule × ℕ) :=
  rules.zipIdx.filter fun x => !(x.1.once && used.contains x.2)

/-- The places of the rules for one use that match a command and have not been used. -/
def unusedFor (rules : List Rule) (used : Set ℕ) (command : String) : Set ℕ :=
  {i | ∃ r, rules[i]? = some r ∧ r.once = true ∧ r.matchesCommand command = true ∧ i ∉ used}

/-- The places of the lasting rules that match a command. -/
def lastingFor (rules : List Rule) (command : String) : Set ℕ :=
  {i | ∃ r, rules[i]? = some r ∧ r.once = false ∧ r.matchesCommand command = true}

/-- A command is answered by the first unused rule for one use that matches it, or else by the first
lasting rule that does, or else by none, with code zero and without output. -/
inductive AnsweredBy (rules : List Rule) (used : Set ℕ) (command : String) :
    Option ℕ → Completion → Prop
  | once {i : ℕ} {r : Rule} (hrule : rules[i]? = some r)
      (hfirst : IsLeast (unusedFor rules used command) i) :
      AnsweredBy rules used command (some i) (r.completion command)
  | lasting {i : ℕ} {r : Rule} (hrule : rules[i]? = some r)
      (hunused : unusedFor rules used command = ∅) (hfirst : IsLeast (lastingFor rules command) i) :
      AnsweredBy rules used command (some i) (r.completion command)
  | unmatched (hunused : unusedFor rules used command = ∅) (hlasting : lastingFor rules command = ∅) :
      AnsweredBy rules used command none ⟨command, 0, "", ""⟩

/-! ## The first rule -/

theorem isLeast_of_find?_zipIdx {p : Rule × ℕ → Bool} {r : Rule} {i : ℕ}
    (h : rules.zipIdx.find? p = some (r, i)) :
    rules[i]? = some r ∧ IsLeast {j | ∃ r', rules[j]? = some r' ∧ p (r', j) = true} i := by
  obtain ⟨hp, k, hk, hget, hbefore⟩ := List.find?_eq_some_iff_getElem.1 h
  have hlength : k < rules.length := by simpa using hk
  rw [List.getElem_zipIdx, Prod.mk.injEq] at hget
  obtain ⟨rfl, rfl⟩ := hget
  rw [Nat.zero_add] at hp ⊢
  have hrule : rules[k]? = some rules[k] := List.getElem?_eq_getElem hlength
  refine ⟨hrule, ⟨rules[k], hrule, hp⟩, ?_⟩
  rintro j ⟨r', hr', hj⟩
  by_contra hlt
  have hearlier := hbefore j (by omega)
  obtain ⟨hjlength, rfl⟩ := List.getElem?_eq_some_iff.1 hr'
  rw [List.getElem_zipIdx, Nat.zero_add, hj] at hearlier
  cases hearlier

theorem eq_empty_of_find?_zipIdx {p : Rule × ℕ → Bool} (h : rules.zipIdx.find? p = none) :
    {j | ∃ r', rules[j]? = some r' ∧ p (r', j) = true} = ∅ := by
  refine Set.eq_empty_iff_forall_notMem.2 ?_
  rintro j ⟨r', hr', hj⟩
  exact List.find?_eq_none.1 h (r', j) (List.mk_mem_zipIdx_iff_getElem?.2 hr') hj

theorem eraseP_eq_filter {α : Type} [DecidableEq α] {p : α → Bool} {l : List α} {a : α}
    (hl : l.Nodup) (h : l.find? p = some a) : l.eraseP p = l.filter fun b => decide (b ≠ a) := by
  obtain ⟨hp, before, after, rfl, hbefore⟩ := List.find?_eq_some_iff_append.1 h
  have hnot : ∀ b ∈ before, ¬ p b = true := by
    intro b hb
    have hb := hbefore b hb
    simpa using hb
  obtain ⟨-, hafter, hdisjoint⟩ := List.nodup_append.1 hl
  have hleft : before.filter (fun b => decide (b ≠ a)) = before :=
    List.filter_eq_self.2 fun b hb => by
      simpa using hdisjoint b hb a List.mem_cons_self
  have hright : after.filter (fun b => decide (b ≠ a)) = after :=
    List.filter_eq_self.2 fun b hb => by
      have hne : b ≠ a := fun heq => (List.nodup_cons.1 hafter).1 (heq ▸ hb)
      simpa using hne
  rw [List.eraseP_append_right _ hnot, List.eraseP_cons_of_pos hp, List.filter_append, hleft,
    List.filter_cons_of_neg (by simp), hright]

/-! ## One command -/

/-- The rule with its place that answers a command. -/
def chosen? (rules : List Rule) (used : List ℕ) (command : String) : Option (Rule × ℕ) :=
  ((remaining rules used).find? fun x => x.1.once && x.1.matchesCommand command).or
    ((remaining rules used).find? fun x => !x.1.once && x.1.matchesCommand command)

/-- Its completion of the command. -/
def completionBy (command : String) : Option (Rule × ℕ) → Completion
  | some x => x.1.completion command
  | none => ⟨command, 0, "", ""⟩

theorem nodup_remaining (rules : List Rule) (used : List ℕ) : (remaining rules used).Nodup :=
  ((List.nodup_zipIdx_map_snd rules).of_map Prod.snd).filter _

theorem mem_remaining {r : Rule} {i : ℕ} :
    (r, i) ∈ remaining rules used ↔ rules[i]? = some r ∧ (r.once = true → i ∉ used) := by
  rw [remaining, List.mem_filter, List.mk_mem_zipIdx_iff_getElem?]
  cases r.once <;> simp

/-- Places of lasting rules do not count as used. -/
theorem remaining_cons_of_lasting {r : Rule} {i : ℕ} (hrule : rules[i]? = some r)
    (hlasting : r.once = false) : remaining rules (i :: used) = remaining rules used := by
  refine List.filter_congr fun ⟨r', j⟩ hmem => ?_
  have hrule' : rules[j]? = some r' := List.mk_mem_zipIdx_iff_getElem?.1 hmem
  by_cases hj : j = i
  · subst hj
    obtain rfl : r = r' := Option.some.inj (hrule.symm.trans hrule')
    simp [hlasting]
  · simp [hj]

theorem remaining_cons_of_once {r : Rule} {i : ℕ} (hrule : rules[i]? = some r)
    (honce : r.once = true) :
    remaining rules (i :: used) = (remaining rules used).filter fun x => decide (x ≠ (r, i)) := by
  rw [remaining, remaining, List.filter_filter]
  refine List.filter_congr fun ⟨r', j⟩ hmem => ?_
  have hrule' : rules[j]? = some r' := List.mk_mem_zipIdx_iff_getElem?.1 hmem
  by_cases hj : j = i
  · subst hj
    obtain rfl : r = r' := Option.some.inj (hrule.symm.trans hrule')
    simp [honce]
  · simp [hj]

/-- The reply to a command from the rules that are left, and the rules that are left then. -/
theorem replyFrom_remaining (rules : List Rule) (used : List ℕ) (command : String) :
    replyFrom ((remaining rules used).map Prod.fst) command
      = (completionBy command (chosen? rules used command),
        (remaining rules (((chosen? rules used command).map Prod.snd).toList ++ used)).map
          Prod.fst) := by
  rw [replyFrom, List.find?_map, List.find?_map, chosen?]
  cases honce : (remaining rules used).find? fun x => x.1.once && x.1.matchesCommand command with
  | some x =>
    obtain ⟨r, i⟩ := x
    have hx : r.once = true ∧ r.matchesCommand command = true := by
      simpa using List.find?_some honce
    have hrule := (mem_remaining.1 (List.mem_of_find?_eq_some honce)).1
    have hgone : remaining rules (i :: used) =
        (remaining rules used).filter fun x => decide (x ≠ (r, i)) :=
      remaining_cons_of_once hrule hx.1
    have herase := eraseP_eq_filter (nodup_remaining rules used) honce
    simp only [Function.comp_def, honce, Option.map_some, Option.some_or, completionBy,
      Option.toList_some, List.singleton_append, List.eraseP_map]
    rw [hgone, herase]
  | none =>
    cases hlasting : (remaining rules used).find? fun x =>
        !x.1.once && x.1.matchesCommand command with
    | some x =>
      obtain ⟨r, i⟩ := x
      have hx : r.once = false ∧ r.matchesCommand command = true := by
        simpa using List.find?_some hlasting
      have hrule := (mem_remaining.1 (List.mem_of_find?_eq_some hlasting)).1
      have hkept : remaining rules (i :: used) = remaining rules used :=
        remaining_cons_of_lasting hrule hx.1
      simp only [Function.comp_def, honce, hlasting, Option.map_some, Option.map_none, Option.none_or,
        completionBy, Option.toList_some, List.singleton_append]
      rw [hkept]
    | none =>
      simp only [Function.comp_def, honce, hlasting, Option.map_none, Option.none_or, completionBy,
        Option.toList_none, List.nil_append]

/-- The rule that answers a command is the one that comes first. -/
theorem answeredBy_chosen (rules : List Rule) (used : List ℕ) (command : String) :
    AnsweredBy rules {i | i ∈ used} command ((chosen? rules used command).map Prod.snd)
      (completionBy command (chosen? rules used command)) := by
  have hunused : {j | ∃ r', rules[j]? = some r' ∧
      decide ((!(r'.once && used.contains j)) = true ∧
        (r'.once && r'.matchesCommand command) = true) = true}
      = unusedFor rules {i | i ∈ used} command := by
    ext j
    simp only [unusedFor, Set.mem_ofPred_eq, decide_eq_true_eq]
    refine exists_congr fun r' => and_congr_right fun _ => ?_
    cases r'.once <;> simp [and_comm]
  have hlastingFor : {j | ∃ r', rules[j]? = some r' ∧
      decide ((!(r'.once && used.contains j)) = true ∧
        (!r'.once && r'.matchesCommand command) = true) = true}
      = lastingFor rules command := by
    ext j
    simp only [lastingFor, Set.mem_ofPred_eq, decide_eq_true_eq]
    refine exists_congr fun r' => and_congr_right fun _ => ?_
    cases r'.once <;> simp
  rw [chosen?, remaining, List.find?_filter, List.find?_filter]
  cases honce : rules.zipIdx.find? fun x =>
      decide ((!(x.1.once && used.contains x.2)) = true ∧
        (x.1.once && x.1.matchesCommand command) = true) with
  | some x =>
    obtain ⟨r, i⟩ := x
    obtain ⟨hrule, hfirst⟩ := isLeast_of_find?_zipIdx honce
    rw [hunused] at hfirst
    exact .once hrule hfirst
  | none =>
    have hnone := eq_empty_of_find?_zipIdx honce
    rw [hunused] at hnone
    rw [Option.none_or]
    cases hlasting : rules.zipIdx.find? fun x =>
        decide ((!(x.1.once && used.contains x.2)) = true ∧
          (!x.1.once && x.1.matchesCommand command) = true) with
    | some x =>
      obtain ⟨r, i⟩ := x
      obtain ⟨hrule, hfirst⟩ := isLeast_of_find?_zipIdx hlasting
      rw [hlastingFor] at hfirst
      exact .lasting hrule hnone hfirst
    | none =>
      have hnone' := eq_empty_of_find?_zipIdx hlasting
      rw [hlastingFor] at hnone'
      exact .unmatched hnone hnone'

end VirtHost.Host.Scripted
