import VirtHost.Text.LowerCase

/-! # Characters that the lowercase mapping does not produce

* `Unmapped c`: no other character has `c` in its lowercase form.
* `mem_of_mem_lowercase`: such a character is in the lowercase form of a text only if it is in the text.
-/

namespace VirtHost.Text
set_option autoImplicit false

variable {c d : Char} {s : List Char}

/-- No run of the lowercase mapping ends up at a character, nor do the two special mappings. -/
def Unmapped (c : Char) : Prop :=
  c.toNat ≠ 0 ∧ c ∉ ['ς', 'σ', 'i', '\u0307'] ∧
    ∀ run ∈ lowerRuns, (c.toNat : Int) < run.first + run.shift ∨ run.last + run.shift < c.toNat

instance : DecidablePred Unmapped :=
  fun c => inferInstanceAs (Decidable (c.toNat ≠ 0 ∧ c ∉ ['ς', 'σ', 'i', '\u0307'] ∧
    ∀ run ∈ lowerRuns, (c.toNat : Int) < run.first + run.shift ∨ run.last + run.shift < c.toNat))

theorem eq_toNat_of_ofNat_eq {n : Nat} (hd : d.toNat ≠ 0) (h : Char.ofNat n = d) : n = d.toNat := by
  unfold Char.ofNat at h
  by_cases hvalid : n.isValidChar
  · rw [dif_pos hvalid] at h
    subst h
    rfl
  · rw [dif_neg hvalid] at h
    subst h
    exact absurd rfl hd

theorem eq_of_lowerChar_eq (hd : Unmapped d) (h : lowerChar c = d) : c = d := by
  unfold lowerChar at h
  split at h
  · rename_i run hrun
    have hcovers := List.find?_some hrun
    simp only [LowerRun.covers, Bool.and_eq_true, decide_eq_true_eq] at hcovers
    have hcode := eq_toNat_of_ofNat_eq hd.1 h
    have hapart := hd.2.2 run (List.mem_of_find?_eq_some hrun)
    have hpos := hd.1
    omega
  · exact h

theorem eq_of_mem_lowerAt (hd : Unmapped d) {before after : List Char} (h : d ∈ lowerAt before c after) :
    c = d := by
  have hproduced := hd.2.1
  unfold lowerAt at h
  split at h
  · obtain rfl := List.mem_singleton.1 h
    exfalso
    apply hproduced
    unfold lowerSigma
    split <;> decide
  · split at h
    · exfalso
      apply hproduced
      simp only [List.mem_cons, List.not_mem_nil, or_false] at h
      rcases h with rfl | rfl <;> decide
    · exact eq_of_lowerChar_eq hd (List.mem_singleton.1 h).symm

theorem mem_of_mem_lowercaseAfter (hd : Unmapped d) {before : List Char}
    (h : d ∈ lowercaseAfter before s) : d ∈ s := by
  induction s generalizing before with
  | nil => exact h
  | cons c s ih =>
    rcases List.mem_append.1 h with h | h
    · rw [eq_of_mem_lowerAt hd h]
      exact List.mem_cons_self
    · exact List.mem_cons_of_mem c (ih h)

theorem mem_of_mem_lowercase (hd : Unmapped d) (h : d ∈ lowercase s) : d ∈ s :=
  mem_of_mem_lowercaseAfter hd h

end VirtHost.Text
