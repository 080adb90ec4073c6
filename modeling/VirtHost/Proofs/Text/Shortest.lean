import Mathlib.Data.List.Induction
import VirtHost.Proofs.Text.Denotation

/-! # Numerals without leading zeros

A number has only one numeral that does not begin with a zero, unless it is zero: the one that is written.

* `head?_digitsOf_ne`: a numeral that is written does not begin with a zero.
* `IsNumeral.ne_zero`: one that does not has a value other than zero.
* `IsNumeral.eq_digitsOf`: a numeral that does not is one that is written.
-/

namespace VirtHost.Text
set_option autoImplicit false

variable {base n : Nat} {c : Char} {s : List Char}

theorem eq_digitChar {d : Nat} (hbase : base ≤ 10) (h : digitValue? base c = some d) : c = digitChar d := by
  have hlt : d < base := digitValue?_lt h
  have hchar := toNat_digitChar d (by omega)
  rw [if_pos (by omega)] at hchar
  unfold digitValue? at h
  have hvalue := (Option.ite_none_right_eq_some.1 h).2
  apply Char.toNat_inj.1
  rw [hchar]
  split_ifs at hvalue <;> simp only [Option.some.injEq] at hvalue <;> omega

theorem head?_digitsOf_ne (hbase : 2 ≤ base) (hle : base ≤ 16) (hn : n ≠ 0) :
    (digitsOf base n).head? ≠ some '0' := by
  have hdigit : ∀ d < 16, d ≠ 0 → digitChar d ≠ '0' := by decide
  induction n using Nat.strongRecOn with
  | ind n ih =>
    by_cases hlt : n < base
    · rw [digitsOf_of_lt hlt]
      simpa using hdigit n (by omega) hn
    · have hdiv : n / base ≠ 0 := Nat.div_ne_zero_iff.2 ⟨by omega, by omega⟩
      obtain ⟨first, more, hfirst⟩ := List.exists_cons_of_ne_nil (digitsOf_ne_nil base (n / base))
      have hrest := ih (n / base) (Nat.div_lt_self (by omega) (by omega)) hdiv
      rw [hfirst] at hrest
      rw [digitsOf_of_le hbase (by omega), hfirst]
      exact hrest

theorem IsNumeral.ne_zero (hbase : 0 < base) (h : IsNumeral base n s) (hhead : s.head? ≠ some '0') : n ≠ 0 := by
  rintro rfl
  obtain ⟨hne, values, hvalues, hsum⟩ := h
  have hall := eq_replicate_zero hbase hvalues hsum.symm
  obtain ⟨k, hk⟩ := Nat.exists_eq_succ_of_ne_zero (List.length_pos_iff.2 hne).ne'
  rw [hall, hk] at hhead
  exact hhead rfl

theorem IsNumeral.eq_digitsOf (hbase : 2 ≤ base) (hle : base ≤ 10) (h : IsNumeral base n s)
    (hhead : s.head? = some '0' → s = ['0']) : s = digitsOf base n := by
  induction s using List.reverseRecOn generalizing n with
  | nil => exact absurd rfl h.1
  | append_singleton s c ih =>
    obtain ⟨m, d, hd, rfl, hrest⟩ := isNumeral_concat_iff.1 h
    have hlt : d < base := digitValue?_lt hd
    rw [eq_digitChar hle hd]
    rcases hrest with ⟨rfl, rfl⟩ | hs
    · rw [Nat.mul_zero, Nat.zero_add, digitsOf_of_lt hlt]
      rfl
    · -- The digits before the last one have a value, since they begin with none that is zero.
      have hzero : s.head? ≠ some '0' := by
        intro hs'
        have heq := hhead (by rw [List.head?_append, hs']; rfl)
        have hlength := congrArg List.length heq
        have hpos := List.length_pos_iff.2 hs.1
        simp only [List.length_append, List.length_singleton] at hlength
        omega
      have hm : 0 < m := Nat.pos_of_ne_zero (hs.ne_zero (by omega) hzero)
      have hge : base ≤ base * m + d := Nat.le_add_right_of_le (Nat.le_mul_of_pos_right _ hm)
      have hdiv : (base * m + d) / base = m := by
        rw [Nat.mul_add_div (by omega), Nat.div_eq_of_lt hlt, Nat.add_zero]
      have hmod : (base * m + d) % base = d := by
        rw [Nat.mul_add_mod, Nat.mod_eq_of_lt hlt]
      rw [digitsOf_of_le hbase hge, hdiv, hmod, ← ih hs fun h => absurd h hzero]

end VirtHost.Text
