import VirtHost.Ipv4
import VirtHost.Proofs.Text.Shortest
import VirtHost.Proofs.Text.Scan

/-! # The text of an IPv4 address

An IPv4 address has one text only.

* `Ipv4.octet?_eq_some_iff`: one number.
* `Ipv4.slash_notMem_text`: no slash is in it.
* `Ipv4.read?_eq_some_iff`: an address.
-/

namespace VirtHost.Ipv4
open Text
set_option autoImplicit false

variable {s : List Char}

theorem octet?_eq_some_iff {n : UInt8} : octet? s = some n ↔ s = digitsOf 10 n.toNat := by
  have hlimit : n.toNat ≤ limit8 := Nat.le_of_lt_succ n.toNat_lt
  constructor
  · intro h
    unfold octet? at h
    split at h
    · cases h
    · cases h
    · cases h
    · rename_i hnil hplus hzero
      obtain ⟨k, hk, rfl⟩ := Option.map_eq_some_iff.1 h
      obtain ⟨hdenotes, hle⟩ := readNumeral?_eq_some_iff.1 hk
      have hsign : s.head? ≠ some '+' := by
        intro hs
        obtain ⟨rest, rfl⟩ := List.head?_eq_some_iff.1 hs
        exact hplus rest rfl
      have hhead : s.head? = some '0' → s = ['0'] := by
        intro hs
        obtain ⟨rest, rfl⟩ := List.head?_eq_some_iff.1 hs
        cases rest with
        | nil => rfl
        | cons c rest => exact absurd rfl (hzero c rest)
      rw [UInt8.toNat_ofNat_of_lt' (Nat.lt_succ_of_le hle)]
      exact (hdenotes.isNumeral hsign).eq_digitsOf (by decide) (by decide) hhead
  · rintro rfl
    have hread : readNumeral? 10 limit8 (digitsOf 10 n.toNat) = some n.toNat :=
      readNumeral?_digitsOf (by decide) (by decide) hlimit
    have hplus : '+' ∉ digitsOf 10 n.toNat := plus_notMem_digitsOf (by decide) (by decide) n.toNat
    unfold octet?
    split
    · rename_i hnil
      exact absurd hnil (digitsOf_ne_nil 10 _)
    · rename_i rest heq
      rw [heq] at hplus
      exact absurd List.mem_cons_self hplus
    · rename_i c rest heq
      have hzero : n.toNat = 0 := by
        by_contra hne
        have hhead : (digitsOf 10 n.toNat).head? ≠ some '0' :=
          head?_digitsOf_ne (by decide) (by decide) hne
        rw [heq] at hhead
        exact hhead rfl
      rw [hzero, digitsOf_of_lt (by decide)] at heq
      cases heq
    · rw [hread, Option.map_some, UInt8.ofNat_toNat]

theorem point_notMem_digitsOf (n : Nat) : '.' ∉ digitsOf 10 n := by
  have hpoint : ∀ c ∈ digitsOf 10 n, c ≠ '.' := forall_mem_digitsOf (by decide) (by decide) n
  exact fun hmem => hpoint '.' hmem rfl

/-- The numbers of an address between points. -/
theorem toList_text (ip : Ipv4) : ip.text.toList = join ['.'] [digitsOf 10 ip.first.toNat,
    digitsOf 10 ip.second.toNat, digitsOf 10 ip.third.toNat, digitsOf 10 ip.fourth.toNat] := by
  have hpoint : ".".toList = ['.'] := rfl
  simp [text, decimal, hpoint, join, List.intercalate]

theorem slash_notMem_text (ip : Ipv4) : '/' ∉ ip.text.toList := by
  have hdigits (n : Nat) : ∀ c ∈ digitsOf 10 n, c ≠ '/' := forall_mem_digitsOf (by decide) (by decide) n
  rw [toList_text]
  intro hmem
  rcases mem_join hmem with hpoint | ⟨digits, hdigit, hslash⟩
  · cases hpoint
  · simp only [List.mem_cons, List.not_mem_nil, or_false] at hdigit
    rcases hdigit with rfl | rfl | rfl | rfl <;> exact hdigits _ _ hslash rfl

/-- A text is read as an address if it is the text of it. -/
theorem read?_eq_some_iff {ip : Ipv4} : read? s = some ip ↔ s = ip.text.toList := by
  constructor
  · intro h
    have hjoin : join ['.'] (s.splitOn '.') = s := List.intercalate_splitOn '.'
    unfold read? at h
    split at h
    · rename_i a b c d hsplit
      simp only [Option.bind_eq_bind, Option.bind_eq_some_iff, octet?_eq_some_iff, Option.pure_def,
        Option.some.injEq] at h
      obtain ⟨a, rfl, b, rfl, c, rfl, d, rfl, rfl⟩ := h
      rw [← hjoin, hsplit, toList_text]
    · cases h
  · rintro rfl
    have hsplit : ip.text.toList.splitOn '.' = [digitsOf 10 ip.first.toNat,
        digitsOf 10 ip.second.toNat, digitsOf 10 ip.third.toNat, digitsOf 10 ip.fourth.toNat] := by
      rw [toList_text]
      exact List.splitOn_intercalate '.' (by simp [point_notMem_digitsOf]) (by simp)
    simp [read?, hsplit, octet?_eq_some_iff.2 rfl]

end VirtHost.Ipv4
