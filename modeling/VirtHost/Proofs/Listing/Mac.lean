import Mathlib.Tactic.SplitIfs
import VirtHost.Listing.Network
import VirtHost.Proofs.Text.Scan

/-! # MACs in lower case

* `lowercase_lowercase_of_isMac`: the lowercase form of a MAC is its own lowercase form.
* `length_of_isMac`, `lower_of_isMac`: the length of a MAC, and what lower case means for it.
* `lower_mac_of_mem`: the MAC of an address that a guest reports is in lower case.
-/

namespace VirtHost.Listing
open Text
set_option autoImplicit false

variable {c : Char} {word : List Char}

/-- The characters of a MAC. -/
def macCharacters : List Char :=
  ':' :: "0123456789ABCDEFabcdef".toList

/-! ## Characters -/

theorem toNat_lt_of_isHexDigit (h : isHexDigit c = true) : c.toNat < 0x67 := by
  have hvalue : (if 0x30 ≤ c.toNat ∧ c.toNat ≤ 0x39 then c.toNat - 0x30
      else if 0x41 ≤ c.toNat ∧ c.toNat ≤ 0x5a then c.toNat - 0x37
      else if 0x61 ≤ c.toNat ∧ c.toNat ≤ 0x7a then c.toNat - 0x57 else 16) < 16 := by
    simpa [isHexDigit, digitValue?] using h
  split_ifs at hvalue <;> omega

theorem mem_macCharacters_of_isHexDigit (h : isHexDigit c = true) : c ∈ macCharacters := by
  have hall : ∀ n < 0x67, isHexDigit (Char.ofNat n) = true → Char.ofNat n ∈ macCharacters := by
    decide +kernel
  have hc := hall c.toNat (toNat_lt_of_isHexDigit h)
  rw [Char.ofNat_toNat] at hc
  exact hc h

theorem mem_macCharacters_of_isHexPair {pair : List Char} (h : isHexPair pair = true) :
    ∀ c ∈ pair, c ∈ macCharacters := by
  unfold isHexPair at h
  split at h
  · rename_i a b
    obtain ⟨ha, hb⟩ : isHexDigit a = true ∧ isHexDigit b = true := by simpa using h
    simp [mem_macCharacters_of_isHexDigit ha, mem_macCharacters_of_isHexDigit hb]
  · cases h

theorem mem_macCharacters_of_isMac (h : isMac word = true) : ∀ c ∈ word, c ∈ macCharacters := by
  intro c hc
  obtain ⟨-, hpairs⟩ : (word.splitOn ':').length = 6 ∧ ∀ p ∈ word.splitOn ':', isHexPair p = true := by
    simpa [isMac] using h
  have hjoin : join [':'] (word.splitOn ':') = word := List.intercalate_splitOn ':'
  rw [← hjoin] at hc
  rcases mem_join hc with rfl | ⟨pair, hpair, hc⟩
  · exact List.mem_cons_self
  · exact mem_macCharacters_of_isHexPair (hpairs pair hpair) c hc

theorem lowerChar_of_mem (h : c ∈ macCharacters) :
    c ≠ 'Σ' ∧ c ≠ 'İ' ∧ lowerChar c ∈ macCharacters ∧ lowerChar (lowerChar c) = lowerChar c := by
  have hall : macCharacters.all (fun c => c ≠ 'Σ' ∧ c ≠ 'İ' ∧ lowerChar c ∈ macCharacters ∧
      lowerChar (lowerChar c) = lowerChar c) = true := by
    decide +kernel
  simpa using List.all_eq_true.1 hall c h

/-! ## Words -/

theorem lowercaseAfter_eq_map (h : ∀ c ∈ word, c ∈ macCharacters) (before : List Char) :
    lowercaseAfter before word = word.map lowerChar := by
  induction word generalizing before with
  | nil => rfl
  | cons c word ih =>
    obtain ⟨hsigma, hdotted, -, -⟩ := lowerChar_of_mem (h c (by simp))
    rw [lowercaseAfter, lowerAt, if_neg hsigma, if_neg hdotted, ih fun d hd => h d (by simp [hd])]
    rfl

theorem lowercase_lowercase_of_isMac (h : isMac word = true) :
    lowercase (lowercase word) = lowercase word := by
  have hmem := mem_macCharacters_of_isMac h
  have hlower : ∀ c ∈ word.map lowerChar, c ∈ macCharacters := by
    simp only [List.mem_map]
    rintro _ ⟨c, hc, rfl⟩
    exact (lowerChar_of_mem (hmem c hc)).2.2.1
  have hword : lowercase word = word.map lowerChar := lowercaseAfter_eq_map hmem []
  rw [hword, lowercase, lowercaseAfter_eq_map hlower, List.map_map]
  exact List.map_congr_left fun c hc => (lowerChar_of_mem (hmem c hc)).2.2.2

/-! ## MACs -/

theorem length_of_isMac (h : isMac word = true) : word.length = 17 := by
  obtain ⟨hlength, hpairs⟩ : (word.splitOn ':').length = 6 ∧ ∀ p ∈ word.splitOn ':', isHexPair p = true := by
    simpa [isMac] using h
  have hpair (p : List Char) (hp : p ∈ word.splitOn ':') : p.length = 2 := by
    have := hpairs p hp
    unfold isHexPair at this
    split at this
    · rfl
    · cases this
  have hjoin : join [':'] (word.splitOn ':') = word := List.intercalate_splitOn ':'
  generalize word.splitOn ':' = pairs at hlength hpair hjoin
  match pairs, hlength with
  | [p1, p2, p3, p4, p5, p6], _ =>
    simp only [List.forall_mem_cons, List.not_mem_nil, false_implies, implies_true, and_true] at hpair
    rw [← hjoin]
    simp [join, List.intercalate, hpair]

theorem lowerChar_eq_toLower (h : c ∈ macCharacters) : lowerChar c = c.toLower := by
  have hall : macCharacters.all (fun c => lowerChar c = c.toLower) = true := by decide +kernel
  simpa using List.all_eq_true.1 hall c h

theorem toLower_eq (s : String) : s.toLower = String.ofList (s.toList.map Char.toLower) := by
  rw [← String.toList_inj, String.toList_ofList]
  exact String.toList_map

theorem lower_of_isMac {mac : String} (h : isMac mac.toList = true) : lower mac = mac.toLower := by
  have hmem := mem_macCharacters_of_isMac h
  rw [toLower_eq, lower, lowercase, lowercaseAfter_eq_map hmem]
  exact congrArg String.ofList (List.map_congr_left fun c hc => lowerChar_eq_toLower (hmem c hc))

theorem isBlank_of_mem_macCharacters (h : c ∈ macCharacters) : isBlank c = false := by
  have hall : macCharacters.all (fun c => !isBlank c) = true := by decide +kernel
  simpa using List.all_eq_true.1 hall c h

theorem isHexDigit_or_of_mem_macCharacters (h : c ∈ macCharacters) : (isHexDigit c || c = ':') = true := by
  have hall : macCharacters.all (fun c => isHexDigit c || c = ':') = true := by decide +kernel
  exact List.all_eq_true.1 hall c h

/-! ## Addresses of a guest -/

/-- A MAC that is current is in lower case. -/
def IsLower (current : Option String) : Prop :=
  ∀ mac, current = some mac → lower mac = mac

theorem isLower_currentMac {current : Option String} (h : IsLower current)
    (names : List (List Char)) : IsLower (currentMac current names) := by
  unfold currentMac
  split
  · exact h
  · rintro mac hmac
    obtain ⟨word, hfind, rfl⟩ := Option.map_eq_some_iff.1 hmac
    have hword : isMac word = true := List.find?_some hfind
    rw [lower, String.toList_ofList, lowercase_lowercase_of_isMac hword]

theorem lower_mac_of_mem_addressesFrom {rows : List (List (List Char))} {current : Option String}
    (h : IsLower current) : ∀ a ∈ addressesFrom current rows, lower a.mac = a.mac := by
  induction rows generalizing current with
  | nil => simp [addressesFrom]
  | cons row rows ih =>
    rw [addressesFrom]
    split
    · rename_i address protocol b a more _
      have hlower := isLower_currentMac h (b :: a :: more).reverse
      split
      · rename_i mac hmac
        rw [hmac] at hlower
        intro entry hentry
        rcases List.mem_cons.1 hentry with rfl | hlater
        · exact hlower mac rfl
        · exact ih hlower entry hlater
      · exact ih fun mac hmac => by cases hmac
    · exact ih h

theorem lower_mac_of_mem {report : String} {a : Network.InterfaceAddress}
    (h : a ∈ agentAddresses report) : lower a.mac = a.mac :=
  lower_mac_of_mem_addressesFrom (fun mac hmac => by cases hmac) a h

end VirtHost.Listing
