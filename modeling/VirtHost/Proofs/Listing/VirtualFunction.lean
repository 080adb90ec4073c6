import VirtHost.Listing.VirtualFunction
import VirtHost.Proofs.Pci.Forms

/-! # Links in listings

* `Shows k s`: the listing `s` has `k` lines with a link to a virtual function, whatever else stands
  before these links.
* `Sighting`: a link as it stands in a text; `exists_sighting`: a link that is found stands there.
* `LacksArrow s`: no link begins in the text `s`.
* `virtualFunctionLinks_of_shows`: every link of such a listing is found, and can be read.
-/

namespace VirtHost.Listing
open Text
set_option autoImplicit false

/-! ## Characters -/

theorem toNat_of_isHexDigit {c : Char} (h : isHexDigit c = true) :
    (0x30 ≤ c.toNat ∧ c.toNat ≤ 0x39) ∨ (0x41 ≤ c.toNat ∧ c.toNat ≤ 0x46) ∨
      (0x61 ≤ c.toNat ∧ c.toNat ≤ 0x66) := by
  simp only [isHexDigit, digitValue?] at h
  split at h <;> rename_i h1
  · exact .inl h1
  · split at h <;> rename_i h2
    · split at h
      · omega
      · cases h
    · split at h <;> rename_i h3
      · split at h
        · omega
        · cases h
      · simp at h

theorem isBlank_of_isHexDigit {c : Char} (h : isHexDigit c = true) : isBlank c = false := by
  obtain ⟨d, hd⟩ := Option.isSome_iff_exists.1 h
  exact isBlank_of_digitValue? hd

theorem isWordCharacter_of_isHexDigit {c : Char} (h : isHexDigit c = true) :
    isWordCharacter c = true := by
  refine List.any_eq_true.2 ?_
  rcases toNat_of_isHexDigit h with hc | hc | hc
  · exact ⟨(0x30, 0x39), .head _, by simpa using hc⟩
  · exact ⟨(0x41, 0x5a), .tail _ (.head _), by simp; omega⟩
  · exact ⟨(0x61, 0x7a), .tail _ (.tail _ (.tail _ (.head _))), by simp; omega⟩

theorem isHexDigit_digitChar : ∀ d < 16, isHexDigit (digitChar d) = true := by
  decide

/-! ## Runs -/

theorem run?_append {inClass : Char → Bool} {s rest : List Char} (hne : s ≠ [])
    (hs : ∀ c ∈ s, inClass c = true) (hrest : ∀ c ∈ rest.head?, inClass c = false) :
    run? inClass (s ++ rest) = some (s, rest) := by
  have htake : rest.takeWhile inClass = [] := by
    cases rest with
    | nil => rfl
    | cons c rest => simp [hrest c rfl]
  have hdrop : rest.dropWhile inClass = rest := by
    cases rest with
    | nil => rfl
    | cons c rest => simp [hrest c rfl]
  rw [run?, List.takeWhile_append_of_pos hs, List.dropWhile_append_of_pos hs, htake, hdrop,
    List.append_nil]
  cases s with
  | nil => exact absurd rfl hne
  | cons c s => rfl

theorem run?_append_append {inClass : Char → Bool} {s t u : List Char} (hs : s ≠ []) (hall : ∀ c ∈ s, inClass c = true)
    (ht : t ≠ []) (hnone : ∀ c ∈ t, inClass c = false) :
    run? inClass (s ++ (t ++ u)) = some (s, t ++ u) := by
  refine run?_append hs hall fun c hc => hnone c ?_
  rw [List.head?_append_of_ne_nil t ht] at hc
  exact List.mem_of_mem_head? hc

theorem run?_eq_some {inClass : Char → Bool} {s found rest : List Char}
    (h : run? inClass s = some (found, rest)) :
    s = found ++ rest ∧ found ≠ [] ∧ ∀ c ∈ found, inClass c = true := by
  unfold run? at h
  split at h
  · cases h
  · rename_i found' hnot
    obtain ⟨rfl, rfl⟩ : s.takeWhile inClass = found ∧ s.dropWhile inClass = rest := by simpa using h
    exact ⟨List.takeWhile_append_dropWhile.symm, hnot, List.all_eq_true.1 List.all_takeWhile⟩

theorem hexRun?_append {n : Nat} {s rest : List Char} (hlength : s.length = n)
    (hs : ∀ c ∈ s, isHexDigit c = true) : hexRun? n (s ++ rest) = some (s, rest) := by
  have htake : (s ++ rest).take n = s := by rw [← hlength, List.take_left]
  have hdrop : (s ++ rest).drop n = rest := by rw [← hlength, List.drop_left]
  unfold hexRun?
  simp only [htake, hdrop, hlength, List.all_eq_true.2 hs, and_self, if_true]

theorem hexRun?_eq_some {n : Nat} {s found rest : List Char}
    (h : hexRun? n s = some (found, rest)) :
    s = found ++ rest ∧ found.length = n ∧ ∀ c ∈ found, isHexDigit c = true := by
  simp only [hexRun?] at h
  split at h
  · rename_i hfound
    obtain ⟨rfl, rfl⟩ : s.take n = found ∧ s.drop n = rest := by simpa using h
    exact ⟨(List.take_append_drop n s).symm, hfound.1, List.all_eq_true.1 hfound.2⟩
  · cases h

/-! ## Addresses in a listing -/

/-- A function number is one or two digits at the end of a word. -/
theorem functionRun?_append {s rest : List Char} (hlength : s.length = 1 ∨ s.length = 2)
    (hs : ∀ c ∈ s, isHexDigit c = true) (hrest : endsWord rest = true) :
    functionRun? (s ++ rest) = some s := by
  unfold functionRun?
  rcases hlength with hone | htwo
  · have hone' : functionRun?.oneDigit (s ++ rest) = some s := by
      rw [functionRun?.oneDigit, hexRun?_append hone hs]
      simp [hrest]
    split
    · rename_i two rest' htwo
      -- the second digit would be a word character right behind the word
      obtain ⟨heq, hlength, hdigits⟩ := hexRun?_eq_some htwo
      cases rest with
      | nil =>
        have := congrArg List.length heq
        simp at this
        omega
      | cons c rest =>
        have hc : c ∈ two := by
          have htwo' : two = (s ++ c :: rest).take 2 := by rw [heq, ← hlength, List.take_left]
          obtain ⟨d, rfl⟩ := List.length_eq_one_iff.1 hone
          simp [htwo']
        have hword := isWordCharacter_of_isHexDigit (hdigits c hc)
        simp [endsWord, hword] at hrest
    · exact hone'
  · rw [hexRun?_append htwo hs]
    simp [hrest]

theorem functionRun?_eq_some {s function : List Char} (h : functionRun? s = some function) :
    (function.length = 1 ∨ function.length = 2) ∧ (∀ c ∈ function, isHexDigit c = true) ∧
      ∃ rest, s = function ++ rest ∧ endsWord rest = true := by
  have hfound {n : Nat} {found rest : List Char} (hn : n = 1 ∨ n = 2)
      (h : hexRun? n s = some (found, rest)) (hends : endsWord rest = true) :
      (found.length = 1 ∨ found.length = 2) ∧ (∀ c ∈ found, isHexDigit c = true) ∧
        ∃ rest, s = found ++ rest ∧ endsWord rest = true := by
    obtain ⟨hs, rfl, hdigits⟩ := hexRun?_eq_some h
    exact ⟨hn, hdigits, rest, hs, hends⟩
  have hone (h : functionRun?.oneDigit s = some function) :
      (function.length = 1 ∨ function.length = 2) ∧ (∀ c ∈ function, isHexDigit c = true) ∧
        ∃ rest, s = function ++ rest ∧ endsWord rest = true := by
    unfold functionRun?.oneDigit at h
    split at h
    · rename_i one rest hrun
      split at h
      · rename_i hends
        obtain rfl := Option.some.inj h
        exact hfound (.inl rfl) hrun hends
      · cases h
    · cases h
  unfold functionRun? at h
  split at h
  · rename_i two rest hrun
    split at h
    · rename_i hends
      obtain rfl := Option.some.inj h
      exact hfound (.inr rfl) hrun hends
    · exact hone h
  · exact hone h

/-- The four numerals of an address as it stands in a listing. -/
structure Numerals where
  domain : List Char
  bus : List Char
  slot : List Char
  function : List Char

/-- The text of an address with given numerals. -/
def Numerals.chars (a : Numerals) : List Char :=
  a.domain ++ ':' :: a.bus ++ ':' :: a.slot ++ '.' :: a.function

/-- The numerals are hexadecimal, and as long as the pattern for addresses wants them. -/
structure Numerals.Legal (a : Numerals) : Prop where
  domain : a.domain.length = 4 ∧ ∀ c ∈ a.domain, isHexDigit c = true
  bus : a.bus.length = 2 ∧ ∀ c ∈ a.bus, isHexDigit c = true
  slot : a.slot.length = 2 ∧ ∀ c ∈ a.slot, isHexDigit c = true
  function : (a.function.length = 1 ∨ a.function.length = 2) ∧ ∀ c ∈ a.function, isHexDigit c = true

theorem addressAt?_append {a : Numerals} (ha : a.Legal) {rest : List Char}
    (hrest : endsWord rest = true) : addressAt? (a.chars ++ rest) = some a.chars := by
  simp only [addressAt?, Numerals.chars, List.append_assoc, List.cons_append,
    hexRun?_append ha.domain.1 ha.domain.2, hexRun?_append ha.bus.1 ha.bus.2,
    hexRun?_append ha.slot.1 ha.slot.2, functionRun?_append ha.function.1 ha.function.2 hrest,
    dropHead?, Option.bind_eq_bind, Option.bind_some, if_true]
  rfl

/-- An address that is found stands at the head of the text, where a word ends, and has legal
numerals. -/
theorem addressAt?_eq_some {s found : List Char} (h : addressAt? s = some found) :
    ∃ (a : Numerals) (rest : List Char), a.Legal ∧ found = a.chars ∧ s = a.chars ++ rest ∧
      endsWord rest = true := by
  simp only [addressAt?, Option.bind_eq_bind, Option.bind_eq_some_iff, Prod.exists] at h
  obtain ⟨domain, s1, hdomain, s2, hcolon, bus, s3, hbus, s4, hcolon', slot, s5, hslot, s6, hdot,
    function, hfunction, hfound⟩ := h
  obtain ⟨rfl, hdomain'⟩ := hexRun?_eq_some hdomain
  obtain rfl := dropHead?_eq_some_iff.1 hcolon
  obtain ⟨rfl, hbus'⟩ := hexRun?_eq_some hbus
  obtain rfl := dropHead?_eq_some_iff.1 hcolon'
  obtain ⟨rfl, hslot'⟩ := hexRun?_eq_some hslot
  obtain rfl := dropHead?_eq_some_iff.1 hdot
  obtain ⟨hlength, hdigits, rest, rfl, hends⟩ := functionRun?_eq_some hfunction
  refine ⟨⟨domain, bus, slot, function⟩, rest, ⟨hdomain', hbus', hslot', hlength, hdigits⟩, ?_, ?_, hends⟩
  · simpa [Numerals.chars] using hfound.symm
  · simp [Numerals.chars]

/-- Some address is found in a run in which one stands behind characters that are no blanks. -/
theorem addressInRun?_append {s t : List Char} (hs : ∀ c ∈ s, isBlank c = false)
    (ht : (addressAt? t).isSome) :
    ∃ u v found, s ++ t = u ++ v ∧ addressAt? v = some found ∧
      addressInRun? (s ++ t) = some (found, u.length + found.length) ∧ u.length ≤ s.length := by
  induction s with
  | nil =>
    obtain ⟨found, hfound⟩ := Option.isSome_iff_exists.1 ht
    refine ⟨[], t, found, rfl, hfound, ?_, Nat.le_refl 0⟩
    cases t with
    | nil => cases hfound
    | cons c t =>
      rw [List.nil_append, addressInRun?, hfound]
      simp
  | cons c s ih =>
    rw [List.cons_append, addressInRun?]
    split
    · rename_i found hfound
      exact ⟨[], _, found, rfl, hfound, by simp, Nat.zero_le _⟩
    · obtain ⟨u, v, found, hst, hv, hrun, hle⟩ := ih fun d hd => hs d (List.mem_cons_of_mem c hd)
      refine ⟨c :: u, v, found, by rw [hst, List.cons_append], hv, ?_, Nat.succ_le_succ hle⟩
      have hlength : u.length + found.length + 1 = (c :: u).length + found.length := by
        rw [List.length_cons]
        omega
      simp [hs c (by simp), hrun, hlength]

theorem addressInRun?_eq_some {s found : List Char} {length : Nat} (h : addressInRun? s = some (found, length)) :
    ∃ (lead : List Char) (a : Numerals) (rest : List Char), s = lead ++ (a.chars ++ rest) ∧
      found = a.chars ∧ length = lead.length + a.chars.length ∧ (∀ c ∈ lead, isBlank c = false) ∧
      a.Legal ∧ endsWord rest = true ∧
      ∀ u v, lead = u ++ v → v ≠ [] → addressAt? (v ++ (a.chars ++ rest)) = none := by
  induction s generalizing length with
  | nil => cases h
  | cons c s ih =>
    rw [addressInRun?] at h
    split at h
    · rename_i address haddress
      obtain ⟨rfl, rfl⟩ : address = found ∧ address.length = length := by simpa using h
      obtain ⟨a, rest, ha, rfl, hs, hends⟩ := addressAt?_eq_some haddress
      refine ⟨[], a, rest, hs, rfl, by simp, by simp, ha, hends, fun u v huv hv => ?_⟩
      exact absurd (List.append_eq_nil_iff.1 huv.symm).2 hv
    · rename_i hnone
      split at h
      · cases h
      · rename_i hc
        obtain ⟨⟨found', k⟩, hrun, heq⟩ := Option.map_eq_some_iff.1 h
        obtain ⟨rfl, rfl⟩ : found' = found ∧ k + 1 = length := by simpa using heq
        obtain ⟨lead, a, rest, rfl, hfound, rfl, hlead, ha, hends, hfirst⟩ := ih hrun
        refine ⟨c :: lead, a, rest, rfl, hfound, ?_, ?_, ha, hends, fun u v huv hv => ?_⟩
        · rw [List.length_cons]
          omega
        · rw [List.forall_mem_cons]
          exact ⟨by simpa using hc, hlead⟩
        · cases u with
          | nil => rwa [← List.nil_append v, ← huv]
          | cons d u => exact hfirst u v (List.cons_eq_cons.1 huv).2 hv

theorem Numerals.Legal.forall_mem {a : Numerals} (ha : a.Legal) :
    ∀ c ∈ a.chars, isHexDigit c = true ∨ c = ':' ∨ c = '.' := by
  intro c hc
  simp only [Numerals.chars, List.mem_append, List.mem_cons] at hc
  rcases hc with ((hc | rfl | hc) | rfl | hc) | rfl | hc
  · exact .inl (ha.domain.2 c hc)
  · exact .inr (.inl rfl)
  · exact .inl (ha.bus.2 c hc)
  · exact .inr (.inl rfl)
  · exact .inl (ha.slot.2 c hc)
  · exact .inr (.inr rfl)
  · exact .inl (ha.function.2 c hc)

theorem Numerals.Legal.length {a : Numerals} (ha : a.Legal) :
    a.chars.length = 12 ∨ a.chars.length = 13 := by
  have := ha.domain.1
  have := ha.bus.1
  have := ha.slot.1
  have := ha.function.1
  simp only [Numerals.chars, List.length_append, List.length_cons]
  omega

theorem Numerals.Legal.isBlank {a : Numerals} (ha : a.Legal) : ∀ c ∈ a.chars, isBlank c = false := by
  intro c hc
  rcases ha.forall_mem c hc with h | rfl | rfl
  · exact isBlank_of_isHexDigit h
  · decide
  · decide

theorem notMem_of_isHexDigit {s : List Char} (hs : ∀ c ∈ s, isHexDigit c = true) {c : Char}
    (hc : isHexDigit c = false) : c ∉ s := by
  intro hmem
  rw [hs c hmem] at hc
  cases hc

theorem exists_readNumeral?_hex {s : List Char} {width : Nat} (limit : Nat) (hne : s ≠ [])
    (hs : ∀ c ∈ s, isHexDigit c = true) (hlength : s.length ≤ width)
    (hlimit : 16 ^ width ≤ limit + 1) : ∃ n, readNumeral? 16 limit s = some n := by
  refine exists_readNumeral? hne (fun c hc => hs c hc) ?_
  exact Nat.le_trans (Nat.pow_le_pow_right (by decide) hlength) hlimit

theorem Numerals.parse_eq_ok {a : Numerals} {p : Pci.Address}
    (hp : Pci.Address.ofNumerals? a.domain a.bus a.slot a.function = some p) :
    Pci.Address.parse (String.ofList a.chars) = .ok p := by
  obtain ⟨hdomain, hbus, hslot, hfunction⟩ := Pci.Address.ofNumerals?_eq_some_iff.1 hp
  exact Pci.Address.parse_of_written (.long hdomain hbus hslot hfunction)

theorem Numerals.Legal.exists_domain {a : Numerals} (ha : a.Legal) :
    ∃ n, readNumeral? 16 limit32 a.domain = some n := by
  have hne : a.domain ≠ [] := List.length_pos_iff.1 (by rw [ha.domain.1]; decide)
  exact exists_readNumeral?_hex limit32 hne ha.domain.2 (Nat.le_of_eq ha.domain.1) (by decide)

theorem Numerals.Legal.exists_parse {a : Numerals} (ha : a.Legal) :
    ∃ p, Pci.Address.parse (String.ofList a.chars) = .ok p := by
  have hbyte {s : List Char} (hs : ∀ c ∈ s, isHexDigit c = true) (hpos : 0 < s.length)
      (hlength : s.length ≤ 2) : ∃ n, readNumeral? 16 limit8 s = some n :=
    exists_readNumeral?_hex limit8 (List.length_pos_iff.1 hpos) hs hlength (by decide)
  have hfunction := ha.function.1
  obtain ⟨domain, hdomain⟩ := ha.exists_domain
  obtain ⟨bus, hbus⟩ := hbyte ha.bus.2 (by rw [ha.bus.1]; decide) (Nat.le_of_eq ha.bus.1)
  obtain ⟨slot, hslot⟩ := hbyte ha.slot.2 (by rw [ha.slot.1]; decide) (Nat.le_of_eq ha.slot.1)
  obtain ⟨function, hfunction⟩ := hbyte ha.function.2 (by omega) (by omega)
  refine ⟨⟨UInt32.ofNat domain, UInt8.ofNat bus, UInt8.ofNat slot, UInt8.ofNat function⟩, ?_⟩
  apply Numerals.parse_eq_ok
  simp [Pci.Address.ofNumerals?, hdomain, hbus, hslot, hfunction]

/-! ## The text of an address -/

theorem isHexDigit_of_mem_hexadecimal {width n : Nat} :
    ∀ c ∈ hexadecimal width n, isHexDigit c = true :=
  forall_mem_zeroFill (p := fun c => isHexDigit c = true) (by decide) isHexDigit_digitChar width n

theorem length_hexadecimal {width n : Nat} (h : n < 16 ^ (width + 1)) :
    (hexadecimal (width + 1) n).length = width + 1 := by
  have := length_digitsOf_le (by decide) h
  rw [hexadecimal, zeroFill, List.length_append, List.length_replicate]
  omega

theorem le_length_hexadecimal (width n : Nat) : width ≤ (hexadecimal width n).length := by
  rw [hexadecimal, zeroFill, List.length_append, List.length_replicate]
  omega

/-- The numerals of an address, as far as a listing shows them: of a longer domain, the last four
digits. -/
def numeralsOf (p : Pci.Address) : Numerals where
  domain := (hexadecimal 4 p.domain.toNat).drop ((hexadecimal 4 p.domain.toNat).length - 4)
  bus := hexadecimal 2 p.bus.toNat
  slot := hexadecimal 2 p.slot.toNat
  function := hexadecimal 1 p.function.toNat

theorem legal_numeralsOf (p : Pci.Address) : (numeralsOf p).Legal := by
  have hdomain := le_length_hexadecimal 4 p.domain.toNat
  have hfunction : (hexadecimal 1 p.function.toNat).length = 1 ∨
      (hexadecimal 1 p.function.toNat).length = 2 := by
    have hdigits : (digitsOf 16 p.function.toNat).length ≤ 1 + 1 :=
      length_digitsOf_le (by decide) p.function.toNat_lt
    have hpos := List.length_pos_iff.2 (digitsOf_ne_nil 16 p.function.toNat)
    rw [hexadecimal, zeroFill, List.length_append, List.length_replicate]
    omega
  refine ⟨⟨?_, ?_⟩, ⟨length_hexadecimal p.bus.toNat_lt, isHexDigit_of_mem_hexadecimal⟩,
    ⟨length_hexadecimal p.slot.toNat_lt, isHexDigit_of_mem_hexadecimal⟩,
    ⟨hfunction, isHexDigit_of_mem_hexadecimal⟩⟩
  · rw [numeralsOf, List.length_drop]
    omega
  · intro c hc
    exact isHexDigit_of_mem_hexadecimal c (List.mem_of_mem_drop hc)

/-- The text of an address ends with its numerals, behind further digits of the domain. -/
theorem exists_chars_eq (p : Pci.Address) :
    ∃ s : List Char, p.chars = s ++ (numeralsOf p).chars ∧ ∀ c ∈ s, isHexDigit c = true := by
  generalize hlength : (hexadecimal 4 p.domain.toNat).length - 4 = k
  refine ⟨(hexadecimal 4 p.domain.toNat).take k, ?_, ?_⟩
  · rw [Pci.Address.chars, Pci.Address.shortChars, Numerals.chars, numeralsOf, hlength]
    simp only [← List.append_assoc, List.take_append_drop]
    simp only [List.append_assoc, List.cons_append]
  · intro c hc
    exact isHexDigit_of_mem_hexadecimal c (List.mem_of_mem_take hc)

/-! ## Links -/

/-- The name of a link, without its number. -/
def linkName : List Char :=
  ['v', 'i', 'r', 't', 'f', 'n']

theorem toList_virtfn : "virtfn".toList = linkName := by
  rw [← String.toList_ofList (l := linkName)]
  rfl

/-- The beginning of a link, up to its target. -/
def linkHead (id : Nat) : List Char :=
  linkName ++ digitsOf 10 id ++ [' ', '-', '>', ' ']

theorem linkHead_ne_nil (id : Nat) : linkHead id ≠ [] :=
  List.append_ne_nil_of_right_ne_nil _ (List.cons_ne_nil _ _)

theorem isDecimalDigit_of_mem_digitsOf {id : Nat} : ∀ c ∈ digitsOf 10 id, isDecimalDigit c = true :=
  forall_mem_digitsOf (p := fun c => isDecimalDigit c = true) (by decide) isDecimalDigit_digitChar id

/-- What is found behind the beginning of a link is its target. -/
theorem linkAt?_linkHead {id length : Nat} {found tail : List Char}
    (htail : ∀ c ∈ tail.head?, isBlank c = false)
    (hfound : addressInRun? tail = some (found, length)) :
    linkAt? (linkHead id ++ tail) = some ((digitsOf 10 id, found), (linkHead id).length + length) := by
  have hid : run? isDecimalDigit (digitsOf 10 id ++ ([' ', '-', '>', ' '] ++ tail)) =
      some (digitsOf 10 id, [' ', '-', '>', ' '] ++ tail) :=
    run?_append (digitsOf_ne_nil 10 id) isDecimalDigit_of_mem_digitsOf (by simp; decide)
  have hblanks : run? isBlank ([' ', '-', '>', ' '] ++ tail) =
      some ([' '], ['-', '>'] ++ ([' '] ++ tail)) :=
    run?_append (s := [' ']) (by simp) (List.forall_mem_singleton.2 (by decide)) (by simp; decide)
  have hblanks' : run? isBlank ([' '] ++ tail) = some ([' '], tail) :=
    run?_append (by simp) (List.forall_mem_singleton.2 (by decide)) htail
  have hhead : linkHead id ++ tail = linkName ++ (digitsOf 10 id ++ ([' ', '-', '>', ' '] ++ tail)) := by
    rw [linkHead, List.append_assoc, List.append_assoc]
  have hlength : (linkHead id ++ tail).length - tail.length = (linkHead id).length := by
    rw [List.length_append, Nat.add_sub_cancel]
  simp only [linkAt?, toList_virtfn, hhead, dropHead?_append, hid, hblanks, hblanks', hfound,
    Option.bind_eq_bind, Option.bind_some]
  rw [← hhead, hlength]
  rfl

theorem linkAt?_append (id : Nat) (target : Pci.Address) {path rest : List Char}
    (hpath : ∀ c ∈ path, isBlank c = false) (hrest : endsWord rest = true) :
    ∃ (a : Numerals) (length : Nat), a.Legal ∧ length ≤ (path ++ target.chars).length ∧
      linkAt? (linkHead id ++ (path ++ target.chars ++ rest)) =
        some ((digitsOf 10 id, a.chars), (linkHead id).length + length) := by
  obtain ⟨s, hchars, hs⟩ := exists_chars_eq target
  have hb := legal_numeralsOf target
  generalize numeralsOf target = b at hchars hb
  have hfound := addressAt?_append hb hrest
  have hblank : ∀ c ∈ path ++ s, isBlank c = false := by
    intro c hc
    rcases List.mem_append.1 hc with hc | hc
    · exact hpath c hc
    · exact isBlank_of_isHexDigit (hs c hc)
  obtain ⟨u, v, found, hsplit, hv, hrun, hle⟩ :=
    addressInRun?_append hblank (Option.isSome_iff_exists.2 ⟨_, hfound⟩)
  obtain ⟨a, -, ha, rfl, -, -⟩ := addressAt?_eq_some hv
  have htext : path ++ target.chars ++ rest = path ++ s ++ (b.chars ++ rest) := by simp [hchars]
  refine ⟨a, u.length + a.chars.length, ha, ?_, ?_⟩
  · have hlength := ha.length
    have hlength' := hb.length
    rw [hchars, ← List.append_assoc, List.length_append]
    rcases Nat.lt_or_eq_of_le hle with hlt | heq
    · omega
    · -- the address that is found is the one at the end of the target
      obtain ⟨-, rfl⟩ := List.append_inj hsplit heq.symm
      rw [hfound] at hv
      have := congrArg List.length (Option.some.inj hv)
      omega
  · rw [htext]
    refine linkAt?_linkHead ?_ hrun
    intro c hc
    obtain ⟨d, t, hcons⟩ := List.exists_cons_of_ne_nil (show path ++ s ++ b.chars ≠ [] by
      simp [Numerals.chars])
    rw [← List.append_assoc, hcons] at hc
    obtain rfl : d = c := by simpa using hc
    have hmem : d ∈ path ++ s ++ b.chars := by simp [hcons]
    rcases List.mem_append.1 hmem with hd | hd
    · exact hblank d hd
    · exact hb.isBlank d hd

/-- A link as it stands in a text, and what follows it. -/
structure Sighting where
  id : List Char
  gap : List Char
  gap' : List Char
  /-- What stands before the address in the target, which is the first one in it. -/
  lead : List Char
  address : Numerals
  rest : List Char
  isDecimalDigit_id : ∀ c ∈ id, isDecimalDigit c = true
  isBlank_gap : ∀ c ∈ gap ++ gap', isBlank c = true
  isBlank_lead : ∀ c ∈ lead, isBlank c = false
  legal : address.Legal
  endsWord_rest : endsWord rest = true
  first : ∀ u v, lead = u ++ v → v ≠ [] → addressAt? (v ++ (address.chars ++ rest)) = none

/-- The text in which the link stands first. -/
def Sighting.text (o : Sighting) : List Char :=
  linkName ++ o.id ++ o.gap ++ '-' :: '>' :: o.gap' ++ (o.lead ++ (o.address.chars ++ o.rest))

/-- A link that is found at the head of a text stands there. -/
theorem exists_sighting {s : List Char} {p : (List Char × List Char) × Nat} (h : linkAt? s = some p) :
    ∃ o : Sighting, s = o.text ∧ p.1 = (o.id, o.address.chars) ∧ s.drop p.2 = o.rest := by
  simp only [linkAt?, toList_virtfn, Option.bind_eq_bind, Option.bind_eq_some_iff, Prod.exists] at h
  obtain ⟨s1, hname, id, s2, hid, gap, s3, hgap, s4, harrow, gap', s5, hgap', found, length, hrun, hp⟩ := h
  obtain rfl := dropHead?_eq_some_iff.1 hname
  obtain ⟨rfl, -, hid'⟩ := run?_eq_some hid
  obtain ⟨rfl, -, hblank⟩ := run?_eq_some hgap
  obtain rfl := dropHead?_eq_some_iff.1 harrow
  obtain ⟨rfl, -, hblank'⟩ := run?_eq_some hgap'
  obtain ⟨lead, a, rest, rfl, rfl, rfl, hlead, ha, hends, hfirst⟩ := addressInRun?_eq_some hrun
  obtain rfl := Option.some.inj hp
  refine ⟨⟨id, gap, gap', lead, a, rest, hid', List.forall_mem_append.2 ⟨hblank, hblank'⟩, hlead, ha,
    hends, hfirst⟩, ?_, rfl, ?_⟩
  · simp [Sighting.text]
  · -- the match ends with the address
    generalize hhead : linkName ++ (id ++ (gap ++ (['-', '>'] ++ (gap' ++ (lead ++ (a.chars ++ rest)))))) = all
    have hall : all = (linkName ++ id ++ gap ++ ['-', '>'] ++ gap' ++ lead ++ a.chars) ++ rest := by
      simp [← hhead]
    have hlength : all.length - (lead ++ (a.chars ++ rest)).length + (lead.length + a.chars.length) =
        (linkName ++ id ++ gap ++ ['-', '>'] ++ gap' ++ lead ++ a.chars).length := by
      rw [hall]
      simp only [List.length_append]
      omega
    dsimp only
    rw [hlength, hall, List.drop_left]

/-- No arrow stands behind a blank. -/
def LacksArrow (s : List Char) : Prop :=
  ∀ c, [c, '-', '>'] <:+: s → isBlank c = false

theorem lacksArrow_of_notMem {s : List Char} (h : '>' ∉ s) : LacksArrow s :=
  fun _ hoccurs => absurd (hoccurs.subset (by simp)) h

theorem LacksArrow.of_append {s t : List Char} (h : LacksArrow (s ++ t)) : LacksArrow t :=
  fun c hoccurs => h c (hoccurs.trans (List.suffix_append s t).isInfix)

/-- Up to the arrow of a link there is one `v`, and a blank stands before the arrow. -/
theorem exists_arrow {s : List Char} {p : (List Char × List Char) × Nat} (h : linkAt? s = some p) :
    ∃ head c rest, 'v' ∉ head ∧ isBlank c = true ∧ s = 'v' :: (head ++ c :: '-' :: '>' :: rest) := by
  simp only [linkAt?, toList_virtfn, Option.bind_eq_bind, Option.bind_eq_some_iff, Prod.exists] at h
  obtain ⟨s1, hname, id, s2, hid, gap, s3, hgap, s4, harrow, -⟩ := h
  obtain rfl := dropHead?_eq_some_iff.1 hname
  obtain ⟨rfl, -, hdigits⟩ := run?_eq_some hid
  obtain ⟨rfl, hne, hblank⟩ := run?_eq_some hgap
  obtain rfl := dropHead?_eq_some_iff.1 harrow
  obtain ⟨front, c, rfl⟩ : ∃ front c, gap = front ++ [c] :=
    ⟨_, _, (List.dropLast_append_getLast hne).symm⟩
  have hid : 'v' ∉ id := fun hmem => absurd (hdigits _ hmem) (by decide)
  have hfront : 'v' ∉ front := fun hmem => absurd (hblank _ (List.mem_append_left _ hmem)) (by decide)
  refine ⟨['i', 'r', 't', 'f', 'n'] ++ id ++ front, c, s4, ?_, hblank c (by simp), by simp [linkName]⟩
  simp [hid, hfront]

theorem linkAt?_eq_none_of_lacksArrow {s : List Char} (h : LacksArrow s) : linkAt? s = none := by
  rw [Option.eq_none_iff_forall_not_mem]
  intro found hfound
  obtain ⟨head, c, rest, -, hc, rfl⟩ := exists_arrow hfound
  rw [h c ⟨'v' :: head, rest, by simp⟩] at hc
  cases hc

theorem matchesFrom_of_lacksArrow {s : List Char} (h : LacksArrow s) : matchesFrom linkAt? 0 s = [] := by
  rw [← List.append_nil s, matchesFrom_append]
  · rfl
  · rintro u v rfl -
    rw [List.append_nil]
    exact linkAt?_eq_none_of_lacksArrow h.of_append

/-- No link begins before one if no arrow stands there. -/
theorem linkAt?_eq_none_before {s rest : List Char} {id : Nat} (hne : s ≠ []) (h : LacksArrow s) :
    linkAt? (s ++ (linkHead id ++ rest)) = none := by
  rw [Option.eq_none_iff_forall_not_mem]
  intro found hfound
  obtain ⟨head, c, behind, hhead, hc, heq⟩ := exists_arrow hfound
  obtain ⟨tail, htail⟩ : ∃ tail, linkHead id ++ rest = 'v' :: tail := ⟨_, rfl⟩
  obtain ⟨d, s, rfl⟩ := List.exists_cons_of_ne_nil hne
  rw [htail, List.cons_append, List.cons.injEq] at heq
  -- the second link has a `v` of its own: it begins behind the arrow of the first one
  rcases List.append_eq_append_iff.1 heq.2 with ⟨x, rfl, hx⟩ | ⟨x, rfl, hx⟩
  · cases x with
    | nil =>
      obtain rfl : 'v' = c := (List.cons.inj hx).1
      revert hc
      decide
    | cons y x =>
      obtain rfl : 'v' = y := (List.cons.inj hx).1
      simp at hhead
  · match x with
    | [] =>
      obtain rfl : c = 'v' := (List.cons.inj hx).1
      revert hc
      decide
    | [_] | [_, _] => simp at hx
    | _ :: _ :: _ :: x =>
      simp only [List.cons_append, List.cons.injEq] at hx
      obtain ⟨rfl, rfl, rfl, -⟩ := hx
      rw [h c ⟨d :: head, x, by simp⟩] at hc
      cases hc

/-- A link is the first one if none begins before it, and the search goes on behind its target. -/
theorem matchesFrom_link {before tail : List Char} {id length : Nat} {found : List Char × List Char}
    (hbefore : ∀ u v, before = u ++ v → v ≠ [] → linkAt? (v ++ (linkHead id ++ tail)) = none)
    (hfound : linkAt? (linkHead id ++ tail) = some (found, (linkHead id).length + length)) :
    matchesFrom linkAt? 0 (before ++ (linkHead id ++ tail)) =
      found :: matchesFrom linkAt? 0 (tail.drop length) := by
  have hne : linkHead id ++ tail ≠ [] := List.append_ne_nil_of_left_ne_nil (linkHead_ne_nil id) _
  have hpos : 0 < (linkHead id).length + length :=
    Nat.add_pos_left (List.length_pos_iff.2 (linkHead_ne_nil id)) length
  rw [matchesFrom_append hbefore, matchesFrom_of_match hfound hne hpos, List.drop_length_add_append]

/-! ## Listings -/

/-- A listing has some number of links to virtual functions. Anything without an arrow may stand
before a link; its target ends where a word ends. -/
inductive Shows : Nat → List Char → Prop
  | none {s : List Char} (hs : '>' ∉ s) : Shows 0 s
  | link {k id : Nat} {before path rest : List Char} {target : Pci.Address}
      (hbefore : '>' ∉ before) (hid : id ≤ limit32)
      (hpath : ∀ c ∈ path, isBlank c = false ∧ c ≠ '>') (hrest : endsWord rest = true)
      (hshows : Shows k rest) :
      Shows (k + 1) (before ++ (linkHead id ++ (path ++ target.chars ++ rest)))

theorem notMem_chars (target : Pci.Address) : '>' ∉ target.chars := by
  obtain ⟨s, hchars, hs⟩ := exists_chars_eq target
  rw [hchars]
  intro hmem
  rcases List.mem_append.1 hmem with hmem | hmem
  · exact notMem_of_isHexDigit hs (by decide) hmem
  · rcases (legal_numeralsOf target).forall_mem _ hmem with h | h | h <;> revert h <;> decide

theorem exists_linkOfTexts {id : Nat} (hid : id ≤ limit32) {a : Numerals} (ha : a.Legal) :
    ∃ link, linkOfTexts (digitsOf 10 id) a.chars = .ok link := by
  obtain ⟨p, hp⟩ := ha.exists_parse
  exact ⟨⟨id, p⟩, by simp [linkOfTexts, readNumeral?_digitsOf _ _ hid, hp, Except.map]⟩

/-- The links of a listing are found, whatever stands before it. -/
theorem Shows.exists_links {k : Nat} {s : List Char} (h : Shows k s) {t : List Char} (ht : '>' ∉ t) :
    ∃ links, (matchesOf linkAt? (t ++ s)).mapM (fun p => linkOfTexts p.1 p.2) = .ok links ∧
      links.length = k := by
  unfold matchesOf
  induction h generalizing t with
  | @none s hs =>
    have hnone : matchesFrom linkAt? 0 (t ++ s) = [] :=
      matchesFrom_of_lacksArrow (lacksArrow_of_notMem (by simp [ht, hs]))
    exact ⟨[], by rw [hnone]; rfl, rfl⟩
  | @link k id before path rest target hbefore hid hpath hrest _ ih =>
    obtain ⟨a, length, ha, hle, hfound⟩ :=
      linkAt?_append id target (fun c hc => (hpath c hc).1) hrest
    have htarget : '>' ∉ path ++ target.chars := by
      intro hmem
      rcases List.mem_append.1 hmem with hmem | hmem
      · exact (hpath _ hmem).2 rfl
      · exact notMem_chars target hmem
    obtain ⟨links, hlinks, hlength⟩ := ih (t := (path ++ target.chars).drop length)
      fun hmem => htarget (List.mem_of_mem_drop hmem)
    obtain ⟨link, hlink⟩ := exists_linkOfTexts hid ha
    refine ⟨link :: links, ?_, by rw [List.length_cons, hlength]⟩
    have hpass : matchesFrom linkAt? 0 (t ++ (before ++ (linkHead id ++ (path ++ target.chars ++ rest)))) =
        (digitsOf 10 id, a.chars) ::
          matchesFrom linkAt? 0 ((path ++ target.chars ++ rest).drop length) := by
      rw [← List.append_assoc]
      have harrow : LacksArrow (t ++ before) := lacksArrow_of_notMem (by simp [ht, hbefore])
      refine matchesFrom_link (fun u v huv hv => linkAt?_eq_none_before hv ?_) hfound
      rw [huv] at harrow
      exact harrow.of_append
    rw [hpass, List.drop_append_of_le_length hle, List.mapM_cons, hlink, hlinks]
    rfl

/-- Every link of a listing is found and can be read. -/
theorem virtualFunctionLinks_of_shows {k : Nat} {output : String} (h : Shows k output.toList) :
    ∃ links, virtualFunctionLinks output = .ok links ∧ links.length = k :=
  h.exists_links (t := []) (by simp)

end VirtHost.Listing
