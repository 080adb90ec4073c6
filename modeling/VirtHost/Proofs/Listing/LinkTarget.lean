import VirtHost.Proofs.Listing.Links

/-! # The targets of the links that are found

The address of a link may be found anywhere in the target of the link. It ends where a word ends, but it
may begin in the middle of one.

* `Sighted`: some links stand in a text, one after the other, and no others.
* `sighted_matches`: the links that are found stand in the text.
* `parse_part_iff`: when the last part of a target is read as the address that was found in it.
* `links_sighted`: so each link is reported with the address at the end of its target, or with a part of
  one; which of the two, and what becomes of every address.
-/

namespace VirtHost.Listing
open Text
open VirtualFunction (Link)
set_option autoImplicit false

/-! ## Links in a text -/

namespace Sighting

/-- What follows the address in the target, which is the rest of the line. -/
def tail (o : Sighting) : List Char :=
  upTo '\n' o.rest

def target (o : Sighting) : List Char :=
  o.lead ++ o.address.chars ++ o.tail

end Sighting

/-- Some links stand in a text, each behind the address of the one before, and there are no others. -/
inductive Sighted : List Sighting → List Char → Prop
  | nil {s : List Char} (h : ∀ u v, s = u ++ v → v ≠ [] → linkAt? v = none) : Sighted [] s
  | cons {o : Sighting} {os : List Sighting} {before : List Char}
      (hbefore : ∀ u v, before = u ++ v → v ≠ [] → linkAt? (v ++ o.text) = none)
      (h : Sighted os o.rest) : Sighted (o :: os) (before ++ o.text)

variable {s t : List Char}

theorem pos_of_linkAt? : ∀ s p, linkAt? s = some p → 0 < p.2 := by
  intro s p h
  obtain ⟨o, rfl, -, hrest⟩ := exists_sighting h
  rw [Nat.pos_iff_ne_zero]
  intro hzero
  have := congrArg List.length hrest
  rw [hzero, List.drop_zero, Sighting.text] at this
  simp [linkName] at this
  omega

/-- The links that are found stand in the text. -/
theorem sighted_matches (s : List Char) :
    ∃ os, Sighted os s ∧ matchesOf linkAt? s = os.map fun o => (o.id, o.address.chars) := by
  unfold matchesOf
  generalize hall : matchesFrom linkAt? 0 s = all
  induction all generalizing s with
  | nil => exact ⟨[], .nil (eq_none_of_matchesFrom_eq_nil hall), rfl⟩
  | cons found others ih =>
    obtain ⟨before, v, length, rfl, hbefore, hv, rfl⟩ := matchesFrom_eq_cons pos_of_linkAt? hall
    obtain ⟨o, rfl, rfl, hrest⟩ := exists_sighting hv
    obtain ⟨os, hos, hmap⟩ := ih _ rfl
    rw [hrest] at hos
    exact ⟨o :: os, .cons hbefore hos, by rw [List.map_cons, hmap]⟩

/-! ## Reading a target -/

theorem endsWord_of_append (h : endsWord (s ++ t) = true) : endsWord s = true := by
  cases s with
  | nil => rfl
  | cons c s => exact h

/-- The last part of a path. -/
def lastPart (path : List Char) : List Char :=
  (upTo '/' path.reverse).reverse

theorem lastPart_append_of_mem (h : '/' ∈ t) (s : List Char) : lastPart (s ++ t) = lastPart t := by
  have hstops : ¬ (t.reverse.takeWhile (· != '/')).length = t.reverse.length := by
    intro hlength
    have hall := List.takeWhile_eq_self_iff.1 ((List.takeWhile_sublist _).eq_of_length hlength)
    simpa using hall '/' (List.mem_reverse.2 h)
  rw [lastPart, lastPart, upTo, upTo, List.reverse_append, List.takeWhile_append, if_neg hstops]

theorem lastPart_append_of_notMem (h : '/' ∉ t) (s : List Char) :
    lastPart (s ++ t) = lastPart s ++ t := by
  have hall : ∀ c ∈ t.reverse, (c != '/') = true := by
    intro c hc
    rw [bne_iff_ne]
    rintro rfl
    exact h (List.mem_reverse.1 hc)
  rw [lastPart, lastPart, upTo, upTo, List.reverse_append, List.takeWhile_append_of_pos hall,
    List.reverse_append, List.reverse_reverse]

theorem isBlank_lastPart (h : ∀ c ∈ s, isBlank c = false) : ∀ c ∈ lastPart s, isBlank c = false := by
  intro c hc
  exact h c (List.mem_reverse.1 ((List.takeWhile_sublist _).mem (List.mem_reverse.1 hc)))

section
variable {a : Pci.Address} {n : Numerals}

/-- No digit follows a numeral where a word ends, nor does a sign. -/
theorem eq_nil_of_denotes_append {k : Nat} (hne : s ≠ []) (hs : ∀ c ∈ s, isHexDigit c = true)
    (h : Denotes 16 k (s ++ t)) (ht : endsWord t = true) : t = [] := by
  obtain ⟨d, u, rfl⟩ := List.exists_cons_of_ne_nil hne
  have hfirst : (d :: u ++ t).head? ≠ some '+' := by
    have hd : isHexDigit d = true := hs d List.mem_cons_self
    rintro ⟨⟩
    revert hd
    decide
  cases t with
  | nil => rfl
  | cons c t =>
    have hc : isHexDigit c = true := (h.isNumeral hfirst).isSome_digitValue? c (by simp)
    simp [endsWord, isWordCharacter_of_isHexDigit hc] at ht

/-- A text that reads as an address and has legal numerals in it, where a word ends, is these numerals
and zeros. -/
theorem written_append_iff (hn : n.Legal) (hread : Pci.Address.Written a n.chars)
    (ht : endsWord t = true) :
    Pci.Address.Written a (s ++ n.chars ++ t) ↔
      t = [] ∧ ∃ k, s = List.replicate k '0' ∨ s = '+' :: List.replicate k '0' := by
  have hcolon {u : List Char} (hu : ∀ c ∈ u, isHexDigit c = true) : ':' ∉ u :=
    notMem_of_isHexDigit hu (by decide)
  have hpoint : '.' ∉ n.function := notMem_of_isHexDigit hn.function.2 (by decide)
  have hplus : '+' ∉ n.domain := notMem_of_isHexDigit hn.domain.2 (by decide)
  obtain ⟨hdomain, hbus, hslot, hfunction⟩ := (Pci.Address.written_long_iff (hcolon hn.domain.2)
    (hcolon hn.bus.2) (hcolon hn.slot.2) hpoint).1 hread
  have hnumeral : IsNumeral 16 a.domain.toNat n.domain :=
    hdomain.isNumeral fun h => hplus (List.mem_of_head? h)
  have hjoin : s ++ n.chars ++ t = (s ++ n.domain) ++ ':' :: n.bus ++ ':' :: n.slot ++
      '.' :: (n.function ++ t) := by
    simp [Numerals.chars]
  constructor
  · intro h
    -- all separators are those of the numerals
    obtain ⟨hcolons, hpoints⟩ := h.count
    simp only [Numerals.chars, List.count_append, List.count_cons_self] at hcolons hpoints
    have hs : ':' ∉ s := List.count_eq_zero.1 (by omega)
    have ht' : '.' ∉ t := List.count_eq_zero.1 (by omega)
    rw [hjoin, Pci.Address.written_long_iff (by simp [hs, hcolon hn.domain.2]) (hcolon hn.bus.2)
      (hcolon hn.slot.2) (by simp [hpoint, ht'])] at h
    have hne : n.function ≠ [] := List.length_pos_iff.1 (by have := hn.function.1; omega)
    exact ⟨eq_nil_of_denotes_append hne hn.function.2 h.2.2.2 ht,
      (denotes_append_iff (by decide) hnumeral).1 h.1⟩
  · rintro ⟨rfl, hzeros⟩
    rw [hjoin, List.append_nil]
    exact .long ((denotes_append_iff (by decide) hnumeral).2 hzeros) hbus hslot hfunction

/-- The last part of a target is read as the address that was found in it if nothing but zeros stands
before the address, and nothing but blanks behind it. -/
theorem parse_part_iff (hn : n.Legal) (hread : Pci.Address.parse (String.ofList n.chars) = .ok a)
    (hs : ∀ c ∈ s, isBlank c = false) (ht : endsWord t = true) :
    Pci.Address.parse (String.ofList (s ++ n.chars ++ t)) = .ok a ↔
      (∀ c ∈ t, isBlank c = true) ∧
        ∃ k, s = List.replicate k '0' ∨ s = '+' :: List.replicate k '0' := by
  rw [Pci.Address.parse_eq_ok_iff, String.toList_ofList, trim_of_forall hn.isBlank] at hread
  constructor
  · intro h
    have hword : IsWord (s ++ n.chars) :=
      ⟨by simp [Numerals.chars], List.forall_mem_append.2 ⟨hs, hn.isBlank⟩⟩
    rw [Pci.Address.parse_eq_ok_iff, String.toList_ofList, trim_append hword] at h
    obtain ⟨gap, hgap, htrim⟩ := exists_eq_trimEnd t
    rw [htrim] at ht
    obtain ⟨hnil, hzeros⟩ := (written_append_iff hn hread (endsWord_of_append ht)).1 h
    rw [hnil, List.nil_append] at htrim
    exact ⟨htrim ▸ hgap, hzeros⟩
  · rintro ⟨hblank, hzeros⟩
    have hwritten : Pci.Address.Written a (s ++ n.chars ++ []) :=
      (written_append_iff hn hread rfl).2 ⟨rfl, hzeros⟩
    rw [List.append_nil] at hwritten
    have hparse : Pci.Address.parse (String.ofList ([] ++ (s ++ n.chars) ++ t)) = .ok a :=
      Pci.Address.parse_between_blanks hwritten hblank
    exact hparse

end

/-- The target of a link ends with the address that was found in it: with zeros before it at most and
blanks behind it at most, or because what follows it ends with the same address. -/
def Sighting.EndsWith (o : Sighting) (a : Pci.Address) : Prop :=
  ((∀ c ∈ o.tail, isBlank c = true) ∧
    ∃ k, lastPart o.lead = List.replicate k '0' ∨ lastPart o.lead = '+' :: List.replicate k '0') ∨
  ('/' ∈ o.tail ∧ Pci.Address.parse (String.ofList (lastPart o.tail)) = .ok a)

theorem Sighting.parse_target_iff {o : Sighting} {a : Pci.Address}
    (hread : Pci.Address.parse (String.ofList o.address.chars) = .ok a) :
    Pci.Address.parse (String.ofList (lastPart o.target)) = .ok a ↔ o.EndsWith a := by
  have hslash : '/' ∉ o.address.chars := by
    intro hmem
    rcases o.legal.forall_mem _ hmem with h | h | h <;> revert h <;> decide
  have hends : endsWord o.tail = true := by
    have hrest : o.rest = o.tail ++ o.rest.dropWhile (· != '\n') := List.takeWhile_append_dropWhile.symm
    exact endsWord_of_append (hrest ▸ o.endsWord_rest)
  by_cases htail : '/' ∈ o.tail
  · have hblank : ¬ ∀ c ∈ o.tail, isBlank c = true := by
      intro h
      have := h '/' htail
      revert this
      decide
    rw [target, lastPart_append_of_mem htail, EndsWith]
    simp [hblank, htail]
  · rw [target, List.append_assoc, lastPart_append_of_notMem (by simp [hslash, htail]), ← List.append_assoc,
      parse_part_iff o.legal hread (isBlank_lastPart o.isBlank_lead) hends, EndsWith]
    simp [htail]

theorem linkOfTexts_eq_ok {id target : List Char} {link : Link} (h : linkOfTexts id target = .ok link) :
    Denotes 10 link.id id ∧ Pci.Address.parse (String.ofList target) = .ok link.target := by
  unfold linkOfTexts at h
  split at h
  · rename_i n hn
    cases hparse : Pci.Address.parse (String.ofList target) with
    | error e => simp [hparse, Except.map] at h
    | ok a =>
      obtain rfl : ⟨n, a⟩ = link := by simpa [hparse, Except.map] using h
      exact ⟨(readNumeral?_eq_some_iff.1 hn).1, rfl⟩
  · cases h

/-- The line of a link by itself. -/
theorem virtualFunctionLinks_line {link : Link} (hid : link.id ≤ limit32) :
    virtualFunctionLinks
        (String.ofList (linkHead link.id ++ (['.', '.', '/'] ++ link.target.chars))) =
      .ok [reported link] := by
  have hempty : ¬ linkName <:+: [] := by decide
  have hlists := Lists.cons hempty hid isBlank_upward (by decide) (show endsWord [] = true from rfl)
    (.nil hempty)
  rw [List.append_nil, List.nil_append] at hlists
  rw [← String.toList_ofList (l := linkHead link.id ++ _)] at hlists
  exact virtualFunctionLinks_eq_reported hlists

/-- **Targets.** The links that are reported stand in the text, in their order. The address reported for
one is the end of its target exactly if this `EndsWith` it; the pattern lets more digits stand before the
address. So the line with the address of any function is reported, but with the last four digits of its
domain, and it is that address exactly if the domain has no more. -/
theorem links_sighted (output : String) {id : Nat} (hid : id ≤ limit32) (a : Pci.Address) :
    (∀ links, virtualFunctionLinks output = .ok links →
      ∃ sightings, Sighted sightings output.toList ∧
        List.Forall₂ (fun (o : Sighting) (link : Link) => Denotes 10 link.id o.id ∧
          Pci.Address.parse (String.ofList o.address.chars) = .ok link.target ∧
          (Pci.Address.parse (String.ofList (lastPart o.target)) = .ok link.target ↔
            o.EndsWith link.target)) sightings links) ∧
    ∃ found : Pci.Address, virtualFunctionLinks
        (String.ofList (linkHead id ++ (['.', '.', '/'] ++ a.chars))) = .ok [⟨id, found⟩] ∧
      found = { a with domain := a.domain % 0x10000 } ∧ (found = a ↔ a.domain.toNat ≤ 0xffff) := by
  constructor
  · intro links h
    obtain ⟨sightings, hsighted, hmatches⟩ := sighted_matches output.toList
    rw [virtualFunctionLinks, hmatches, mapM_eq_ok_iff, List.forall₂_map_left_iff] at h
    refine ⟨sightings, hsighted, h.imp fun o link hlink => ?_⟩
    obtain ⟨hid, htarget⟩ := linkOfTexts_eq_ok hlink
    exact ⟨hid, htarget, o.parse_target_iff htarget⟩
  · have hlinks := @virtualFunctionLinks_line ⟨id, a⟩ hid
    have hiff : reported ⟨id, a⟩ = ⟨id, a⟩ ↔ a.domain.toNat ≤ 0xffff := reported_eq_iff
    refine ⟨(reported ⟨id, a⟩).target, hlinks, rfl, ?_⟩
    rw [← hiff]
    simp [reported]

theorem links_sighted_two :
    let output := "eth1/device/virtfn0 -> ../0000:18:10.1\neth1/device/virtfn25 -> ../10000:18:10.19\n"
    let links : List Link := [⟨0, ⟨0, 0x18, 0x10, 1⟩⟩, ⟨25, ⟨0, 0x18, 0x10, 0x19⟩⟩]
    let a : Pci.Address := ⟨0x10000, 0x18, 0x10, 0x19⟩
    virtualFunctionLinks output = .ok links ∧
      (∃ sightings, Sighted sightings output.toList ∧
        List.Forall₂ (fun (o : Sighting) (link : Link) =>
          Pci.Address.parse (String.ofList (lastPart o.target)) = .ok link.target ↔
            o.EndsWith link.target) sightings links) ∧
      ∃ found ≠ a, virtualFunctionLinks
        (String.ofList (linkHead 25 ++ (['.', '.', '/'] ++ a.chars))) = .ok [⟨25, found⟩] := by
  intro output links a
  have hlinks : virtualFunctionLinks output = .ok links := by
    decide +kernel
  obtain ⟨hsightings, found, hfound, -, hiff⟩ :=
    links_sighted output (show 25 ≤ limit32 by decide) a
  obtain ⟨sightings, hsighted, hread⟩ := hsightings links hlinks
  have hne : found ≠ a := fun h => absurd (hiff.1 h) (by decide)
  exact ⟨hlinks, ⟨sightings, hsighted, hread.imp fun _ _ h => h.2.2⟩, found, hne, hfound⟩

/-- The target is an address with a domain of five digits; the one that is reported is another one. -/
theorem link_to_part :
    let a : Pci.Address := ⟨0x10000, 0x18, 0x10, 1⟩
    "10000:18:10.1".toList = a.chars ∧
      lastPart "../10000:18:10.1".toList = a.chars ∧
      Pci.Address.parse "10000:18:10.1" = .ok a ∧
      virtualFunctionLinks "virtfn0 -> ../10000:18:10.1" = .ok [⟨0, ⟨0, 0x18, 0x10, 1⟩⟩] ∧
      a ≠ ⟨0, 0x18, 0x10, 1⟩ := by
  decide +kernel

end VirtHost.Listing
