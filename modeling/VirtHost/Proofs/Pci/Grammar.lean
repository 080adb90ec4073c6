import VirtHost.Pci
import VirtHost.Proofs.Text.Denotation
import VirtHost.Proofs.Text.Words

/-! # The texts of an address

* `Written a s`: the text `s` is a form of the address `a`, the long or the short one; its four numerals
  may have any number of leading zeros, digits of either case and plus signs.
* `read?_eq_some_iff`: these are the texts that are read as the address.
* `written_of_map_toLower`: the case of the digits does not matter.
* `parse_between_blanks`: neither do blanks around a text.
-/

namespace VirtHost.Pci.Address
open Text
set_option autoImplicit false

variable {a : Address} {s : List Char}

/-- A text is a form of an address. -/
inductive Written (a : Address) : List Char → Prop
  | long {domain bus slot function : List Char} (hdomain : Denotes 16 a.domain.toNat domain)
      (hbus : Denotes 16 a.bus.toNat bus) (hslot : Denotes 16 a.slot.toNat slot)
      (hfunction : Denotes 16 a.function.toNat function) :
      Written a (domain ++ ':' :: bus ++ ':' :: slot ++ '.' :: function)
  | short {bus slot function : List Char} (hdomain : a.domain = 0)
      (hbus : Denotes 16 a.bus.toNat bus) (hslot : Denotes 16 a.slot.toNat slot)
      (hfunction : Denotes 16 a.function.toNat function) :
      Written a (bus ++ ':' :: slot ++ '.' :: function)

/-! ## Reading -/

theorem ofNumerals?_eq_some_iff {domain bus slot function : List Char} :
    ofNumerals? domain bus slot function = some a ↔
      Denotes 16 a.domain.toNat domain ∧ Denotes 16 a.bus.toNat bus ∧ Denotes 16 a.slot.toNat slot ∧
        Denotes 16 a.function.toNat function := by
  have hdomain : a.domain.toNat ≤ limit32 := Nat.le_of_lt_succ a.domain.toNat_lt
  have hbyte (n : UInt8) : n.toNat ≤ limit8 := Nat.le_of_lt_succ n.toNat_lt
  constructor
  · intro h
    simp only [ofNumerals?, Option.bind_eq_bind, Option.bind_eq_some_iff, readNumeral?_eq_some_iff,
      Option.pure_def, Option.some.injEq] at h
    obtain ⟨d, ⟨hd, hdle⟩, b, ⟨hb, hble⟩, sl, ⟨hs, hsle⟩, f, ⟨hf, hfle⟩, rfl⟩ := h
    dsimp only
    rw [UInt32.toNat_ofNat_of_lt' (Nat.lt_succ_of_le hdle), UInt8.toNat_ofNat_of_lt' (Nat.lt_succ_of_le hble),
      UInt8.toNat_ofNat_of_lt' (Nat.lt_succ_of_le hsle), UInt8.toNat_ofNat_of_lt' (Nat.lt_succ_of_le hfle)]
    exact ⟨hd, hb, hs, hf⟩
  · rintro ⟨hd, hb, hs, hf⟩
    rw [ofNumerals?, readNumeral?_eq_some_iff.2 ⟨hd, hdomain⟩, readNumeral?_eq_some_iff.2 ⟨hb, hbyte _⟩,
      readNumeral?_eq_some_iff.2 ⟨hs, hbyte _⟩, readNumeral?_eq_some_iff.2 ⟨hf, hbyte _⟩]
    simp

theorem colon_notMem {n : Nat} (h : Denotes 16 n s) : ':' ∉ s :=
  h.notMem (by decide) (by decide)

theorem point_notMem {n : Nat} (h : Denotes 16 n s) : '.' ∉ s :=
  h.notMem (by decide) (by decide)

theorem denotes_zero_iff {n : Nat} : Denotes 16 n ['0'] ↔ n = 0 := by
  have hzero : Denotes 16 0 ['0'] := .unsigned ⟨by simp, [0], by decide, by simp⟩
  constructor
  · exact fun h => h.unique hzero
  · rintro rfl
    exact hzero

theorem splitOn_three {domain bus slot : List Char} (hd : ':' ∉ domain) (hb : ':' ∉ bus) (hs : ':' ∉ slot) :
    (domain ++ ':' :: bus ++ ':' :: slot).splitOn ':' = [domain, bus, slot] := by
  have hjoin : domain ++ ':' :: bus ++ ':' :: slot = [':'].intercalate [domain, bus, slot] := by
    simp [List.intercalate]
  rw [hjoin]
  exact List.splitOn_intercalate ':' (by simp [hd, hb, hs]) (by simp)

theorem splitOn_two {bus slot : List Char} (hb : ':' ∉ bus) (hs : ':' ∉ slot) :
    (bus ++ ':' :: slot).splitOn ':' = [bus, slot] := by
  have hjoin : bus ++ ':' :: slot = [':'].intercalate [bus, slot] := by
    simp [List.intercalate]
  rw [hjoin]
  exact List.splitOn_intercalate ':' (by simp [hb, hs]) (by simp)

theorem read?_long {domain bus slot function : List Char} (hd : ':' ∉ domain) (hb : ':' ∉ bus)
    (hs : ':' ∉ slot) (hf : '.' ∉ function) :
    read? (domain ++ ':' :: bus ++ ':' :: slot ++ '.' :: function) =
      ofNumerals? domain bus slot function := by
  simp only [read?, splitLast_append hf, Option.bind_eq_bind, Option.bind_some, splitOn_three hd hb hs]

/-- **Reading.** The texts that are read as an address are its forms. -/
theorem read?_eq_some_iff : read? s = some a ↔ Written a s := by
  constructor
  · intro h
    simp only [read?, Option.bind_eq_bind, Option.bind_eq_some_iff, Prod.exists] at h
    obtain ⟨head, function, hlast, h⟩ := h
    obtain ⟨rfl, -⟩ := splitLast_eq_some_iff.1 hlast
    have hjoin : [':'].intercalate (head.splitOn ':') = head := List.intercalate_splitOn ':'
    split at h
    · rename_i domain bus slot hsplit
      obtain ⟨hd, hb, hs, hf⟩ := ofNumerals?_eq_some_iff.1 h
      obtain rfl : domain ++ ':' :: bus ++ ':' :: slot = head := by
        rw [← hjoin, hsplit]
        simp [List.intercalate]
      exact .long hd hb hs hf
    · rename_i bus slot hsplit
      obtain ⟨hd, hb, hs, hf⟩ := ofNumerals?_eq_some_iff.1 h
      have hzero : a.domain = 0 := UInt32.toNat_inj.1 (denotes_zero_iff.1 hd)
      obtain rfl : bus ++ ':' :: slot = head := by
        rw [← hjoin, hsplit]
        simp [List.intercalate]
      exact .short hzero hb hs hf
    · cases h
  · intro h
    cases h with
    | long hd hb hs hf =>
      rw [read?_long (colon_notMem hd) (colon_notMem hb) (colon_notMem hs) (point_notMem hf)]
      exact ofNumerals?_eq_some_iff.2 ⟨hd, hb, hs, hf⟩
    | short hzero hb hs hf =>
      have hd : Denotes 16 a.domain.toNat ['0'] := denotes_zero_iff.2 (by rw [hzero]; rfl)
      simp only [read?, splitLast_append (point_notMem hf), Option.bind_eq_bind, Option.bind_some,
        splitOn_two (colon_notMem hb) (colon_notMem hs)]
      exact ofNumerals?_eq_some_iff.2 ⟨hd, hb, hs, hf⟩

theorem Written.unique {b : Address} (h : Written a s) (h' : Written b s) : a = b := by
  have hb := read?_eq_some_iff.2 h'
  rw [read?_eq_some_iff.2 h] at hb
  exact Option.some.inj hb

theorem written_long_iff {domain bus slot function : List Char} (hd : ':' ∉ domain) (hb : ':' ∉ bus)
    (hs : ':' ∉ slot) (hf : '.' ∉ function) :
    Written a (domain ++ ':' :: bus ++ ':' :: slot ++ '.' :: function) ↔
      Denotes 16 a.domain.toNat domain ∧ Denotes 16 a.bus.toNat bus ∧ Denotes 16 a.slot.toNat slot ∧
        Denotes 16 a.function.toNat function := by
  rw [← read?_eq_some_iff, read?_long hd hb hs hf, ofNumerals?_eq_some_iff]

theorem Written.count (h : Written a s) : s.count ':' ≤ 2 ∧ s.count '.' = 1 := by
  have hnone {n : Nat} {t : List Char} (ht : Denotes 16 n t) : t.count ':' = 0 ∧ t.count '.' = 0 :=
    ⟨List.count_eq_zero.2 (colon_notMem ht), List.count_eq_zero.2 (point_notMem ht)⟩
  cases h with
  | long hd hb hs hf => simp [hnone hd, hnone hb, hnone hs, hnone hf]
  | short hzero hb hs hf => simp [hnone hb, hnone hs, hnone hf]

/-! ## Letter case and blanks -/

/-- A text that is split in lower case is split in the same place. -/
theorem exists_split_of_map_toLower {sep : Char} {u v : List Char}
    (hsep : ¬ (0x61 ≤ sep.toNat ∧ sep.toNat ≤ 0x7a)) (h : s.map Char.toLower = u ++ sep :: v) :
    ∃ before behind, s = before ++ sep :: behind ∧ before.map Char.toLower = u ∧
      behind.map Char.toLower = v := by
  obtain ⟨before, rest, rfl, hu, hrest⟩ := List.map_eq_append_iff.1 h
  obtain ⟨c, behind, rfl, hc, hv⟩ := List.map_eq_cons_iff.1 hrest
  rw [eq_of_toLower_eq hc hsep]
  exact ⟨before, behind, rfl, hu, hv⟩

theorem written_of_map_toLower (h : Written a (s.map Char.toLower)) : Written a s := by
  generalize htext : s.map Char.toLower = text at h
  cases h with
  | long hd hb hs hf =>
    obtain ⟨head, function, rfl, hhead, rfl⟩ := exists_split_of_map_toLower (by decide) htext
    obtain ⟨front, slot, rfl, hfront, rfl⟩ := exists_split_of_map_toLower (by decide) hhead
    obtain ⟨domain, bus, rfl, rfl, rfl⟩ := exists_split_of_map_toLower (by decide) hfront
    exact .long (denotes_map_toLower_iff.1 hd) (denotes_map_toLower_iff.1 hb)
      (denotes_map_toLower_iff.1 hs) (denotes_map_toLower_iff.1 hf)
  | short hzero hb hs hf =>
    obtain ⟨head, function, rfl, hhead, rfl⟩ := exists_split_of_map_toLower (by decide) htext
    obtain ⟨bus, slot, rfl, rfl, rfl⟩ := exists_split_of_map_toLower (by decide) hhead
    exact .short hzero (denotes_map_toLower_iff.1 hb) (denotes_map_toLower_iff.1 hs)
      (denotes_map_toLower_iff.1 hf)

theorem Written.isWord (h : Written a s) : IsWord s := by
  have hcolon : isBlank ':' = false := by decide
  have hpoint : isBlank '.' = false := by decide
  cases h with
  | long hd hb hs hf =>
    refine ⟨by simp, ?_⟩
    simp only [List.forall_mem_append, List.forall_mem_cons]
    exact ⟨⟨⟨hd.isBlank, hcolon, hb.isBlank⟩, hcolon, hs.isBlank⟩, hpoint, hf.isBlank⟩
  | short hzero hb hs hf =>
    refine ⟨by simp, ?_⟩
    simp only [List.forall_mem_append, List.forall_mem_cons]
    exact ⟨⟨hb.isBlank, hcolon, hs.isBlank⟩, hpoint, hf.isBlank⟩

theorem parse_eq_ok_iff {text : String} : parse text = .ok a ↔ Written a (trim text.toList) := by
  rw [← read?_eq_some_iff, parse]
  cases read? (trim text.toList) <;> simp

/-- A form of an address is read as it, also between blanks. -/
theorem parse_between_blanks {before behind : List Char} (h : Written a s)
    (hblank : ∀ c ∈ before ++ behind, isBlank c = true) :
    parse (String.ofList (before ++ s ++ behind)) = .ok a := by
  have hbefore : ∀ c ∈ before, isBlank c = true := fun c hc => hblank c (List.mem_append_left behind hc)
  have hbehind : ∀ c ∈ behind, isBlank c = true := fun c hc => hblank c (List.mem_append_right before hc)
  rw [parse_eq_ok_iff, String.toList_ofList, List.append_assoc, trim_isWord h.isWord hbefore hbehind]
  exact h

theorem parse_of_written (h : Written a s) : parse (String.ofList s) = .ok a := by
  rw [parse_eq_ok_iff, String.toList_ofList, trim_of_forall h.isWord.2]
  exact h

end VirtHost.Pci.Address
