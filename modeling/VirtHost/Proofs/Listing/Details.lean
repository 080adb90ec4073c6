import VirtHost.Proofs.Listing.Mac
import VirtHost.Proofs.Listing.VirtualFunction
import VirtHost.Proofs.Text.Lines

/-! # Lines about virtual functions

An interface reports a line for each of its virtual functions. Older versions call the MAC by another label
and leave the broadcast address out. The words for the two switches are searched for in the whole line.

* `Wording`: the two kinds of lines; `ShowsDetail`, `LacksDetail`: lines that describe a virtual function,
  and lines that do not.
* `lowered`: a virtual function with its MAC in lower case.
* `virtualFunctionDetails_of_lined`: the virtual functions that are read are those that the lines show.
-/

namespace VirtHost.Listing
open Text
open VirtualFunction (Detail)
set_option autoImplicit false

variable {line s t : List Char} {ls : List (List Char)} {text : String} {d : Detail}

theorem isBlank_of_isDecimalDigit {c : Char} (h : isDecimalDigit c = true) : isBlank c = false := by
  have hapart : ∀ r ∈ decimalDigitRanges, ∀ q ∈ blankRanges, r.2 < q.1 ∨ q.2 < r.1 := by
    decide +kernel
  rw [← Bool.not_eq_true]
  intro hblank
  simp only [isDecimalDigit, isBlank, inRanges, List.any_eq_true, Bool.and_eq_true,
    decide_eq_true_eq] at h hblank
  obtain ⟨r, hr, hdigit⟩ := h
  obtain ⟨q, hq, hblank⟩ := hblank
  have := hapart r hr q hq
  omega

/-! ## Wordings -/

/-- The characters with which the labels of the switches begin. -/
def switchStarts : List (Char × Char) :=
  [('s', 'p'), ('t', 'r')]

theorem switchStarts_apart {p : Char × Char} (hp : p ∈ switchStarts) : isBlank p.1 = false ∧
    isDecimalDigit p.1 = false ∧ p.1 ∉ ['v', 'f', ' ', ','] ∧ ∀ c ∈ macCharacters, c ∉ [p.1, p.2] := by
  have hall : switchStarts.all (fun p => !isBlank p.1 && !isDecimalDigit p.1 &&
      decide (p.1 ∉ ['v', 'f', ' ', ',']) && macCharacters.all fun c => c ∉ [p.1, p.2]) = true := by
    decide +kernel
  simpa [and_assoc] using List.all_eq_true.1 hall p hp

/-- How a line describes a virtual function. -/
inductive Wording
  | current
  | older

namespace Wording

/-- What stands before the MAC. -/
def label : Wording → List Char
  | current => "link/ether".toList
  | older => "MAC".toList

/-- What stands behind the MAC. -/
def broadcast : Wording → List Char
  | current => " brd ff:ff:ff:ff:ff:ff".toList
  | older => []

/-- How a switch is written. -/
def switch (on : Bool) : List Char :=
  if on then "on".toList else "off".toList

/-- The end of a line. -/
def switches (w : Wording) (spoofCheck trust : Bool) : List Char :=
  w.broadcast ++ (", spoof checking ".toList ++ (switch spoofCheck ++
    (", link-state auto, trust ".toList ++ switch trust)))

theorem isWord_label (w : Wording) : IsWord w.label := by
  cases w <;> decide +kernel

theorem dropHead?_label (w : Wording) (s : List Char) :
    (dropHead? "link/ether".toList (w.label ++ s)).or (dropHead? "MAC".toList (w.label ++ s)) = some s := by
  cases w with
  | current =>
    have hdrop : dropHead? "link/ether".toList (current.label ++ s) = some s := dropHead?_append _ s
    simp only [hdrop, Option.some_or]
  | older =>
    have hdrop : dropHead? "MAC".toList (older.label ++ s) = some s := dropHead?_append _ s
    have hother : dropHead? "link/ether".toList (older.label ++ s) = none := by
      have hcurrent : "link/ether".toList = 'l' :: "ink/ether".toList := by decide +kernel
      have holder : older.label = 'M' :: "AC".toList := by decide +kernel
      rw [hcurrent, holder, List.cons_append, dropHead?, if_neg (by decide)]
    simp only [hdrop, hother, Option.none_or]

theorem isOn_switches (w : Wording) (spoofCheck trust : Bool) :
    isOn "spoof checking " (w.switches spoofCheck trust) = spoofCheck ∧
      isOn "trust " (w.switches spoofCheck trust) = trust := by
  cases w <;> cases spoofCheck <;> cases trust <;> decide +kernel

theorem getLast?_switches (w : Wording) (spoofCheck trust : Bool) :
    (w.switches spoofCheck trust).getLast? ∈ [some 'n', some 'f'] := by
  cases w <;> cases spoofCheck <;> cases trust <;> decide +kernel

theorem take_switches (w : Wording) (spoofCheck trust : Bool) :
    (w.switches spoofCheck trust).take 1 ⊆ [' ', ','] := by
  cases w <;> cases spoofCheck <;> cases trust <;> decide +kernel

/-- No label of a switch begins in the label of a MAC. -/
theorem not_infix_label (w : Wording) {p : Char × Char} (hp : p ∈ switchStarts) :
    ¬ [p.1, p.2] <:+: w.label ++ [' '] ∧ ∀ c ∈ w.label.head?, c ∉ [p.1, p.2] := by
  have hall : switchStarts.all (fun p => decide (¬ [p.1, p.2] <:+: w.label ++ [' ']) &&
      w.label.head?.all fun c => c ∉ [p.1, p.2]) = true := by
    cases w <;> decide +kernel
  simpa [Option.all_eq_true] using List.all_eq_true.1 hall p hp

end Wording

/-! ## Switches -/

/-- A switch is looked for behind a text in which its label cannot begin. -/
theorem isOn_append {label : String} {x y : Char} (hlabel : [x, y] <+: label.toList)
    (h : ¬ [x, y] <:+: s ++ t.take 1) : isOn label (s ++ t) = isOn label t := by
  have hpass : matchesFrom (switchAt? label.toList) 0 (s ++ t) =
      matchesFrom (switchAt? label.toList) 0 t := by
    refine matchesFrom_append fun u v huv hv => ?_
    rw [Option.eq_none_iff_forall_not_mem]
    intro found hfound
    simp only [switchAt?, Option.mem_def, Option.bind_eq_bind, Option.bind_eq_some_iff] at hfound
    obtain ⟨rest, hrest, -⟩ := hfound
    have hbegins : [x, y] <+: v ++ t := by
      rw [dropHead?_eq_some_iff.1 hrest]
      exact hlabel.trans (List.prefix_append _ _)
    have hshort : v ++ t.take 1 <+: v ++ t := (List.prefix_append_right_inj v).2 (List.take_prefix 1 t)
    have hlength : [x, y].length ≤ (v ++ t.take 1).length := by
      have := hbegins.length_le
      have := List.length_pos_iff.2 hv
      simp only [List.length_append, List.length_cons, List.length_nil, List.length_take] at *
      omega
    obtain ⟨behind, hbehind⟩ := List.prefix_of_prefix_length_le hbegins hshort hlength
    exact h ⟨u, behind, by rw [huv, List.append_assoc, List.append_assoc, ← hbehind]⟩
  rw [isOn, isOn, matchesOf, matchesOf, hpass]

/-! ## Lines -/

/-- A line that describes a virtual function: its id, its MAC and its switches. -/
def ShowsDetail (d : Detail) (line : List Char) : Prop :=
  ∃ (w : Wording) (indent gap : List Char), IsGap indent ∧ IsGap gap ∧ gap ≠ [] ∧
    line = indent ++ (['v', 'f', ' '] ++ (digitsOf 10 d.id ++ (gap ++ (w.label ++ ' ' ::
      (d.mac.toList ++ w.switches d.spoofCheck d.trust)))))

/-- A line whose first word is another one than `vf`. -/
def LacksDetail (line : List Char) : Prop :=
  (words line).head? ≠ some ['v', 'f']

/-- A virtual function that can be printed. -/
structure IsDetail (d : Detail) : Prop where
  id_le : d.id ≤ limit32
  isMac : isMac d.mac.toList = true

instance : DecidablePred IsDetail := fun d =>
  decidable_of_iff (d.id ≤ limit32 ∧ Listing.isMac d.mac.toList = true)
    ⟨fun h => ⟨h.1, h.2⟩, fun h => ⟨h.1, h.2⟩⟩

/-- A virtual function with its MAC in lower case. -/
def lowered (d : Detail) : Detail :=
  { d with mac := d.mac.toLower }

theorem detailOfLine?_of_shows (hd : IsDetail d) (h : ShowsDetail d line) :
    detailOfLine? line = some (digitsOf 10 d.id, d.mac.toList) := by
  obtain ⟨w, indent, gap, hindent, hgap, hne, rfl⟩ := h
  generalize w.switches d.spoofCheck d.trust = tail
  have hspace : ∀ c ∈ [' '], isBlank c = true := List.forall_mem_singleton.2 (by decide)
  have hlength := length_of_isMac hd.isMac
  have hmac : ∀ c ∈ d.mac.toList, c ∈ macCharacters := mem_macCharacters_of_isMac hd.isMac
  have hdigits : ∀ c ∈ digitsOf 10 d.id, isDecimalDigit c = true := isDecimalDigit_of_mem_digitsOf
  -- each part of the line ends where the next one begins
  have hstart (rest : List Char) :
      trimStart (indent ++ (['v', 'f', ' '] ++ rest)) = ['v', 'f'] ++ ([' '] ++ rest) := by
    rw [trimStart_blanks_append fun c hc => (hindent c hc).1, trimStart_append (by decide) (by decide)]
    rfl
  have hbefore (rest : List Char) : run? isBlank ([' '] ++ (digitsOf 10 d.id ++ rest)) =
      some ([' '], digitsOf 10 d.id ++ rest) :=
    run?_append_append (by decide) hspace (digitsOf_ne_nil 10 d.id) fun c hc =>
      isBlank_of_isDecimalDigit (hdigits c hc)
  have hid (rest : List Char) : run? isDecimalDigit (digitsOf 10 d.id ++ (gap ++ rest)) =
      some (digitsOf 10 d.id, gap ++ rest) := by
    refine run?_append_append (digitsOf_ne_nil 10 d.id) hdigits hne fun c hc => ?_
    rw [← Bool.not_eq_true]
    intro hdigit
    have hblank := isBlank_of_isDecimalDigit hdigit
    rw [(hgap c hc).1] at hblank
    cases hblank
  have hbehind (rest : List Char) : run? isBlank (gap ++ (w.label ++ rest)) = some (gap, w.label ++ rest) :=
    run?_append_append hne (fun c hc => (hgap c hc).1) w.isWord_label.1 w.isWord_label.2
  have hspace' : run? isBlank ([' '] ++ (d.mac.toList ++ tail)) = some ([' '], d.mac.toList ++ tail) := by
    refine run?_append_append (by decide) hspace (List.length_pos_iff.1 (by omega)) fun c hc => ?_
    exact isBlank_of_mem_macCharacters (hmac c hc)
  have htake : (d.mac.toList ++ tail).take 17 = d.mac.toList := List.take_left' hlength
  have hall : d.mac.toList.all (fun c => isHexDigit c || c = ':') = true :=
    List.all_eq_true.2 fun c hc => isHexDigit_or_of_mem_macCharacters (hmac c hc)
  simp only [detailOfLine?, hstart, dropHead?_append, hbefore, hid, hbehind, w.dropHead?_label,
    List.singleton_append ▸ hspace', htake, hlength, hall, Option.bind_eq_bind, Option.bind_some, and_self, if_true]

/-- The switches stand at the end, and their labels begin nowhere before. -/
theorem isOn_of_shows (hd : IsDetail d) (h : ShowsDetail d line) :
    isOn "spoof checking " line = d.spoofCheck ∧ isOn "trust " line = d.trust := by
  obtain ⟨w, indent, gap, hindent, hgap, -, rfl⟩ := h
  obtain ⟨hspoofCheck, htrust⟩ := w.isOn_switches d.spoofCheck d.trust
  have hmac : ∀ c ∈ d.mac.toList, c ∈ macCharacters := mem_macCharacters_of_isMac hd.isMac
  have hne : d.mac.toList ≠ [] := List.length_pos_iff.1 (by rw [length_of_isMac hd.isMac]; decide)
  have htake := w.take_switches d.spoofCheck d.trust
  generalize w.switches d.spoofCheck d.trust = tail at hspoofCheck htrust htake
  let front := indent ++ (['v', 'f', ' '] ++ (digitsOf 10 d.id ++ gap))
  have hfree : ∀ p ∈ switchStarts, ¬ [p.1, p.2] <:+:
      front ++ ((w.label ++ [' ']) ++ (d.mac.toList ++ tail.take 1)) := by
    intro p hp
    obtain ⟨hblank, hdigit, hname, hmacs⟩ := switchStarts_apart hp
    obtain ⟨hlabel, hhead⟩ := w.not_infix_label hp
    have hnone {t : List Char} (ht : p.1 ∉ t) : ¬ [p.1, p.2] <:+: t :=
      fun hoccurs => ht (hoccurs.subset List.mem_cons_self)
    have hfront : p.1 ∉ front := by
      simp only [front, List.mem_append, not_or]
      refine ⟨fun hmem => ?_, fun hmem => hname ?_, fun hmem => ?_, fun hmem => ?_⟩
      · rw [(hindent _ hmem).1] at hblank
        cases hblank
      · exact List.mem_append_left [','] hmem
      · rw [isDecimalDigit_of_mem_digitsOf _ hmem] at hdigit
        cases hdigit
      · rw [(hgap _ hmem).1] at hblank
        cases hblank
    have hlast : p.1 ∉ d.mac.toList ++ tail.take 1 := by
      simp only [List.mem_append, not_or]
      refine ⟨fun hmem => hmacs _ (hmac _ hmem) List.mem_cons_self, fun hmem => hname ?_⟩
      exact List.mem_append_right ['v', 'f'] (htake hmem)
    have hbehind : ¬ [p.1, p.2] <:+: (w.label ++ [' ']) ++ (d.mac.toList ++ tail.take 1) := by
      refine not_infix_append hlabel (hnone hlast) fun c hc => ?_
      rw [List.head?_append_of_ne_nil _ hne] at hc
      exact hmacs c (hmac c (List.mem_of_mem_head? hc))
    refine not_infix_append (hnone hfront) hbehind fun c hc => ?_
    rw [List.append_assoc, List.head?_append_of_ne_nil _ w.isWord_label.1] at hc
    exact hhead c hc
  have htext : indent ++ (['v', 'f', ' '] ++ (digitsOf 10 d.id ++ (gap ++ (w.label ++ ' ' ::
      (d.mac.toList ++ tail))))) = front ++ (w.label ++ [' '] ++ d.mac.toList) ++ tail := by
    simp [front]
  rw [htext]
  constructor
  · rw [isOn_append (x := 's') (y := 'p') (by decide +kernel), hspoofCheck]
    simpa using hfree ('s', 'p') (by decide)
  · rw [isOn_append (x := 't') (y := 'r') (by decide +kernel), htrust]
    simpa using hfree ('t', 'r') (by decide)

instance : DecidablePred LacksDetail := fun line =>
  inferInstanceAs (Decidable ((words line).head? ≠ some ['v', 'f']))

theorem detailOfLine?_of_lacks (h : LacksDetail line) : detailOfLine? line = none := by
  rw [Option.eq_none_iff_forall_not_mem]
  intro found hfound
  simp only [detailOfLine?, Option.mem_def, Option.bind_eq_bind, Option.bind_eq_some_iff, Prod.exists] at hfound
  obtain ⟨s1, hname, gap, s2, hgap, -⟩ := hfound
  obtain ⟨rfl, hne, hblank⟩ := run?_eq_some hgap
  obtain ⟨c, gap, rfl⟩ := List.exists_cons_of_ne_nil hne
  have hc : isBlank c = true := hblank c List.mem_cons_self
  have hstart : trimStart line = ['v', 'f'] ++ c :: (gap ++ s2) := dropHead?_eq_some_iff.1 hname
  apply h
  rw [← words_trimStart, hstart, words_append_blank hc, words_of_isWord (by decide)]
  rfl

/-! ## Reports -/

/-- What is read of a line that describes a virtual function. -/
def detailIn? (line : List Char) : Option (Except Error Detail) :=
  (detailOfLine? line).map fun p =>
    match readNumeral? 10 limit32 p.1 with
    | none => .error (.parse ("invalid VF id in: " ++ String.ofList line))
    | some n => .ok ⟨n, String.ofList (lowercase p.2), isOn "spoof checking " line, isOn "trust " line⟩

theorem detailsFrom_eq_mapM (ls : List (List Char)) : detailsFrom ls = (ls.filterMap detailIn?).mapM id := by
  induction ls with
  | nil => rfl
  | cons line ls ih =>
    rw [detailsFrom, List.filterMap_cons, detailIn?]
    cases detailOfLine? line with
    | none => exact ih
    | some p =>
      obtain ⟨id, mac⟩ := p
      dsimp only [Option.map_some]
      rw [List.mapM_cons, ← ih]
      cases readNumeral? 10 limit32 id <;> rfl

theorem detailIn?_of_shows (hd : IsDetail d) (h : ShowsDetail d line) :
    detailIn? line = some (.ok (lowered d)) := by
  obtain ⟨hspoofCheck, htrust⟩ := isOn_of_shows hd h
  have hmac : String.ofList (lowercase d.mac.toList) = d.mac.toLower := lower_of_isMac hd.isMac
  rw [detailIn?, detailOfLine?_of_shows hd h, Option.map_some,
    readNumeral?_digitsOf (by decide) (by decide) hd.id_le, hmac, hspoofCheck, htrust]
  rfl

theorem detailIn?_of_lacks (h : LacksDetail line) : detailIn? line = none := by
  rw [detailIn?, detailOfLine?_of_lacks h, Option.map_none]

/-- A line that describes a virtual function ends with a switch. -/
theorem dropReturn_of_shows (h : ShowsDetail d line) : dropReturn line = line := by
  obtain ⟨w, indent, gap, -, -, -, rfl⟩ := h
  have hlast := w.getLast?_switches d.spoofCheck d.trust
  generalize w.switches d.spoofCheck d.trust = tail at hlast
  obtain ⟨c, hc, hne⟩ : ∃ c, tail.getLast? = some c ∧ c ≠ '\r' := by
    simp only [List.mem_cons, List.not_mem_nil, or_false] at hlast
    rcases hlast with h | h <;> exact ⟨_, h, by decide⟩
  have hline : (indent ++ (['v', 'f', ' '] ++ (digitsOf 10 d.id ++ (gap ++ (w.label ++ ' ' ::
      (d.mac.toList ++ tail)))))).getLast? = some c := by
    simp [List.getLast?_append, List.getLast?_cons, hc]
  rw [dropReturn, hline, if_neg (by simpa using hne)]

/-- The virtual functions that are read from a report are those that its lines show. -/
theorem virtualFunctionDetails_of_lined {details : List Detail} (hdetails : ∀ d ∈ details, IsDetail d)
    (hls : Among ShowsDetail LacksDetail details ls) (htext : Lined ls text) :
    virtualFunctionDetails text = .ok (details.map lowered) := by
  have hread : ls.filterMap detailIn? = details.map fun d => .ok (lowered d) :=
    hls.filterMap (fun d hd line h => detailIn?_of_shows (hdetails d hd) h)
      fun line h => detailIn?_of_lacks h
  have hreturn : ∀ line ∈ ls, detailIn? (dropReturn line) = detailIn? line := by
    intro line hline
    rcases hls.shows_or_other line hline with ⟨d, -, hshows⟩ | hlacks
    · rw [dropReturn_of_shows hshows]
    · have hlacks' : LacksDetail (dropReturn line) := by
        rwa [LacksDetail, words_dropReturn]
      rw [detailIn?_of_lacks hlacks', detailIn?_of_lacks hlacks]
  rw [virtualFunctionDetails, detailsFrom_eq_mapM, htext.filterMap_lines rfl hreturn, hread, mapM_eq_ok_iff,
    List.forall₂_map_left_iff, List.forall₂_map_right_iff]
  exact List.forall₂_same.2 fun d _ => rfl

end VirtHost.Listing
