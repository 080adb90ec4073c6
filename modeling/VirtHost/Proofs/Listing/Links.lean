import VirtHost.Proofs.Listing.VirtualFunction

/-! # The links of a listing

* `Lists links s`: the text `s` shows these links one after the other, whatever stands between them.
* `reported`: what a link is read as. Of a domain, a listing is only searched for four digits.
* `virtualFunctionLinks_eq_reported`: the links are found in their order.
* `lists_linkLines`: lines with one link each are such a text.
* `ShowsLink link s`: the text `s` shows one link, whatever its directory is called.
-/

namespace VirtHost.Listing
open Text
set_option autoImplicit false

/-! ## Where a link begins -/

theorem linkName_letter : ∀ k < 6, 0 < k → linkName[k]? ≠ some 'v' := by
  decide

theorem linkName_head {s rest : List Char} (hne : s ≠ []) (h : linkName <+: s ++ (linkName ++ rest)) :
    linkName <+: s := by
  by_cases hlong : linkName.length ≤ s.length
  · exact List.prefix_of_prefix_length_le h (List.prefix_append _ _) hlong
  · -- the second name would begin inside the first one
    exfalso
    have hpos : 0 < s.length := List.length_pos_iff.2 hne
    have hlt : s.length < linkName.length := by omega
    have hfirst : (s ++ (linkName ++ rest))[s.length]? = some 'v' := by
      rw [List.getElem?_append_right (Nat.le_refl _), Nat.sub_self]
      rfl
    have hletter := List.prefix_iff_getElem?.1 h s.length hlt
    rw [hfirst] at hletter
    apply linkName_letter s.length hlt hpos
    rw [List.getElem?_eq_getElem hlt, hletter]

theorem linkName_head_of_linkAt? {s : List Char} {found : (List Char × List Char) × Nat}
    (h : linkAt? s = some found) : linkName <+: s := by
  obtain ⟨o, rfl, -, -⟩ := exists_sighting h
  simp only [Sighting.text, List.append_assoc]
  exact List.prefix_append _ _

/-- No link begins in a text that does not have the name of one in it. -/
theorem linkAt?_eq_none_of_infix {s rest : List Char} {id : Nat} (hne : s ≠ [])
    (hs : ¬ linkName <:+: s) : linkAt? (s ++ (linkHead id ++ rest)) = none := by
  rw [Option.eq_none_iff_forall_not_mem]
  intro found hfound
  have hname : linkName <+: s ++ (linkHead id ++ rest) := linkName_head_of_linkAt? hfound
  rw [linkHead, List.append_assoc, List.append_assoc] at hname
  exact hs (linkName_head hne hname).isInfix

theorem matchesFrom_eq_nil {s : List Char} (hs : ¬ linkName <:+: s) : matchesFrom linkAt? 0 s = [] := by
  rw [← List.append_nil s, matchesFrom_append]
  · rfl
  · intro u v huv _
    rw [List.append_nil, Option.eq_none_iff_forall_not_mem]
    intro found hfound
    have hname : linkName <:+: u ++ v :=
      (linkName_head_of_linkAt? hfound).isInfix.trans (List.suffix_append u v).isInfix
    rw [← huv] at hname
    exact hs hname

/-! ## The address of a target -/

/-- The colon behind the domain is the first one, so no address begins further to the left. -/
theorem addressAt?_eq_none {c : Char} {s : List Char} {a : Numerals} (rest : List Char) (ha : a.Legal)
    (hs : ':' ∉ c :: s) : addressAt? (c :: s ++ (a.chars ++ rest)) = none := by
  rw [Option.eq_none_iff_forall_not_mem]
  intro found hfound
  obtain ⟨b, tail, hb, rfl, htail, -⟩ := addressAt?_eq_some hfound
  have hcolon : b.chars[4]? = some ':' := by
    rw [Numerals.chars, List.append_assoc, List.append_assoc,
      List.getElem?_append_right (Nat.le_of_eq hb.domain.1), hb.domain.1]
    rfl
  have htext : (c :: s ++ (a.chars ++ rest))[4]? = some ':' := by
    rw [htail, List.getElem?_append_left, hcolon]
    have := hb.length
    omega
  have hlong : 4 < (c :: s ++ a.domain).length := by
    rw [List.length_append, List.length_cons, ha.domain.1]
    omega
  have hsplit : c :: s ++ (a.chars ++ rest) =
      (c :: s ++ a.domain) ++ (':' :: a.bus ++ ':' :: a.slot ++ '.' :: a.function ++ rest) := by
    simp [Numerals.chars]
  rw [hsplit, List.getElem?_append_left hlong] at htext
  rcases List.mem_append.1 (List.mem_of_getElem? htext) with h | h
  · exact hs h
  · exact notMem_of_isHexDigit ha.domain.2 (by decide) h

/-- The address that is found in a target is the one at its end. -/
theorem addressInRun?_chars {s rest : List Char} {a : Numerals} (ha : a.Legal)
    (hblank : ∀ c ∈ s, isBlank c = false) (hcolon : ':' ∉ s) (hrest : endsWord rest = true) :
    addressInRun? (s ++ (a.chars ++ rest)) = some (a.chars, s.length + a.chars.length) := by
  induction s with
  | nil =>
    have hfound : addressAt? (a.chars ++ rest) = some a.chars := addressAt?_append ha hrest
    have hne : a.chars ++ rest ≠ [] := by
      simp [Numerals.chars]
    obtain ⟨c, tail, htail⟩ := List.exists_cons_of_ne_nil hne
    rw [htail] at hfound
    rw [List.nil_append, htail, addressInRun?, hfound]
    simp
  | cons c s ih =>
    have hnone := addressAt?_eq_none rest ha hcolon
    have hc : isBlank c = false := hblank c List.mem_cons_self
    have hs := ih (fun d hd => hblank d (List.mem_cons_of_mem c hd))
      (fun h => hcolon (List.mem_cons_of_mem c h))
    rw [List.cons_append] at hnone ⊢
    rw [addressInRun?, hnone, hs]
    have hlength : s.length + a.chars.length + 1 = (c :: s).length + a.chars.length := by
      rw [List.length_cons]
      omega
    simp [hc, hlength]

theorem linkAt?_numeralsOf (id : Nat) (target : Pci.Address) {path rest : List Char}
    (hblank : ∀ c ∈ path, isBlank c = false) (hcolon : ':' ∉ path) (hrest : endsWord rest = true) :
    linkAt? (linkHead id ++ (path ++ target.chars ++ rest)) =
      some ((digitsOf 10 id, (numeralsOf target).chars),
        (linkHead id).length + (path ++ target.chars).length) := by
  obtain ⟨s, hchars, hs⟩ := exists_chars_eq target
  have hlegal := legal_numeralsOf target
  have hblanks : ∀ c ∈ path ++ s, isBlank c = false := by
    intro c hc
    rcases List.mem_append.1 hc with hc | hc
    · exact hblank c hc
    · exact isBlank_of_isHexDigit (hs c hc)
  have hcolons : ':' ∉ path ++ s := by
    intro h
    rcases List.mem_append.1 h with h | h
    · exact hcolon h
    · exact notMem_of_isHexDigit hs (by decide) h
  have hrun := addressInRun?_chars hlegal hblanks hcolons hrest
  have htext : path ++ target.chars ++ rest = path ++ s ++ ((numeralsOf target).chars ++ rest) := by
    simp [hchars]
  have hlength : (path ++ s).length + (numeralsOf target).chars.length =
      (path ++ target.chars).length := by
    simp [hchars]
    omega
  rw [htext]
  rw [hlength] at hrun
  apply linkAt?_linkHead _ hrun
  -- the target begins with a character of the path or of the address
  intro c hc
  have hne : path ++ s ++ (numeralsOf target).chars ≠ [] := by
    simp [Numerals.chars]
  obtain ⟨d, tail, htail⟩ := List.exists_cons_of_ne_nil hne
  rw [← List.append_assoc, htail] at hc
  obtain rfl : d = c := by simpa using hc
  have hmem : d ∈ path ++ s ++ (numeralsOf target).chars := by
    rw [htail]
    exact List.mem_cons_self
  rcases List.mem_append.1 hmem with h | h
  · exact hblanks d h
  · exact hlegal.isBlank d h

/-! ## Reading a link -/

/-- What is reported for a link: of a domain, the last four digits. -/
def reported (link : VirtualFunction.Link) : VirtualFunction.Link :=
  ⟨link.id, { link.target with domain := link.target.domain % 0x10000 }⟩

theorem toNat_reported_domain (link : VirtualFunction.Link) :
    (reported link).target.domain.toNat = link.target.domain.toNat % 0x10000 :=
  UInt32.toNat_mod _ _

theorem reported_eq_iff {link : VirtualFunction.Link} :
    reported link = link ↔ link.target.domain.toNat ≤ 0xffff := by
  have hmod := toNat_reported_domain link
  constructor
  · intro h
    rw [h] at hmod
    omega
  · intro hsmall
    have hdomain : (reported link).target.domain = link.target.domain := by
      rw [← UInt32.toNat_inj, hmod]
      exact Nat.mod_eq_of_lt (Nat.lt_succ_of_le hsmall)
    rcases link with ⟨id, domain, bus, slot, function⟩
    simpa [reported] using hdomain

/-- The numerals that are found are a form of the address that is reported. -/
theorem written_numeralsOf (link : VirtualFunction.Link) :
    Pci.Address.Written (reported link).target (numeralsOf link.target).chars := by
  obtain ⟨id, a⟩ := link
  generalize hk : (hexadecimal 4 a.domain.toNat).length - 4 = k
  have hdomain : (numeralsOf a).domain = (hexadecimal 4 a.domain.toNat).drop k := by
    rw [numeralsOf, hk]
  have hlength : ((hexadecimal 4 a.domain.toNat).drop k).length = 4 := by
    rw [← hdomain]
    exact (legal_numeralsOf a).domain.1
  have hplus : '+' ∉ hexadecimal 4 a.domain.toNat :=
    notMem_of_isHexDigit isHexDigit_of_mem_hexadecimal (by decide)
  have hall : IsNumeral 16 a.domain.toNat
      ((hexadecimal 4 a.domain.toNat).take k ++ (hexadecimal 4 a.domain.toNat).drop k) := by
    rw [List.take_append_drop]
    exact (Pci.Address.denotes_hexadecimal 4 _).isNumeral fun h => hplus (List.mem_of_head? h)
  have hlast := hall.mod_pow (by decide) (List.length_pos_iff.1 (by rw [hlength]; decide))
  rw [hlength, ← hdomain] at hlast
  have hread : Denotes 16 (a.domain % 0x10000).toNat (numeralsOf a).domain := by
    rw [UInt32.toNat_mod]
    exact .unsigned hlast
  exact .long hread (Pci.Address.denotes_hexadecimal 2 _) (Pci.Address.denotes_hexadecimal 2 _)
    (Pci.Address.denotes_hexadecimal 1 _)

theorem linkOfTexts_numeralsOf {link : VirtualFunction.Link} (hid : link.id ≤ limit32) :
    linkOfTexts (digitsOf 10 link.id) (numeralsOf link.target).chars = .ok (reported link) := by
  rw [linkOfTexts, readNumeral?_digitsOf (by decide) (by decide) hid]
  simp only [Pci.Address.parse_of_written (written_numeralsOf link)]
  rfl

/-! ## Listings -/

/-- A listing shows some links. Before each of them anything may stand that does not have the name of a
link in it; its target ends with its address, behind a path without colons, where a word ends. -/
inductive Lists : List VirtualFunction.Link → List Char → Prop
  | nil {s : List Char} (hs : ¬ linkName <:+: s) : Lists [] s
  | cons {link : VirtualFunction.Link} {links : List VirtualFunction.Link}
      {before path rest : List Char} (hbefore : ¬ linkName <:+: before) (hid : link.id ≤ limit32)
      (hblank : ∀ c ∈ path, isBlank c = false) (hcolon : ':' ∉ path) (hrest : endsWord rest = true)
      (hlists : Lists links rest) :
      Lists (link :: links)
        (before ++ (linkHead link.id ++ (path ++ link.target.chars ++ rest)))

/-- The links of a listing are found in their order. -/
theorem virtualFunctionLinks_eq_reported {links : List VirtualFunction.Link} {output : String}
    (h : Lists links output.toList) : virtualFunctionLinks output = .ok (links.map reported) := by
  unfold virtualFunctionLinks matchesOf
  generalize output.toList = s at h
  induction h with
  | nil hs =>
    rw [matchesFrom_eq_nil hs]
    rfl
  | @cons link links before path rest hbefore hid hblank hcolon hrest _ ih =>
    have hfirst := linkAt?_numeralsOf link.id link.target hblank hcolon hrest
    have hfree : ∀ u v, before = u ++ v → v ≠ [] →
        linkAt? (v ++ (linkHead link.id ++ (path ++ link.target.chars ++ rest))) = none := by
      intro u v huv hv
      apply linkAt?_eq_none_of_infix hv
      intro hname
      rw [huv] at hbefore
      exact hbefore (hname.trans (List.suffix_append u v).isInfix)
    rw [matchesFrom_link hfree hfirst, List.drop_left, List.mapM_cons, linkOfTexts_numeralsOf hid, ih]
    rfl

theorem isBlank_upward : ∀ c ∈ ['.', '.', '/'], isBlank c = false := by
  intro c hc
  simp only [List.mem_cons, List.not_mem_nil, or_false] at hc
  rcases hc with rfl | rfl | rfl <;> decide

/-- The lines that show some links, each behind the same columns. -/
def linkLines (columns : List Char) (links : List VirtualFunction.Link) : List Char :=
  links.flatMap fun link =>
    columns ++ (linkHead link.id ++ (['.', '.', '/'] ++ link.target.chars ++ ['\n']))

theorem endsWord_newline (s : List Char) : endsWord ('\n' :: s) = true := by
  rw [endsWord]
  decide +kernel

theorem Lists.newline {links : List VirtualFunction.Link} {s : List Char} (h : Lists links s) :
    Lists links ('\n' :: s) := by
  cases h with
  | nil hs => exact .nil (not_infix_cons (by decide) hs)
  | cons hbefore hid hblank hcolon hrest hlists =>
    exact .cons (not_infix_cons (by decide) hbefore) hid hblank hcolon hrest hlists

theorem lists_linkLines {columns : List Char} (hcolumns : ¬ linkName <:+: columns)
    {links : List VirtualFunction.Link} (hid : ∀ link ∈ links, link.id ≤ limit32) :
    Lists links (linkLines columns links) := by
  induction links with
  | nil =>
    have hempty : ¬ linkName <:+: [] := by
      decide
    exact .nil hempty
  | cons link links ih =>
    have hrest := (ih fun l hl => hid l (List.mem_cons_of_mem link hl)).newline
    have hlink : Lists (link :: links) _ := .cons hcolumns (hid link List.mem_cons_self) isBlank_upward
      (by simp) (endsWord_newline (linkLines columns links)) hrest
    simpa [linkLines] using hlink

/-! ## One link -/

/-- A text shows one link, behind columns without arrows. Its target ends as that of a link in a listing. -/
def ShowsLink (link : VirtualFunction.Link) (s : List Char) : Prop :=
  ∃ before path rest, LacksArrow before ∧ (∀ c ∈ path, isBlank c = false) ∧ ':' ∉ path ∧
    endsWord rest = true ∧ LacksArrow rest ∧
    s = before ++ (linkHead link.id ++ (path ++ link.target.chars ++ rest))

theorem virtualFunctionLinks_of_showsLink {link : VirtualFunction.Link} {output : String}
    (hid : link.id ≤ limit32) (h : ShowsLink link output.toList) :
    virtualFunctionLinks output = .ok [reported link] := by
  obtain ⟨before, path, rest, hbefore, hblank, hcolon, hrest, harrow, htext⟩ := h
  have hfirst := linkAt?_numeralsOf link.id link.target hblank hcolon hrest
  have hfree : ∀ u v, before = u ++ v → v ≠ [] →
      linkAt? (v ++ (linkHead link.id ++ (path ++ link.target.chars ++ rest))) = none := by
    rintro u v rfl hv
    exact linkAt?_eq_none_before hv hbefore.of_append
  rw [virtualFunctionLinks, matchesOf, htext, matchesFrom_link hfree hfirst, List.drop_left,
    matchesFrom_of_lacksArrow harrow, List.mapM_cons, linkOfTexts_numeralsOf hid]
  rfl

end VirtHost.Listing
