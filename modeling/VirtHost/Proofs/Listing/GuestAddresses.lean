import VirtHost.Listing.Network
import VirtHost.Proofs.Listing.Table

/-! # The addresses of a guest

A guest reports its interfaces in a table. The row of an interface has its name, which may be several
words, its MAC if it has one, and its first address; every further address has a row with two dashes.

* `GuestInterface.rows`, `GuestInterface.own`: the rows of an interface, and the addresses that it owns.
* `attributed`: the addresses that are read. The row of an interface that has no MAC and a name of one
  word is too short to be seen, so that its further addresses go to the interface above.
* `agentAddresses_attributed`: what is read from a table of interfaces, and when each has its own.
-/

namespace VirtHost.Listing
open Text
set_option autoImplicit false

/-! ## Interfaces -/

/-- An address with the width of its network. -/
structure AddressEntry where
  protocol : List Char
  address : List Char
  width : List Char
  no_slash : '/' ∉ address

namespace AddressEntry

/-- The last column. -/
def column (e : AddressEntry) : List Char :=
  e.address ++ '/' :: e.width

/-- The row of a further address. -/
def continuation (e : AddressEntry) : List (List Char) :=
  [['-'], ['-'], e.protocol, e.column]

/-- The address as one of the interface with this MAC. -/
def under (e : AddressEntry) (mac : List Char) : Network.InterfaceAddress :=
  ⟨String.ofList (lowercase mac), String.ofList e.protocol, String.ofList e.address⟩

end AddressEntry

/-- An interface with one address or more. -/
structure GuestInterface where
  /-- The first word of the name. -/
  first : List Char
  /-- The other words of the name. -/
  others : List (List Char)
  mac : Option (List Char)
  entry : AddressEntry
  further : List AddressEntry
  first_ne : first ≠ ['-']
  name_ne : ∀ w ∈ first :: others, isMac w = false
  isMac_mac : ∀ m ∈ mac, isMac m = true

/-- The addresses of an interface, which are passed over if it has no MAC. -/
def owned (mac : Option (List Char)) (entries : List AddressEntry) : List Network.InterfaceAddress :=
  mac.toList.flatMap fun m => entries.map fun e => e.under m

namespace GuestInterface

/-- The words of the first row but for the last two. -/
def names (i : GuestInterface) : List (List Char) :=
  i.first :: (i.others ++ i.mac.toList)

def rows (i : GuestInterface) : List (List (List Char)) :=
  (i.names ++ [i.entry.protocol, i.entry.column]) :: i.further.map AddressEntry.continuation

def own (i : GuestInterface) : List Network.InterfaceAddress :=
  owned i.mac (i.entry :: i.further)

/-- An interface without a MAC whose name is one word. -/
def IsBare (i : GuestInterface) : Prop :=
  i.mac = none ∧ i.others = []

instance (i : GuestInterface) : Decidable i.IsBare :=
  inferInstanceAs (Decidable (_ ∧ _))

end GuestInterface

open GuestInterface (IsBare)

variable {i : GuestInterface} {interfaces : List GuestInterface} {holder : Option (List Char)}
  {current : Option String}

/-- The addresses that are read, `holder` being the MAC of the last interface above that is not bare. -/
def attributed (holder : Option (List Char)) : List GuestInterface → List Network.InterfaceAddress
  | [] => []
  | i :: interfaces =>
    if i.IsBare then owned holder i.further ++ attributed holder interfaces
    else i.own ++ attributed i.mac interfaces

/-- Some bare interface has more than one address, and the last interface above it that is not bare has
a MAC. -/
def Strays (interfaces : List GuestInterface) : Prop :=
  ∃ before owner between bare after, interfaces = before ++ owner :: (between ++ bare :: after) ∧
    owner.mac.isSome ∧ (∀ i ∈ between, IsBare i) ∧ bare.IsBare ∧ bare.further ≠ []

/-! ## Rows -/

/-- The addresses of the row with these words in its first columns. -/
theorem addressesFrom_row (current : Option String) {names : List (List Char)} (h : 2 ≤ names.length)
    (e : AddressEntry) (rows : List (List (List Char))) :
    addressesFrom current ((names ++ [e.protocol, e.column]) :: rows)
      = (currentMac current names).toList.map
          (fun mac => ⟨mac, String.ofList e.protocol, String.ofList e.address⟩)
        ++ addressesFrom (currentMac current names) rows := by
  obtain ⟨b, a, more, hnames⟩ : ∃ b a more, names.reverse = b :: a :: more := by
    match hreverse : names.reverse with
    | [] | [_] =>
      have hlength := congrArg List.length hreverse
      simp only [List.length_reverse, List.length_cons, List.length_nil] at hlength
      omega
    | b :: a :: more => exact ⟨b, a, more, rfl⟩
  have hback : (b :: a :: more).reverse = names := by rw [← hnames, List.reverse_reverse]
  have hrow : (names ++ [e.protocol, e.column]).reverse = e.column :: e.protocol :: b :: a :: more := by
    simp [hnames]
  rw [addressesFrom, hrow]
  simp only [hback]
  cases currentMac current names with
  | none => rfl
  | some mac => simp [AddressEntry.column, upTo_append e.no_slash]

theorem addressesFrom_short {row : List (List Char)} (h : row.length < 4)
    (rows : List (List (List Char))) :
    addressesFrom current (row :: rows) = addressesFrom current rows := by
  rw [addressesFrom]
  split
  · rename_i hreverse
    have hlength := congrArg List.length hreverse
    simp only [List.length_reverse, List.length_cons] at hlength
    omega
  · rfl

/-- A MAC as it is kept. -/
def kept (mac : Option (List Char)) : Option String :=
  mac.map fun m => String.ofList (lowercase m)

theorem addressesFrom_continuations (entries : List AddressEntry) (rows : List (List (List Char))) :
    addressesFrom (kept holder) (entries.map AddressEntry.continuation ++ rows)
      = owned holder entries ++ addressesFrom (kept holder) rows := by
  induction entries with
  | nil => cases holder <;> rfl
  | cons e entries ih =>
    have hdashes : 2 ≤ [['-'], ['-']].length := le_rfl
    have hrow := addressesFrom_row (kept holder) hdashes e
      (entries.map AddressEntry.continuation ++ rows)
    have hkeeps : currentMac (kept holder) [['-'], ['-']] = kept holder := rfl
    rw [hkeeps, ih] at hrow
    refine hrow.trans ?_
    cases holder <;> rfl

theorem currentMac_names (i : GuestInterface) : currentMac current i.names = kept i.mac := by
  have hhead : ¬ i.names.head? = some ['-'] := fun h =>
    i.first_ne (by simpa [GuestInterface.names] using h)
  have hnone : (i.first :: i.others).find? isMac = none := by
    rw [List.find?_eq_none]
    intro w hw
    simp [i.name_ne w hw]
  have hmac : i.mac.toList.find? isMac = i.mac := by
    cases hm : i.mac with
    | none => rfl
    | some m => simp [i.isMac_mac m hm]
  rw [currentMac, if_neg hhead, GuestInterface.names, ← List.cons_append, List.find?_append, hnone, hmac]
  rfl

/-! ## Tables -/

theorem names_length_of_not_bare (h : ¬ i.IsBare) : 2 ≤ i.names.length := by
  cases hmac : i.mac with
  | some m => simp [GuestInterface.names, hmac]
  | none =>
    have hothers : 0 < i.others.length := by
      rw [List.length_pos_iff]
      exact fun hnil => h ⟨hmac, hnil⟩
    simp [GuestInterface.names, hmac]
    omega

/-- What the rows of one interface add, and whose MAC they leave behind. -/
theorem addressesFrom_rows (i : GuestInterface) (rows : List (List (List Char))) :
    addressesFrom (kept holder) (i.rows ++ rows)
      = if i.IsBare then owned holder i.further ++ addressesFrom (kept holder) rows
        else i.own ++ addressesFrom (kept i.mac) rows := by
  rw [GuestInterface.rows, List.cons_append]
  by_cases hbare : i.IsBare
  · -- the row is passed over, so the MAC above stays current for the rows of the further addresses
    have hshort : (i.names ++ [i.entry.protocol, i.entry.column]).length < 4 := by
      simp [GuestInterface.names, hbare.1, hbare.2]
    rw [if_pos hbare, addressesFrom_short hshort, addressesFrom_continuations]
  · rw [if_neg hbare, addressesFrom_row _ (names_length_of_not_bare hbare), currentMac_names,
      addressesFrom_continuations, ← List.append_assoc]
    congr 1
    cases hmac : i.mac <;> simp [GuestInterface.own, owned, kept, hmac, AddressEntry.under]

theorem addressesFrom_flatMap (interfaces : List GuestInterface) (holder : Option (List Char)) :
    addressesFrom (kept holder) (interfaces.flatMap GuestInterface.rows)
      = attributed holder interfaces := by
  induction interfaces generalizing holder with
  | nil => rfl
  | cons i interfaces ih => rw [List.flatMap_cons, addressesFrom_rows, attributed, ih, ih]

/-! ## Attribution -/

theorem own_of_bare (h : i.IsBare) : i.own = [] := by
  rw [GuestInterface.own, h.1]
  rfl

theorem owned_eq_nil_iff {entries : List AddressEntry} :
    owned holder entries = [] ↔ ¬ (holder.isSome ∧ entries ≠ []) := by
  cases holder <;> simp [owned]

/-- Nothing that an interface owns is lost. -/
theorem own_sublist_attributed (interfaces : List GuestInterface) (holder : Option (List Char)) :
    (interfaces.flatMap GuestInterface.own).Sublist (attributed holder interfaces) := by
  induction interfaces generalizing holder with
  | nil => exact List.Sublist.refl _
  | cons i interfaces ih =>
    rw [List.flatMap_cons, attributed]
    split_ifs with hbare
    · rw [own_of_bare hbare, List.nil_append]
      exact (ih holder).trans (List.sublist_append_right _ _)
    · exact (List.append_sublist_append_left _).2 (ih i.mac)

/-- Among interfaces below one with the MAC `holder`, some address strays. -/
def StraysFrom (holder : Option (List Char)) (interfaces : List GuestInterface) : Prop :=
  (holder.isSome ∧ ∃ between bare after, interfaces = between ++ bare :: after ∧
    (∀ i ∈ between, IsBare i) ∧ bare.IsBare ∧ bare.further ≠ []) ∨ Strays interfaces

theorem straysFrom_none : StraysFrom none interfaces ↔ Strays interfaces := by
  simp [StraysFrom]

theorem strays_cons : Strays (i :: interfaces) ↔ StraysFrom i.mac interfaces := by
  constructor
  · rintro ⟨before, owner, between, bare, after, heq, howner, hbetween, hbare⟩
    cases before with
    | nil =>
      obtain ⟨rfl, rfl⟩ := List.cons_eq_cons.1 heq
      exact .inl ⟨howner, between, bare, after, rfl, hbetween, hbare⟩
    | cons j before =>
      obtain ⟨rfl, rfl⟩ := List.cons_eq_cons.1 heq
      exact .inr ⟨before, owner, between, bare, after, rfl, howner, hbetween, hbare⟩
  · rintro (⟨howner, between, bare, after, rfl, hbetween, hbare⟩
      | ⟨before, owner, between, bare, after, rfl, howner, hbetween, hbare⟩)
    · exact ⟨[], i, between, bare, after, rfl, howner, hbetween, hbare⟩
    · exact ⟨i :: before, owner, between, bare, after, rfl, howner, hbetween, hbare⟩

theorem straysFrom_nil : ¬ StraysFrom holder [] := by
  rintro (⟨-, between, bare, after, heq, -⟩ | ⟨before, owner, between, bare, after, heq, -⟩)
  · simp at heq
  · simp at heq

theorem straysFrom_cons_of_bare (h : i.IsBare) :
    StraysFrom holder (i :: interfaces) ↔
      (holder.isSome ∧ i.further ≠ []) ∨ StraysFrom holder interfaces := by
  rw [StraysFrom, strays_cons, h.1, straysFrom_none]
  constructor
  · rintro (⟨hholder, between, bare, after, heq, hbetween, hbare⟩ | hlater)
    · cases between with
      | nil =>
        obtain ⟨rfl, rfl⟩ := List.cons_eq_cons.1 heq
        exact .inl ⟨hholder, hbare.2⟩
      | cons j between =>
        obtain ⟨rfl, rfl⟩ := List.cons_eq_cons.1 heq
        exact .inr (.inl ⟨hholder, between, bare, after, rfl,
          (List.forall_mem_cons.1 hbetween).2, hbare⟩)
    · exact .inr (.inr hlater)
  · rintro (⟨hholder, hfurther⟩ | ⟨hholder, between, bare, after, rfl, hbetween, hbare⟩ | hlater)
    · exact .inl ⟨hholder, [], i, interfaces, rfl, by simp, h, hfurther⟩
    · exact .inl ⟨hholder, i :: between, bare, after, rfl, List.forall_mem_cons.2 ⟨h, hbetween⟩, hbare⟩
    · exact .inr hlater

theorem straysFrom_cons_of_not_bare (h : ¬ i.IsBare) :
    StraysFrom holder (i :: interfaces) ↔ StraysFrom i.mac interfaces := by
  rw [← strays_cons]
  refine ⟨?_, .inr⟩
  rintro (⟨-, between, bare, after, heq, hbetween, hbare, -⟩ | hlater)
  · cases between with
    | nil =>
      obtain ⟨rfl, rfl⟩ := List.cons_eq_cons.1 heq
      exact absurd hbare h
    | cons j between =>
      obtain ⟨rfl, rfl⟩ := List.cons_eq_cons.1 heq
      exact absurd (hbetween i (by simp)) h
  · exact hlater

theorem attributed_eq_own_iff (interfaces : List GuestInterface) (holder : Option (List Char)) :
    attributed holder interfaces = interfaces.flatMap GuestInterface.own ↔
      ¬ StraysFrom holder interfaces := by
  induction interfaces generalizing holder with
  | nil => exact iff_of_true rfl straysFrom_nil
  | cons i interfaces ih =>
    rw [List.flatMap_cons, attributed]
    split_ifs with hbare
    · rw [own_of_bare hbare, List.nil_append, straysFrom_cons_of_bare hbare, not_or, ← owned_eq_nil_iff,
        ← ih]
      constructor
      · -- what the bare interface adds makes the list longer than the one that is owned
        intro heq
        have hle := (own_sublist_attributed interfaces holder).length_le
        have hlength := congrArg List.length heq
        rw [List.length_append] at hlength
        have hnil : owned holder i.further = [] := List.length_eq_zero_iff.1 (by omega)
        exact ⟨hnil, by rwa [hnil, List.nil_append] at heq⟩
      · rintro ⟨hnil, heq⟩
        rw [hnil, List.nil_append, heq]
    · rw [straysFrom_cons_of_not_bare hbare, List.append_cancel_left_eq, ih]

theorem agentAddresses_of_tabulates {text : List Char}
    (h : Tabulates (interfaces.flatMap GuestInterface.rows) text) :
    agentAddresses (String.ofList text) = attributed none interfaces := by
  rw [agentAddresses, tableWords_of_tabulates h]
  exact addressesFrom_flatMap interfaces none

/-- **Attribution.** From a table of interfaces the addresses are read in order, each with the MAC of the
last interface above that is not bare. They are those that the interfaces own exactly if no interface that
is bare has a further address below one with a MAC. -/
theorem agentAddresses_attributed (interfaces : List GuestInterface) {text : List Char}
    (h : Tabulates (interfaces.flatMap GuestInterface.rows) text) :
    agentAddresses (String.ofList text) = attributed none interfaces ∧
      (agentAddresses (String.ofList text) = interfaces.flatMap GuestInterface.own ↔
        ¬ Strays interfaces) := by
  refine ⟨agentAddresses_of_tabulates h, ?_⟩
  rw [agentAddresses_of_tabulates h, attributed_eq_own_iff, straysFrom_none]

/-! ## Two reports -/

/-- An interface with a MAC and two addresses. -/
def ethernet : GuestInterface where
  first := "Ethernet".toList
  others := []
  mac := some "AA:BB:CC:DD:EE:FF".toList
  entry := ⟨"ipv6".toList, "fe80::7c30%12".toList, "-1".toList, by decide⟩
  further := [⟨"ipv4".toList, "10.11.12.13".toList, "24".toList, by decide⟩]
  first_ne := by decide
  name_ne := by decide
  isMac_mac := by decide

/-- A loopback interface without a MAC, the name of which ends with these words. -/
def loopback (others : List (List Char)) (h : ∀ w ∈ others, isMac w = false) : GuestInterface where
  first := "Loopback".toList
  others := others
  mac := none
  entry := ⟨"ipv6".toList, "::1".toList, "-1".toList, by decide⟩
  further := [⟨"ipv4".toList, "127.0.0.1".toList, "-1".toList, by decide⟩]
  first_ne := by decide
  name_ne := List.forall_mem_cons.2 ⟨by decide, h⟩
  isMac_mac := by simp

/-- The lines of a report on these two interfaces. -/
def reportLines (loopbackRow : List Char) : List (List Char) :=
  ["Name MAC-address Protocol Address".toList, "------".toList,
    "Ethernet AA:BB:CC:DD:EE:FF ipv6 fe80::7c30%12/-1".toList, "- - ipv4 10.11.12.13/24".toList,
    loopbackRow, "- - ipv4 127.0.0.1/-1".toList]

/-- A loopback interface with a name of three words is not taken for a part of the interface above. -/
theorem agentAddresses_attributed_windows :
    let interfaces := [ethernet, loopback ["Pseudo-Interface".toList, "1".toList] (by decide)]
    let text := join ['\n'] (reportLines "Loopback Pseudo-Interface 1 ipv6 ::1/-1".toList)
    Tabulates (interfaces.flatMap GuestInterface.rows) text ∧
      agentAddresses (String.ofList text) = interfaces.flatMap GuestInterface.own := by
  intro interfaces text
  have hrows : tableWords (String.ofList text) = interfaces.flatMap GuestInterface.rows := by
    rw [tableWords_ofList]
    decide +kernel
  have htable : Tabulates (interfaces.flatMap GuestInterface.rows) text := by
    rw [← hrows]
    exact tabulates_tableWords (by decide +kernel)
  have hread := (agentAddresses_attributed interfaces htable).1
  exact ⟨htable, hread.trans (by decide +kernel)⟩

/-- A loopback interface with a name of one word is: its second address goes to the interface above. -/
theorem agentAddresses_stray :
    let interfaces := [ethernet, loopback [] (by simp)]
    let text := join ['\n'] (reportLines "Loopback ipv6 ::1/-1".toList)
    Tabulates (interfaces.flatMap GuestInterface.rows) text ∧
      agentAddresses (String.ofList text)
        = interfaces.flatMap GuestInterface.own ++ [⟨"aa:bb:cc:dd:ee:ff", "ipv4", "127.0.0.1"⟩] := by
  intro interfaces text
  have hrows : tableWords (String.ofList text) = interfaces.flatMap GuestInterface.rows := by
    rw [tableWords_ofList]
    decide +kernel
  have htable : Tabulates (interfaces.flatMap GuestInterface.rows) text := by
    rw [← hrows]
    exact tabulates_tableWords (by decide +kernel)
  exact ⟨htable, (agentAddresses_of_tabulates htable).trans (by decide +kernel)⟩

end VirtHost.Listing
