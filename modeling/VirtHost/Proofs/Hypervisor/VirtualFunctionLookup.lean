import VirtHost.Proofs.Hypervisor.VirtualFunctionWrites
import VirtHost.Proofs.Listing.Links

/-! # Virtual functions by id and by address

* `Host.listing`: the reply of a host to a listing command; `Tells links reply`: it shows these links.
* `FirstAt`, `NoneAt`: which of some links has the slot and the function of an address.
* `run_idOf`, `run_addressOf`, `run_functionAddressesAt`: what comes of a lookup on a host.
* `idOf_eq_first`: an id is that of the first link with the slot and the function of the address.
* `address_eq_entry_iff`: an address asked for by id is the entry of a list of addresses exactly if it
  is on the domain and the bus of the physical function.
-/

namespace VirtHost
set_option autoImplicit false

/-- The reply of a host to a listing command, and the state after it. -/
def Host.listing {σ : Type} (host : Host σ) (s : σ) (command : String) :
    Except Error Host.Completion × σ :=
  host s (.execute command ({} : Host.Options).inShell)

namespace Hypervisor
open VirtualFunction (Link)
open Listing (Lists reported)

namespace PhysicalFunction

/-- The id of its virtual function at an address. -/
def idOf (pci : Pci.Address) : PhysicalFunction → Action Nat
  | interface name => idOfFunction name pci
  | address pf => idOfFunctionAt pf pci

/-- The address of its virtual function with an id. -/
def addressOf (id : Nat) : PhysicalFunction → Action Pci.Address
  | interface name => addressOfFunction name id
  | address pf => addressOfFunctionAt pf id

/-- How it is said that none of its virtual functions is at an address. -/
def notMatched : PhysicalFunction → String
  | interface name => "Not matched VFs for interface " ++ name ++ "."
  | address pf => "Not matched VFs for PF PCI Address " ++ pf.text

theorem idOf_eq (f : PhysicalFunction) (pci : Pci.Address) :
    f.idOf pci = functionId f.directory f.notMatched pci := by
  cases f <;> rfl

theorem addressOf_eq (f : PhysicalFunction) (id : Nat) :
    ∃ owner, f.addressOf id = functionAddress f.directory owner id := by
  cases f with
  | interface name => exact ⟨"interface " ++ name, rfl⟩
  | address pf => exact ⟨"PF PCI Address " ++ pf.text, rfl⟩

end PhysicalFunction

/-! ## Links at an address -/

/-- Two addresses have the same slot and the same function. -/
def SameSlot (p q : Pci.Address) : Prop :=
  p.slot = q.slot ∧ p.function = q.function

instance (p q : Pci.Address) : Decidable (SameSlot p q) :=
  inferInstanceAs (Decidable (_ ∧ _))

/-- The first of some links whose target has the slot and the function of an address. -/
def FirstAt (links : List Link) (pci : Pci.Address) (link : Link) : Prop :=
  SameSlot link.target pci ∧ ∃ before after, links = before ++ link :: after ∧
    ∀ earlier ∈ before, ¬ SameSlot earlier.target pci

/-- No target of some links has the slot and the function of an address. -/
def NoneAt (links : List Link) (pci : Pci.Address) : Prop :=
  ∀ link ∈ links, ¬ SameSlot link.target pci

section
variable {links : List Link} {pci : Pci.Address} {link : Link}

/-- The link that a lookup takes. -/
def lookup? (links : List Link) (pci : Pci.Address) : Option Link :=
  links.find? fun link => SameSlot link.target pci

theorem lookup?_eq_some_iff : lookup? links pci = some link ↔ FirstAt links pci link := by
  rw [lookup?, List.find?_eq_some_iff_append]
  simp [FirstAt]

theorem lookup?_eq_none_iff : lookup? links pci = none ↔ NoneAt links pci := by
  simp [lookup?, NoneAt]

/-- What links are read as makes no difference to a lookup. -/
theorem lookup?_reported (links : List Link) (pci : Pci.Address) :
    lookup? (links.map reported) pci = (lookup? links pci).map reported :=
  List.find?_map

/-- Links that differ in slot or function are each the first one at their target. -/
theorem firstAt_target (h : links.Pairwise fun l m => ¬ SameSlot l.target m.target)
    (hlink : link ∈ links) : FirstAt links link.target link := by
  obtain ⟨before, after, rfl⟩ := List.append_of_mem hlink
  refine ⟨⟨rfl, rfl⟩, before, after, rfl, ?_⟩
  intro earlier hearlier
  exact (List.pairwise_append.1 h).2.2 earlier hearlier link List.mem_cons_self

/-- Different targets on one bus differ in slot or function. -/
theorem pairwise_of_oneBus {domain : UInt32} {bus : UInt8} (hnodup : (links.map Link.target).Nodup)
    (hbus : ∀ link ∈ links, link.target.domain = domain ∧ link.target.bus = bus) :
    links.Pairwise fun l m => ¬ SameSlot l.target m.target := by
  have hpairwise : links.Pairwise fun l m => l.target ≠ m.target := List.pairwise_map.1 hnodup
  apply hpairwise.imp_of_mem
  intro l m hl hm hne hsame
  obtain ⟨hdomain, hbusl⟩ := hbus l hl
  obtain ⟨hdomain', hbusm⟩ := hbus m hm
  apply hne
  rcases hltarget : l.target with ⟨d, b, s, f⟩
  rcases hmtarget : m.target with ⟨d', b', s', f'⟩
  simp_all [SameSlot]

end

/-! ## Lookups on a host -/

/-- The reply of a listing command shows some links. -/
def Tells (links : List Link) (reply : Except Error Host.Completion) : Prop :=
  ∃ c, reply = .ok c ∧ c.code = 0 ∧ Lists links c.stdout.toList

section
variable {links : List Link} {σ : Type} {host : Host σ} {s : σ} (rounds : Nat)

theorem run_linksOf_of_ok {command : String} {c : Host.Completion} {found : List Link}
    (hreply : (host.listing s command).1 = .ok c) (hcode : c.code = 0)
    (hfound : Listing.virtualFunctionLinks c.stdout = .ok found) :
    (linksOf command).attempt.run host rounds s = some (.ok found, (host.listing s command).2) := by
  have houtcome : ({} : Host.Options).inShell.outcome (host.listing s command).1 = .ok c :=
    (Host.Options.outcome_eq_ok_iff rfl).2 ⟨hreply, hcode⟩
  have hexecute : (Host.execute command ({} : Host.Options).inShell).attempt.run host rounds s =
      some (.ok c, (host.listing s command).2) := by
    rw [← houtcome]
    exact Action.run_execute
  rw [linksOf, Action.run_bind_of_ok hexecute, hfound]
  rfl

theorem run_linksOf {command : String} (h : Tells links (host.listing s command).1) :
    (linksOf command).attempt.run host rounds s =
      some (.ok (links.map reported), (host.listing s command).2) := by
  obtain ⟨c, hreply, hcode, hlists⟩ := h
  exact run_linksOf_of_ok rounds hreply hcode (Listing.virtualFunctionLinks_eq_reported hlists)

/-- A lookup gives the id of the first link with the slot and the function of the address. -/
theorem run_idOf (f : PhysicalFunction) (pci : Pci.Address)
    (h : Tells links (host.listing s (Command.listVirtualFunctions f.directory)).1) :
    (f.idOf pci).attempt.run host rounds s =
      some (((lookup? links pci).map Link.id).elim (.error (.virtualFunction f.notMatched)) .ok,
        (host.listing s (Command.listVirtualFunctions f.directory)).2) := by
  have hlookup : ((links.map reported).find? fun link =>
      decide (link.target.slot = pci.slot ∧ link.target.function = pci.function)) =
      (lookup? links pci).map reported := lookup?_reported links pci
  rw [f.idOf_eq, functionId, Action.run_bind, run_linksOf rounds h]
  simp only [Option.bind_some, hlookup]
  cases lookup? links pci <;> rfl

/-- The address of a virtual function is read from its own link. -/
theorem run_addressOf (f : PhysicalFunction) {link : Link}
    (h : Tells [link] (host.listing s (Command.listVirtualFunction f.directory link.id)).1) :
    (f.addressOf link.id).attempt.run host rounds s = some (.ok (reported link).target,
      (host.listing s (Command.listVirtualFunction f.directory link.id)).2) := by
  obtain ⟨owner, howner⟩ := f.addressOf_eq link.id
  rw [howner, functionAddress, Action.run_bind, run_linksOf rounds h]
  rfl

/-- The entry of a link in a list of addresses, which is on the domain and the bus of the physical
function. -/
def entryOf (pf : Pci.Address) (link : Link) : Pci.Address :=
  { pf with slot := link.target.slot, function := link.target.function }

theorem run_functionAddressesAt (pf : Pci.Address)
    (h : Tells links (host.listing s (Command.listVirtualFunctions (Command.deviceDirectory pf))).1) :
    (functionAddressesAt pf).attempt.run host rounds s =
      some (.ok (links.map (entryOf pf)),
        (host.listing s (Command.listVirtualFunctions (Command.deviceDirectory pf))).2) := by
  have hentries : (links.map reported).map (entryOf pf) = links.map (entryOf pf) := by
    rw [List.map_map]
    rfl
  rw [functionAddressesAt, Action.run_bind, run_linksOf rounds h, ← hentries]
  rfl

end

/-! ## Ids by address -/

/-- **Ids by address.** The id that is found is that of the first link with the slot and the function
of the address, and there is an error if no link has them. So a link that is the first one at its own
target is found again by the address that its id gives; if the targets are distinct and on one bus, all
links are. -/
theorem idOf_eq_first (f : PhysicalFunction) (links : List Link) {σ : Type} (host : Host σ) (s : σ)
    (rounds : Nat)
    (htells : Tells links (host.listing s (Command.listVirtualFunctions f.directory)).1) :
    let after := (host.listing s (Command.listVirtualFunctions f.directory)).2
    (∀ pci link, FirstAt links pci link →
      (f.idOf pci).attempt.run host rounds s = some (.ok link.id, after)) ∧
    (∀ pci, NoneAt links pci → (f.idOf pci).attempt.run host rounds s =
      some (.error (.virtualFunction f.notMatched), after)) ∧
    (∀ link, FirstAt links link.target link → ∀ before,
      Tells [link] (host.listing before (Command.listVirtualFunction f.directory link.id)).1 →
      ∃ pci between, (f.addressOf link.id).attempt.run host rounds before = some (.ok pci, between) ∧
        (f.idOf pci).attempt.run host rounds s = some (.ok link.id, after)) ∧
    ∀ domain bus, (links.map Link.target).Nodup →
      (∀ link ∈ links, link.target.domain = domain ∧ link.target.bus = bus) →
      ∀ link ∈ links, FirstAt links link.target link := by
  intro after
  have hfirst (pci : Pci.Address) (link : Link) (h : FirstAt links pci link) :
      (f.idOf pci).attempt.run host rounds s = some (.ok link.id, after) := by
    rw [run_idOf rounds f pci htells, lookup?_eq_some_iff.2 h]
    rfl
  refine ⟨hfirst, fun pci h => ?_, fun link h before hown => ?_, fun domain bus hnodup hbus => ?_⟩
  · rw [run_idOf rounds f pci htells, lookup?_eq_none_iff.2 h]
    rfl
  · have hsame (p : Pci.Address) :
        SameSlot p (reported link).target ↔ SameSlot p link.target := Iff.rfl
    refine ⟨_, _, run_addressOf rounds f hown, hfirst _ link ?_⟩
    simpa [FirstAt, hsame] using h
  · intro link hlink
    exact firstAt_target (pairwise_of_oneBus hnodup hbus) hlink

/-- What stands before each link of a listing. -/
def linkColumns : List Char :=
  "lrwxrwxrwx 1 root root 0 Jan 27 13:53 /sys/class/net/eth2/device/".toList

/-- A host that answers every command by a listing of the links that are its state. -/
def showing : Host (List Link) := fun links request =>
  match request with
  | .execute _ _ => (Host.printed (String.ofList (Listing.linkLines linkColumns links)), links)
  | request => (Host.anyReply request, links)

theorem tells_showing {links : List Link} (hid : ∀ link ∈ links, link.id ≤ Text.limit32)
    (command : String) : Tells links (showing.listing links command).1 := by
  have hcolumns : ¬ Listing.linkName <:+: linkColumns := by
    decide +kernel
  refine ⟨_, rfl, rfl, ?_⟩
  rw [String.toList_ofList]
  exact Listing.lists_linkLines hcolumns hid

/-- Three links, the last of which leads to another bus. -/
def twoBuses : List Link :=
  [⟨0, ⟨0, 0x18, 0x10, 1⟩⟩, ⟨1, ⟨0, 0x18, 0x10, 3⟩⟩, ⟨9, ⟨0, 0x19, 0, 1⟩⟩]

theorem idOf_eq_first_twoBuses :
    let f := PhysicalFunction.interface "eth2"
    let last : Link := ⟨9, ⟨0, 0x19, 0, 1⟩⟩
    Tells twoBuses (showing.listing twoBuses (Command.listVirtualFunctions f.directory)).1 ∧
      (f.idOf last.target).attempt.run showing 0 twoBuses = some (.ok 9, twoBuses) ∧
      (f.idOf ⟨0, 0x19, 0, 2⟩).attempt.run showing 0 twoBuses =
        some (.error (.virtualFunction "Not matched VFs for interface eth2."), twoBuses) ∧
      ∃ pci between, (f.addressOf 9).attempt.run showing 0 [last] = some (.ok pci, between) ∧
        (f.idOf pci).attempt.run showing 0 twoBuses = some (.ok 9, twoBuses) := by
  intro f last
  have hid : ∀ link ∈ twoBuses, link.id ≤ Text.limit32 := by
    decide
  have htells := tells_showing hid (Command.listVirtualFunctions f.directory)
  have hown : Tells [last] (showing.listing [last] (Command.listVirtualFunction f.directory 9)).1 :=
    tells_showing (by decide) _
  have hlast : FirstAt twoBuses last.target last := lookup?_eq_some_iff.1 (by decide)
  have hnone : NoneAt twoBuses ⟨0, 0x19, 0, 2⟩ := lookup?_eq_none_iff.1 (by decide)
  obtain ⟨hfirst, hmissing, hback, -⟩ := idOf_eq_first f twoBuses showing twoBuses 0 htells
  exact ⟨htells, hfirst _ last hlast, hmissing _ hnone, hback last hlast [last] hown⟩

/-- Two links whose targets have the same slot and the same function on different buses. -/
def sameSlots : List Link :=
  [⟨0, ⟨0, 0x18, 0, 1⟩⟩, ⟨1, ⟨0, 0x19, 0, 1⟩⟩]

/-- The first of two links is found at the target of the second one, and at an address that is the
target of neither. -/
theorem idOf_sameSlots :
    let eth2 := PhysicalFunction.interface "eth2"
    let pf := PhysicalFunction.address ⟨0, 0x18, 0, 0⟩
    (Tells sameSlots (showing.listing sameSlots (Command.listVirtualFunctions eth2.directory)).1 ∧
      Tells sameSlots (showing.listing sameSlots (Command.listVirtualFunctions pf.directory)).1) ∧
    (sameSlots.map Link.id).Nodup ∧ (sameSlots.map Link.target).Nodup ∧
    (⟨1, ⟨0, 0x19, 0, 1⟩⟩ ∈ sameSlots ∧
      (eth2.idOf ⟨0, 0x19, 0, 1⟩).attempt.run showing 0 sameSlots = some (.ok 0, sameSlots) ∧
      (pf.idOf ⟨0, 0x19, 0, 1⟩).attempt.run showing 0 sameSlots = some (.ok 0, sameSlots)) ∧
    (⟨0, 0x1a, 0, 1⟩ ∉ sameSlots.map Link.target ∧
      (eth2.idOf ⟨0, 0x1a, 0, 1⟩).attempt.run showing 0 sameSlots = some (.ok 0, sameSlots) ∧
      (pf.idOf ⟨0, 0x1a, 0, 1⟩).attempt.run showing 0 sameSlots = some (.ok 0, sameSlots)) := by
  intro eth2 pf
  have hid : ∀ link ∈ sameSlots, link.id ≤ Text.limit32 := by
    decide
  have htells := tells_showing hid
  have hrun (f : PhysicalFunction) (pci : Pci.Address)
      (hpci : (lookup? sameSlots pci).map Link.id = some 0) :
      (f.idOf pci).attempt.run showing 0 sameSlots = some (.ok 0, sameSlots) := by
    rw [run_idOf 0 f pci (htells _), hpci]
    rfl
  have hsecond : (lookup? sameSlots ⟨0, 0x19, 0, 1⟩).map Link.id = some 0 := by
    decide
  have hneither : (lookup? sameSlots ⟨0, 0x1a, 0, 1⟩).map Link.id = some 0 := by
    decide
  exact ⟨⟨htells _, htells _⟩, by decide, by decide,
    ⟨by decide, hrun eth2 _ hsecond, hrun pf _ hsecond⟩,
    ⟨by decide, hrun eth2 _ hneither, hrun pf _ hneither⟩⟩

/-! ## Addresses by id and in a list -/

/-- **Addresses by id and in a list.** An address that is asked for by id is the target of the link, on
its bus and, but for more than four digits, in its domain: of these the last four are told. The entry of
the link in the list of all addresses has the same slot and function, but is always on the domain and the
bus of the physical function; so the two are equal exactly if the address that is told is on these. -/
theorem address_eq_entry_iff (pf : Pci.Address) (links : List Link) {k : Nat} {link : Link}
    (hlink : links[k]? = some link) {σ : Type} (host : Host σ) (s s' : σ) (rounds : Nat)
    (hone : Tells [link]
      (host.listing s (Command.listVirtualFunction (Command.deviceDirectory pf) link.id)).1)
    (hall : Tells links
      (host.listing s' (Command.listVirtualFunctions (Command.deviceDirectory pf))).1) :
    ∃ pci entries entry,
      (addressOfFunctionAt pf link.id).attempt.run host rounds s = some (.ok pci,
        (host.listing s (Command.listVirtualFunction (Command.deviceDirectory pf) link.id)).2) ∧
      (functionAddressesAt pf).attempt.run host rounds s' = some (.ok entries,
        (host.listing s' (Command.listVirtualFunctions (Command.deviceDirectory pf))).2) ∧
      entries.length = links.length ∧ entries[k]? = some entry ∧
      SameSlot pci link.target ∧ SameSlot entry link.target ∧
      entry.domain = pf.domain ∧ entry.bus = pf.bus ∧
      pci.bus = link.target.bus ∧ pci.domain.toNat = link.target.domain.toNat % 0x10000 ∧
      (pci = link.target ↔ link.target.domain.toNat ≤ 0xffff) ∧
      (pci = entry ↔
        link.target.domain.toNat % 0x10000 = pf.domain.toNat ∧ link.target.bus = pf.bus) ∧
      (link.target.domain.toNat ≤ 0xffff → pci = link.target ∧
        (pci = entry ↔ link.target.domain = pf.domain ∧ link.target.bus = pf.bus)) := by
  have hentry : (links.map (entryOf pf))[k]? = some (entryOf pf link) := by
    rw [List.getElem?_map, hlink]
    rfl
  have hself : (reported link).target = link.target ↔ link.target.domain.toNat ≤ 0xffff := by
    rw [← Listing.reported_eq_iff]
    rcases link with ⟨id, target⟩
    simp [reported]
  have hequal : (reported link).target = entryOf pf link ↔
      (reported link).target.domain = pf.domain ∧ link.target.bus = pf.bus := by
    simp [reported, entryOf]
  refine ⟨_, _, entryOf pf link, run_addressOf rounds (.address pf) hone,
    run_functionAddressesAt rounds pf hall, List.length_map _, hentry, ⟨rfl, rfl⟩, ⟨rfl, rfl⟩, rfl, rfl,
    rfl, Listing.toNat_reported_domain link, hself, ?_, fun hdomain => ?_⟩
  · rw [hequal, ← UInt32.toNat_inj, Listing.toNat_reported_domain]
  · have htarget := hself.2 hdomain
    rw [htarget] at hequal ⊢
    exact ⟨rfl, hequal⟩

theorem address_eq_entry_iff_oneBus :
    let pf : Pci.Address := ⟨0, 0x5e, 0, 0⟩
    let links : List Link := [⟨0, ⟨0, 0x5e, 2, 0⟩⟩, ⟨25, ⟨0, 0x5e, 0xa, 0x19⟩⟩]
    let last : Link := ⟨25, ⟨0, 0x5e, 0xa, 0x19⟩⟩
    links[1]? = some last ∧
    Tells [last] (showing.listing [last]
      (Command.listVirtualFunction (Command.deviceDirectory pf) 25)).1 ∧
    Tells links (showing.listing links
      (Command.listVirtualFunctions (Command.deviceDirectory pf))).1 ∧
    ∃ pci entries, (addressOfFunctionAt pf 25).attempt.run showing 0 [last] = some (.ok pci, [last]) ∧
      (functionAddressesAt pf).attempt.run showing 0 links = some (.ok entries, links) ∧
      entries[1]? = some pci := by
  intro pf links last
  have hid : ∀ link ∈ links, link.id ≤ Text.limit32 := by
    decide
  have hone : Tells [last] (showing.listing [last]
      (Command.listVirtualFunction (Command.deviceDirectory pf) 25)).1 :=
    tells_showing (by decide) _
  have hall := tells_showing hid (Command.listVirtualFunctions (Command.deviceDirectory pf))
  have hlast : links[1]? = some last := rfl
  obtain ⟨pci, entries, entry, hpci, hentries, -, hentry, -, -, -, -, -, -, -, -, hiff⟩ :=
    address_eq_entry_iff pf links hlast showing [last] links 0 hone hall
  obtain ⟨-, hequal⟩ := hiff (by decide)
  obtain rfl := hequal.2 ⟨rfl, rfl⟩
  exact ⟨hlast, hone, hall, pci, entries, hpci, hentries, hentry⟩

/-- A virtual function on the bus after that of its physical function: its address by id, and another
one in the list. -/
theorem address_ne_entry :
    let pf : Pci.Address := ⟨0, 0x18, 0, 0⟩
    let links : List Link := [⟨0, ⟨0, 0x19, 0, 1⟩⟩]
    Tells links (showing.listing links
      (Command.listVirtualFunction (Command.deviceDirectory pf) 0)).1 ∧
    Tells links (showing.listing links
      (Command.listVirtualFunctions (Command.deviceDirectory pf))).1 ∧
    (addressOfFunctionAt pf 0).attempt.run showing 0 links = some (.ok ⟨0, 0x19, 0, 1⟩, links) ∧
    (functionAddressesAt pf).attempt.run showing 0 links = some (.ok [⟨0, 0x18, 0, 1⟩], links) := by
  intro pf links
  have hid : ∀ link ∈ links, link.id ≤ Text.limit32 := by
    decide
  have htells := tells_showing hid
  have hone : Tells [⟨0, ⟨0, 0x19, 0, 1⟩⟩] (showing.listing links
      (Command.listVirtualFunction (Command.deviceDirectory pf) 0)).1 := htells _
  have htarget : (reported ⟨0, ⟨0, 0x19, 0, 1⟩⟩).target = ⟨0, 0x19, 0, 1⟩ := by decide
  have hrun := run_addressOf 0 (.address pf) hone
  rw [htarget] at hrun
  exact ⟨hone, htells _, hrun, run_functionAddressesAt 0 pf (htells _)⟩

end Hypervisor
end VirtHost
