import Mathlib.Logic.Relation
import VirtHost.Proofs.Pci.Outcome
import VirtHost.Proofs.Xml.Document
import VirtHost.Proofs.Xml.Position

/-! # Which devices a domain has

The devices of a domain are elements anywhere in it. Each is read from its first children; the first one that
cannot be read decides what is reported.

* `Node.FirstChild`, `Node.FirstAttr`: the first of a name, given by its place among the others.
* `HexField`, `Gives`, `AddressFault`: numbers and addresses in attributes, and what can be wrong with them.
* `PassthroughIs`, `PassthroughFault`, `MediatedIs`, `MediatedFault`: the same for devices.
* `Outcome`: what is found by reading all elements of a list.
* `Inserted`: one more element that has nothing to do with devices.
* `devices_outcome`: what is found in a domain.
-/

namespace VirtHost.Xml
set_option autoImplicit false

/-! ## The first of a name -/

/-- The first direct child with a name. -/
def Node.FirstChild (n : Node) (name : String) (child : Node) : Prop :=
  ∃ before behind, n.children = before ++ child :: behind ∧ child.name = name ∧ ∀ c ∈ before, c.name ≠ name

/-- The value of the first attribute with a name. -/
def Node.FirstAttr (n : Node) (key value : String) : Prop :=
  ∃ before behind, n.attributes = before ++ (key, value) :: behind ∧ ∀ a ∈ before, a.1 ≠ key

theorem Node.child?_eq_some_iff {n child : Node} {name : String} :
    n.child? name = some child ↔ n.FirstChild name child := by
  simp only [child?, List.find?_eq_some_iff_append, FirstChild, decide_eq_true_eq, Bool.not_eq_true',
    decide_eq_false_iff_not]
  constructor
  · rintro ⟨hname, before, behind, hchildren, hbefore⟩
    exact ⟨before, behind, hchildren, hname, hbefore⟩
  · rintro ⟨before, behind, hchildren, hname, hbefore⟩
    exact ⟨hname, before, behind, hchildren, hbefore⟩

theorem Node.attr?_eq_some_iff {n : Node} {key value : String} :
    n.attr? key = some value ↔ n.FirstAttr key value := by
  simp only [attr?, Option.map_eq_some_iff, List.find?_eq_some_iff_append, FirstAttr, decide_eq_true_eq,
    Bool.not_eq_true', decide_eq_false_iff_not]
  constructor
  · rintro ⟨⟨k, v⟩, ⟨rfl, before, behind, hattributes, hbefore⟩, rfl⟩
    exact ⟨before, behind, hattributes, hbefore⟩
  · rintro ⟨before, behind, hattributes, hbefore⟩
    exact ⟨(key, value), ⟨rfl, before, behind, hattributes, hbefore⟩, rfl⟩

namespace Domain
open Text
open Pci.Address (Part denotes_iff_part hexDigits ofHexFields ofNumerals?_eq_some_iff)

/-! ## Addresses -/

/-- A number in an attribute: a hexadecimal numeral between blanks, perhaps with its mark. -/
def HexField (n : Nat) (value : String) : Prop :=
  ∃ mark ∈ ["", "0x", "0X"], ∃ part, trim value.toList = mark.toList ++ part ∧ Part n part

/-- The numbers of an address in four attributes. -/
structure HexFields (a : Pci.Address) (domain bus slot function : String) : Prop where
  domain : HexField a.domain.toNat domain
  bus : HexField a.bus.toNat bus
  slot : HexField a.slot.toNat slot
  function : HexField a.function.toNat function

/-- The attributes that an address is made of. -/
structure Fields (e : Node) (domain bus slot function : String) : Prop where
  domain : e.FirstAttr "domain" domain
  bus : e.FirstAttr "bus" bus
  slot : e.FirstAttr "slot" slot
  function : e.FirstAttr "function" function

/-- One of these attributes is missing. -/
def LacksField (e : Node) : Prop :=
  ∃ key ∈ ["domain", "bus", "slot", "function"], ∀ value, ¬ e.FirstAttr key value

/-- The element at a place gives an address. -/
def Gives (Place : Node → Prop) (a : Pci.Address) : Prop :=
  ∃ e domain bus slot function, Place e ∧ Fields e domain bus slot function ∧
    HexFields a domain bus slot function

/-- What can be wrong with the address at a place: there is no element, one of its attributes is missing, or
its attributes hold no address. -/
inductive AddressFault (Place : Node → Prop) : Error → Prop
  | absent (h : ∀ e, ¬ Place e) : AddressFault Place (.notFound "PCI not found in xml!")
  | lacking {e : Node} (he : Place e) (h : LacksField e) :
      AddressFault Place (.notFound "PCI not found in xml!")
  | malformed {e : Node} {domain bus slot function : String} (he : Place e)
      (hfields : Fields e domain bus slot function) (h : ∀ a, ¬ HexFields a domain bus slot function) :
      AddressFault Place
        (.invalidPciAddress (domain ++ ":" ++ bus ++ ":" ++ slot ++ "." ++ function))

variable {a : Pci.Address} {domain bus slot function : String} {e : Node}

theorem denotes_hexDigits_iff {n : Nat} {value : String} :
    Denotes 16 n (hexDigits value.toList) ↔ HexField n value := by
  rw [denotes_iff_part, hexDigits]
  constructor
  · intro h
    split at h
    · rename_i digits htrim
      exact ⟨"0x", by simp, digits, htrim, h⟩
    · rename_i digits htrim
      exact ⟨"0X", by simp, digits, htrim, h⟩
    · exact ⟨"", by simp, _, rfl, h⟩
  · rintro ⟨mark, hmark, part, htrim, hpart⟩
    have hlower : 'x' ∉ part := (denotes_iff_part.2 hpart).notMem (by decide) (by decide)
    have hupper : 'X' ∉ part := (denotes_iff_part.2 hpart).notMem (by decide) (by decide)
    rw [htrim]
    simp only [List.mem_cons, List.not_mem_nil, or_false] at hmark
    rcases hmark with rfl | rfl | rfl
    · -- Without a mark the digits are not mistaken for one, since none of them is an `x`.
      rw [String.toList_empty, List.nil_append]
      split
      · simp at hlower
      · simp at hupper
      · exact hpart
    · exact hpart
    · exact hpart

theorem ofNumerals?_hexDigits_iff :
    Pci.Address.ofNumerals? (hexDigits domain.toList) (hexDigits bus.toList) (hexDigits slot.toList)
      (hexDigits function.toList) = some a ↔ HexFields a domain bus slot function := by
  simp only [ofNumerals?_eq_some_iff, denotes_hexDigits_iff]
  constructor
  · rintro ⟨hd, hb, hs, hf⟩
    exact ⟨hd, hb, hs, hf⟩
  · rintro ⟨hd, hb, hs, hf⟩
    exact ⟨hd, hb, hs, hf⟩

theorem settles_ofHexFields (domain bus slot function : String) :
    Settles (fun a => HexFields a domain bus slot function)
      (fun e => (∀ a, ¬ HexFields a domain bus slot function) ∧
        e = .invalidPciAddress (domain ++ ":" ++ bus ++ ":" ++ slot ++ "." ++ function))
      (ofHexFields domain bus slot function) := by
  refine .intro (fun a ha => ?_) (fun e he => ?_) ?_
  · rw [ofHexFields, ofNumerals?_hexDigits_iff.2 ha]
  · obtain ⟨hnone, rfl⟩ := he
    rw [ofHexFields, Option.eq_none_iff_forall_ne_some.2 fun a ha => hnone a (ofNumerals?_hexDigits_iff.1 ha)]
  · by_cases h : ∃ a, HexFields a domain bus slot function
    · exact .inl h
    · exact .inr ⟨_, not_exists.1 h, rfl⟩

theorem exists_fields_or_lacksField (e : Node) :
    (∃ domain bus slot function, Fields e domain bus slot function) ∨ LacksField e := by
  by_cases hlacks : LacksField e
  · exact .inr hlacks
  · have hfirst (key : String) (hkey : key ∈ ["domain", "bus", "slot", "function"]) :
        ∃ value, e.FirstAttr key value := by
      by_contra h
      exact hlacks ⟨key, hkey, not_exists.1 h⟩
    obtain ⟨domain, hdomain⟩ := hfirst "domain" (by simp)
    obtain ⟨bus, hbus⟩ := hfirst "bus" (by simp)
    obtain ⟨slot, hslot⟩ := hfirst "slot" (by simp)
    obtain ⟨function, hfunction⟩ := hfirst "function" (by simp)
    exact .inl ⟨domain, bus, slot, function, hdomain, hbus, hslot, hfunction⟩

theorem addressOf_of_fields (h : Fields e domain bus slot function) :
    addressOf (some e) = ofHexFields domain bus slot function := by
  simp only [addressOf, Node.attr?_eq_some_iff.2 h.domain, Node.attr?_eq_some_iff.2 h.bus,
    Node.attr?_eq_some_iff.2 h.slot, Node.attr?_eq_some_iff.2 h.function]

theorem addressOf_of_lacksField (h : LacksField e) : addressOf (some e) = .error addressMissing := by
  obtain ⟨key, hkey, hnone⟩ := h
  have hattr : e.attr? key = none :=
    Option.eq_none_iff_forall_ne_some.2 fun value hvalue => hnone value (Node.attr?_eq_some_iff.1 hvalue)
  rw [addressOf]
  split
  · rename_i domain bus slot function hdomain hbus hslot hfunction
    simp only [List.mem_cons, List.not_mem_nil, or_false] at hkey
    rcases hkey with rfl | rfl | rfl | rfl
    · cases hattr.symm.trans hdomain
    · cases hattr.symm.trans hbus
    · cases hattr.symm.trans hslot
    · cases hattr.symm.trans hfunction
  · rfl

/-- The address at a place is what the element there gives, and its errors are the faults of that element. -/
theorem settles_addressOf {Place : Node → Prop} {address : Option Node}
    (hplace : ∀ e, address = some e ↔ Place e) :
    Settles (Gives Place) (AddressFault Place) (addressOf address) := by
  refine .intro (fun a ha => ?_) (fun error herror => ?_) ?_
  · obtain ⟨e, domain, bus, slot, function, he, hfields, hhex⟩ := ha
    rw [(hplace e).2 he, addressOf_of_fields hfields]
    exact ((settles_ofHexFields domain bus slot function).ok_iff a).2 hhex
  · cases herror with
    | absent hnone =>
      rw [Option.eq_none_iff_forall_ne_some.2 fun e he => hnone e ((hplace e).1 he)]
      rfl
    | lacking he hlacks =>
      rw [(hplace _).2 he]
      exact addressOf_of_lacksField hlacks
    | @malformed e domain bus slot function he hfields hnone =>
      rw [(hplace e).2 he, addressOf_of_fields hfields]
      exact ((settles_ofHexFields domain bus slot function).error_iff _).2 ⟨hnone, rfl⟩
  · by_cases hsome : ∃ e, Place e
    · obtain ⟨e, he⟩ := hsome
      obtain ⟨domain, bus, slot, function, hfields⟩ | hlacks := exists_fields_or_lacksField e
      · obtain ⟨a, ha⟩ | ⟨_, hnone, -⟩ := (settles_ofHexFields domain bus slot function).reads_or_fails
        · exact .inl ⟨a, e, domain, bus, slot, function, he, hfields, ha⟩
        · exact .inr ⟨_, .malformed he hfields hnone⟩
      · exact .inr ⟨_, .lacking he hlacks⟩
    · exact .inr ⟨_, .absent (not_exists.1 hsome)⟩

/-! ## Devices -/

/-- A PCI device that is passed through. -/
def IsPassthrough (n : Node) : Prop :=
  n.name = "hostdev" ∧ n.FirstAttr "type" "pci" ∨ n.name = "interface" ∧ n.FirstAttr "type" "hostdev"

/-- A mediated device. -/
def IsMediated (n : Node) : Prop :=
  n.name = "hostdev" ∧ n.FirstAttr "type" "mdev"

/-- The place of the address in the guest. -/
def GuestPlace (device e : Node) : Prop :=
  device.FirstChild "address" e

/-- The place of the address in the host, or of the UUID. -/
def HostPlace (device e : Node) : Prop :=
  ∃ source, device.FirstChild "source" source ∧ source.FirstChild "address" e

/-- The two addresses of a device that is passed through. -/
structure PassthroughIs (device : Node) (found : Passthrough) : Prop where
  host : Gives (HostPlace device) found.host
  guest : Gives (GuestPlace device) found.guest

/-- What can be wrong with such a device: its address in the host, else that in the guest. -/
inductive PassthroughFault (device : Node) : Error → Prop
  | host {e : Error} (h : AddressFault (HostPlace device) e) : PassthroughFault device e
  | guest {a : Pci.Address} {e : Error} (ha : Gives (HostPlace device) a)
      (h : AddressFault (GuestPlace device) e) : PassthroughFault device e

/-- The UUID at the place of an address. -/
def HasUuid (device : Node) (uuid : String) : Prop :=
  ∃ e, HostPlace device e ∧ e.FirstAttr "uuid" uuid

/-- The UUID and the address of a mediated device. -/
structure MediatedIs (device : Node) (found : MediatedDevice.Attached) : Prop where
  uuid : HasUuid device found.uuid
  guest : Gives (GuestPlace device) found.guest

/-- What can be wrong with such a device: its UUID, else its address. -/
inductive MediatedFault (device : Node) : Error → Prop
  | uuid (h : ∀ uuid, ¬ HasUuid device uuid) :
      MediatedFault device (.notFound "Interface with MDEV does not contains UUID!")
  | guest {uuid : String} {e : Error} (ha : HasUuid device uuid) (h : AddressFault (GuestPlace device) e) :
      MediatedFault device e

theorem isPassthrough_iff {n : Node} : isPassthrough n = true ↔ IsPassthrough n := by
  simp [isPassthrough, IsPassthrough, Node.attr?_eq_some_iff]

theorem isMediated_iff {n : Node} : isMediated n = true ↔ IsMediated n := by
  simp [isMediated, IsMediated, Node.attr?_eq_some_iff]

/-- No element is a device of both kinds, since its first type is only one of them. -/
theorem not_isMediated_of_isPassthrough {n : Node} (h : IsPassthrough n) : ¬ IsMediated n := by
  rintro ⟨hname, htype⟩
  have hmdev := Node.attr?_eq_some_iff.2 htype
  rcases h with ⟨-, hpci⟩ | ⟨hinterface, -⟩
  · rw [Node.attr?_eq_some_iff.2 hpci] at hmdev
    exact absurd (Option.some.inj hmdev) (by decide)
  · rw [hname] at hinterface
    exact absurd hinterface (by decide)

theorem sourceAddress?_eq_some_iff {device : Node} : sourceAddress? device = some e ↔ HostPlace device e := by
  simp [sourceAddress?, HostPlace, Node.child?_eq_some_iff, Option.bind_eq_some_iff]

theorem settles_host (device : Node) : Settles (Gives (HostPlace device)) (AddressFault (HostPlace device))
    (addressOf (sourceAddress? device)) :=
  settles_addressOf fun _ => sourceAddress?_eq_some_iff

theorem settles_guest (device : Node) : Settles (Gives (GuestPlace device)) (AddressFault (GuestPlace device))
    (addressOf (device.child? "address")) :=
  settles_addressOf fun _ => Node.child?_eq_some_iff

theorem settles_passthroughOf (device : Node) :
    Settles (PassthroughIs device) (PassthroughFault device) (passthroughOf device) := by
  have hhost := settles_host device
  have hguest := settles_guest device
  refine .intro (fun found hfound => ?_) (fun e he => ?_) ?_
  · rw [passthroughOf, (hhost.ok_iff _).2 hfound.host, (hguest.ok_iff _).2 hfound.guest]
    rfl
  · cases he with
    | host h =>
      rw [passthroughOf, (hhost.error_iff _).2 h]
      rfl
    | guest ha h =>
      rw [passthroughOf, (hhost.ok_iff _).2 ha, (hguest.error_iff _).2 h]
      rfl
  · obtain ⟨host, ha⟩ | ⟨e, he⟩ := hhost.reads_or_fails
    · obtain ⟨guest, hb⟩ | ⟨e, he⟩ := hguest.reads_or_fails
      · exact .inl ⟨⟨host, guest⟩, ha, hb⟩
      · exact .inr ⟨e, .guest ha he⟩
    · exact .inr ⟨e, .host he⟩

theorem uuid_eq_some_iff {device : Node} {uuid : String} :
    (sourceAddress? device >>= (·.attr? "uuid")) = some uuid ↔ HasUuid device uuid := by
  simp [HasUuid, ← sourceAddress?_eq_some_iff, ← Node.attr?_eq_some_iff, Option.bind_eq_some_iff]

theorem settles_mediatedOf (device : Node) :
    Settles (MediatedIs device) (MediatedFault device) (mediatedOf device) := by
  have hguest := settles_guest device
  refine .intro (fun found hfound => ?_) (fun e he => ?_) ?_
  · rw [mediatedOf, uuid_eq_some_iff.2 hfound.uuid, (hguest.ok_iff _).2 hfound.guest]
    rfl
  · cases he with
    | uuid hnone =>
      rw [mediatedOf,
        Option.eq_none_iff_forall_ne_some.2 fun uuid huuid => hnone uuid (uuid_eq_some_iff.1 huuid)]
    | guest huuid h =>
      rw [mediatedOf, uuid_eq_some_iff.2 huuid, (hguest.error_iff _).2 h]
      rfl
  · by_cases hsome : ∃ uuid, HasUuid device uuid
    · obtain ⟨uuid, huuid⟩ := hsome
      obtain ⟨guest, hb⟩ | ⟨e, he⟩ := hguest.reads_or_fails
      · exact .inl ⟨⟨uuid, guest⟩, huuid, hb⟩
      · exact .inr ⟨e, .guest huuid he⟩
    · exact .inr ⟨_, .uuid (not_exists.1 hsome)⟩

/-! ## Elements that are no devices -/

/-- A device of either kind. -/
def IsDevice (n : Node) : Prop :=
  IsPassthrough n ∨ IsMediated n

/-- An element that is and contains no device has been put in somewhere outside all devices. -/
inductive Inserted : Node → Node → Prop
  | here {name : String} {attributes : List (String × String)} {before behind : List Node} {x : Node}
      (hx : ∀ p e, x.at? p = some e → ¬ IsDevice e)
      (houtside : ¬ IsDevice (.mk name attributes (before ++ behind))) :
      Inserted (.mk name attributes (before ++ behind)) (.mk name attributes (before ++ x :: behind))
  | inside {name : String} {attributes : List (String × String)} {before behind : List Node} {c d : Node}
      (hc : Inserted c d) (houtside : ¬ IsDevice (.mk name attributes (before ++ c :: behind))) :
      Inserted (.mk name attributes (before ++ c :: behind)) (.mk name attributes (before ++ d :: behind))

theorem filter_descendants {kind : Node → Bool} {name : String} {attributes : List (String × String)}
    {before behind : List Node} (h : kind (.mk name attributes (before ++ behind)) = false) :
    (Node.mk name attributes (before ++ behind)).descendants.filter kind
      = (Node.descendantsOfAll before).filter kind ++ (Node.descendantsOfAll behind).filter kind := by
  rw [Node.descendants, List.filter_cons_of_neg (Bool.eq_false_iff.1 h), Node.descendantsOfAll_append,
    List.filter_append]

/-- The devices are the same ones, for whether an element is one depends on its name and attributes. -/
theorem Inserted.filter_eq {n m : Node} (h : Inserted n m) {kind : Node → Bool}
    (hkind : ∀ e, kind e = true → IsDevice e) : m.descendants.filter kind = n.descendants.filter kind := by
  have hskip {e : Node} (he : ¬ IsDevice e) : kind e = false :=
    Bool.eq_false_iff.2 fun hk => he (hkind e hk)
  induction h with
  | @here name attributes before behind x hx houtside =>
    have hafter : ¬ IsDevice (.mk name attributes (before ++ x :: behind)) := houtside
    have hnone : x.descendants.filter kind = [] := by
      refine List.filter_eq_nil_iff.2 fun e he hk => ?_
      obtain ⟨p, hp⟩ := Node.mem_descendants_iff.1 he
      exact hx p e hp (hkind e hk)
    rw [filter_descendants (hskip hafter), filter_descendants (hskip houtside), Node.descendantsOfAll,
      List.filter_append, hnone, List.nil_append]
  | @inside name attributes before behind c d hc houtside ih =>
    have hafter : ¬ IsDevice (.mk name attributes (before ++ d :: behind)) := houtside
    rw [filter_descendants (hskip hafter), filter_descendants (hskip houtside), Node.descendantsOfAll,
      Node.descendantsOfAll, List.filter_append, List.filter_append, ih]

/-- Any number of such elements may come and go. -/
theorem filter_eq_of_eqvGen {n m : Node} (h : Relation.EqvGen Inserted n m) {kind : Node → Bool}
    (hkind : ∀ e, kind e = true → IsDevice e) : m.descendants.filter kind = n.descendants.filter kind := by
  induction h with
  | rel n m h => exact h.filter_eq hkind
  | refl n => rfl
  | symm n m _ ih => exact ih.symm
  | trans n m k _ _ ih ih' => exact ih'.trans ih

/-! ## Outcomes -/

/-- What is found by reading all elements of a list: nothing without elements, else what each of them is, or
what is wrong with the first one with which something is. -/
structure Outcome {α : Type} (elements : List Node) (missing : Error) (Reads : Node → α → Prop)
    (Fails : Node → Error → Prop) (result : Except Error (List α)) : Prop where
  ok_iff : ∀ found, result = .ok found ↔ elements ≠ [] ∧ List.Forall₂ Reads elements found
  exists_ok_iff : (∃ found, result = .ok found) ↔ elements ≠ [] ∧ ∀ e ∈ elements, ∃ a, Reads e a
  missing_iff : result = .error missing ↔ elements = []
  error_iff : elements ≠ [] → ∀ error, result = .error error ↔
    ∃ before e behind, elements = before ++ e :: behind ∧ (∀ b ∈ before, ∃ a, Reads b a) ∧ Fails e error

theorem outcome_mapM {α : Type} (elements : List Node) {missing : Error} {Reads : Node → α → Prop}
    {Fails : Node → Error → Prop} {read : Node → Except Error α}
    (hread : ∀ e, Settles (Reads e) (Fails e) (read e)) (hmissing : ∀ e, ¬ Fails e missing) :
    Outcome elements missing Reads Fails (match elements with
      | [] => .error missing
      | elements => elements.mapM read) := by
  cases elements with
  | nil =>
    refine ⟨fun found => ⟨nofun, fun h => absurd rfl h.1⟩, ⟨nofun, fun h => absurd rfl h.1⟩,
      ⟨fun _ => rfl, fun _ => rfl⟩, fun h => absurd rfl h⟩
  | cons first others =>
    have hne : first :: others ≠ [] := List.cons_ne_nil first others
    have hall : Settles _ _ ((first :: others).mapM read) := .mapM fun e _ => hread e
    refine ⟨fun found => (hall.ok_iff found).trans (and_iff_right hne).symm, ?_,
      ⟨fun h => ?_, fun h => absurd h hne⟩, fun _ => hall.error_iff⟩
    · rw [and_iff_right hne, ← exists_forall₂_iff]
      exact exists_congr hall.ok_iff
    · obtain ⟨before, e, behind, -, -, he⟩ := (hall.error_iff missing).1 h
      exact absurd he (hmissing e)

/-- A fault of an address is not taken for the lack of devices. -/
theorem AddressFault.ne_notFound {Place : Node → Prop} {text : String}
    (htext : text ≠ "PCI not found in xml!") : ¬ AddressFault Place (.notFound text) := by
  intro h
  generalize herror : Error.notFound text = error at h
  cases h with
  | absent h => exact htext (Error.notFound.inj herror)
  | lacking he h => exact htext (Error.notFound.inj herror)
  | malformed he hfields h => cases herror

theorem outcome_passthroughs (domain : Node) : Outcome (domain.descendants.filter isPassthrough)
    (.notFound "Interface with Host VF and VM VF not found in xml!") PassthroughIs PassthroughFault
    (passthroughs domain) := by
  refine outcome_mapM _ settles_passthroughOf fun device h => ?_
  cases h with
  | host h => exact AddressFault.ne_notFound (by decide) h
  | guest ha h => exact AddressFault.ne_notFound (by decide) h

theorem outcome_mediatedDevices (domain : Node) : Outcome (domain.descendants.filter isMediated)
    (.notFound "Interface with MDEV not found in xml!") MediatedIs MediatedFault (mediatedDevices domain) := by
  refine outcome_mapM _ settles_mediatedOf fun device h => ?_
  generalize herror : Error.notFound "Interface with MDEV not found in xml!" = error at h
  cases h with
  | uuid h => exact absurd (Error.notFound.inj herror) (by decide)
  | guest huuid h =>
    subst herror
    exact AddressFault.ne_notFound (by decide) h

/-- **The outcome of looking for devices.** The devices of a kind are found in document order, wherever they
are; if there are none, or one of them cannot be read, that is reported. No element is a device of both
kinds, and elements that have nothing to do with devices do not matter. -/
theorem devices_outcome (domain : Node) :
    ∃ passed mediated : List Node, domain.Lists IsPassthrough passed ∧ domain.Lists IsMediated mediated ∧
      (∀ e ∈ passed, e ∉ mediated) ∧
      Outcome passed (.notFound "Interface with Host VF and VM VF not found in xml!")
        PassthroughIs PassthroughFault (passthroughs domain) ∧
      Outcome mediated (.notFound "Interface with MDEV not found in xml!")
        MediatedIs MediatedFault (mediatedDevices domain) ∧
      ∀ other, Relation.EqvGen Inserted domain other →
        passthroughs other = passthroughs domain ∧ mediatedDevices other = mediatedDevices domain := by
  have hpassed := Node.lists_filter domain isPassthrough
  have hmediated := Node.lists_filter domain isMediated
  simp only [isPassthrough_iff] at hpassed
  simp only [isMediated_iff] at hmediated
  refine ⟨_, _, hpassed, hmediated, fun e he he' => ?_, outcome_passthroughs domain,
    outcome_mediatedDevices domain, fun other hother => ⟨?_, ?_⟩⟩
  · exact not_isMediated_of_isPassthrough (isPassthrough_iff.1 (List.mem_filter.1 he).2)
      (isMediated_iff.1 (List.mem_filter.1 he').2)
  · rw [passthroughs, filter_eq_of_eqvGen hother fun e he => .inl (isPassthrough_iff.1 he)]
    rfl
  · rw [mediatedDevices, filter_eq_of_eqvGen hother fun e he => .inr (isMediated_iff.1 he)]
    rfl

end Domain
end VirtHost.Xml
