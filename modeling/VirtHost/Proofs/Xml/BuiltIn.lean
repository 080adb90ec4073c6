import VirtHost.Proofs.Pci
import VirtHost.Proofs.Xml.Mark
import VirtHost.Xml.Domain

/-! # The XML of devices

What the built-in templates say, once they are filled: the device that was asked for, with the numbers
that were given.

* `functionRows`, `controllerRows`: the tags of the templates.
* `parse_virtualFunction`, `parse_controller`: the elements that are read.
* `builtIn_devices`: their addresses and numbers.
-/

namespace VirtHost.Xml
open Template (Piece)
open Pci.Address (hexValue)
set_option autoImplicit false

/-! ## Templates -/

/-- The attributes of an address in a template. -/
def addressAttributes : List (String × Piece) :=
  [("domain", .hole "domain"), ("bus", .hole "bus"), ("slot", .hole "slot"), ("function", .hole "func")]

/-- The template of a virtual function. -/
def functionRows : List (String × Mark Piece) :=
  [("", .opening "hostdev"
      [("mode", .plain "subsystem"), ("type", .plain "pci"), ("managed", .plain "yes")]),
    ("\n  ", .opening "source" []),
    ("\n    ", .single "address" addressAttributes),
    ("\n  ", .closing "source"),
    ("\n", .closing "hostdev")]

/-- The template of a controller. -/
def controllerRows : List (String × Mark Piece) :=
  [("", .opening "controller"
      [("type", .plain "pci"), ("index", .hole "index"), ("model", .plain "pcie-root-port")]),
    ("\n  ", .single "model" [("name", .plain "pcie-root-port")]),
    ("\n  ", .single "target" [("chassis", .hole "chassis"), ("port", .hole "port")]),
    ("\n  ", .single "address" (("type", .plain "pci") :: addressAttributes)),
    ("\n", .closing "controller")]

set_option maxRecDepth 10000 in
theorem builtIn_virtualFunction :
    Template.builtIn .virtualFunction
      = String.ofList (Template.spell (rowPieces functionRows ++ [Piece.plain "\n"])) :=
  rfl

set_option maxRecDepth 10000 in
theorem builtIn_controller :
    Template.builtIn .controller
      = String.ofList (Template.spell (rowPieces controllerRows ++ [Piece.plain "\n"])) :=
  rfl

/-! ## Values -/

theorem noBrace_hexValue (n : Nat) : Template.NoBrace (hexValue n) := fun hmem =>
  Pci.Address.forall_mem_hexValue (p := fun c => c ≠ '\x7b') (by decide) (by decide) n _ hmem rfl

theorem plainValue_hexValue (n : Nat) : Mark.PlainValue (hexValue n) :=
  ⟨fun hmem => Pci.Address.forall_mem_hexValue (p := fun c => c ≠ '\'') (by decide) (by decide) n _ hmem rfl,
    fun hmem => Pci.Address.forall_mem_hexValue (p := fun c => c ≠ '&') (by decide) (by decide) n _ hmem rfl⟩

theorem ne_of_mem_decimal {n : Nat} {c d : Char} (hc : c ∈ (Text.decimal n).toList)
    (hd : ∀ k < 10, Text.digitChar k ≠ d) : c ≠ d := by
  rw [Text.decimal, String.toList_ofList] at hc
  exact Text.forall_mem_digitsOf (p := fun c => c ≠ d) (by decide) hd n c hc

theorem noBrace_decimal (n : Nat) : Template.NoBrace (Text.decimal n) := fun hmem =>
  ne_of_mem_decimal hmem (by decide) rfl

theorem plainValue_decimal (n : Nat) : Mark.PlainValue (Text.decimal n) :=
  ⟨fun hmem => ne_of_mem_decimal hmem (by decide) rfl,
    fun hmem => ne_of_mem_decimal hmem (by decide) rfl⟩

/-- The values of a controller, and so those of an address, can be filled in. -/
theorem controllerValues_clean (pci : Pci.Address) (index chassis port : Nat) :
    ∀ v ∈ Template.controllerValues pci index chassis port,
      Template.BareKey v.1 ∧ Template.NoBrace v.2 := by
  intro v hv
  simp only [Template.controllerValues, Pci.Address.values, List.cons_append, List.nil_append,
    List.mem_cons, List.not_mem_nil, or_false] at hv
  have hkeys : ∀ key ∈ ["domain", "bus", "slot", "func", "index", "chassis", "port"],
      Template.BareKey key := by decide
  rcases hv with rfl | rfl | rfl | rfl | rfl | rfl | rfl
  · exact ⟨hkeys _ (by simp), noBrace_hexValue _⟩
  · exact ⟨hkeys _ (by simp), noBrace_hexValue _⟩
  · exact ⟨hkeys _ (by simp), noBrace_hexValue _⟩
  · exact ⟨hkeys _ (by simp), noBrace_hexValue _⟩
  · exact ⟨hkeys _ (by simp), noBrace_decimal _⟩
  · exact ⟨hkeys _ (by simp), noBrace_decimal _⟩
  · exact ⟨hkeys _ (by simp), noBrace_hexValue _⟩

theorem values_clean (pci : Pci.Address) :
    ∀ v ∈ pci.values, Template.BareKey v.1 ∧ Template.NoBrace v.2 := fun v hv =>
  controllerValues_clean pci 0 0 0 v (List.mem_append_left _ hv)

/-! ## Filled templates -/

/-- The address element of an address. -/
def addressNode (kind : List (String × String)) (pci : Pci.Address) : Node :=
  .mk "address" (kind ++ [("domain", hexValue pci.domain.toNat), ("bus", hexValue pci.bus.toNat),
    ("slot", hexValue pci.slot.toNat), ("function", hexValue pci.function.toNat)]) []

/-- The element of a virtual function. -/
def functionNode (pci : Pci.Address) : Node :=
  .mk "hostdev" [("mode", "subsystem"), ("type", "pci"), ("managed", "yes")]
    [.mk "source" [] [addressNode [] pci]]

/-- The element of a controller. -/
def controllerNode (pci : Pci.Address) (index chassis port : Nat) : Node :=
  .mk "controller" [("type", "pci"), ("index", Text.decimal index), ("model", "pcie-root-port")]
    [.mk "model" [("name", "pcie-root-port")] [],
      .mk "target" [("chassis", Text.decimal chassis), ("port", hexValue port)] [],
      addressNode [("type", "pci")] pci]

/-- Attributes are plain if their names are, which do not depend on any value, and their values. -/
theorem plainAttributes_of (keys : List String) {attributes : List (String × String)}
    (hkeys : attributes.map (·.1) = keys) (hnames : ∀ key ∈ keys, IsName key) (hnodup : keys.Nodup)
    (hvalues : ∀ a ∈ attributes, Mark.PlainValue a.2) : Mark.PlainAttributes attributes where
  names a ha := hnames a.1 (hkeys ▸ List.mem_map_of_mem ha)
  values := hvalues
  nodup := hkeys ▸ hnodup

theorem plainAttributes_address (pci : Pci.Address) :
    Mark.PlainAttributes (addressNode [] pci).attributes :=
  plainAttributes_of ["domain", "bus", "slot", "function"] rfl (by decide) (by decide)
    (by simp [addressNode, Node.attributes, plainValue_hexValue])

/-- The tags of the filled template of a virtual function. -/
def functionMarks (pci : Pci.Address) : List (Mark String) :=
  [.opening "hostdev" [("mode", "subsystem"), ("type", "pci"), ("managed", "yes")],
    .opening "source" [], .single "address" (addressNode [] pci).attributes, .closing "source",
    .closing "hostdev"]

def controllerMarks (pci : Pci.Address) (index chassis port : Nat) : List (Mark String) :=
  [.opening "controller"
      [("type", "pci"), ("index", Text.decimal index), ("model", "pcie-root-port")],
    .single "model" [("name", "pcie-root-port")],
    .single "target" [("chassis", Text.decimal chassis), ("port", hexValue port)],
    .single "address" (addressNode [("type", "pci")] pci).attributes,
    .closing "controller"]

theorem filled_plain (values : List (String × String)) (text : String) :
    filled values (.plain text) = text := by
  rw [filled, fill_plain]
  exact String.ofList_toList

theorem filled_hole {values : List (String × String)} {key value : String}
    (h : (Piece.hole key).fill values = .plain value) : filled values (.hole key) = value := by
  rw [filled, h]
  exact String.ofList_toList

theorem filled_functionRows (pci : Pci.Address) :
    functionRows.map (fun row => row.2.map (filled pci.values)) = functionMarks pci := by
  have hdomain : filled pci.values (.hole "domain") = hexValue pci.domain.toNat := filled_hole rfl
  have hbus : filled pci.values (.hole "bus") = hexValue pci.bus.toNat := filled_hole rfl
  have hslot : filled pci.values (.hole "slot") = hexValue pci.slot.toNat := filled_hole rfl
  have hfunction : filled pci.values (.hole "func") = hexValue pci.function.toNat := filled_hole rfl
  simp [functionRows, functionMarks, addressAttributes, addressNode, Node.attributes, Mark.map,
    filled_plain, hdomain, hbus, hslot, hfunction]

theorem filled_controllerRows (pci : Pci.Address) (index chassis port : Nat) :
    controllerRows.map
        (fun row => row.2.map (filled (Template.controllerValues pci index chassis port)))
      = controllerMarks pci index chassis port := by
  have hdomain : filled (Template.controllerValues pci index chassis port) (.hole "domain")
      = hexValue pci.domain.toNat := filled_hole rfl
  have hbus : filled (Template.controllerValues pci index chassis port) (.hole "bus")
      = hexValue pci.bus.toNat := filled_hole rfl
  have hslot : filled (Template.controllerValues pci index chassis port) (.hole "slot")
      = hexValue pci.slot.toNat := filled_hole rfl
  have hfunction : filled (Template.controllerValues pci index chassis port) (.hole "func")
      = hexValue pci.function.toNat := filled_hole rfl
  have hindex : filled (Template.controllerValues pci index chassis port) (.hole "index")
      = Text.decimal index := filled_hole rfl
  have hchassis : filled (Template.controllerValues pci index chassis port) (.hole "chassis")
      = Text.decimal chassis := filled_hole rfl
  have hport : filled (Template.controllerValues pci index chassis port) (.hole "port")
      = hexValue port := filled_hole rfl
  simp [controllerRows, controllerMarks, addressAttributes, addressNode, Node.attributes, Mark.map,
    filled_plain, hdomain, hbus, hslot, hfunction, hindex, hchassis, hport]

theorem plain_functionMarks (pci : Pci.Address) : ∀ m ∈ functionMarks pci, m.Plain := by
  have hnames : ∀ name ∈ ["hostdev", "source", "address"], IsName name := by decide
  have hhead : Mark.PlainAttributes [("mode", "subsystem"), ("type", "pci"), ("managed", "yes")] :=
    ⟨by decide, by decide, by decide⟩
  have hnone : Mark.PlainAttributes [] := ⟨by decide, by decide, by decide⟩
  have haddress := plainAttributes_address pci
  simp [functionMarks, Mark.Plain, hhead, hnone, haddress, hnames]

theorem plain_controllerMarks (pci : Pci.Address) (index chassis port : Nat) :
    ∀ m ∈ controllerMarks pci index chassis port, m.Plain := by
  have hnames : ∀ name ∈ ["controller", "model", "target", "address"], IsName name := by decide
  have htexts : ∀ text ∈ ["pci", "pcie-root-port"], Mark.PlainValue text := by decide
  have hhead : Mark.PlainAttributes
      [("type", "pci"), ("index", Text.decimal index), ("model", "pcie-root-port")] :=
    plainAttributes_of ["type", "index", "model"] rfl (by decide) (by decide)
      (by simp [plainValue_decimal, htexts])
  have hmodel : Mark.PlainAttributes [("name", "pcie-root-port")] :=
    ⟨by decide, by decide, by decide⟩
  have htarget : Mark.PlainAttributes [("chassis", Text.decimal chassis), ("port", hexValue port)] :=
    plainAttributes_of ["chassis", "port"] rfl (by decide) (by decide)
      (by simp [plainValue_decimal, plainValue_hexValue])
  have haddress : Mark.PlainAttributes (addressNode [("type", "pci")] pci).attributes :=
    plainAttributes_of ["type", "domain", "bus", "slot", "function"] rfl (by decide)
      (by decide) (by simp [addressNode, Node.attributes, plainValue_hexValue, htexts])
  simp [controllerMarks, Mark.Plain, hhead, hmodel, htarget, haddress, hnames]

/-! ## Elements -/

theorem parse_virtualFunction (pci : Pci.Address) :
    parse (Template.virtualFunction (Template.builtIn .virtualFunction) pci)
      = .ok (functionNode pci) := by
  rw [Template.virtualFunction, builtIn_virtualFunction]
  exact parse_render ⟨_, _, rfl⟩ (by decide) (values_clean pci) (by decide) (by decide)
    (filled_functionRows pci) (plain_functionMarks pci) rfl

theorem parse_controller (pci : Pci.Address) (index chassis port : Nat) :
    parse (Template.controller (Template.builtIn .controller) pci index chassis port)
      = .ok (controllerNode pci index chassis port) := by
  rw [Template.controller, builtIn_controller]
  exact parse_render ⟨_, _, rfl⟩ (by decide) (controllerValues_clean pci index chassis port)
    (by decide) (by decide) (filled_controllerRows pci index chassis port)
    (plain_controllerMarks pci index chassis port) rfl

theorem addressOf_addressNode {kind : List (String × String)}
    (hkind : kind = [] ∨ kind = [("type", "pci")]) (pci : Pci.Address) :
    Domain.addressOf (some (addressNode kind pci)) = .ok pci := by
  have hread := Pci.Address.ofHexFields_hexValue pci
  rcases hkind with rfl | rfl
  · exact hread
  · exact hread

/-- **Devices say what was asked for.** The XML of a virtual function is a PCI device with the address of
the function as its source; the XML of a controller has its address, its index and its chassis in decimal
and its port in hexadecimal. -/
theorem builtIn_devices (pci : Pci.Address) (index chassis port : UInt32) :
    (∃ device, parse (Template.virtualFunction (Template.builtIn .virtualFunction) pci) = .ok device ∧
      device.name = "hostdev" ∧ device.attr? "type" = some "pci" ∧
      Domain.addressOf (Domain.sourceAddress? device) = .ok pci) ∧
    ∃ controller target portText,
      parse (Template.controller (Template.builtIn .controller) pci index.toNat chassis.toNat
        port.toNat) = .ok controller ∧
      controller.name = "controller" ∧ Domain.addressOf (controller.child? "address") = .ok pci ∧
      controller.attr? "index" = some (Text.decimal index.toNat) ∧
      controller.child? "target" = some target ∧
      target.attr? "chassis" = some (Text.decimal chassis.toNat) ∧
      target.attr? "port" = some portText ∧ Text.startsWith portText "0x" = true ∧
      Text.readNumeral? 16 Text.limit32 (Pci.Address.hexDigits portText.toList) = some port.toNat := by
  refine ⟨⟨functionNode pci, parse_virtualFunction pci, rfl, rfl,
      addressOf_addressNode (.inl rfl) pci⟩,
    controllerNode pci index.toNat chassis.toNat port.toNat, _, hexValue port.toNat,
    parse_controller pci index.toNat chassis.toNat port.toNat, rfl,
    addressOf_addressNode (.inr rfl) pci, rfl, rfl, rfl, rfl, ?_, ?_⟩
  · have hchars : (hexValue port.toNat).toList = '0' :: 'x' :: Text.hexadecimal 1 port.toNat :=
      String.toList_ofList
    rw [Text.startsWith, hchars]
    rfl
  · exact Pci.Address.readNumeral?_hexValue (Nat.le_of_lt_succ port.toNat_lt)

end VirtHost.Xml
