import VirtHost.Error
import VirtHost.Text.Blank

/-! # PCI addresses

An address has a domain, a bus, a slot and a function. The function is a whole byte, because virtual
functions of devices that have many of them are numbered beyond the usual eight.

* `Address.text` (`dddd:bb:ss.f`), `Address.shortText` (`bb:ss.f`), `Address.shellText`.
* `Address.read?`, `Address.parse`: an address from its text, in the long or the short form.
* `Address.ofHexFields`: an address from the attributes of a domain XML.
* `Address.values`: the four numbers as template values.
* `Address.sortDistinct`: a list in ascending order without repetitions.
-/

namespace VirtHost.Pci
set_option autoImplicit false

structure Address where
  domain : UInt32
  bus : UInt8
  slot : UInt8
  function : UInt8
  deriving DecidableEq

namespace Address
open Text

/-! ## Writing -/

def shortChars (a : Address) : List Char :=
  hexadecimal 2 a.bus.toNat ++ ':' :: hexadecimal 2 a.slot.toNat
    ++ '.' :: hexadecimal 1 a.function.toNat

def chars (a : Address) : List Char :=
  hexadecimal 4 a.domain.toNat ++ ':' :: a.shortChars

/-- The long form: domain, bus, slot and function in hexadecimal. -/
def text (a : Address) : String :=
  String.ofList a.chars

/-- The short form: bus, slot and function in hexadecimal. -/
def shortText (a : Address) : String :=
  String.ofList a.shortChars

def escapeColons (s : List Char) : List Char :=
  s.flatMap fun c => if c = ':' then ['\\', ':'] else [c]

/-- The long form as part of a shell command, its colons escaped. -/
def shellText (a : Address) : String :=
  String.ofList (escapeColons a.chars)

/-- A number as the value of an XML attribute: hexadecimal behind `0x`, without leading zeros. -/
def hexValue (n : Nat) : String :=
  String.ofList ('0' :: 'x' :: hexadecimal 1 n)

/-- The four numbers of an address under their template keys. -/
def values (a : Address) : List (String × String) :=
  [("domain", hexValue a.domain.toNat), ("bus", hexValue a.bus.toNat),
   ("slot", hexValue a.slot.toNat), ("func", hexValue a.function.toNat)]

/-! ## Reading -/

/-- The address with the given four hexadecimal numerals, each within its range. -/
def ofNumerals? (domain bus slot function : List Char) : Option Address := do
  let d ← readNumeral? 16 limit32 domain
  let b ← readNumeral? 16 limit8 bus
  let s ← readNumeral? 16 limit8 slot
  let f ← readNumeral? 16 limit8 function
  pure ⟨UInt32.ofNat d, UInt8.ofNat b, UInt8.ofNat s, UInt8.ofNat f⟩

/-- The address written in a text without blanks at its ends. The function follows the last point;
before it stand domain, bus and slot, or bus and slot of domain zero. -/
def read? (s : List Char) : Option Address := do
  let (head, function) ← splitLast '.' s
  match head.splitOn ':' with
  | [domain, bus, slot] => ofNumerals? domain bus slot function
  | [bus, slot] => ofNumerals? ['0'] bus slot function
  | _ => none

def parse (s : String) : Except Error Address :=
  match read? (trim s.toList) with
  | some a => .ok a
  | none => .error (.invalidPciAddress (String.ofList (trim s.toList)))

/-- An attribute value without its blanks and its `0x`. -/
def hexDigits (s : List Char) : List Char :=
  match trim s with
  | '0' :: 'x' :: digits => digits
  | '0' :: 'X' :: digits => digits
  | digits => digits

def ofHexFields (domain bus slot function : String) : Except Error Address :=
  match ofNumerals? (hexDigits domain.toList) (hexDigits bus.toList) (hexDigits slot.toList)
      (hexDigits function.toList) with
  | some a => .ok a
  | none => .error (.invalidPciAddress (domain ++ ":" ++ bus ++ ":" ++ slot ++ "." ++ function))

/-! ## Order -/

/-- The four numbers of an address, most significant first. -/
def key (a : Address) : List Nat :=
  [a.domain.toNat, a.bus.toNat, a.slot.toNat, a.function.toNat]

/-- Whether `a` is not after `b`: domains first, then buses, slots and functions. -/
def le (a b : Address) : Bool :=
  !b.key.lex a.key

/-- The list without the elements that repeat their left neighbour. -/
def dropRepeats : List Address → List Address
  | [] => []
  | [a] => [a]
  | a :: b :: rest => if a = b then dropRepeats (b :: rest) else a :: dropRepeats (b :: rest)

def sortDistinct (addresses : List Address) : List Address :=
  dropRepeats (addresses.mergeSort le)

end Address
end VirtHost.Pci
