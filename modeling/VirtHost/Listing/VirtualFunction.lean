import VirtHost.Device
import VirtHost.Listing.Network
import VirtHost.Text.CharacterClass

/-! # Listings of virtual functions

* `virtualFunctionLinks`: the links `virtfn<id> -> <path>` of a directory listing.
* `virtualFunctionDetails`: the lines `vf <id> …` that an interface reports.

Both are found by patterns over the text; a pattern is a function that reports what it found at the
head of a text together with the number of characters it took.
-/

namespace VirtHost.Listing
open Text
set_option autoImplicit false

/-! ## Runs of characters -/

/-- The longest run of characters of a class at the head of a text, which must not be empty, and the
rest. -/
def run? (inClass : Char → Bool) (s : List Char) : Option (List Char × List Char) :=
  match s.takeWhile inClass with
  | [] => none
  | found => some (found, s.dropWhile inClass)

def hexRun? (n : Nat) (s : List Char) : Option (List Char × List Char) :=
  let found := s.take n
  if found.length = n ∧ found.all isHexDigit then some (found, s.drop n) else none

/-! ## Links -/

/-- The function number at the head of a text: two hexadecimal digits, or one, where a word ends. -/
def functionRun? (s : List Char) : Option (List Char) :=
  match hexRun? 2 s with
  | some (two, rest) => if endsWord rest then some two else oneDigit
  | none => oneDigit
where
  oneDigit : Option (List Char) :=
    match hexRun? 1 s with
    | some (one, rest) => if endsWord rest then some one else none
    | none => none

/-- The long form of a PCI address at the head of a text: four, two and two hexadecimal digits and
the function. -/
def addressAt? (s : List Char) : Option (List Char) := do
  let (domain, s) ← hexRun? 4 s
  let s ← dropHead? [':'] s
  let (bus, s) ← hexRun? 2 s
  let s ← dropHead? [':'] s
  let (slot, s) ← hexRun? 2 s
  let s ← dropHead? ['.'] s
  let function ← functionRun? s
  pure (domain ++ ':' :: bus ++ ':' :: slot ++ '.' :: function)

/-- The first PCI address in the run of non-blank characters at the head of a text, and the number of
characters up to its end. -/
def addressInRun? : List Char → Option (List Char × Nat)
  | [] => none
  | c :: rest =>
    match addressAt? (c :: rest) with
    | some address => some (address, address.length)
    | none => if isBlank c then none else (addressInRun? rest).map fun p => (p.1, p.2 + 1)

def linkAt? (s : List Char) : Option ((List Char × List Char) × Nat) := do
  let afterName ← dropHead? "virtfn".toList s
  let (id, s1) ← run? isDecimalDigit afterName
  let (_, s2) ← run? isBlank s1
  let s3 ← dropHead? ['-', '>'] s2
  let (_, s4) ← run? isBlank s3
  let (target, length) ← addressInRun? s4
  pure ((id, target), (s.length - s4.length) + length)

def linkOfTexts (id target : List Char) : Except Error VirtualFunction.Link :=
  match readNumeral? 10 limit32 id with
  | some n => (Pci.Address.parse (String.ofList target)).map fun a => ⟨n, a⟩
  | none => .error (.parse ("invalid VF id: " ++ String.ofList id))

def virtualFunctionLinks (output : String) : Except Error (List VirtualFunction.Link) :=
  (matchesOf linkAt? output.toList).mapM fun p => linkOfTexts p.1 p.2

/-! ## Details -/

/-- The id and the MAC of a line that describes a virtual function, as they are written. The MAC is
seventeen hexadecimal digits and colons. -/
def detailOfLine? (line : List Char) : Option (List Char × List Char) := do
  let s ← dropHead? ['v', 'f'] (trimStart line)
  let (_, s) ← run? isBlank s
  let (id, s) ← run? isDecimalDigit s
  let (_, s) ← run? isBlank s
  let s ← (dropHead? "link/ether".toList s).or (dropHead? "MAC".toList s)
  let (_, s) ← run? isBlank s
  let mac := s.take 17
  if mac.length = 17 ∧ mac.all (fun c => isHexDigit c || c = ':') then some (id, mac) else none

/-- The switch at the head of a text: its label, then `on` or `off`. -/
def switchAt? (label s : List Char) : Option (Bool × Nat) := do
  let rest ← dropHead? label s
  if ['o', 'n'].isPrefixOf rest then some (true, label.length + 2)
  else if ['o', 'f', 'f'].isPrefixOf rest then some (false, label.length + 3)
  else none

def isOn (label : String) (line : List Char) : Bool :=
  (matchesOf (switchAt? label.toList) line).head? = some true

def detailsFrom : List (List Char) → Except Error (List VirtualFunction.Detail)
  | [] => .ok []
  | line :: rest =>
    match detailOfLine? line with
    | none => detailsFrom rest
    | some (id, mac) =>
      match readNumeral? 10 limit32 id with
      | none => .error (.parse ("invalid VF id in: " ++ String.ofList line))
      | some n => do
        let details ← detailsFrom rest
        pure (⟨n, String.ofList (lowercase mac), isOn "spoof checking " line, isOn "trust " line⟩
          :: details)

def virtualFunctionDetails (output : String) : Except Error (List VirtualFunction.Detail) :=
  detailsFrom (lines output.toList)

end VirtHost.Listing
