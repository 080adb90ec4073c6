import VirtHost.Listing.VirtualFunction

/-! # Listings of a host

* `kernelDevices`: the device blocks of a listing of PCI devices with their drivers.
* `uuids`: every UUID in a text.
* `firstNumber`: the first number among the words of a text.
-/

namespace VirtHost.Listing
open Text
set_option autoImplicit false

/-! ## Devices and drivers -/

def driverLabel : List Char :=
  "Kernel driver in use:".toList

def driverOfLine? (line : List Char) : Option String :=
  (dropHead? driverLabel (trim line)).map fun driver => String.ofList (trim driver)

/-- The drivers named in the indented lines at the head of a listing, the last of which counts, when
`driver` was named above them. Blank lines are passed over. -/
def driverOfBlock (driver : Option String) : List (List Char) → Option String
  | [] => driver
  | line :: rest =>
    if (line.head?.map isBlank).getD true then
      driverOfBlock ((driverOfLine? line).or driver) rest
    else driver

/-- The device whose block a line heads, followed by the lines `rest`. Only lines that begin with a
character which is not blank head a block. -/
def deviceOfLine? (line : List Char) (rest : List (List Char)) : Option KernelDevice :=
  if (line.head?.map isBlank).getD true then none
  else (words line).head?.map fun address => ⟨String.ofList address, driverOfBlock none rest⟩

def devicesFrom : List (List Char) → List KernelDevice
  | [] => []
  | line :: rest => (deviceOfLine? line rest).toList ++ devicesFrom rest

def kernelDevices (output : String) : List KernelDevice :=
  devicesFrom (lines output.toList)

/-! ## UUIDs -/

/-- A group of `n` hexadecimal digits at the head of a text, and the rest. -/
def uuidGroups? : List Nat → List Char → Option (List Char)
  | [], s => some s
  | [n], s => (hexRun? n s).map (·.2)
  | n :: more, s => do
    let (_, s) ← hexRun? n s
    let s ← dropHead? ['-'] s
    uuidGroups? more s

/-- A UUID at the head of a text: groups of 8, 4, 4, 4 and 12 digits. -/
def uuidAt? (s : List Char) : Option (String × Nat) :=
  (uuidGroups? [8, 4, 4, 4, 12] s).map fun _ => (String.ofList (s.take 36), 36)

def uuids (output : String) : List String :=
  matchesOf uuidAt? output.toList

/-! ## Numbers -/

/-- The first word of a text that is a number of 64 bits. -/
def firstNumber (output : String) : Option Nat :=
  (words output.toList).findSome? (readNumeral? 10 limit64)

end VirtHost.Listing
