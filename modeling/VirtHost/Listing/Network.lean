import VirtHost.Device
import VirtHost.Listing.Vm
import VirtHost.Text.LowerCase

/-! # Listings of networks and addresses

* `networks`: the names in a list of networks.
* `firstInterfaceMac`: the MAC of the first interface of a virtual machine.
* `agentAddresses`: the addresses that a guest reports, each with the MAC of its interface.
* `leases`: the IPv4 leases of a network.
* `networkData`: the entries of the `[kvm]` section of a network-data file.
-/

namespace VirtHost.Listing
open Text
set_option autoImplicit false

/-- The name in a row of a list of networks, which has four columns or more. -/
def networkOfWords? : List (List Char) → Option String
  | name :: _ :: _ :: _ :: _ => some (String.ofList name)
  | _ => none

def networks (output : String) : List String :=
  (tableWords output).filterMap networkOfWords?

/-- The MAC in a row of a list of interfaces: the last of five columns or more, in lower case. -/
def macOfWords? (row : List (List Char)) : Option String :=
  if 5 ≤ row.length then row.getLast?.map fun mac => String.ofList (lowercase mac) else none

def firstInterfaceMac (output : String) : Option String :=
  (tableWords output).findSome? macOfWords?

/-! ## Addresses of a guest -/

def isHexDigit (c : Char) : Bool :=
  (digitValue? 16 c).isSome

def isHexPair : List Char → Bool
  | [a, b] => isHexDigit a && isHexDigit b
  | _ => false

/-- Whether a word is a MAC: six pairs of hexadecimal digits between colons. -/
def isMac (word : List Char) : Bool :=
  let pairs := word.splitOn ':'
  decide (pairs.length = 6) && pairs.all isHexPair

/-- The MAC of the interface that a row without its last two columns leaves current. A row whose
first word is a dash continues the interface above; any other row starts one, with the first MAC
among its words, if there is one. -/
def currentMac (current : Option String) (names : List (List Char)) : Option String :=
  if names.head? = some ['-'] then current
  else (names.find? isMac).map fun mac => String.ofList (lowercase mac)

/-- The addresses in rows of words, the interface of the row above having the MAC `current`. Rows of
fewer than four words are passed over; the last two words are the protocol and the address. -/
def addressesFrom (current : Option String) : List (List (List Char)) →
    List Network.InterfaceAddress
  | [] => []
  | row :: rows =>
    match row.reverse with
    | address :: protocol :: b :: a :: more =>
      match currentMac current (b :: a :: more).reverse with
      | some mac =>
        ⟨mac, String.ofList protocol, String.ofList (upTo '/' address)⟩
          :: addressesFrom (some mac) rows
      | none => addressesFrom none rows
    | _ => addressesFrom current rows

def agentAddresses (output : String) : List Network.InterfaceAddress :=
  addressesFrom none (tableWords output)

/-! ## Leases -/

/-- The lease of a row: date, time, MAC, protocol, address and perhaps the name of the host. -/
def leaseOfWords? : List (List Char) → Option Network.Lease
  | _ :: _ :: mac :: protocol :: address :: more =>
    if protocol = ['i', 'p', 'v', '4'] then
      (Ipv4.read? (upTo '/' address)).map fun ip =>
        ⟨String.ofList (lowercase mac), ip, more.head?.map String.ofList⟩
    else none
  | _ => none

def leases (output : String) : List Network.Lease :=
  (tableWords output).filterMap leaseOfWords?

/-! ## Network data -/

def entryOfLine (line : List Char) : Except Error Network.Entry :=
  match words line with
  | ip :: mac :: _ =>
    match Ipv4.read? ip with
    | some ip => .ok ⟨ip, String.ofList mac⟩
    | none =>
      .error (.parse ("invalid IP address in network data: " ++ String.ofList ip))
  | _ => .error (.parse ("invalid network data line: " ++ String.ofList line))

def isRemark (line : List Char) : Bool :=
  line.isEmpty || line.head? = some '#'

/-- The entries in trimmed lines. A line that begins with a bracket opens a section. -/
def entriesFrom (inSection : Bool) : List (List Char) → Except Error (List Network.Entry)
  | [] => .ok []
  | line :: rest =>
    if isRemark line then entriesFrom inSection rest
    else if line.head? = some '[' then entriesFrom (line = "[kvm]".toList) rest
    else if inSection then do
      let entry ← entryOfLine line
      let entries ← entriesFrom inSection rest
      pure (entry :: entries)
    else entriesFrom inSection rest

/-- The entries of the `[kvm]` sections of a network-data file, of which there must be one. -/
def networkData (content : String) : Except Error (List Network.Entry) := do
  let entries ← entriesFrom false ((lines content.toList).map trim)
  if entries.isEmpty then .error (.notFound "No network data found in [kvm] section")
  else .ok entries

end VirtHost.Listing
