import VirtHost.Text.Blank
import VirtHost.Text.Scan
import VirtHost.Vm.State

/-! # Tables and listings of virtual machines

A table is a heading, a line of dashes and then one row a line.

* `tableRows`: the rows, without their indentation and without blank ones; `tableWords`: their words.
* `vms`: the rows of a list of virtual machines.
* `status`: the record of one virtual machine, one `key: value` a line.
-/

namespace VirtHost.Listing
open Text
set_option autoImplicit false

/-! ## Tables -/

/-- Whether a trimmed line is the rule under a heading: three dashes or more and nothing else. -/
def isRule (line : List Char) : Bool :=
  decide (3 ≤ line.length) && line.all (· = '-')

/-- The rows of a table: the trimmed lines after the first rule that are not empty. -/
def tableRows (output : String) : List (List Char) :=
  (((lines output.toList).map trim).dropWhile fun line => !isRule line).drop 1
    |>.filter fun line => !line.isEmpty

def tableWords (output : String) : List (List (List Char)) :=
  (tableRows output).map words

/-! ## Virtual machines -/

/-- The virtual machine of a row: id, name and the words of its state. -/
def vmOfWords? : List (List Char) → Option Vm.Entry
  | id :: name :: state :: more =>
    some ⟨String.ofList id, String.ofList name,
      Vm.State.parse (String.ofList (join [' '] (state :: more)))⟩
  | _ => none

/-- The virtual machines of a list. Shorter rows are passed over. -/
def vms (output : String) : List Vm.Entry :=
  (tableWords output).filterMap vmOfWords?

/-- The field of a line: what stands before and after its first colon, if anything stands before. -/
def fieldOfLine? (line : List Char) : Option (String × String) := do
  let (key, value) ← splitOnce ':' line
  let key := trim key
  if key.isEmpty then none else some (String.ofList key, String.ofList (trim value))

def status (output : String) : Vm.Status :=
  ⟨(lines output.toList).filterMap fieldOfLine?⟩

end VirtHost.Listing
