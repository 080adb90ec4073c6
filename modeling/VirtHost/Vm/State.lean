import VirtHost.Text.Blank
import VirtHost.Text.LowerCase

/-! # States of a virtual machine

* `State.parse`: a state from the words that name it, in any case.
* `State.text`: those words. A state of no known name keeps its words.
* `Status`: an ordered record of fields; its `State` field tells the state.
* `Entry`: one virtual machine of a listing.
-/

namespace VirtHost.Vm
set_option autoImplicit false

inductive State
  | running
  | idle
  | paused
  | inShutdown
  | shutOff
  | crashed
  | pmSuspended
  /-- A state of no known name. -/
  | other (words : String)
  deriving DecidableEq

namespace State

def named? (name : String) : Option State :=
  if name = "running" then some running
  else if name = "idle" ∨ name = "blocked" then some idle
  else if name = "paused" then some paused
  else if name = "in shutdown" then some inShutdown
  else if name = "shut off" then some shutOff
  else if name = "crashed" then some crashed
  else if name = "pmsuspended" then some pmSuspended
  else none

def parse (s : String) : State :=
  let name := Text.trim s.toList
  (named? (String.ofList (Text.lowercase name))).getD (other (String.ofList name))

def text : State → String
  | running => "running"
  | idle => "idle"
  | paused => "paused"
  | inShutdown => "in shutdown"
  | shutOff => "shut off"
  | crashed => "crashed"
  | pmSuspended => "pmsuspended"
  | other words => words

def isRunning (s : State) : Bool :=
  s = running

end State

/-- The fields that describe a virtual machine, in the order in which they were reported. -/
structure Status where
  fields : List (String × String)
  deriving DecidableEq

namespace Status

/-- The value of the first field called `key`. -/
def get? (s : Status) (key : String) : Option String :=
  (s.fields.find? (·.1 = key)).map (·.2)

def state? (s : Status) : Option State :=
  (s.get? "State").map State.parse

def isEmpty (s : Status) : Bool :=
  s.fields.isEmpty

end Status

/-- A virtual machine of a listing. The id of one that is not active is a dash. -/
structure Entry where
  id : String
  name : String
  state : State
  deriving DecidableEq

end VirtHost.Vm
