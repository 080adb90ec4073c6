import VirtHost.Host.Poll
import VirtHost.Settings
import VirtHost.Virsh

/-! # Hypervisors

A hypervisor is a host with settings and a way to drive its virtual machines. Its actions are found in
the modules beside this one. Here are its timing, its memory and the files that it works with.
-/

namespace VirtHost
set_option autoImplicit false

/-- How many entries of network data there is room for in memory at once. -/
structure Memory where
  entries : Nat
  /-- One entry always finds room. -/
  entries_pos : 0 < entries
  entries_le : entries ≤ Error.largestCapacity
  deriving DecidableEq

def Memory.largest : Memory :=
  ⟨Error.largestCapacity, by decide, Nat.le_refl _⟩

/-- A host of virtual machines. -/
structure Hypervisor where
  settings : Settings := {}
  tool : Virsh := {}
  memory : Memory := Memory.largest
  deriving DecidableEq

namespace Hypervisor

def ofSettings (s : Settings) : Hypervisor where
  settings := s
  tool :=
    { timeout := Duration.ofSeconds s.virshTimeout
      addressInterval := Duration.ofSeconds s.managementIpInterval
      leaseTries := s.managementIpTries }

/-- The time that a virtual machine may take to reach a state. -/
def stateTimeout (h : Hypervisor) : Duration :=
  Duration.ofSeconds h.settings.vmStateTimeout

def workFile (h : Hypervisor) (name : String) : String :=
  Host.joinPath h.settings.workDirectory name

/-- The template of a kind of device: the configured file or the built-in text. -/
def template (h : Hypervisor) (kind : Template.Kind) : Action String :=
  match h.settings.templates.file? kind with
  | some path => Host.readLocalFile path
  | none => pure (Template.builtIn kind)

def perform (command : String) (options : Host.Options := {}) : Action Unit := do
  let _ ← Host.execute command options

end Hypervisor
end VirtHost
