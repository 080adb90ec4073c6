/-! # Parameters of a virtual machine

What is asked for when a virtual machine is created. Everything has a default.
-/

namespace VirtHost.Vm
set_option autoImplicit false

inductive Firmware
  | uefi
  | legacy
  deriving DecidableEq

def Firmware.text : Firmware → String
  | .uefi => "uefi"
  | .legacy => "legacy"

/-- A virtual machine to be created.

With a disk and a clone directory, the disk is copied there first and the copy is used; with a disk
alone, the disk itself is used. With an XML template, the domain is defined from it. -/
structure Parameters where
  name : String := "vm"
  vcpus : Nat := 2
  threads : Option Nat := none
  memoryMib : Nat := 1024
  machine : String := "pc"
  firmware : Firmware := .uefi
  osVariant : Option String := none
  arch : Option String := none
  mac : Option String := none
  bridge : String := "br0"
  disk : Option String := none
  diskBus : Option String := none
  bootOrder : List String := []
  graphics : String := "none"
  cpu : Option String := none
  xmlTemplate : Option String := none
  cloneDirectory : Option String := none
  /-- Seconds after which copying the disk is given up. -/
  cloneTimeout : Option Nat := none
  deriving DecidableEq

end VirtHost.Vm
