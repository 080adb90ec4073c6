import VirtHost.Text.LowerCase
import VirtHost.Text.Numeral
import VirtHost.Text.Scan
import VirtHost.Vm.Parameters

/-! # Installing a virtual machine

* `LargeVcpuPolicy`: extra flags above a number of vCPUs.
* `InstallSuffix`: the flag that mends a rejected command.
* `virtInstall`: the command that installs a virtual machine from its parameters.
-/

namespace VirtHost.Command
open Text (decimal)
set_option autoImplicit false

/-- Flags for virtual machines with more vCPUs than the default interrupt controller handles. -/
structure LargeVcpuPolicy where
  /-- The flags are added strictly above this number. -/
  threshold : Nat := 128
  flags : List String :=
    ["--iommu model=intel,driver.intremap=on,driver.eim=on,driver.caching_mode=on",
     "--features apic=on,ioapic.driver=qemu"]
  deriving DecidableEq

def LargeVcpuPolicy.flagsFor (policy : LargeVcpuPolicy) (vcpus : Nat) : List String :=
  if policy.threshold < vcpus then policy.flags else []

/-- The flag that is added to a rejected command. -/
inductive InstallSuffix
  /-- No operating system could be told. -/
  | osInfo
  /-- No medium to install from was given. -/
  | importDisk
  deriving DecidableEq

namespace InstallSuffix

def text : InstallSuffix → String
  | osInfo => "--osinfo detect=on,require=off"
  | importDisk => "--import"

/-- The flag that mends the rejection with a given error output. -/
def ofStderr? (stderr : String) : Option InstallSuffix :=
  if Text.includes stderr "OS name is required" then some osInfo
  else if Text.includes stderr "An install method must be specified" then some importDisk
  else none

end InstallSuffix

def joinStrings (sep : String) (parts : List String) : String :=
  sep.intercalate parts

/-- The boot order: the chosen devices, or the disk, or network and disk; UEFI is named last. -/
def bootOrder (params : Vm.Parameters) (hasDisk : Bool) : String :=
  let devices :=
    if params.bootOrder = [] then (if hasDisk then "hd" else "network,hd")
    else joinStrings "," params.bootOrder
  match params.firmware with
  | .uefi => devices ++ ",uefi"
  | .legacy => devices

def vcpusFlag (params : Vm.Parameters) : String :=
  "--vcpus=" ++ decimal params.vcpus ++
    match params.threads with
    | some threads => ",threads=" ++ decimal threads
    | none => ""

/-- The network interface; its MAC is written in lower case. -/
def networkFlag (params : Vm.Parameters) : String :=
  "--network=bridge:" ++ params.bridge ++
    (match params.mac with
     | some mac => ",mac=" ++ Text.lower mac
     | none => "") ++ ",model=virtio"

def diskFlag (params : Vm.Parameters) : Option String → String
  | some path =>
    "--disk path=" ++ path ++
      match params.diskBus with
      | some bus => ",bus=" ++ bus
      | none => ""
  | none => "--disk=none"

/-- A flag that is written only when its value is given. -/
def optionalFlag (flag : String) (value : Option String) : List String :=
  (value.map (flag ++ ·)).toList

def installParts (params : Vm.Parameters) (disk : Option String) (policy : LargeVcpuPolicy)
    (suffix : Option InstallSuffix) : List String :=
  ["virt-install", "--name=" ++ params.name, "--memory=" ++ decimal params.memoryMib,
    vcpusFlag params, "--machine=" ++ params.machine, "--noautoconsole"]
  ++ policy.flagsFor params.vcpus
  ++ [networkFlag params]
  ++ optionalFlag "--os-variant=" params.osVariant
  ++ [diskFlag params disk]
  ++ optionalFlag "--arch " params.arch
  ++ ["--boot=" ++ bootOrder params disk.isSome, "--graphics " ++ params.graphics]
  ++ optionalFlag "--cpu=" params.cpu
  ++ (suffix.map InstallSuffix.text).toList

/-- The command that installs a virtual machine. It boots from `disk`, which is the copy when the
disk of the parameters was copied first. -/
def virtInstall (params : Vm.Parameters) (disk : Option String) (policy : LargeVcpuPolicy)
    (suffix : Option InstallSuffix) : String :=
  joinStrings " " (installParts params disk policy suffix)

end VirtHost.Command
