import VirtHost.Command.Install
import VirtHost.Template

/-! # Settings

* `RamPolicy.perVm`: the memory that each of several virtual machines gets.
* `Settings`: what can be tuned, all of it with a default.
* `Settings.validate`: the settings that cannot be worked with are refused.
-/

namespace VirtHost
set_option autoImplicit false

/-- How the memory of a host is shared, in megabytes. -/
structure RamPolicy where
  /-- What is kept for the host. -/
  reserve : Nat := 10000
  least : Nat := 2000
  most : Nat := 10000
  deriving DecidableEq

/-- The memory for each of `vms` virtual machines on a host with `free` megabytes: an equal share of
what is left above the reserve, kept within the limits, if that many fit. -/
def RamPolicy.perVm (policy : RamPolicy) (free vms : Nat) : Option Nat :=
  let vms := max vms 1
  let ram := min policy.most (max policy.least ((free - policy.reserve) / vms))
  if ram * vms ≤ free then some ram else none

/-- The files that replace built-in templates. -/
structure TemplateFiles where
  virtualFunction : Option String := none
  controller : Option String := none
  mediated : Option String := none
  deriving DecidableEq

def TemplateFiles.file? (files : TemplateFiles) : Template.Kind → Option String
  | .virtualFunction => files.virtualFunction
  | .controller => files.controller
  | .mediated => files.mediated

/-- What can be tuned. Times are in seconds. -/
structure Settings where
  virshTimeout : Nat := 120
  /-- The time that a change of the number of virtual functions may take. -/
  sysfsTimeout : Nat := 60
  vmStateTimeout : Nat := 60
  vmStateInterval : Nat := 5
  cloneInterval : Nat := 30
  cloneTimeout : Nat := 1000
  /-- How often a guest is asked for its address. -/
  managementIpTries : Nat := 60
  managementIpInterval : Nat := 5
  dhcpNetwork : String := "default"
  /-- The directory of the host for device files and domain definitions. -/
  workDirectory : String := "/tmp"
  templates : TemplateFiles := {}
  mediatedType : String := "ice-vdcm"
  largeVcpu : Command.LargeVcpuPolicy := {}
  ram : RamPolicy := {}
  /-- The return codes of a probe that mark an address as unused. -/
  freeCodes : List Int := [1, 2]
  deriving DecidableEq

/-- Refuses settings that cannot be worked with; the first fault decides. -/
def Settings.validate (s : Settings) : Except Error Unit :=
  if s.virshTimeout = 0 ∨ s.sysfsTimeout = 0 then
    .error (.invalidConfig "command timeouts must be greater than zero")
  else if s.managementIpTries = 0 then
    .error (.invalidConfig "mng_ip_tries must be at least 1")
  else if s.ram.most < s.ram.least then
    .error (.invalidConfig ("ram.min_mb (" ++ Text.decimal s.ram.least
      ++ ") is greater than ram.max_mb (" ++ Text.decimal s.ram.most ++ ")"))
  else if s.freeCodes = [] then
    .error (.invalidConfig "probe_free_codes must not be empty")
  else if s.workDirectory = "" then
    .error (.invalidConfig "work_dir is empty")
  else .ok ()

end VirtHost
