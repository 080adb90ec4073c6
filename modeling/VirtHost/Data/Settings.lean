import VirtHost.Data.Value
import VirtHost.Hypervisor.Controllers

/-! # Reading settings and parameters

The names under which the settings, the parameters of a virtual machine and the layout of controllers
are given, and the range of each.
-/

namespace VirtHost.Data
open Text (limit8 limit32 limit64)
set_option autoImplicit false

/-! ## Kinds of fields -/

def textField {α : Type} (name : String) (set : String → α → α) : Field α :=
  .of name Value.text? set

def optionalText {α : Type} (name : String) (set : Option String → α → α) : Field α :=
  .of name (Value.optional? Value.text?) set

def textsField {α : Type} (name : String) (set : List String → α → α) : Field α :=
  .of name (Value.list? Value.text?) set

def naturalField {α : Type} (name : String) (limit : Nat) (set : Nat → α → α) : Field α :=
  .of name (Value.natural? limit) set

def optionalNatural {α : Type} (name : String) (limit : Nat) (set : Option Nat → α → α) : Field α :=
  .of name (Value.optional? (Value.natural? limit)) set

/-! ## Settings -/

def largeVcpuShape : Shape Command.LargeVcpuPolicy where
  base := {}
  fields :=
    [naturalField "threshold" limit32 fun v p => { p with threshold := v },
     textsField "flags" fun v p => { p with flags := v }]

def ramShape : Shape RamPolicy where
  base := {}
  fields :=
    [naturalField "reserve_mb" limit64 fun v p => { p with reserve := v },
     naturalField "min_mb" limit64 fun v p => { p with least := v },
     naturalField "max_mb" limit64 fun v p => { p with most := v }]

def templatesShape : Shape TemplateFiles where
  base := {}
  fields :=
    [optionalText "vf" fun v t => { t with virtualFunction := v },
     optionalText "pci_controller" fun v t => { t with controller := v },
     optionalText "mdev" fun v t => { t with mediated := v }]

/-- A return code has 32 bits. -/
def returnCode? (v : Value) : Option Int :=
  v.integer? (-2147483648) 2147483647

def settingsShape : Shape Settings where
  base := {}
  fields :=
    [naturalField "virsh_timeout_secs" limit64 fun v s => { s with virshTimeout := v },
     naturalField "sysfs_timeout_secs" limit64 fun v s => { s with sysfsTimeout := v },
     naturalField "vm_state_timeout_secs" limit64 fun v s => { s with vmStateTimeout := v },
     naturalField "vm_state_interval_secs" limit64 fun v s => { s with vmStateInterval := v },
     naturalField "clone_interval_secs" limit64 fun v s => { s with cloneInterval := v },
     naturalField "clone_timeout_secs" limit64 fun v s => { s with cloneTimeout := v },
     naturalField "mng_ip_tries" limit32 fun v s => { s with managementIpTries := v },
     naturalField "mng_ip_interval_secs" limit64 fun v s => { s with managementIpInterval := v },
     textField "dhcp_network" fun v s => { s with dhcpNetwork := v },
     textField "work_dir" fun v s => { s with workDirectory := v },
     .of "templates" templatesShape.read? fun v s => { s with templates := v },
     textField "mdev_type" fun v s => { s with mediatedType := v },
     .of "large_vcpu" largeVcpuShape.read? fun v s => { s with largeVcpu := v },
     .of "ram" ramShape.read? fun v s => { s with ram := v },
     .of "probe_free_codes" (Value.list? returnCode?) fun v s => { s with freeCodes := v }]

/-! ## Virtual machines -/

def firmware? (v : Value) : Option Vm.Firmware :=
  match v.text? with
  | some "uefi" => some .uefi
  | some "legacy" => some .legacy
  | _ => none

def parametersShape : Shape Vm.Parameters where
  base := {}
  fields :=
    [textField "name" fun v p => { p with name := v },
     naturalField "cpu_count" limit32 fun v p => { p with vcpus := v },
     optionalNatural "threads" limit32 fun v p => { p with threads := v },
     naturalField "memory_mib" limit64 fun v p => { p with memoryMib := v },
     textField "machine" fun v p => { p with machine := v },
     .of "firmware" firmware? fun v p => { p with firmware := v },
     optionalText "os_variant" fun v p => { p with osVariant := v },
     optionalText "arch" fun v p => { p with arch := v },
     optionalText "mac_address" fun v p => { p with mac := v },
     textField "bridge" fun v p => { p with bridge := v },
     optionalText "disk" fun v p => { p with disk := v },
     optionalText "disk_bus" fun v p => { p with diskBus := v },
     textsField "boot_order" fun v p => { p with bootOrder := v },
     textField "graphics" fun v p => { p with graphics := v },
     optionalText "cpu" fun v p => { p with cpu := v },
     optionalText "xml_template" fun v p => { p with xmlTemplate := v },
     optionalText "clone_dest_dir" fun v p => { p with cloneDirectory := v },
     optionalNatural "clone_timeout" limit64 fun v p => { p with cloneTimeout := v }]

/-! ## Network data and layouts -/

structure EntryFields where
  ip : Option Ipv4 := none
  mac : Option String := none

def entryFieldsShape : Shape EntryFields where
  base := {}
  fields :=
    [.of "ip" (fun v => v.text?.bind fun s => Ipv4.read? s.toList) fun v e => { e with ip := some v },
     textField "mac" fun v e => { e with mac := some v }]

/-- An entry of network data; both of its fields are needed. -/
def entry? (v : Value) : Option Network.Entry := do
  let fields ← entryFieldsShape.read? v
  let ip ← fields.ip
  let mac ← fields.mac
  pure ⟨ip, mac⟩

def layoutShape : Shape ControllerLayout where
  base := {}
  fields :=
    [naturalField "domain" limit32 fun v l => { l with domain := UInt32.ofNat v },
     naturalField "first_bus" limit8 fun v l => { l with firstBus := UInt8.ofNat v },
     naturalField "first_func" limit8 fun v l => { l with firstFunction := UInt8.ofNat v },
     naturalField "first_port" limit32 fun v l => { l with firstPort := v },
     naturalField "first_slot" limit8 fun v l => { l with firstSlot := UInt8.ofNat v },
     naturalField "first_chassis" limit32 fun v l => { l with firstChassis := v },
     naturalField "first_index" limit32 fun v l => { l with firstIndex := v }]

end VirtHost.Data
