import VirtHost.Hypervisor.VirtualFunctions
import VirtHost.Proofs.Hypervisor.CommandOptions

/-! # Commands for virtual functions

* `FunctionOperation`: what a caller can ask about the virtual functions of a host, and do with their number.
* `FunctionOperation.follows`: the commands for that are run as they are to be run.
-/

namespace VirtHost.Hypervisor
open Shell (Plain)
set_option autoImplicit false

variable {s : Settings} {trusted : Prop}

/-! ## Enumeration -/

theorem uses_linksOf {command : String}
    (h : Proper s trusted (.execute command ({} : Host.Options).inShell)) :
    (linksOf command).Uses (Proper s trusted) :=
  (Action.uses_execute h).bind fun _ => trivial

theorem uses_allLinks (directory : String) :
    (linksOf (Command.listVirtualFunctions directory)).Uses (Proper s trusted) :=
  uses_linksOf (proper_listVirtualFunctions rfl rfl)

theorem uses_functionIds (interface : String) : (functionIds interface).Uses (Proper s trusted) := by
  refine (uses_allLinks _).bind fun links => ?_
  split
  · exact Action.uses_throw _
  · exact Action.uses_pure _

theorem uses_functionAddress {directory : String} (hdirectory : Plain directory) (owner : String)
    (id : Nat) : (functionAddress directory owner id).Uses (Proper s trusted) := by
  refine (uses_linksOf (proper_listVirtualFunction hdirectory id)).bind fun links => ?_
  split
  · exact Action.uses_pure _
  · exact Action.uses_throw _

theorem uses_functionId (directory missing : String) (pci : Pci.Address) :
    (functionId directory missing pci).Uses (Proper s trusted) := by
  refine (uses_allLinks directory).bind fun links => ?_
  split
  · exact Action.uses_pure _
  · exact Action.uses_throw _

/-! ## Counting -/

theorem uses_writeCount {directory : String} (hdirectory : Plain directory) (count : Nat) :
    ((ofSettings s).writeCount directory count).Uses (Proper s trusted) := by
  have hwrite (number : Nat) {options : Host.Options} (hshell : options.shell = true)
      (htimeout : options.timeout = some (Duration.ofSeconds s.sysfsTimeout)) :
      Proper s trusted (.execute (Command.setVirtualFunctions directory number) options) :=
    proper_setVirtualFunctions hdirectory number hshell htimeout
  refine (Action.uses_execute (hwrite count rfl rfl)).bind fun completion => ?_
  split
  · exact Action.uses_pure ()
  · split
    · exact (Action.uses_perform (hwrite 0 rfl rfl)).bind fun _ =>
        Action.uses_perform (hwrite count rfl rfl)
    · exact Action.uses_throw _

theorem uses_checkCountIn (directory : String) (count : Nat) :
    (checkCountIn directory count).Uses (Proper s trusted) := by
  have hcount : (countFunctions directory).Uses (Proper s trusted) := by
    refine (Action.uses_execute (proper_listVirtualFunctions rfl rfl)).bind fun completion => ?_
    split
    · exact Action.Uses.bind (a := Action.ofExcept _) trivial fun _ => Action.uses_pure _
    · split
      · exact Action.uses_pure 0
      · exact Action.uses_throw _
  refine hcount.bind fun actual => ?_
  split
  · exact Action.uses_pure ()
  · exact Action.uses_throw _

theorem uses_setCountIn {directory : String} (hdirectory : Plain directory) (count : Nat)
    (check : Bool) :
    ((ofSettings s).setCountIn directory count check).Uses (Proper s trusted) := by
  refine (uses_writeCount hdirectory count).bind fun _ => ?_
  split
  · exact uses_checkCountIn directory count
  · exact Action.uses_pure ()

/-! ## Details -/

theorem uses_functionDetails {interface : String} (hinterface : Plain interface) :
    (functionDetails interface).Uses (Proper s trusted) :=
  (Action.uses_execute (proper_showLink hinterface)).bind fun _ => trivial

theorem uses_idOfMac {interface : String} (hinterface : Plain interface) (mac : String) :
    (idOfMac interface mac).Uses (Proper s trusted) := by
  refine (uses_functionDetails hinterface).bind fun details => ?_
  split
  · exact Action.uses_pure _
  · exact Action.uses_throw _

theorem uses_isReadyForPassthrough {interface : String} (hinterface : Plain interface) (id : Nat) :
    (isReadyForPassthrough interface id).Uses (Proper s trusted) := by
  have haddress : (addressOfFunction interface id).Uses (Proper s trusted) :=
    uses_functionAddress (plain_interfaceDirectory hinterface) _ id
  refine haddress.bind fun pci => (Action.uses_execute proper_listKernelDevices).bind fun completion => ?_
  split
  · exact Action.uses_pure _
  · exact Action.uses_throw _

/-! ## Operations -/

/-- What can be asked about the virtual functions of a host, and done with their number. The names of
interfaces are plain. -/
inductive FunctionOperation (h : Hypervisor) : {α : Type} → Program α → Prop
  | functionIds {interface : String} (hinterface : Plain interface) :
    FunctionOperation h (functionIds interface).attempt
  | addressOfFunction {interface : String} (hinterface : Plain interface) (id : Nat) :
    FunctionOperation h (addressOfFunction interface id).attempt
  | addressOfFunctionAt (pf : Pci.Address) (id : Nat) :
    FunctionOperation h (addressOfFunctionAt pf id).attempt
  | functionAddresses {interface : String} (hinterface : Plain interface) :
    FunctionOperation h (functionAddresses interface).attempt
  | functionAddressesAt (pf : Pci.Address) : FunctionOperation h (functionAddressesAt pf).attempt
  | idOfFunction {interface : String} (hinterface : Plain interface) (pci : Pci.Address) :
    FunctionOperation h (idOfFunction interface pci).attempt
  | idOfFunctionAt (pf vf : Pci.Address) : FunctionOperation h (idOfFunctionAt pf vf).attempt
  | setCount {interface : String} (hinterface : Plain interface) (count : Nat) (check : Bool) :
    FunctionOperation h (h.setCount interface count check).attempt
  | setCountAt (pf : Pci.Address) (count : Nat) (check : Bool) :
    FunctionOperation h (h.setCountAt pf count check).attempt
  | checkCount {interface : String} (hinterface : Plain interface) (count : Nat) :
    FunctionOperation h (checkCount interface count).attempt
  | checkCountAt (pf : Pci.Address) (count : Nat) : FunctionOperation h (checkCountAt pf count).attempt
  | functionDetails {interface : String} (hinterface : Plain interface) :
    FunctionOperation h (functionDetails interface).attempt
  | idOfMac {interface : String} (hinterface : Plain interface) (mac : String) :
    FunctionOperation h (idOfMac interface mac).attempt
  | isReadyForPassthrough {interface : String} (hinterface : Plain interface) (id : Nat) :
    FunctionOperation h (isReadyForPassthrough interface id).attempt

theorem FunctionOperation.follows {α : Type} {p : Program α}
    (hp : FunctionOperation (ofSettings s) p) : Follows s trusted p := by
  cases hp with
  | functionIds _ => exact .of_uses (uses_functionIds _)
  | addressOfFunction hinterface id =>
    exact .of_uses (uses_functionAddress (plain_interfaceDirectory hinterface) _ id)
  | addressOfFunctionAt pf id =>
    exact .of_uses (uses_functionAddress (plain_deviceDirectory pf) _ id)
  | functionAddresses _ | functionAddressesAt _ =>
    exact .of_uses ((uses_allLinks _).bind fun _ => Action.uses_pure _)
  | idOfFunction _ pci | idOfFunctionAt _ pci => exact .of_uses (uses_functionId _ _ pci)
  | @setCount interface hinterface count check =>
    have hlook : (perform (Command.listInterface interface)).Uses (Proper s trusted) :=
      Action.uses_perform (proper_listInterface hinterface)
    refine .of_uses (Action.Uses.bind (Program.Uses.mapError hlook) fun _ => ?_)
    exact uses_setCountIn (plain_interfaceDirectory hinterface) count check
  | setCountAt pf count check => exact .of_uses (uses_setCountIn (plain_deviceDirectory pf) count check)
  | checkCount _ count | checkCountAt _ count => exact .of_uses (uses_checkCountIn _ count)
  | functionDetails hinterface => exact .of_uses (uses_functionDetails hinterface)
  | idOfMac hinterface mac => exact .of_uses (uses_idOfMac hinterface mac)
  | isReadyForPassthrough hinterface id => exact .of_uses (uses_isReadyForPassthrough hinterface id)

end VirtHost.Hypervisor
