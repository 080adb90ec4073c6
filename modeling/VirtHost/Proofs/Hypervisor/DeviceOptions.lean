import VirtHost.Hypervisor.Controllers
import VirtHost.Hypervisor.Mediated
import VirtHost.Proofs.Hypervisor.Devices
import VirtHost.Proofs.Hypervisor.VmOptions

/-! # Commands for devices

* `DeviceOperation`: what a caller can do with the devices of virtual machines and with mediated devices.
* `DeviceOperation.follows`: the commands for that are run as they are to be run. Device files are in the
  work directory or where the caller wants them.
-/

namespace VirtHost.Hypervisor
open Shell (Plain plain_append)
set_option autoImplicit false

variable {s : Settings} {trusted : Prop}

/-! ## Device files -/

theorem plain_functionFileName (pci : Pci.Address) : Plain (functionFileName pci) := by
  have hnumber (width n : Nat) : Plain (String.ofList (Text.hexadecimal width n)) :=
    Shell.plain_ofList.2 Shell.notMem_special_of_mem_hexadecimal
  simp +decide [functionFileName, hnumber]

/-! ## Attaching and detaching -/

@[simp] theorem plain_configFlag (state : Vm.State) : Plain (Virsh.configFlag state) := by
  unfold Virsh.configFlag
  split <;> decide

section
variable {name : String} (hname : Plain name)
include hname

theorem uses_currentState : ((ofSettings s).currentState name).Uses (Proper s trusted) :=
  (uses_status fun _ => hname).bind fun _ => Action.uses_pure _

theorem uses_attachFile {file : String} (hfile : trusted → Plain file) :
    ((ofSettings s).attachDevice name file).Uses (Proper s trusted) :=
  (uses_currentState hname).bind fun state => uses_perform fun ht => by
    simp +decide [hname, hfile ht]

theorem uses_detachFile {file : String} (hfile : trusted → Plain file) :
    ((ofSettings s).detachDevice name file).Uses (Proper s trusted) :=
  (uses_currentState hname).bind fun state => uses_perform fun ht => by
    simp +decide [hname, hfile ht]

theorem uses_detachMac {mac : String} (hmac : Plain mac) :
    ((ofSettings s).detachMac name mac).Uses (Proper s trusted) :=
  (uses_currentState hname).bind fun state => uses_perform fun _ => by
    simp +decide [hname, hmac]

variable (hsettings : trusted → s.Plain)
include hsettings

theorem uses_attachFunction (pci : Pci.Address) :
    ((ofSettings s).attachFunction name pci).Uses (Proper s trusted) :=
  uses_writeXml_bind proper_readLocal (proper_write _)
    (uses_attachFile hname (plain_workFile hsettings (plain_functionFileName pci)))

theorem uses_detachFunction (pci : Pci.Address) :
    ((ofSettings s).detachFunction name pci).Uses (Proper s trusted) :=
  uses_writeXml_bind proper_readLocal (proper_write _)
    (uses_detachFile hname (plain_workFile hsettings (plain_functionFileName pci)))

theorem uses_detachFrom : ((ofSettings s).detachFrom name).Uses (Proper s trusted) := by
  have hdevices : ((ofSettings s).passthroughs name).Uses (Proper s trusted) :=
    (uses_domain fun _ => hname).bind fun _ => trivial
  refine hdevices.bind fun devices => Action.Uses.ofProgram (uses_holdsForAll fun device _ => ?_)
  exact (uses_detachFunction hname hsettings device.host).bind fun _ => Action.uses_pure true

end

/-! ## Controllers -/

section
variable {name file : String} (hname : Plain name) (hfile : trusted → Plain file)
include hname hfile

theorem uses_attachController (pci : Pci.Address) (index chassis port : Nat) :
    ((ofSettings s).attachController name file pci index chassis port).Uses (Proper s trusted) := by
  refine (uses_writeControllerXml proper_readLocal (proper_write file) pci index chassis port).bind
    fun _ => ?_
  refine (Action.Uses.ofProgram (uses_attachFile hname hfile)).bind fun o => ?_
  split
  · exact Action.uses_pure true
  · split
    · exact Action.uses_pure false
    · exact Action.uses_throw _

theorem uses_attachAt (layout : ControllerLayout) (missing made : Nat) (slots : List (Nat × Nat)) :
    ((ofSettings s).attachAt name file layout missing made slots).Uses (Proper s trusted) := by
  induction slots generalizing missing made with
  | nil => cases missing <;> exact Action.uses_pure 0
  | cons place rest ih =>
    cases missing with
    | zero => exact Action.uses_pure 0
    | succ missing =>
      refine (uses_attachController hname hfile _ _ _ _).bind fun free => ?_
      cases free with
      | true => exact (ih missing (made + 1)).bind fun _ => Action.uses_pure _
      | false => exact ih (missing + 1) (made + 1)

end

theorem uses_attachControllers {name : String} (hname : Plain name) (hsettings : trusted → s.Plain)
    (count : Nat) (layout : ControllerLayout) :
    ((ofSettings s).attachControllers name count layout).Uses (Proper s trusted) := by
  have hshutdown : ((ofSettings s).tool.shutdown name).Uses (Proper s trusted) :=
    uses_perform fun _ => plain_append.2 ⟨by decide, hname⟩
  refine hshutdown.bind fun _ => (uses_awaitState (fun _ => hname) _ _).bind fun _ => ?_
  refine (uses_attachAt hname (plain_workFile hsettings (by decide)) layout _ _ _).bind fun attached => ?_
  have hrest : (if attached < count then throw (.notEnoughPciAddresses count attached) else pure () :
      Action Unit).Uses (Proper s trusted) := by
    split
    · exact Action.uses_throw _
    · exact Action.uses_pure ()
  dsimp only
  split
  · exact (uses_start fun _ => hname).bind fun _ => hrest
  · exact hrest

/-! ## Mediated devices -/

theorem uses_createMediated (uuid : String) (parent : Pci.Address) (file : String) :
    ((ofSettings s).createMediated uuid parent file).Uses (Proper s trusted) := by
  refine (Action.uses_execute (proper_createMediated uuid parent _)).bind fun completion => ?_
  split
  · exact (uses_writeXml proper_readLocal (proper_write file)).bind fun _ => Action.uses_pure _
  · exact Action.uses_throw _

theorem uses_mediatedParent (uuid : String) : (mediatedParent uuid).Uses (Proper s trusted) := by
  refine (Action.uses_execute (proper_mediatedParent uuid)).bind fun completion => ?_
  dsimp only
  split
  · exact Action.uses_throw _
  · exact trivial

theorem uses_mediatedUuids : mediatedUuids.Uses (Proper s trusted) := by
  refine (Action.uses_execute proper_listMediated).bind fun completion => ?_
  split
  · exact Action.uses_throw _
  · exact Action.uses_pure _

/-! ## Operations -/

/-- What can be done with the devices of virtual machines and with mediated devices. The texts of a caller
are plain, except for the path of a file that is only written. -/
inductive DeviceOperation (h : Hypervisor) : {α : Type} → Program α → Prop
  | writeFunctionXml (file : String) (pci : Pci.Address) :
    DeviceOperation h (h.writeFunctionXml file pci).attempt
  | writeControllerXml (file : String) (pci : Pci.Address) (index chassis port : Nat) :
    DeviceOperation h (h.writeControllerXml file pci index chassis port).attempt
  | writeMediatedXml (file uuid : String) : DeviceOperation h (h.writeMediatedXml file uuid).attempt
  | attachDevice {name file : String} (hname : Plain name) (hfile : Plain file) :
    DeviceOperation h (h.attachDevice name file).attempt
  | detachDevice {name file : String} (hname : Plain name) (hfile : Plain file) :
    DeviceOperation h (h.detachDevice name file).attempt
  | attachFunction {name : String} (hname : Plain name) (pci : Pci.Address) :
    DeviceOperation h (h.attachFunction name pci).attempt
  | detachFunction {name : String} (hname : Plain name) (pci : Pci.Address) :
    DeviceOperation h (h.detachFunction name pci).attempt
  | detachMac {name mac : String} (hname : Plain name) (hmac : Plain mac) :
    DeviceOperation h (h.detachMac name mac).attempt
  | detachAll {names : List String} (hnames : ∀ name ∈ names, Plain name) :
    DeviceOperation h (h.detachAll names)
  | attachControllers {name : String} (hname : Plain name) (count : Nat) (layout : ControllerLayout) :
    DeviceOperation h (h.attachControllers name count layout).attempt
  | passthroughs {name : String} (hname : Plain name) : DeviceOperation h (h.passthroughs name).attempt
  | mediatedDevices {name : String} (hname : Plain name) :
    DeviceOperation h (h.mediatedDevices name).attempt
  | diskPath {name : String} (hname : Plain name) : DeviceOperation h (h.diskPath name).attempt
  | createMediated {uuid : String} (huuid : Plain uuid) (parent : Pci.Address) (file : String) :
    DeviceOperation h (h.createMediated uuid parent file).attempt
  | removeMediated {uuid : String} (huuid : Plain uuid) : DeviceOperation h (removeMediated uuid).attempt
  | mediatedParent {uuid : String} (huuid : Plain uuid) : DeviceOperation h (mediatedParent uuid).attempt
  | mediatedUuids : DeviceOperation h mediatedUuids.attempt

theorem DeviceOperation.follows (hsettings : trusted → s.Plain) {α : Type} {p : Program α}
    (hp : DeviceOperation (ofSettings s) p) : Follows s trusted p := by
  cases hp with
  | writeFunctionXml file pci => exact .of_uses (uses_writeXml proper_readLocal (proper_write file))
  | writeControllerXml file pci index chassis port =>
    exact .of_uses (uses_writeControllerXml proper_readLocal (proper_write file) pci index chassis port)
  | writeMediatedXml file uuid => exact .of_uses (uses_writeXml proper_readLocal (proper_write file))
  | attachDevice hname hfile => exact .of_uses (uses_attachFile hname fun _ => hfile)
  | detachDevice hname hfile => exact .of_uses (uses_detachFile hname fun _ => hfile)
  | attachFunction hname pci => exact .of_uses (uses_attachFunction hname hsettings pci)
  | detachFunction hname pci => exact .of_uses (uses_detachFunction hname hsettings pci)
  | detachMac hname hmac => exact .of_uses (uses_detachMac hname hmac)
  | detachAll hnames =>
    exact .of_uses (uses_holdsForAll fun name hname => uses_detachFrom (hnames name hname) hsettings)
  | attachControllers hname count layout =>
    exact .of_uses (uses_attachControllers hname hsettings count layout)
  | passthroughs hname | mediatedDevices hname =>
    exact .of_uses (Action.Uses.bind (uses_domain fun _ => hname) fun _ => trivial)
  | diskPath hname =>
    refine .of_uses (Action.Uses.bind (uses_domain fun _ => hname) fun domain => ?_)
    split
    · exact Action.uses_pure _
    · exact Action.uses_throw _
  | createMediated _ parent file => exact .of_uses (uses_createMediated _ parent file)
  | removeMediated _ => exact .of_uses (Action.uses_perform (proper_removeMediated _))
  | mediatedParent _ => exact .of_uses (uses_mediatedParent _)
  | mediatedUuids => exact .of_uses uses_mediatedUuids

end VirtHost.Hypervisor
