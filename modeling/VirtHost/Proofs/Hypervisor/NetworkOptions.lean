import VirtHost.Proofs.Hypervisor.CreationRequests
import VirtHost.Proofs.Hypervisor.VmOptions

/-! # Commands for networks

* `NetworkOperation`: what a caller can do with network data, bridges, trunks, tag protocols and the networks
  of virtual machines.
* `NetworkOperation.follows`: the commands for that are run as they are to be run.
-/

namespace VirtHost.Hypervisor
open Shell (Plain plain_append)
set_option autoImplicit false

variable {s : Settings} {trusted : Prop}

theorem uses_probing (path : String) (count : Nat) :
    ((ofSettings s).freeNetworkData path count).Uses (Proper s trusted) :=
  (uses_networkDataOf (proper_readLocal path)).bind fun entries =>
    uses_selectFree proper_ping entries count

theorem uses_trimmedOutput {command : String} (h : Proper s trusted (.execute command {})) :
    (trimmedOutput command).Uses (Proper s trusted) :=
  (Action.uses_execute h).bind fun _ => Action.uses_pure _

theorem uses_setTrunk (interface action : String) (vlan id : Nat) :
    (setTrunk interface action vlan id).Uses (Proper s trusted) :=
  Action.Uses.bind (a := Action.ofExcept _) trivial fun action =>
    Action.uses_perform (proper_setTrunk interface action vlan id)

/-! ## Operations -/

/-- What can be done with network data, bridges, trunks, tag protocols and the networks of virtual machines.
The texts of a caller are plain, except for the path of a local file and the word for a change. -/
inductive NetworkOperation (h : Hypervisor) : {α : Type} → Program α → Prop
  | networkDataOf (path : String) : NetworkOperation h (networkDataOf path).attempt
  | freeNetworkData (path : String) (count : Nat) :
    NetworkOperation h (h.freeNetworkData path count).attempt
  | selectFree (entries : List Network.Entry) (count : Nat) :
    NetworkOperation h (h.selectFree entries count).attempt
  | createBridge {bridge : String} (hbridge : Plain bridge) :
    NetworkOperation h (createBridge bridge).attempt
  | deleteBridge {bridge : String} (hbridge : Plain bridge) :
    NetworkOperation h (deleteBridge bridge).attempt
  | addInterfaceToBridge {bridge interface : String} (hbridge : Plain bridge)
    (hinterface : Plain interface) : NetworkOperation h (addInterfaceToBridge bridge interface).attempt
  | setTrunk {interface : String} (hinterface : Plain interface) (action : String) (vlan id : Nat) :
    NetworkOperation h (setTrunk interface action vlan id).attempt
  | getTrunk {interface : String} (hinterface : Plain interface) (id : Nat) :
    NetworkOperation h (getTrunk interface id).attempt
  | setTpid {interface tpid : String} (hinterface : Plain interface) (htpid : Plain tpid) :
    NetworkOperation h (setTpid interface tpid).attempt
  | getTpid {interface : String} (hinterface : Plain interface) :
    NetworkOperation h (getTpid interface).attempt
  | createNetwork {path : String} (hpath : Plain path) : NetworkOperation h (h.tool.createNetwork path)
  | destroyNetwork {network : String} (hnetwork : Plain network) :
    NetworkOperation h (h.tool.destroyNetwork network)
  | networks : NetworkOperation h h.tool.networks
  | attachNetwork {name network : String} (hname : Plain name) (hnetwork : Plain network) :
    NetworkOperation h (h.tool.attachNetwork name network)

theorem NetworkOperation.follows {α : Type} {p : Program α}
    (hp : NetworkOperation (ofSettings s) p) : Follows s trusted p := by
  cases hp with
  | networkDataOf path => exact .of_uses (uses_networkDataOf (proper_readLocal path))
  | freeNetworkData path count => exact .of_uses (uses_probing path count)
  | selectFree entries count => exact .of_uses (uses_selectFree proper_ping entries count)
  | createBridge hbridge => exact .of_uses (Action.uses_perform (proper_addBridge hbridge))
  | deleteBridge hbridge => exact .of_uses (Action.uses_perform (proper_deleteBridge hbridge))
  | addInterfaceToBridge hbridge hinterface =>
    exact .of_uses (Action.uses_perform (proper_addToBridge hbridge hinterface))
  | setTrunk _ action vlan id => exact .of_uses (uses_setTrunk _ action vlan id)
  | getTrunk hinterface id => exact .of_uses (uses_trimmedOutput (proper_getTrunk hinterface id))
  | setTpid _ _ => exact .of_uses (Action.uses_perform (proper_setTpid _ _))
  | getTpid hinterface => exact .of_uses (uses_trimmedOutput (proper_getTpid hinterface))
  | createNetwork hpath =>
    exact .of_uses (Program.Uses.bind (uses_output? fun _ => plain_append.2 ⟨by decide, hpath⟩)
      fun _ => trivial)
  | destroyNetwork hnetwork =>
    exact .of_uses (Program.Uses.bind (uses_output? fun _ => plain_append.2 ⟨by decide, hnetwork⟩)
      fun _ => trivial)
  | networks =>
    refine .of_uses (Program.Uses.bind (uses_output? fun _ => by decide) fun o => ?_)
    cases o <;> exact trivial
  | attachNetwork hname hnetwork =>
    exact .of_uses (Program.Uses.bind (uses_output? fun _ => by simp +decide [hname, hnetwork])
      fun _ => trivial)

end VirtHost.Hypervisor
