import VirtHost.Hypervisor.Mediated
import VirtHost.Proofs.Hypervisor.CreationRequests
import VirtHost.Proofs.Hypervisor.Devices
import VirtHost.Proofs.Text.Scan

/-! # Actions that leave the files of the kernel alone

The files of the kernel are written by `echo`. Finding network data, creating a virtual machine, waiting
for it and attaching a device to it run no such command.
-/

namespace VirtHost.Hypervisor
set_option autoImplicit false

/-- A request that runs no `echo`. -/
def NoEcho : Host.Request → Prop
  | .execute command _ => Text.startsWith command "echo" = false
  | .start command _ => Text.startsWith command "echo" = false
  | _ => True

variable {h : Hypervisor}

/-! ## Commands -/

theorem startsWith_echo {command : String} {c : Char} (hhead : command.toList.head? = some c)
    (hc : c ≠ 'e') : Text.startsWith command "echo" = false :=
  Text.startsWith_of_head?_ne hhead (d := 'e') (by decide +kernel) hc

theorem noEcho_virsh (arguments : String) (options : Host.Options) :
    NoEcho (.execute ("virsh " ++ arguments) options) :=
  startsWith_echo (c := 'v') (by simp) (by decide)

theorem noEcho_virtInstall (params : Vm.Parameters) (disk : Option String)
    (policy : Command.LargeVcpuPolicy) (suffix : Option Command.InstallSuffix)
    (options : Host.Options) :
    NoEcho (.execute (Command.virtInstall params disk policy suffix) options) := by
  refine startsWith_echo (c := 'v') ?_ (by decide)
  simp [Command.virtInstall, Command.installParts, Command.joinStrings]

theorem startsWith_echo_copyFile (source destination : String) :
    Text.startsWith (Command.copyFile source destination) "echo" = false :=
  startsWith_echo (c := 'c') (by simp [Command.copyFile]) (by decide)

/-! ## Virtual machines -/

theorem noEcho_freeNetworkData (path : String) (count : Nat) :
    (h.freeNetworkData path count).Uses NoEcho := by
  refine (uses_freeNetworkData path count).mono fun request hrequest => ?_
  cases hrequest with
  | file => trivial
  | ping ip options => exact startsWith_echo (c := 'p') (by simp [Command.ping]) (by decide)

theorem noEcho_createVm (params : Vm.Parameters) : (h.createVm params).Uses NoEcho := by
  refine uses_createVm.mono fun request hrequest => ?_
  cases hrequest with
  | copyTemplate _ => exact startsWith_echo_copyFile _ _
  | replaceUuid uuid =>
    have hhead : "sed -i 's/<VM_UUID>/".toList.head? = some 's' := by decide +kernel
    exact startsWith_echo (Text.head?_append (Text.head?_append (Text.head?_append hhead))) (by decide)
  | define => exact noEcho_virsh _ _
  | startVm => exact noEcho_virsh _ _
  | fileSize path options =>
    exact startsWith_echo (c := 's') (by simp [Command.fileSize]) (by decide)
  | copyDisk _ _ => exact startsWith_echo_copyFile _ _
  | install disk suffix => exact noEcho_virtInstall _ _ _ _ _
  | freshUuid | fileExists | isRunning | sleep => trivial

theorem noEcho_awaitRunning (name : String) : (h.awaitRunning name).Uses NoEcho := by
  refine Poll.uses_await ?_ fun _ => trivial
  exact (Virsh.uses_status (noEcho_virsh _ _)).bind fun _ => Action.uses_pure _

/-! ## Devices -/

theorem noEcho_writeMediatedXml (file uuid : String) : (h.writeMediatedXml file uuid).Uses NoEcho :=
  uses_writeXml (fun _ => trivial) fun _ => trivial

theorem noEcho_attachDevice (name file : String) : (h.attachDevice name file).Uses NoEcho :=
  uses_attachDevice (noEcho_virsh _ _) fun _ => noEcho_virsh _ _

end VirtHost.Hypervisor
