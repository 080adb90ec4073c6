import VirtHost.Command.Host
import VirtHost.Hypervisor.Basic
import VirtHost.Listing.Host

/-! # Disk images and memory

* `cloneDisk`: copies a disk image in the background and waits for the end of the copy.
* `memoryPerVm`: the memory that each of several new virtual machines gets.
-/

namespace VirtHost.Hypervisor
set_option autoImplicit false

/-- The size of a file of the host, if it can be told. -/
def fileSize? (path : String) : Program (Option Nat) := do
  match ← (Host.execute (Command.fileSize path) ({} : Host.Options).anyCode).attempt with
  | .ok completion =>
    pure (if completion.code = 0 then Listing.firstNumber completion.stdout else none)
  | .error _ => pure none

/-- Whether a copy is complete. While it is running, the size of what there is is looked up; the
percentage that is logged from it is left out. -/
def isCopied (process : Nat) (destination : String) : Action Bool := do
  if ← Host.isRunning process then
    let _ ← Action.ofProgram (fileSize? destination)
    pure false
  else pure true

/-- Copies a disk image and waits up to `seconds` for the end of the copy; gives the path of the copy.
A copy that takes longer is left running. -/
def cloneDisk (h : Hypervisor) (source destination : String) (seconds : Nat) : Action String := do
  if ← Host.fileExists source then
    let _ ← Action.ofProgram (fileSize? source)
    let process ← Host.start (Command.copyFile source destination)
    let finished ←
      Poll.await ⟨Duration.ofSeconds seconds, Duration.ofSeconds h.settings.cloneInterval⟩
        (isCopied process destination)
    if finished then pure destination else throw (.cloneTimeout source seconds)
  else throw (.fileNotFound source)

/-- The memory for each of `vms` new virtual machines, in megabytes. A host that does not tell how
much is available gives the least amount. -/
def memoryPerVm (h : Hypervisor) (vms : Nat) : Action Nat := do
  let completion ← Host.execute Command.freeMemory ({} : Host.Options).inShell.anyCode
  match Listing.firstNumber completion.stdout with
  | none => pure h.settings.ram.least
  | some free =>
    match h.settings.ram.perVm free vms with
    | some ram => pure ram
    | none => throw .notEnoughRam

end VirtHost.Hypervisor
