import VirtHost.Command.Host
import VirtHost.Hypervisor.Devices
import VirtHost.Listing.Host

/-! # Mediated devices

* `createMediated`, `removeMediated`: a mediated device is created on a parent, and removed.
* `mediatedParent`: the address of the parent of a mediated device.
* `mediatedUuids`: all mediated devices of a host.
-/

namespace VirtHost.Hypervisor
set_option autoImplicit false

/-- Creates a mediated device on a parent and writes its XML into a file. The host has to confirm the
UUID. -/
def createMediated (h : Hypervisor) (uuid : String) (parent : Pci.Address) (file : String) :
    Action MediatedDevice.Handle := do
  let completion ←
    Host.execute (Command.createMediated uuid parent h.settings.mediatedType)
      ({} : Host.Options).inShell
  if Text.includes completion.stdout uuid then
    let _ ← h.writeMediatedXml file uuid
    pure ⟨uuid, parent⟩
  else throw (.notFound (uuid ++ " not found in cmd output: " ++ completion.stdout))

def removeMediated (uuid : String) : Action Unit :=
  perform (Command.removeMediated uuid) ({} : Host.Options).inShell

/-- The address of the device on which a mediated device was created. -/
def mediatedParent (uuid : String) : Action Pci.Address := do
  let completion ← Host.execute (Command.mediatedParent uuid) ({} : Host.Options).inShell
  let parent := Text.trim completion.stdout.toList
  if parent.isEmpty then
    throw (.virtualFunction ("Not matched PF PCI for MDEV with UUID: " ++ uuid))
  else Action.ofExcept (Pci.Address.parse (String.ofList parent))

/-- The UUIDs of all mediated devices of the host, of which there must be one. -/
def mediatedUuids : Action (List String) := do
  let completion ← Host.execute Command.listMediated
  match Listing.uuids completion.stdout with
  | [] => throw (.notFound ("MDEV UUIDs not found!: " ++ completion.stdout))
  | uuids => pure uuids

end VirtHost.Hypervisor
