import VirtHost.Proofs.Hypervisor.Printed
import VirtHost.Proofs.Hypervisor.VirtualFunctionLookup
import VirtHost.Proofs.Listing.KernelDevices

/-! # Drivers of virtual functions

A virtual function is looked for by its short address among the devices of the host.

* `Host.devices`: the reply of a host that is asked for its devices.
* `run_isReadyForPassthrough`: what a device says about the driver of a virtual function.
* `driver_by_short_address`: the driver of a virtual function in a listing of blocks.
-/

namespace VirtHost
set_option autoImplicit false

/-- The reply of a host to a query for its devices, and the state after it. -/
def Host.devices {σ : Type} (host : Host σ) (s : σ) : Except Error Host.Completion × σ :=
  host s (.execute Command.listKernelDevices {})

namespace Hypervisor
open Listing (AddressForm DeviceBlock ShowsLink)
open Text (Lined)
open VirtualFunction (Link)

/-- How it is said that no device has an address. -/
def missingDevice (a : Pci.Address) : Error :=
  .notFound ("VF PCI: " ++ a.shortText
    ++ " is missing in `lspci -k` output. Cannot check VF attaching state.")

/-- What is said about the driver of the device at an address. -/
def deviceVerdict (devices : List KernelDevice) (a : Pci.Address) : Except Error Bool :=
  match devices.find? (·.address = a.shortText) with
  | some device => .ok (device.driver = some "vfio-pci")
  | none => .error (missingDevice a)

/-! ## The device at an address -/

section
variable {blocks : List DeviceBlock} {b : DeviceBlock} {a : Pci.Address}

theorem deviceVerdict_long (blocks : List DeviceBlock) (a : Pci.Address) :
    deviceVerdict (blocks.map (DeviceBlock.shown .long)) a = .error (missingDevice a) := by
  have hnone : (blocks.map (DeviceBlock.shown .long)).find? (·.address = a.shortText) = none := by
    simp only [List.find?_eq_none, List.forall_mem_map, decide_eq_true_eq]
    intro b _ h
    exact Listing.long_ne_short b.address a (String.ofList_injective h)
  rw [deviceVerdict, hnone]

theorem address_shown_short (hdomain : b.address.domain = a.domain) :
    (b.shown .short).address = a.shortText ↔ b.address = a := by
  rw [← Listing.shortChars_eq_iff hdomain]
  exact String.ofList_inj

theorem deviceVerdict_short_of_mem (hdomain : ∀ b ∈ blocks, b.address.domain = a.domain)
    (hdistinct : (blocks.map DeviceBlock.address).Nodup) (hb : b ∈ blocks) (hba : b.address = a) :
    deviceVerdict (blocks.map (DeviceBlock.shown .short)) a = .ok (b.driver = some "vfio-pci") := by
  subst hba
  have hfind := Text.find?_eq_some_of_nodup
    (p := (fun device : KernelDevice => device.address = b.address.shortText) ∘ DeviceBlock.shown .short)
    hdistinct hb fun c hc => by simpa using address_shown_short (hdomain c hc)
  rw [deviceVerdict, List.find?_map, hfind]
  rfl

theorem deviceVerdict_short_of_forall_ne (hdomain : ∀ b ∈ blocks, b.address.domain = a.domain)
    (h : ∀ b ∈ blocks, b.address ≠ a) :
    deviceVerdict (blocks.map (DeviceBlock.shown .short)) a = .error (missingDevice a) := by
  have hnone : (blocks.map (DeviceBlock.shown .short)).find? (·.address = a.shortText) = none := by
    simp only [List.find?_eq_none, List.forall_mem_map, decide_eq_true_eq]
    exact fun b hb hshown => h b hb ((address_shown_short (hdomain b hb)).1 hshown)
  rw [deviceVerdict, hnone]

end

/-! ## On a host -/

section
variable {σ : Type} {host : Host σ} {s : σ} {link : Link} {shown text : String} (rounds : Nat)
  (interface : String)

/-- The reply to a query for the link to a virtual function of an interface. -/
def functionLink (host : Host σ) (s : σ) (interface : String) (id : Nat) :
    Except Error Host.Completion × σ :=
  host.listing s (Command.listVirtualFunction (Command.interfaceDirectory interface) id)

theorem run_addressOfFunction (hid : link.id ≤ Text.limit32) (hlink : ShowsLink link shown.toList)
    (h : Prints shown (functionLink host s interface link.id).1) :
    (addressOfFunction interface link.id).attempt.run host rounds s =
      some (.ok (Listing.reported link).target, (functionLink host s interface link.id).2) := by
  obtain ⟨c, hreply, hcode, rfl⟩ := h
  exact Action.run_bind_of_ok
    (run_linksOf_of_ok rounds hreply hcode (Listing.virtualFunctionLinks_of_showsLink hid hlink))

/-- The domain of a link makes no difference. -/
theorem run_isReadyForPassthrough (hid : link.id ≤ Text.limit32) (hlink : ShowsLink link shown.toList)
    (hshown : Prints shown (functionLink host s interface link.id).1)
    (htext : Prints text (host.devices (functionLink host s interface link.id).2).1) :
    (isReadyForPassthrough interface link.id).attempt.run host rounds s =
      some (deviceVerdict (Listing.kernelDevices text) link.target,
        (host.devices (functionLink host s interface link.id).2).2) := by
  obtain ⟨c, rfl, hcommand⟩ := run_execute_of_prints rounds rfl htext
  refine (Action.run_bind_of_ok (run_addressOfFunction rounds interface hid hlink hshown)).trans ?_
  refine (Action.run_bind_of_ok hcommand).trans ?_
  have hshort : (Listing.reported link).target.shortText = link.target.shortText := rfl
  rw [deviceVerdict, hshort]
  cases (Listing.kernelDevices c.stdout).find? (·.address = link.target.shortText) <;> rfl

end

/-- **Drivers of virtual functions.** A virtual function is looked for by the short form of its address. If
the devices are listed in that form and are all in its domain, it is held by the driver for passthrough
exactly if its own block names it, and it is missing exactly if it has no block. In a listing with the long
form it is always missing. -/
theorem driver_by_short_address (interface : String) {link : Link} (hid : link.id ≤ Text.limit32)
    {form : AddressForm} {blocks : List DeviceBlock} (hdistinct : (blocks.map DeviceBlock.address).Nodup)
    {shown text : String} (hlink : ShowsLink link shown.toList)
    (hblocks : Lined (blocks.flatMap (DeviceBlock.lines form)) text)
    {σ : Type} (host : Host σ) (s : σ) (rounds : Nat)
    (hshown : Prints shown (functionLink host s interface link.id).1)
    (htext : Prints text (host.devices (functionLink host s interface link.id).2).1) :
    let run := (isReadyForPassthrough interface link.id).attempt.run host rounds s
    let after := (host.devices (functionLink host s interface link.id).2).2
    (form = .short → (∀ b ∈ blocks, b.address.domain = link.target.domain) →
      (∀ b ∈ blocks, b.address = link.target →
        run = some (.ok (b.driver = some "vfio-pci"), after)) ∧
      (run = some (.error (missingDevice link.target), after) ↔ ∀ b ∈ blocks, b.address ≠ link.target)) ∧
    (form = .long → run = some (.error (missingDevice link.target), after)) := by
  intro run after
  have hrun : run = some (deviceVerdict (blocks.map (DeviceBlock.shown form)) link.target, after) := by
    rw [← Listing.kernelDevices_of_lined hblocks]
    exact run_isReadyForPassthrough rounds interface hid hlink hshown htext
  refine ⟨?_, ?_⟩
  · rintro rfl hdomain
    have hfound (b : DeviceBlock) (hb : b ∈ blocks) (hba : b.address = link.target) :
        run = some (.ok (b.driver = some "vfio-pci"), after) := by
      rw [hrun, deviceVerdict_short_of_mem hdomain hdistinct hb hba]
    refine ⟨hfound, fun hmissing b hb hba => ?_, fun h => ?_⟩
    · rw [hfound b hb hba] at hmissing
      simp at hmissing
    · rw [hrun, deviceVerdict_short_of_forall_ne hdomain h]
  · rintro rfl
    rw [hrun, deviceVerdict_long]

/-- The block of a device that is held by the driver for passthrough. -/
def heldBlock (a : Pci.Address) : DeviceBlock where
  address := a
  description := " Ethernet controller".toList
  driver := some "vfio-pci"
  body := ["\tSubsystem: X710".toList, "\tKernel driver in use: vfio-pci".toList,
    "\tKernel modules: i40evf".toList]
  isIndented_description := by decide +kernel
  isIndented_body := by decide +kernel
  among := .other (by decide +kernel) (.shown
    ⟨by decide +kernel, ['\t'], [' '], [], by decide, by decide, by decide, by decide +kernel⟩
    (.other (by decide +kernel) .nil))

/-- The block of a device that no driver holds. -/
def freeBlock (a : Pci.Address) : DeviceBlock where
  address := a
  description := []
  driver := none
  body := [[]]
  isIndented_description := by decide
  isIndented_body := by decide
  among := .other (by decide +kernel) .nil

/-- A host with one link and a list of devices. -/
def answering (shown text : String) : Host Unit := fun s request =>
  match request with
  | .execute command _ => (Host.printed (if command = Command.listKernelDevices then text else shown), s)
  | request => (Host.anyReply request, s)

/-- The link to a virtual function. -/
def oneLink (link : Link) : String :=
  String.ofList ("lrwxrwxrwx 1 root root 0 Jan 27 13:53 /sys/class/net/eth1/device/".toList ++
    (Listing.linkHead link.id ++ (['.', '.', '/'] ++ link.target.chars ++ ['\n'])))

theorem showsLink_oneLink (link : Link) : ShowsLink link (oneLink link).toList :=
  ⟨_, _, _, Listing.lacksArrow_of_notMem (by decide +kernel), Listing.isBlank_upward, by decide,
    Listing.endsWord_newline [], Listing.lacksArrow_of_notMem (by decide), String.toList_ofList⟩

/-- The listing of some blocks. -/
def blockText (form : AddressForm) (blocks : List DeviceBlock) : String :=
  String.ofList (Text.join ['\n'] (blocks.flatMap (DeviceBlock.lines form)))

theorem driver_by_short_address_two :
    let link : Link := ⟨0, ⟨0, 0x18, 0x10, 1⟩⟩
    let blocks := [heldBlock link.target, freeBlock ⟨0, 0x17, 2, 0⟩]
    let host := answering (oneLink link) (blockText .short blocks)
    Lined (blocks.flatMap (DeviceBlock.lines .short)) (blockText .short blocks) ∧
      (isReadyForPassthrough "eth1" 0).attempt.run host 0 () = some (.ok true, ()) := by
  intro link blocks host
  have hlined : Lined (blocks.flatMap (DeviceBlock.lines .short)) (blockText .short blocks) :=
    ⟨String.toList_ofList, by decide +kernel⟩
  have hshown : Prints (oneLink link) (functionLink host () "eth1" 0).1 := ⟨_, rfl, rfl, rfl⟩
  have htext : Prints (blockText .short blocks) (host.devices ()).1 := ⟨_, rfl, rfl, rfl⟩
  obtain ⟨hshort, -⟩ := driver_by_short_address "eth1" (by decide) (by decide)
    (showsLink_oneLink link) hlined host () 0 hshown htext
  obtain ⟨hfound, -⟩ := hshort rfl (by decide)
  exact ⟨hlined, hfound (heldBlock link.target) List.mem_cons_self rfl⟩

/-- A host with devices in two domains, on which they are listed in the long form. -/
theorem driver_missing_in_long_form :
    let link : Link := ⟨0, ⟨0, 0x18, 0x10, 1⟩⟩
    let blocks := [heldBlock link.target, freeBlock ⟨1, 0x17, 2, 0⟩]
    let host := answering (oneLink link) (blockText .long blocks)
    ShowsLink link (oneLink link).toList ∧
      Lined (blocks.flatMap (DeviceBlock.lines .long)) (blockText .long blocks) ∧
      Prints (oneLink link) (functionLink host () "eth1" 0).1 ∧
      Prints (blockText .long blocks) (host.devices ()).1 ∧
      (blocks.map DeviceBlock.address).Nodup ∧ heldBlock link.target ∈ blocks ∧
      (heldBlock link.target).address = link.target ∧ (heldBlock link.target).driver = some "vfio-pci" ∧
      (isReadyForPassthrough "eth1" 0).attempt.run host 0 () =
        some (.error (missingDevice link.target), ()) := by
  intro link blocks host
  have hlined : Lined (blocks.flatMap (DeviceBlock.lines .long)) (blockText .long blocks) :=
    ⟨String.toList_ofList, by decide +kernel⟩
  have hshown : Prints (oneLink link) (functionLink host () "eth1" 0).1 := ⟨_, rfl, rfl, rfl⟩
  have htext : Prints (blockText .long blocks) (host.devices ()).1 := ⟨_, rfl, rfl, rfl⟩
  refine ⟨showsLink_oneLink link, hlined, hshown, htext, by decide, List.mem_cons_self, rfl, rfl, ?_⟩
  have hrun := run_isReadyForPassthrough 0 "eth1" (by decide) (showsLink_oneLink link)
    hshown htext
  rwa [Listing.kernelDevices_of_lined hlined, deviceVerdict_long] at hrun

end Hypervisor
end VirtHost
