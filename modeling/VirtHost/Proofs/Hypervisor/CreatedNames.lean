import VirtHost.Proofs.Hypervisor.Creation
import VirtHost.Proofs.Hypervisor.CreationRequests
import VirtHost.Proofs.Hypervisor.FreeData
import VirtHost.Proofs.Text.Numeral

/-! # Names of created virtual machines

* `SameEnd`: two addresses have the same last two numbers; `nameOfAddress_eq_iff`: exactly then virtual
  machines that are named after them have the same name.
* `Under`: what is installed, started and copied under the name of a virtual machine.
* `Creation`: the creation of a virtual machine on an entry, one of several.
* `createVms_names`: several virtual machines that are created at a time, and their names.
-/

namespace VirtHost.Hypervisor
open Text (digitsOf zeroFill)
set_option autoImplicit false

/-! ## Names of addresses -/

/-- Two addresses have the same last two numbers. -/
def SameEnd (a b : Ipv4) : Prop :=
  a.third = b.third ∧ a.fourth = b.fourth

instance (a b : Ipv4) : Decidable (SameEnd a b) :=
  inferInstanceAs (Decidable (_ ∧ _))

/-- What of an address is part of a name, with a dash between the two numbers. -/
def ending (ip : Ipv4) : List Char :=
  zeroFill 3 (digitsOf 10 ip.third.toNat) ++ '-' :: zeroFill 3 (digitsOf 10 ip.fourth.toNat)

theorem ending_eq_iff {a b : Ipv4} : ending a = ending b ↔ SameEnd a b := by
  have hdash (n : Nat) : '-' ∉ zeroFill 3 (digitsOf 10 n) := by
    intro hmem
    exact Text.forall_mem_zeroFill (p := fun c => c ≠ '-') (by decide) (by decide) 3 n '-' hmem rfl
  have hinj {m n : UInt8} (h : zeroFill 3 (digitsOf 10 m.toNat) = zeroFill 3 (digitsOf 10 n.toNat)) :
      m = n :=
    UInt8.toNat_inj.1 (Text.zeroFill_digitsOf_injective (by decide) (by decide) 3 h)
  constructor
  · intro h
    have hpair := congrArg (Text.splitOnce '-') h
    rw [ending, ending, Text.splitOnce_append (hdash _), Text.splitOnce_append (hdash _)] at hpair
    obtain ⟨hthird, hfourth⟩ := Prod.mk.inj (Option.some.inj hpair)
    exact ⟨hinj hthird, hinj hfourth⟩
  · rintro ⟨hthird, hfourth⟩
    rw [ending, ending, hthird, hfourth]

theorem toList_nameOfAddress (ip : Ipv4) (stem : String) :
    (nameOfAddress ip stem).toList = stem.toList ++ '-' :: ending ip := by
  simp [nameOfAddress, octetDigits, ending]

theorem nameOfAddress_eq_iff {a b : Ipv4} {stem : String} :
    nameOfAddress a stem = nameOfAddress b stem ↔ SameEnd a b := by
  rw [← String.toList_inj, toList_nameOfAddress, toList_nameOfAddress, List.append_cancel_left_eq,
    List.cons.injEq, ending_eq_iff]
  simp

/-- The slashes at the head of a name are those of its stem. -/
theorem dropWhile_nameOfAddress (ip : Ipv4) (stem : List Char) :
    (stem ++ '-' :: ending ip).dropWhile (· = '/') =
      stem.dropWhile (· = '/') ++ '-' :: ending ip := by
  induction stem with
  | nil => rfl
  | cons c stem ih =>
    by_cases hc : c = '/'
    · simpa [hc] using ih
    · simp [hc]

theorem joinPath_nameOfAddress_eq_iff {a b : Ipv4} {directory stem : String} :
    Host.joinPath directory (nameOfAddress a stem) = Host.joinPath directory (nameOfAddress b stem) ↔
      SameEnd a b := by
  rw [Host.joinPath, Host.joinPath, String.ofList_inj, List.append_cancel_left_eq, List.cons.injEq,
    toList_nameOfAddress, toList_nameOfAddress, dropWhile_nameOfAddress, dropWhile_nameOfAddress,
    List.append_cancel_left_eq, List.cons.injEq, ending_eq_iff]
  simp

/-! ## Requests under a name -/

/-- What is installed, started and copied is that of the virtual machine with some parameters: an
installation gives it their name, and a disk is copied to the path of that name. -/
def Under (params : Vm.Parameters) : Host.Request → Prop
  | .execute command _ =>
    (Text.startsWith command "virt-install" = true →
      ∃ flags, command = "virt-install --name=" ++ params.name ++ " " ++ flags) ∧
    (Text.startsWith command "virsh start " = true → command = "virsh start " ++ params.name)
  | .start command _ => ∃ source directory, params.disk = some source ∧
      params.cloneDirectory = some directory ∧
      command = "cp " ++ source ++ " " ++ Host.joinPath directory params.name
  | _ => True

variable {h : Hypervisor} {params : Vm.Parameters} {stem : String}

/-- A command that neither installs nor starts a virtual machine. -/
theorem under_of_head?_ne {command : String} {options : Host.Options} {c : Char}
    (hhead : command.toList.head? = some c) (hc : c ≠ 'v') :
    Under params (.execute command options) := by
  have hother {head : String} (hv : head.toList.head? = some 'v') :
      Text.startsWith command head ≠ true := by
    rw [Text.startsWith_of_head?_ne hhead hv hc]
    decide
  constructor
  · intro hinstall
    exact absurd hinstall (hother (by decide +kernel))
  · intro hstart
    exact absurd hstart (hother (by decide +kernel))

theorem CreationRequest.under {request : Host.Request} (hrequest : CreationRequest h params request) :
    Under params request := by
  cases hrequest with
  | copyTemplate _ => exact under_of_head?_ne (c := 'c') (by simp [Command.copyFile]) (by decide)
  | replaceUuid uuid =>
    have hhead : "sed -i 's/<VM_UUID>/".toList.head? = some 's' := by
      decide +kernel
    exact under_of_head?_ne (Text.head?_append (Text.head?_append (Text.head?_append hhead))) (by decide)
  | fileSize path options =>
    exact under_of_head?_ne (c := 's') (by simp [Command.fileSize]) (by decide)
  | define =>
    rw [← String.append_assoc]
    constructor
    · intro hinstall
      exact absurd hinstall (Text.not_startsWith_append (by decide +kernel) (by decide +kernel))
    · intro hstart
      exact absurd hstart (Text.not_startsWith_append (by decide +kernel) (by decide +kernel))
  | startVm =>
    rw [← String.append_assoc]
    refine ⟨fun hinstall => absurd hinstall ?_, fun _ => rfl⟩
    exact Text.not_startsWith_append (by decide +kernel) (by decide +kernel)
  | copyDisk hdisk hdirectory => exact ⟨_, _, hdisk, hdirectory, rfl⟩
  | install disk suffix =>
    obtain ⟨flags, hflags⟩ := exists_virtInstall_eq params disk h.settings.largeVcpu suffix
    refine ⟨fun _ => ⟨flags, hflags⟩, fun hstart => absurd hstart ?_⟩
    rw [hflags, String.append_assoc, String.append_assoc]
    exact Text.not_startsWith_append (by decide +kernel) (by decide +kernel)
  | freshUuid | fileExists | isRunning | sleep => trivial

/-! ## Free network data -/

section
variable {t : List Exchange}

/-- Free network data is a part of that of the file, in its order, and as much as was asked for. -/
theorem sublist_of_runs_freeNetworkData {path : String} {count : Nat} {free : List Network.Entry}
    (hrun : (h.freeNetworkData path count).Runs t (.ok free)) :
    ∃ content entries, ⟨.readLocal path, .ok content⟩ ∈ t ∧
      Listing.networkData content = .ok entries ∧ free.Sublist entries ∧ free.length = count := by
  obtain ⟨u, v, entries, rfl, hread, hselect⟩ := Action.runs_bind_ok.1 hrun
  obtain ⟨u, w, content, rfl, hcontent, hparse⟩ := Action.runs_bind_ok.1 hread
  obtain ⟨reply, rest, rfl, rfl, hreply⟩ := hcontent
  obtain ⟨rfl, hentries⟩ := Action.runs_ofExcept.1 hparse
  obtain ⟨hsub, hlength⟩ := sublist_of_runs_selectFree hselect
  refine ⟨content, entries, ?_, hentries.symm, hsub, hlength⟩
  cases reply with
  | error cause => cases cause <;> cases hreply
  | ok text =>
    cases hreply
    simp

end

/-! ## Several virtual machines -/

/-- The parameters of the virtual machine that is created on an entry. -/
def paramsOn (params : Vm.Parameters) (stem : String) (entry : Network.Entry) : Vm.Parameters :=
  { params with name := nameOfAddress entry.ip stem, mac := some entry.mac }

/-- The creation of a virtual machine on an entry, with its exchanges and its result. -/
structure Creation (h : Hypervisor) (params : Vm.Parameters) (stem : String) where
  entry : Network.Entry
  exchanges : List Exchange
  result : Except Error String
  runs : (h.createVm (paramsOn params stem entry)).Runs exchanges result

namespace Creation

def name (c : Creation h params stem) : String :=
  nameOfAddress c.entry.ip stem

/-- The file in a directory that a disk is copied to. -/
def copyPath (directory : String) (c : Creation h params stem) : String :=
  Host.joinPath directory c.name

theorem under (c : Creation h params stem) :
    ∀ e ∈ c.exchanges, Under (paramsOn params stem c.entry) e.request := by
  intro e he
  exact (uses_createVm.of_runs c.runs e he).under

end Creation

/-- The virtual machines are created one after the other, up to the first one that cannot be. -/
theorem runs_createOnEntries {entries : List Network.Entry} {t : List Exchange}
    {r : Except Error (List (String × Ipv4))} (hrun : (h.createOnEntries params stem entries).Runs t r) :
    ∃ creations : List (Creation h params stem), t = creations.flatMap Creation.exchanges ∧
      creations.map Creation.entry <+: entries ∧
      (∀ created, r = .ok created → creations.map Creation.entry = entries ∧
        created = creations.map fun c => (c.name, c.entry.ip)) ∧
      ∀ e, r = .error e → ∃ c, creations.getLast? = some c ∧ c.result = .error e := by
  induction entries generalizing t r with
  | nil =>
    obtain ⟨rfl, rfl⟩ := Action.runs_pure.1 hrun
    refine ⟨[], rfl, List.nil_prefix, ?_, fun e he => by cases he⟩
    intro created hcreated
    exact ⟨rfl, (Except.ok.inj hcreated).symm⟩
  | cons entry rest ih =>
    rcases Action.runs_bind.1 hrun with ⟨e, he, rfl⟩ | ⟨u, v, name, rfl, hu, hv⟩
    · refine ⟨[⟨entry, t, .error e, he⟩], by simp, by simp, ?_, ?_⟩
      · intro created hcreated
        cases hcreated
      · intro e' he'
        cases he'
        exact ⟨_, rfl, rfl⟩
    · obtain ⟨o, ho, rfl⟩ := Action.runs_bind_pure.1 hv
      obtain ⟨creations, rfl, hentries, hok, herror⟩ := ih ho
      obtain rfl : name = nameOfAddress entry.ip stem := eq_of_runs_createVm hu
      refine ⟨⟨entry, u, .ok _, hu⟩ :: creations, by simp, ?_, ?_, ?_⟩
      · rw [List.map_cons, List.cons_prefix_cons]
        exact ⟨rfl, hentries⟩
      · intro created hcreated
        cases o with
        | error e => cases hcreated
        | ok others =>
          cases hcreated
          obtain ⟨hall, rfl⟩ := hok others rfl
          exact ⟨by rw [List.map_cons, hall], rfl⟩
      · intro e he
        cases o with
        | ok others => cases he
        | error e' =>
          obtain ⟨c, hc, hresult⟩ := herror e' rfl
          cases he
          refine ⟨c, ?_, hresult⟩
          rw [List.getLast?_cons, hc]
          rfl

theorem runs_createVms {count : Nat} {path : String} {t : List Exchange}
    {r : Except Error (List (String × Ipv4))} (hrun : (h.createVms count params path stem).Runs t r) :
    (∃ e, (h.freeNetworkData path count).Runs t (.error e) ∧ r = .error e) ∨
      ∃ u v free, t = u ++ v ∧ (h.freeNetworkData path count).Runs u (.ok free) ∧
        (h.createOnEntries params stem free).Runs v r :=
  Action.runs_bind.1 hrun

/-- If no two entries end alike, no two names are the same, nor are two paths to which a disk is
copied. -/
theorem nodup_of_sublist {entries : List Network.Entry} {creations : List (Creation h params stem)}
    (hsub : (creations.map Creation.entry).Sublist entries)
    (hdistinct : entries.Pairwise fun a b => ¬ SameEnd a.ip b.ip) :
    (creations.map Creation.name).Nodup ∧
      ∀ directory, (creations.map (Creation.copyPath directory)).Nodup := by
  have hpairwise : creations.Pairwise fun c d => ¬ SameEnd c.entry.ip d.entry.ip :=
    List.pairwise_map.1 (hdistinct.sublist hsub)
  constructor
  · rw [List.Nodup, List.pairwise_map]
    exact hpairwise.imp fun hends hname => hends (nameOfAddress_eq_iff.1 hname)
  · intro directory
    rw [List.Nodup, List.pairwise_map]
    exact hpairwise.imp fun hends hpath => hends (joinPath_nameOfAddress_eq_iff.1 hpath)

/-- **Names of created virtual machines.** Several virtual machines are created on free entries of the
file, in its order, each one under the name that its address gives. Two such names are the same exactly
if the addresses have the same last two numbers, and so are the paths to which their disks are copied.
So if no two entries of the file end alike, no virtual machine is installed under the name of another
one, and no disk is copied over that of another one. Without an error there are as many as were asked
for; otherwise the last one could not be created, or there were no entries to create any on. -/
theorem createVms_names (h : Hypervisor) (count : Nat) (params : Vm.Parameters) (path stem : String)
    {t : List Exchange} {r : Except Error (List (String × Ipv4))}
    (hrun : (h.createVms count params path stem).Runs t r) :
    (∀ a b, (nameOfAddress a stem = nameOfAddress b stem ↔ SameEnd a b) ∧
      ∀ directory, Host.joinPath directory (nameOfAddress a stem) =
        Host.joinPath directory (nameOfAddress b stem) ↔ SameEnd a b) ∧
    ((∃ e, r = .error e ∧ (h.freeNetworkData path count).Runs t (.error e) ∧
        ∀ e ∈ t, ProbingRequest path e.request) ∨
      ∃ probing content entries, ∃ creations : List (Creation h params stem),
        t = probing ++ creations.flatMap Creation.exchanges ∧
        (∀ e ∈ probing, ProbingRequest path e.request) ∧
        ⟨.readLocal path, .ok content⟩ ∈ probing ∧ Listing.networkData content = .ok entries ∧
        (creations.map Creation.entry).Sublist entries ∧
        (∀ c ∈ creations, ∀ e ∈ c.exchanges, Under (paramsOn params stem c.entry) e.request) ∧
        ((entries.Pairwise fun a b => ¬ SameEnd a.ip b.ip) →
          (creations.map Creation.name).Nodup ∧
            ∀ directory, (creations.map (Creation.copyPath directory)).Nodup) ∧
        (∀ created, r = .ok created → creations.length = count ∧
          created = creations.map fun c => (c.name, c.entry.ip)) ∧
        ∀ e, r = .error e → ∃ c, creations.getLast? = some c ∧ c.result = .error e) := by
  refine ⟨fun a b => ⟨nameOfAddress_eq_iff, fun directory => joinPath_nameOfAddress_eq_iff⟩, ?_⟩
  rcases runs_createVms hrun with ⟨e, he, hr⟩ | ⟨probing, v, free, rfl, hfree, hcreate⟩
  · exact .inl ⟨e, hr, he, (uses_freeNetworkData path count).of_runs he⟩
  · obtain ⟨content, entries, hcontent, hentries, hsub, hlength⟩ := sublist_of_runs_freeNetworkData hfree
    obtain ⟨creations, rfl, hcreated, hok, herror⟩ := runs_createOnEntries hcreate
    have hmade := hcreated.sublist.trans hsub
    refine .inr ⟨probing, content, entries, creations, rfl,
      (uses_freeNetworkData path count).of_runs hfree, hcontent, hentries, hmade,
      fun c _ => c.under, nodup_of_sublist hmade, ?_, herror⟩
    intro created hr
    obtain ⟨hall, hnames⟩ := hok created hr
    refine ⟨?_, hnames⟩
    rw [← hlength, ← hall, List.length_map]

/-- A network-data file with two entries. -/
def twoEntries (a b : Ipv4) : String :=
  "[kvm]\n" ++ a.text ++ " 52:54:00:00:00:01\n" ++ b.text ++ " 52:54:00:00:00:02\n"

/-- Virtual machines with a copy of a disk each. -/
def onCopies : Vm.Parameters :=
  { disk := some "/images/base.img", cloneDirectory := some "/vms" }

/-- The exchanges in which nothing answers at an address. -/
def unanswered (ip : Ipv4) : Exchange :=
  .ran (Command.ping ip.text) ({} : Host.Options).anyCode (Host.refused "")

/-- The exchanges in which a disk is copied and a virtual machine is installed on the copy. -/
def installedOnCopy (h : Hypervisor) (params : Vm.Parameters) : List Exchange :=
  let copy := Host.joinPath "/vms" params.name
  [⟨.fileExists "/images/base.img", .ok true⟩,
    .ran (Command.fileSize "/images/base.img") ({} : Host.Options).anyCode (Host.printed "1024"),
    ⟨.start ("cp /images/base.img " ++ copy) false, .ok 0⟩, ⟨.isRunning 0, .ok false⟩,
    .ran (h.installCommand params (some copy)) {} (Host.printed "")]

/-- The exchanges in which two virtual machines are created, one on each of two free addresses. -/
def twoCreated (a b : Ipv4) : List Exchange :=
  [⟨.readLocal "net.conf", .ok (twoEntries a b)⟩, unanswered a, unanswered b] ++
    installedOnCopy {} (paramsOn onCopies "vm" ⟨a, "52:54:00:00:00:01"⟩) ++
    installedOnCopy {} (paramsOn onCopies "vm" ⟨b, "52:54:00:00:00:02"⟩)

theorem createVms_names_two :
    let h : Hypervisor := {}
    let a : Ipv4 := ⟨10, 0, 0, 1⟩
    let b : Ipv4 := ⟨10, 0, 1, 1⟩
    (h.createVms 2 onCopies "net.conf" "vm").Runs (twoCreated a b)
        (.ok [("vm-000-001", a), ("vm-001-001", b)]) ∧
      ∃ creations : List (Creation h onCopies "vm"),
        [("vm-000-001", a), ("vm-001-001", b)] = creations.map (fun c => (c.name, c.entry.ip)) ∧
        (creations.map Creation.name).Nodup ∧ (creations.map (Creation.copyPath "/vms")).Nodup := by
  intro h a b
  have hrun : (h.createVms 2 onCopies "net.conf" "vm").Runs (twoCreated a b)
      (.ok [("vm-000-001", a), ("vm-001-001", b)]) :=
    Action.runs_of_play (by decide +kernel)
  obtain ⟨-, ⟨e, he, -⟩ | ⟨probing, content, entries, creations, ht, -, hcontent, hentries, -, -, hnodup,
    hok, -⟩⟩ := createVms_names h 2 onCopies "net.conf" "vm" hrun
  · cases he
  · have hmem : ⟨.readLocal "net.conf", .ok content⟩ ∈ twoCreated a b := by
      rw [ht]
      exact List.mem_append_left _ hcontent
    have hfile : content = twoEntries a b := by
      simpa [twoCreated, unanswered, installedOnCopy, Exchange.ran] using hmem
    have hparsed : Listing.networkData (twoEntries a b) =
        .ok [⟨a, "52:54:00:00:00:01"⟩, ⟨b, "52:54:00:00:00:02"⟩] := by
      decide +kernel
    rw [hfile, hparsed] at hentries
    cases hentries
    obtain ⟨hnames, hpaths⟩ := hnodup (by decide)
    exact ⟨hrun, creations, (hok _ rfl).2, hnames, hpaths "/vms"⟩

/-- Two addresses that differ in their second number only: both virtual machines are installed under one
name, and their disks are copied to one path. -/
theorem createVms_sameNames :
    let h : Hypervisor := {}
    let a : Ipv4 := ⟨10, 0, 0, 1⟩
    let b : Ipv4 := ⟨10, 1, 0, 1⟩
    a ≠ b ∧
      Listing.networkData (twoEntries a b) =
        .ok [⟨a, "52:54:00:00:00:01"⟩, ⟨b, "52:54:00:00:00:02"⟩] ∧
      (h.createVms 2 onCopies "net.conf" "vm").Runs (twoCreated a b)
        (.ok [("vm-000-001", a), ("vm-000-001", b)]) ∧
      ((twoCreated a b).map Exchange.request).count
        (.start "cp /images/base.img /vms/vm-000-001" false) = 2 := by
  intro h a b
  have hrun : (h.createVms 2 onCopies "net.conf" "vm").Runs (twoCreated a b)
      (.ok [("vm-000-001", a), ("vm-000-001", b)]) :=
    Action.runs_of_play (by decide +kernel)
  exact ⟨by decide, by decide +kernel, hrun, by decide +kernel⟩

end VirtHost.Hypervisor
