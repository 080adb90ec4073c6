import VirtHost.Hypervisor.Devices
import VirtHost.Proofs.Hypervisor.Printed
import VirtHost.Proofs.Virsh
import VirtHost.Proofs.Xml.Devices

/-! # The file of a disk

The file that is reported for the disk of a virtual machine is the first one that a source names, in document
order, whatever device that source belongs to.

* `IsFileSource`, `IsFileDisk`, `ImageAt`: sources that are files, hard disks with such a source, and where
  the image of a hard disk is named.
* `diskFile?_eq_some_iff`: which file is found in a domain.
* `diskPath_eq_first`: which file is reported, and when it is that of the first hard disk.
* `diskPath_of_cdrom`: a medium that is reported in place of the disk.
-/

namespace VirtHost.Xml.Domain
set_option autoImplicit false

variable {domain disk e : Node} {p : List Nat} {i : Nat} {file : String}

/-- A source that names a file. -/
def IsFileSource (e : Node) : Prop :=
  e.name = "source" ∧ ∃ file, e.FirstAttr "file" file

/-- The image of a disk: the first of its children that is a source with a file. -/
structure ImageAt (disk : Node) (i : Nat) (file : String) : Prop where
  source : ∃ e, disk.children[i]? = some e ∧ e.name = "source" ∧ e.FirstAttr "file" file
  first : ∀ j c, j < i → disk.children[j]? = some c → ¬ IsFileSource c

/-- A hard disk, and not another kind of drive, whose image is a file. -/
def IsFileDisk (e : Node) : Prop :=
  e.name = "disk" ∧ e.FirstAttr "device" "disk" ∧ ∃ i file, ImageAt e i file

theorem findSome?_filter {α β : Type} (as : List α) (kind : α → Bool) (f : α → Option β) :
    (as.filter kind).findSome? f = (as.filter fun a => kind a && (f a).isSome).head?.bind f := by
  induction as with
  | nil => rfl
  | cons a as ih => cases hkind : kind a <;> cases hf : f a <;> simp [hkind, hf, ih]

theorem isFileSource_iff :
    (decide (e.name = "source") && (e.attr? "file").isSome) = true ↔ IsFileSource e := by
  simp [IsFileSource, Option.isSome_iff_exists, Node.attr?_eq_some_iff]

theorem diskFile?_eq_some_iff : diskFile? domain = some file ↔
    ∃ p e, domain.FirstAt IsFileSource p e ∧ e.FirstAttr "file" file := by
  have hsources := Node.lists_filter domain fun e => decide (e.name = "source") && (e.attr? "file").isSome
  simp only [isFileSource_iff] at hsources
  rw [diskFile?, Node.findAll, findSome?_filter, Option.bind_eq_some_iff]
  simp only [hsources.head?_eq_some_iff, Node.attr?_eq_some_iff]
  constructor
  · rintro ⟨e, ⟨p, hp⟩, hfile⟩
    exact ⟨p, e, hp, hfile⟩
  · rintro ⟨p, e, hp, hfile⟩
    exact ⟨e, ⟨p, hp⟩, hfile⟩

theorem firstAttr_unique {key value other : String} (h : e.FirstAttr key value) (h' : e.FirstAttr key other) :
    value = other :=
  Option.some.inj ((Node.attr?_eq_some_iff.2 h).symm.trans (Node.attr?_eq_some_iff.2 h'))

/-- The image of a disk has its place below that of the disk. -/
theorem ImageAt.exists_at (h : ImageAt disk i file) (hdisk : domain.at? p = some disk) :
    ∃ e, domain.at? (p ++ [i]) = some e ∧ e.name = "source" ∧ e.FirstAttr "file" file := by
  obtain ⟨e, hchild, hname, hfile⟩ := h.source
  refine ⟨e, ?_, hname, hfile⟩
  obtain ⟨name, attributes, children⟩ := disk
  have hchild : children[i]? = some e := hchild
  rw [Node.at?_append, hdisk, Option.bind_some, Node.at?_cons, hchild]
  rfl

theorem ImageAt.unique {j : Nat} {other : String} (h : ImageAt disk i file) (h' : ImageAt disk j other) :
    i = j ∧ file = other := by
  obtain ⟨e, hchild, hname, hfile⟩ := h.source
  obtain ⟨e', hchild', hname', hfile'⟩ := h'.source
  rcases Nat.lt_trichotomy i j with hlt | rfl | hgt
  · exact absurd ⟨hname, file, hfile⟩ (h'.first i e hlt hchild)
  · obtain rfl := Option.some.inj (hchild.symm.trans hchild')
    exact ⟨rfl, firstAttr_unique hfile hfile'⟩
  · exact absurd ⟨hname', other, hfile'⟩ (h.first j e' hgt hchild')

end VirtHost.Xml.Domain

namespace VirtHost.Hypervisor
open Xml (Node)
open Xml.Domain (IsFileSource IsFileDisk ImageAt diskFile? diskFile?_eq_some_iff)
set_option autoImplicit false

/-- The file of the disk in a domain, or the error of a virtual machine without one. -/
def diskFileOf (name : String) (domain : Node) : Except Error String :=
  match diskFile? domain with
  | some file => .ok file
  | none => .error (.notFound ("HDD path for " ++ name ++ " not found in dumped xml!"))

theorem runs_diskPath {h : Hypervisor} {name : String} {t : List Exchange} {r : Except Error String} :
    (h.diskPath name).Runs t r ↔ ∃ reply, t = [h.tool.ran ("dumpxml " ++ name) reply] ∧
      r = (h.tool.domainIn reply).bind (diskFileOf name) := by
  have hbind : h.diskPath name
      = h.tool.domain name >>= fun domain => Action.ofExcept (diskFileOf name domain) := by
    rw [diskPath]
    congr 1
    funext domain
    rw [diskFileOf]
    cases diskFile? domain <;> rfl
  rw [hbind]
  exact Action.runs_bind_ofExcept_of Virsh.runs_domain

/-- What is reported on a host that prints a domain. -/
theorem runs_diskPath_of_prints {h : Hypervisor} {name text : String} {domain : Node}
    {reply : Except Error Host.Completion} {r : Except Error String} (hprints : Prints text reply)
    (hparse : Xml.parse text = .ok domain) :
    (h.diskPath name).Runs [h.tool.ran ("dumpxml " ++ name) reply] r ↔ r = diskFileOf name domain := by
  obtain ⟨c, rfl, hcode, rfl⟩ := hprints
  have hdomain : h.tool.domainIn (.ok c) = .ok domain := by
    rw [Virsh.domainIn, Virsh.outcome_eq_ok_iff.2 ⟨rfl, hcode⟩]
    exact hparse
  rw [runs_diskPath]
  constructor
  · rintro ⟨reply, ht, rfl⟩
    obtain rfl : Except.ok c = reply := by simpa [Virsh.ran, Exchange.ran] using ht
    rw [hdomain]
    rfl
  · rintro rfl
    exact ⟨.ok c, rfl, by rw [hdomain]; rfl⟩

/-- **The reported disk.** In a domain with a hard disk whose image is a file, the first source with a file is
the image of the first such disk or comes before it, in an element of any kind. Its file is what is found and
what is reported on every host that prints such a domain; so it is the file of the disk if no other source
with a file comes before. -/
theorem diskPath_eq_first {domain e : Node} {place : List Nat} (he : domain.at? place = some e)
    (hkind : IsFileDisk e) :
    ∃ p disk i file q source found, domain.FirstAt IsFileDisk p disk ∧ ImageAt disk i file ∧
      domain.FirstAt IsFileSource q source ∧ source.FirstAttr "file" found ∧
      (q < p ++ [i] ∨ q = p ++ [i] ∧ found = file) ∧
      ((∀ q' e, q' < p ++ [i] → domain.at? q' = some e → ¬ IsFileSource e) → found = file) ∧
      diskFile? domain = some found ∧
      ∀ (h : Hypervisor) (name text : String) (reply : Except Error Host.Completion),
        Prints text reply → Xml.parse text = .ok domain →
        ∀ r, (h.diskPath name).Runs [h.tool.ran ("dumpxml " ++ name) reply] r ↔ r = .ok found := by
  obtain ⟨p, disk, hdisk⟩ := Node.exists_firstAt he hkind
  obtain ⟨i, file, himageAt⟩ := hdisk.kind.2.2
  obtain ⟨image, himage, hname, hfile⟩ := himageAt.exists_at hdisk.at?
  have hsource : IsFileSource image := ⟨hname, file, hfile⟩
  obtain ⟨q, source, hq⟩ := Node.exists_firstAt himage hsource
  obtain ⟨found, hfound⟩ := hq.kind.2
  have hplace : q < p ++ [i] ∨ q = p ++ [i] ∧ found = file := by
    refine (hq.before himage hsource).imp_right ?_
    rintro ⟨rfl, rfl⟩
    exact ⟨rfl, Xml.Domain.firstAttr_unique hfound hfile⟩
  have hreads : diskFile? domain = some found := diskFile?_eq_some_iff.2 ⟨q, source, hq, hfound⟩
  refine ⟨p, disk, i, file, q, source, found, hdisk, himageAt, hq, hfound, hplace, fun hnone => ?_, hreads, ?_⟩
  · rcases hplace with hlt | ⟨-, heq⟩
    · exact absurd hq.kind (hnone q source hlt hq.at?)
    · exact heq
  · intro h name text reply hprints hparse r
    rw [runs_diskPath_of_prints hprints hparse, diskFileOf, hreads]

/-- A drive with a medium that is a file. -/
def drive (device file : String) : Node :=
  .mk "disk" [("device", device)] [.mk "source" [("file", file)] []]

/-- A domain with two drives. -/
def domainOfDrives (first second : Node) : Node :=
  .mk "domain" [] [first, second]

/-- The text of that domain. -/
def textOfDrives (device file otherDevice otherFile : String) : String :=
  "<domain><disk device='" ++ device ++ "'><source file='" ++ file ++ "'/></disk><disk device='" ++
    otherDevice ++ "'><source file='" ++ otherFile ++ "'/></disk></domain>"

theorem imageAt_drive (device file : String) : ImageAt (drive device file) 0 file :=
  ⟨⟨_, rfl, rfl, [], [], rfl, by simp⟩, fun _ _ h => absurd h (Nat.not_lt_zero _)⟩

theorem isFileDisk_drive_iff {device file : String} : IsFileDisk (drive device file) ↔ device = "disk" := by
  constructor
  · rintro ⟨-, hdevice, -⟩
    exact Option.some.inj (Node.attr?_eq_some_iff.2 hdevice)
  · rintro rfl
    exact ⟨rfl, ⟨[], [], rfl, by simp⟩, 0, file, imageAt_drive "disk" file⟩

/-- Before the second drive stand the domain, the first drive and its source. -/
theorem before_second {device file : String} {second e : Node} {q : List Nat} (hq : q < [1])
    (he : (domainOfDrives (drive device file) second).at? q = some e) :
    q = [] ∧ e.name = "domain" ∨ q = [0] ∧ e = drive device file ∨ q = [0, 0] ∧ e.name = "source" := by
  match q, he with
  | [], he => exact .inl ⟨rfl, by rw [← Option.some.inj he]; rfl⟩
  | [0], he => exact .inr (.inl ⟨rfl, (Option.some.inj he).symm⟩)
  | [0, 0], he => exact .inr (.inr ⟨rfl, by rw [← Option.some.inj he]; rfl⟩)
  | 0 :: 0 :: i :: q, he => cases he
  | 0 :: (i + 1) :: q, he => cases he
  | (i + 1) :: q, he =>
    rcases List.cons_lt_cons_iff.1 hq with hlt | ⟨-, hlt⟩
    · omega
    · exact absurd hlt (List.not_lt_nil q)

/-- A hard disk before another drive. -/
theorem diskPath_eq_first_beforeCdrom :
    let disk := drive "disk" "/vm.img"
    let domain := domainOfDrives disk (drive "cdrom" "/boot.iso")
    let text := textOfDrives "disk" "/vm.img" "cdrom" "/boot.iso"
    domain.at? [0] = some disk ∧ IsFileDisk disk ∧ Xml.parse text = .ok domain ∧
      (({} : Hypervisor).diskPath "vm").Runs [({} : Virsh).ran "dumpxml vm" (Host.printed text)]
        (.ok "/vm.img") := by
  intro disk domain text
  have hdisk : domain.FirstAt IsFileDisk [0] disk := by
    refine ⟨rfl, fun q e hq he hkind => ?_, isFileDisk_drive_iff.2 rfl⟩
    rcases before_second (List.lt_trans hq (by decide : [0] < [1])) he with ⟨-, hname⟩ | ⟨rfl, -⟩ | ⟨rfl, -⟩
    · exact absurd (hname.symm.trans hkind.1) (by decide)
    · exact absurd hq (by decide)
    · exact absurd hq (by decide)
  obtain ⟨p, first, i, file, q, source, found, hfirst, himage, -, -, -, hclear, -, hreports⟩ :=
    diskPath_eq_first hdisk.at? hdisk.kind
  obtain ⟨rfl, rfl⟩ := hdisk.unique hfirst
  obtain ⟨rfl, rfl⟩ := (imageAt_drive "disk" "/vm.img").unique himage
  have hfound : found = "/vm.img" := by
    refine hclear fun q e hq he hkind => ?_
    rcases before_second (List.lt_trans hq (by decide : [0, 0] < [1])) he with ⟨-, hname⟩ | ⟨-, rfl⟩ | ⟨rfl, -⟩
    · exact absurd (hname.symm.trans hkind.1) (by decide)
    · exact absurd hkind.1 (by decide)
    · exact absurd hq (by decide)
  subst hfound
  have hparse : Xml.parse text = .ok domain :=
    Xml.parse_eq_ok_iff_tokens.2 ⟨[.start "domain" [], .start "disk" [("device", "disk")],
      .empty "source" [("file", "/vm.img")], .finish "disk", .start "disk" [("device", "cdrom")],
      .empty "source" [("file", "/boot.iso")], .finish "disk", .finish "domain"], by decide +kernel, rfl⟩
  exact ⟨hdisk.at?, hdisk.kind, hparse, (hreports {} "vm" text _ ⟨_, rfl, rfl, rfl⟩ hparse _).2 rfl⟩

/-- The medium of a drive for compact disks is reported where it comes before the hard disk. -/
theorem diskPath_of_cdrom :
    let disk := drive "disk" "/vm.img"
    let domain := domainOfDrives (drive "cdrom" "/boot.iso") disk
    let text := textOfDrives "cdrom" "/boot.iso" "disk" "/vm.img"
    Xml.parse text = .ok domain ∧ domain.FirstAt IsFileDisk [1] disk ∧ ImageAt disk 0 "/vm.img" ∧
      ∀ r, (({} : Hypervisor).diskPath "vm").Runs [({} : Virsh).ran "dumpxml vm" (Host.printed text)] r ↔
        r = .ok "/boot.iso" := by
  intro disk domain text
  have hparse : Xml.parse text = .ok domain :=
    Xml.parse_eq_ok_iff_tokens.2 ⟨[.start "domain" [], .start "disk" [("device", "cdrom")],
      .empty "source" [("file", "/boot.iso")], .finish "disk", .start "disk" [("device", "disk")],
      .empty "source" [("file", "/vm.img")], .finish "disk", .finish "domain"], by decide +kernel, rfl⟩
  have hdisk : domain.FirstAt IsFileDisk [1] disk := by
    refine ⟨rfl, fun q e hq he hkind => ?_, isFileDisk_drive_iff.2 rfl⟩
    rcases before_second hq he with ⟨-, hname⟩ | ⟨-, rfl⟩ | ⟨-, hname⟩
    · exact absurd (hname.symm.trans hkind.1) (by decide)
    · exact absurd (isFileDisk_drive_iff.1 hkind) (by decide)
    · exact absurd (hname.symm.trans hkind.1) (by decide)
  have hruns (r : Except Error String) : (({} : Hypervisor).diskPath "vm").Runs
      [({} : Virsh).ran ("dumpxml " ++ "vm") (Host.printed text)] r ↔ r = diskFileOf "vm" domain :=
    runs_diskPath_of_prints ⟨_, rfl, rfl, rfl⟩ hparse
  exact ⟨hparse, hdisk, imageAt_drive _ _, hruns⟩

end VirtHost.Hypervisor
