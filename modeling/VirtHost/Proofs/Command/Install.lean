import VirtHost.Command.Install
import VirtHost.Proofs.Text.LowerCase
import VirtHost.Proofs.Text.Numeral
import VirtHost.Proofs.Text.Scan

/-! # What an installing command says

* `Lacks c s`: a character is not in a text.
* `Separable p disk`: the texts of some parameters can be told apart in a command.
* `bootText`: how the boot order is written.
* `Agree`: two requests do not differ in anything that a command says.
* `virtInstall_eq_iff`: two commands are equal exactly if the requests agree.
-/

namespace VirtHost.Command
open Text (decimal digitsOf)
set_option autoImplicit false

variable {p q : Vm.Parameters} {disk disk' : Option String} {suffix suffix' : Option InstallSuffix}
  {c : Char}

/-- A character is not in a text. -/
def Lacks (c : Char) (s : String) : Prop :=
  c ∉ s.toList

instance (c : Char) : DecidablePred (Lacks c) :=
  fun s => inferInstanceAs (Decidable (c ∉ s.toList))

/-- No text has a space, and where more may follow behind a comma there is no comma either. -/
structure Separable (p : Vm.Parameters) (disk : Option String) : Prop where
  name : Lacks ' ' p.name
  machine : Lacks ' ' p.machine
  bridge : Lacks ' ' p.bridge ∧ Lacks ',' p.bridge
  mac : ∀ mac ∈ p.mac, Lacks ' ' mac
  osVariant : ∀ os ∈ p.osVariant, Lacks ' ' os
  disk : ∀ path ∈ disk, Lacks ' ' path ∧ Lacks ',' path
  diskBus : ∀ bus ∈ p.diskBus, Lacks ' ' bus
  arch : ∀ arch ∈ p.arch, Lacks ' ' arch
  bootOrder : ∀ device ∈ p.bootOrder, Lacks ' ' device
  graphics : Lacks ' ' p.graphics
  cpu : ∀ cpu ∈ p.cpu, Lacks ' ' cpu

/-- How the boot order is written: the devices that were chosen, between commas, or the default with a
disk or without one, and UEFI behind them in that mode. -/
def bootText (p : Vm.Parameters) (hasDisk : Bool) : String :=
  (match p.bootOrder, hasDisk with
   | [], true => "hd"
   | [], false => "network,hd"
   | device :: devices, _ => ",".intercalate (device :: devices)) ++
  match p.firmware with
  | .uefi => ",uefi"
  | .legacy => ""

theorem bootOrder_eq_bootText (p : Vm.Parameters) (hasDisk : Bool) :
    bootOrder p hasDisk = bootText p hasDisk := by
  unfold bootOrder bootText
  cases p.bootOrder <;> cases hasDisk <;> cases p.firmware <;> simp [joinStrings]

/-- Two requests agree in what a command says. The case of the MAC is not told, nor is the bus without a
disk, and the boot order counts as it is written. -/
structure Agree (p q : Vm.Parameters) (disk disk' : Option String)
    (suffix suffix' : Option InstallSuffix) : Prop where
  name : p.name = q.name
  memoryMib : p.memoryMib = q.memoryMib
  vcpus : p.vcpus = q.vcpus
  threads : p.threads = q.threads
  machine : p.machine = q.machine
  bridge : p.bridge = q.bridge
  mac : p.mac.map Text.lower = q.mac.map Text.lower
  osVariant : p.osVariant = q.osVariant
  diskBus : disk.isSome = true → p.diskBus = q.diskBus
  arch : p.arch = q.arch
  boot : bootText p disk.isSome = bootText q disk'.isSome
  graphics : p.graphics = q.graphics
  cpu : p.cpu = q.cpu
  disk : disk = disk'
  suffix : suffix = suffix'

/-! ## Texts without a separator -/

@[simp] theorem lacks_append {s t : String} : Lacks c (s ++ t) ↔ Lacks c s ∧ Lacks c t := by
  simp [Lacks]

theorem lacks_decimal (hc : ∀ d < 10, c ≠ Text.digitChar d) (n : Nat) : Lacks c (decimal n) := by
  have hdigits : ∀ d ∈ digitsOf 10 n, c ≠ d := Text.forall_mem_digitsOf (by decide) hc n
  rw [Lacks, decimal, String.toList_ofList]
  exact fun hmem => hdigits c hmem rfl

theorem lacks_joinStrings {parts : List String} (hc : c ≠ ',') (h : ∀ part ∈ parts, Lacks c part) :
    Lacks c (joinStrings "," parts) := by
  intro hmem
  rw [joinStrings, String.toList_intercalate] at hmem
  rcases Text.mem_join hmem with hsep | ⟨piece, hpiece, hmem⟩
  · exact hc hsep
  · obtain ⟨part, hpart, rfl⟩ := List.mem_map.1 hpiece
    exact h part hpart hmem

theorem lacks_lower {mac : String} (h : Lacks ' ' mac) : Lacks ' ' (Text.lower mac) := by
  have hspace : Text.Unmapped ' ' := by
    decide +kernel
  rw [Lacks, Text.lower, String.toList_ofList]
  exact fun hmem => h (Text.mem_of_mem_lowercase hspace hmem)

/-! ## Fields that may be left out -/

/-- A field that is written only when its value is given. -/
def fieldText (key : String) : Option String → String
  | some value => key ++ value
  | none => ""

theorem vcpusFlag_eq (p : Vm.Parameters) :
    vcpusFlag p = "--vcpus=" ++ decimal p.vcpus ++ fieldText ",threads=" (p.threads.map decimal) := by
  unfold vcpusFlag
  cases p.threads <;> rfl

theorem networkFlag_eq (p : Vm.Parameters) :
    networkFlag p = "--network=bridge:" ++ p.bridge ++
      (fieldText ",mac=" (p.mac.map Text.lower) ++ ",model=virtio") := by
  rw [← String.append_assoc]
  unfold networkFlag
  cases p.mac <;> rfl

theorem diskFlag_some (p : Vm.Parameters) (path : String) :
    diskFlag p (some path) = "--disk path=" ++ (path ++ fieldText ",bus=" p.diskBus) := by
  rw [← String.append_assoc]
  unfold diskFlag
  cases p.diskBus <;> rfl

theorem lacks_fieldText {key : String} {value : Option String} (hkey : Lacks c key)
    (h : ∀ v ∈ value, Lacks c v) : Lacks c (fieldText key value) := by
  cases value with
  | none => simp [fieldText, Lacks]
  | some v => simp [fieldText, hkey, h v rfl]

theorem lacks_vcpusFlag (p : Vm.Parameters) : Lacks ' ' (vcpusFlag p) := by
  have hnumber (n : Nat) : Lacks ' ' (decimal n) := lacks_decimal (by decide) n
  have hthreads : Lacks ' ' (fieldText ",threads=" (p.threads.map decimal)) :=
    lacks_fieldText (by decide) (by simp [hnumber])
  rw [vcpusFlag_eq]
  simp +decide [hnumber, hthreads]

theorem lacks_networkFlag (hp : Separable p disk) : Lacks ' ' (networkFlag p) := by
  have hmac : Lacks ' ' (fieldText ",mac=" (p.mac.map Text.lower)) := by
    refine lacks_fieldText (by decide) fun m hm => ?_
    obtain ⟨mac, hmac, rfl⟩ := Option.map_eq_some_iff.1 hm
    exact lacks_lower (hp.mac mac hmac)
  rw [networkFlag_eq]
  simp +decide [hp.bridge.1, hmac]

theorem lacks_bootOrder (hp : Separable p disk) (hasDisk : Bool) : Lacks ' ' (bootOrder p hasDisk) := by
  have hdevices : Lacks ' ' (if p.bootOrder = [] then (if hasDisk then "hd" else "network,hd")
      else joinStrings "," p.bootOrder) := by
    split
    · split <;> decide
    · exact lacks_joinStrings (by decide) hp.bootOrder
  cases hfirmware : p.firmware with
  | uefi =>
    simp only [bootOrder, hfirmware, lacks_append]
    exact ⟨hdevices, by decide⟩
  | legacy => simpa only [bootOrder, hfirmware] using hdevices

/-! ## Words -/

/-- The texts between the spaces of a text. -/
def wordsOf (s : String) : List (List Char) :=
  s.toList.splitOn ' '

theorem wordsOf_joinStrings {parts : List String} (h : parts ≠ []) :
    wordsOf (joinStrings " " parts) = parts.flatMap wordsOf := by
  have hspace : " ".toList = [' '] := by decide
  have hparts : parts.map String.toList ≠ [] := fun hnil => h (List.map_eq_nil_iff.1 hnil)
  have hsplit := @Text.splitOn_join ' ' _ hparts
  rw [Text.join, List.flatMap_map] at hsplit
  rw [wordsOf, joinStrings, String.toList_intercalate, hspace, hsplit]
  rfl

theorem wordsOf_of_lacks {s : String} (h : Lacks ' ' s) : wordsOf s = [s.toList] :=
  List.splitOn_eq_singleton h

theorem flatMap_wordsOf {parts : List String} (h : ∀ s ∈ parts, Lacks ' ' s) :
    parts.flatMap wordsOf = parts.map String.toList := by
  induction parts with
  | nil => rfl
  | cons s parts ih =>
    rw [List.flatMap_cons, wordsOf_of_lacks (h s (by simp)), ih fun t ht => h t (by simp [ht])]
    rfl

theorem wordsOf_append_space {head flag value : String} (hhead : head = flag ++ " ")
    (hflag : Lacks ' ' flag) (hvalue : Lacks ' ' value) :
    wordsOf (head ++ value) = [flag.toList, value.toList] := by
  have hjoin : head ++ value = joinStrings " " [flag, value] := by
    simp [hhead, joinStrings]
  rw [hjoin, wordsOf_joinStrings (by simp), flatMap_wordsOf (by simp [hflag, hvalue])]
  rfl

/-- The words of the command before the flags of the policy. -/
def frontWords (p : Vm.Parameters) : List String :=
  ["virt-install", "--name=" ++ p.name, "--memory=" ++ decimal p.memoryMib, vcpusFlag p,
    "--machine=" ++ p.machine, "--noautoconsole"]

def diskWords (p : Vm.Parameters) : Option String → List String
  | some path => ["--disk", "path=" ++ (path ++ fieldText ",bus=" p.diskBus)]
  | none => ["--disk=none"]

def archWords (arch : Option String) : List String :=
  arch.toList.flatMap fun arch => ["--arch", arch]

def suffixWords : Option InstallSuffix → List String
  | some .osInfo => ["--osinfo", "detect=on,require=off"]
  | some .importDisk => ["--import"]
  | none => []

/-- The words behind the flags of the policy. -/
def backWords (p : Vm.Parameters) (disk : Option String) (suffix : Option InstallSuffix) : List String :=
  networkFlag p :: (optionalFlag "--os-variant=" p.osVariant ++ (diskWords p disk ++
    (archWords p.arch ++ ("--boot=" ++ bootOrder p disk.isSome) :: "--graphics" :: p.graphics ::
      (optionalFlag "--cpu=" p.cpu ++ suffixWords suffix))))

theorem wordsOf_optionalFlag {flag : String} {value : Option String} (hflag : Lacks ' ' flag)
    (h : ∀ v ∈ value, Lacks ' ' v) :
    (optionalFlag flag value).flatMap wordsOf = (optionalFlag flag value).map String.toList := by
  apply flatMap_wordsOf
  cases value with
  | none => simp [optionalFlag]
  | some v => simp [optionalFlag, hflag, h v rfl]

theorem wordsOf_diskFlag (hp : Separable p disk) :
    wordsOf (diskFlag p disk) = (diskWords p disk).map String.toList := by
  cases disk with
  | none =>
    have hnone : Lacks ' ' "--disk=none" := by decide
    exact wordsOf_of_lacks hnone
  | some path =>
    have hhead : "--disk path=" = "--disk" ++ " " ++ "path=" := by decide
    have hbus : Lacks ' ' (fieldText ",bus=" p.diskBus) := lacks_fieldText (by decide) hp.diskBus
    have hvalue : Lacks ' ' ("path=" ++ (path ++ fieldText ",bus=" p.diskBus)) := by
      simp +decide [(hp.disk path rfl).1, hbus]
    rw [diskFlag_some, hhead, String.append_assoc]
    exact wordsOf_append_space rfl (by decide) hvalue

theorem wordsOf_arch {arch : Option String} (h : ∀ a ∈ arch, Lacks ' ' a) :
    (optionalFlag "--arch " arch).flatMap wordsOf = (archWords arch).map String.toList := by
  cases arch with
  | none => rfl
  | some a =>
    have hhead : "--arch " = "--arch" ++ " " := by decide
    have hwords := wordsOf_append_space hhead (by decide) (h a rfl)
    simpa [optionalFlag, archWords] using hwords

theorem wordsOf_suffix (suffix : Option InstallSuffix) :
    (suffix.map InstallSuffix.text).toList.flatMap wordsOf = (suffixWords suffix).map String.toList := by
  cases suffix with
  | none => rfl
  | some s => cases s <;> decide

/-- The words of the command, with what the policy adds between them. -/
theorem wordsOf_virtInstall (hp : Separable p disk) (policy : LargeVcpuPolicy)
    (suffix : Option InstallSuffix) :
    wordsOf (virtInstall p disk policy suffix) = (frontWords p).map String.toList ++
      ((policy.flagsFor p.vcpus).flatMap wordsOf ++ (backWords p disk suffix).map String.toList) := by
  have hparts : installParts p disk policy suffix = frontWords p ++ (policy.flagsFor p.vcpus ++
      ([networkFlag p] ++ (optionalFlag "--os-variant=" p.osVariant ++ ([diskFlag p disk] ++
        (optionalFlag "--arch " p.arch ++ (["--boot=" ++ bootOrder p disk.isSome] ++
          (["--graphics " ++ p.graphics] ++ (optionalFlag "--cpu=" p.cpu ++
            (suffix.map InstallSuffix.text).toList)))))))) := by
    simp [installParts, frontWords]
  have hfront : (frontWords p).flatMap wordsOf = (frontWords p).map String.toList := by
    have hnumber : Lacks ' ' (decimal p.memoryMib) := lacks_decimal (by decide) _
    apply flatMap_wordsOf
    simp +decide [frontWords, hp.name, hp.machine, hnumber, lacks_vcpusFlag]
  have hnetwork := wordsOf_of_lacks (lacks_networkFlag hp)
  have hos := wordsOf_optionalFlag (show Lacks ' ' "--os-variant=" by decide) hp.osVariant
  have hdisk := wordsOf_diskFlag hp
  have harch := wordsOf_arch hp.arch
  have hboot : Lacks ' ' ("--boot=" ++ bootOrder p disk.isSome) := by
    simp +decide [lacks_bootOrder hp]
  have hgraphics : wordsOf ("--graphics " ++ p.graphics) = ["--graphics".toList, p.graphics.toList] := by
    have hhead : "--graphics " = "--graphics" ++ " " := by decide
    exact wordsOf_append_space hhead (by decide) hp.graphics
  have hcpu := wordsOf_optionalFlag (show Lacks ' ' "--cpu=" by decide) hp.cpu
  rw [virtInstall, wordsOf_joinStrings (by simp [installParts]), hparts]
  simp only [List.flatMap_append, List.flatMap_cons, backWords, List.map_append, List.map_cons, hfront,
    hnetwork, hos, hdisk, harch, wordsOf_of_lacks hboot, hgraphics, hcpu, wordsOf_suffix,
    List.cons_append, List.nil_append]

/-! ## Taking words apart -/

theorem append_inj_of_lacks {s t u v : String} (hs : Lacks ',' s) (ht : Lacks ',' t)
    (hu : ∀ c ∈ u.toList.head?, c = ',') (hv : ∀ c ∈ v.toList.head?, c = ',') (h : s ++ u = t ++ v) :
    s = t ∧ u = v := by
  have hlist : s.toList ++ u.toList = t.toList ++ v.toList := by
    rw [← String.toList_append, h, String.toList_append]
  obtain ⟨hst, huv⟩ := Text.append_inj_of_notMem hs ht hu hv hlist
  exact ⟨String.toList_inj.1 hst, String.toList_inj.1 huv⟩

theorem fieldText_inj {key : String} (hkey : key ≠ "") {value value' : Option String}
    (h : fieldText key value = fieldText key value') : value = value' := by
  cases value <;> cases value' <;> simp_all [fieldText]

theorem head?_fieldText {key : String} (hkey : key.toList.head? = some ',') (value : Option String) :
    ∀ c ∈ (fieldText key value).toList.head?, c = ',' := by
  cases value with
  | none => simp [fieldText]
  | some v => simp [fieldText, hkey, List.head?_append, eq_comm]

theorem vcpusFlag_inj (h : vcpusFlag p = vcpusFlag q) : p.vcpus = q.vcpus ∧ p.threads = q.threads := by
  have hnumber (n : Nat) : Lacks ',' (decimal n) := lacks_decimal (by decide) n
  have hcomma := head?_fieldText (show ",threads=".toList.head? = some ',' by decide)
  rw [vcpusFlag_eq, vcpusFlag_eq, String.append_assoc, String.append_assoc, String.append_right_inj] at h
  obtain ⟨hvcpus, hthreads⟩ := append_inj_of_lacks (hnumber _) (hnumber _) (hcomma _) (hcomma _) h
  have hmap := fieldText_inj (by decide) hthreads
  exact ⟨Text.decimal_injective hvcpus, Option.map_injective Text.decimal_injective hmap⟩

theorem networkFlag_inj (hp : Separable p disk) (hq : Separable q disk')
    (h : networkFlag p = networkFlag q) :
    p.bridge = q.bridge ∧ p.mac.map Text.lower = q.mac.map Text.lower := by
  have hcomma (mac : Option String) :
      ∀ c ∈ (fieldText ",mac=" mac ++ ",model=virtio").toList.head?, c = ',' := by
    cases mac <;> simp [fieldText]
  rw [networkFlag_eq, networkFlag_eq, String.append_assoc, String.append_assoc, String.append_right_inj] at h
  obtain ⟨hbridge, hmac⟩ := append_inj_of_lacks hp.bridge.2 hq.bridge.2 (hcomma _) (hcomma _) h
  exact ⟨hbridge, fieldText_inj (by decide) ((String.append_left_inj _).1 hmac)⟩

section
variable {r r' : List String}

/-- Words that are left out are told by what comes next. -/
theorem flatMap_cancel {write : String → List String} {value value' : Option String}
    (hwrite : ∀ v v' t t', write v ++ t = write v' ++ t' → v = v' ∧ t = t')
    (hr : ∀ v t, r ≠ write v ++ t) (hr' : ∀ v t, r' ≠ write v ++ t)
    (h : value.toList.flatMap write ++ r = value'.toList.flatMap write ++ r') :
    value = value' ∧ r = r' := by
  cases value with
  | none =>
    cases value' with
    | none => exact ⟨rfl, h⟩
    | some v' => exact absurd (by simpa using h) (hr v' r')
  | some v =>
    cases value' with
    | none => exact absurd (by simpa using h.symm) (hr' v r)
    | some v' =>
      obtain ⟨rfl, hrest⟩ := hwrite v v' r r' (by simpa using h)
      exact ⟨rfl, hrest⟩

theorem optionalFlag_cancel {flag : String} {value value' : Option String}
    (hr : ∀ s ∈ r.head?, Text.startsWith s flag = false)
    (hr' : ∀ s ∈ r'.head?, Text.startsWith s flag = false)
    (h : optionalFlag flag value ++ r = optionalFlag flag value' ++ r') : value = value' ∧ r = r' := by
  have hflag (value : Option String) : optionalFlag flag value = value.toList.flatMap fun v => [flag ++ v] := by
    cases value <;> rfl
  have hapart {l : List String} (hl : ∀ s ∈ l.head?, Text.startsWith s flag = false) :
      ∀ v t, l ≠ [flag ++ v] ++ t := by
    rintro v t rfl
    have hhead := hl (flag ++ v) rfl
    have hstarts : Text.startsWith (flag ++ v) flag = true := by
      rw [Text.startsWith, List.isPrefixOf_iff_prefix, String.toList_append]
      exact List.prefix_append _ _
    rw [hstarts] at hhead
    cases hhead
  rw [hflag, hflag] at h
  exact flatMap_cancel (by simp) (hapart hr) (hapart hr') h

theorem archWords_cancel {arch arch' : Option String} (hr : r.head? ≠ some "--arch")
    (hr' : r'.head? ≠ some "--arch") (h : archWords arch ++ r = archWords arch' ++ r') :
    arch = arch' ∧ r = r' := by
  have hapart {l : List String} (hl : l.head? ≠ some "--arch") : ∀ v t, l ≠ ["--arch", v] ++ t := by
    rintro v t rfl
    exact hl rfl
  exact flatMap_cancel (by simp) (hapart hr) (hapart hr') h

theorem diskWords_cancel (hp : Separable p disk) (hq : Separable q disk')
    (h : diskWords p disk ++ r = diskWords q disk' ++ r') :
    disk = disk' ∧ (disk.isSome = true → p.diskBus = q.diskBus) ∧ r = r' := by
  have hcomma := head?_fieldText (show ",bus=".toList.head? = some ',' by decide)
  cases disk with
  | none => cases disk' <;> simp_all [diskWords]
  | some path =>
    cases disk' with
    | none => simp [diskWords] at h
    | some path' =>
      simp only [diskWords, List.cons_append, List.nil_append, List.cons.injEq, true_and,
        String.append_right_inj] at h
      obtain ⟨hpath, hbus⟩ := append_inj_of_lacks (hp.disk path rfl).2 (hq.disk path' rfl).2 (hcomma _)
        (hcomma _) h.1
      exact ⟨congrArg some hpath, fun _ => fieldText_inj (by decide) hbus, h.2⟩

theorem suffixWords_inj (h : suffixWords suffix = suffixWords suffix') : suffix = suffix' := by
  rcases suffix with _ | _ | _ <;> rcases suffix' with _ | _ | _ <;> first | rfl | (revert h; decide)

end

/-! ## Commands -/

theorem frontWords_inj (h : frontWords p = frontWords q) :
    p.name = q.name ∧ p.memoryMib = q.memoryMib ∧ (p.vcpus = q.vcpus ∧ p.threads = q.threads) ∧
      p.machine = q.machine := by
  simp only [frontWords, List.cons.injEq, String.append_right_inj, true_and, and_true] at h
  obtain ⟨hname, hmemory, hvcpus, hmachine⟩ := h
  exact ⟨hname, Text.decimal_injective hmemory, vcpusFlag_inj hvcpus, hmachine⟩

/-- What stands behind the flags of the policy tells all the rest. -/
theorem agree_of_words (hp : Separable p disk) (hq : Separable q disk')
    (hfront : frontWords p = frontWords q) (h : backWords p disk suffix = backWords q disk' suffix') :
    Agree p q disk disk' suffix suffix' := by
  obtain ⟨hname, hmemory, ⟨hvcpus, hthreads⟩, hmachine⟩ := frontWords_inj hfront
  obtain ⟨hnetwork, h⟩ := List.cons_eq_cons.1 h
  obtain ⟨hbridge, hmac⟩ := networkFlag_inj hp hq hnetwork
  have hdiskHead (p : Vm.Parameters) (disk : Option String) (r : List String) :
      ∀ s ∈ (diskWords p disk ++ r).head?, Text.startsWith s "--os-variant=" = false := by
    cases disk <;> simp [diskWords] <;> decide
  obtain ⟨hos, h⟩ := optionalFlag_cancel (hdiskHead p disk _) (hdiskHead q disk' _) h
  obtain ⟨hdisk, hbus, h⟩ := diskWords_cancel hp hq h
  have hbootHead (boot : String) (r : List String) : (("--boot=" ++ boot) :: r).head? ≠ some "--arch" := by
    intro heq
    have hstarts : Text.startsWith ("--boot=" ++ boot) "--arch" = Text.startsWith "--boot=" "--arch" :=
      Text.startsWith_append (by decide)
    rw [Option.some.inj heq] at hstarts
    revert hstarts
    decide
  obtain ⟨harch, h⟩ := archWords_cancel (hbootHead _ _) (hbootHead _ _) h
  simp only [List.cons.injEq, String.append_right_inj, true_and] at h
  obtain ⟨hboot, hgraphics, h⟩ := h
  rw [bootOrder_eq_bootText, bootOrder_eq_bootText] at hboot
  have hsuffixHead (suffix : Option InstallSuffix) :
      ∀ s ∈ (suffixWords suffix).head?, Text.startsWith s "--cpu=" = false := by
    rcases suffix with _ | _ | _ <;> decide
  obtain ⟨hcpu, hsuffix⟩ := optionalFlag_cancel (hsuffixHead _) (hsuffixHead _) h
  exact ⟨hname, hmemory, hvcpus, hthreads, hmachine, hbridge, hmac, hos, hbus, harch, hboot, hgraphics,
    hcpu, hdisk, suffixWords_inj hsuffix⟩

theorem Agree.virtInstall_eq (h : Agree p q disk disk' suffix suffix') (policy : LargeVcpuPolicy) :
    virtInstall p disk policy suffix = virtInstall q disk' policy suffix' := by
  obtain ⟨hname, hmemory, hvcpus, hthreads, hmachine, hbridge, hmac, hos, hbus, harch, hboot, hgraphics,
    hcpu, rfl, rfl⟩ := h
  have hdisk : diskFlag p disk = diskFlag q disk := by
    cases disk with
    | none => rfl
    | some path => rw [diskFlag_some, diskFlag_some, hbus rfl]
  rw [virtInstall, virtInstall, installParts, installParts, vcpusFlag_eq, vcpusFlag_eq, networkFlag_eq,
    networkFlag_eq, bootOrder_eq_bootText, bootOrder_eq_bootText, hname, hmemory, hvcpus, hthreads,
    hmachine, hbridge, hmac, hos, hdisk, harch, hboot, hgraphics, hcpu]

/-- **Nothing is lost.** Two commands that install a virtual machine are equal exactly if the requests agree
in everything that a command says. -/
theorem virtInstall_eq_iff (policy : LargeVcpuPolicy) (p q : Vm.Parameters) (disk disk' : Option String)
    (suffix suffix' : Option InstallSuffix) (hp : Separable p disk) (hq : Separable q disk') :
    virtInstall p disk policy suffix = virtInstall q disk' policy suffix' ↔
      Agree p q disk disk' suffix suffix' := by
  refine ⟨fun h => ?_, fun h => h.virtInstall_eq policy⟩
  have hwords : wordsOf (virtInstall p disk policy suffix) = wordsOf (virtInstall q disk' policy suffix') := by
    rw [h]
  rw [wordsOf_virtInstall hp, wordsOf_virtInstall hq] at hwords
  have hinj {l l' : List String} (hl : l.map String.toList = l'.map String.toList) : l = l' :=
    (List.map_inj_right fun _ _ => String.toList_inj.1).1 hl
  obtain ⟨hfront, hrest⟩ := List.append_inj hwords (by simp [frontWords])
  have hfront' := hinj hfront
  -- the number of vCPUs tells which flags the policy adds
  rw [(frontWords_inj hfront').2.2.1.1] at hrest
  exact agree_of_words hp hq hfront' (hinj (List.append_cancel_left hrest))

/-- Parameters with a boot order that is written as the one of `viaFirmware` is. -/
def viaDevices : Vm.Parameters :=
  { name := "vm-1", vcpus := 200, threads := some 2, mac := some "52:54:00:AB:CD:EF", arch := some "x86_64",
    diskBus := some "virtio", bootOrder := ["hd", "uefi"], firmware := .legacy }

def viaFirmware : Vm.Parameters :=
  { viaDevices with mac := some "52:54:00:ab:cd:ef", bootOrder := [], firmware := .uefi }

theorem virtInstall_eq_iff_firmware :
    let disk := some "/vms/vm-1.qcow2"
    Separable viaDevices disk ∧ Separable viaFirmware disk ∧
      virtInstall viaDevices disk {} (some .importDisk) = virtInstall viaFirmware disk {} (some .importDisk) ∧
      virtInstall viaDevices disk {} (some .importDisk) ≠ virtInstall viaFirmware disk {} none := by
  intro disk
  have hdevices : Separable viaDevices disk :=
    ⟨by decide, by decide, by decide, by decide, by decide, by decide, by decide, by decide, by decide,
      by decide, by decide⟩
  have hfirmware : Separable viaFirmware disk :=
    ⟨by decide, by decide, by decide, by decide, by decide, by decide, by decide, by decide, by decide,
      by decide, by decide⟩
  have hagree : Agree viaDevices viaFirmware disk disk (some .importDisk) (some .importDisk) :=
    ⟨rfl, rfl, rfl, rfl, rfl, rfl, by decide +kernel, rfl, fun _ => rfl, rfl, by decide +kernel, rfl, rfl,
      rfl, rfl⟩
  have hiff := virtInstall_eq_iff {} viaDevices viaFirmware disk disk (some .importDisk)
  refine ⟨hdevices, hfirmware, (hiff _ hdevices hfirmware).2 hagree, fun h => ?_⟩
  exact absurd ((hiff _ hdevices hfirmware).1 h).suffix (by decide)

end VirtHost.Command
