import VirtHost.Command.Host
import VirtHost.Proofs.Host.Ensures
import VirtHost.Proofs.Shell.Bare
import VirtHost.Proofs.Text.Scan
import VirtHost.Proofs.Virsh

/-! # How commands are to be run

A command is given up after a time only if it is one of `virsh` or writes a number of virtual functions, and
a shell runs every command that has something for a shell in it.

* `Timed`, `InShell`: the two rules, for any request. `Proper`: the first one, and the second one if the
  texts of others are `trusted`, that is, if it is assumed that they are plain.
* `Exchange.Plain`: the replies from which the texts of commands are taken.
* `proper_virsh`, `proper_plain`, `proper_shell`: the kinds of proper commands. Each command of a host is of
  one of them.
-/

namespace VirtHost
open Shell (Plain plain_append)
open Text (decimal)
set_option autoImplicit false

/-- What a host says that becomes part of later commands is plain: the names of its virtual machines, the
MACs of network data, and fresh UUIDs. -/
def Exchange.Plain : Exchange → Prop
  | ⟨.execute command _, reply⟩ => command = "virsh list" ∨ command = "virsh list --all" →
      ∀ vm ∈ Virsh.listed reply, Shell.Plain vm.name
  | ⟨.readLocal _, reply⟩ => ∀ content entries, reply = .ok content →
      Listing.networkData content = .ok entries → ∀ entry ∈ entries, Shell.Plain entry.mac
  | ⟨.freshUuid, uuid⟩ => Shell.Plain uuid
  | _ => True

theorem Exchange.plain_ran {command : String} {options : Host.Options}
    {reply : Except Error Host.Completion} (hrunning : command ≠ "virsh list")
    (hall : command ≠ "virsh list --all") : (ran command options reply).Plain :=
  fun hlist => (hlist.elim hrunning hall).elim

/-- The texts of the settings that become part of commands without a shell are plain. -/
structure Settings.Plain (s : Settings) : Prop where
  workDirectory : Shell.Plain s.workDirectory
  dhcpNetwork : Shell.Plain s.dhcpNetwork
  flags : ∀ flag ∈ s.largeVcpu.flags, Shell.Plain flag

namespace Hypervisor

/-! ## The rules -/

/-- A subcommand of `virsh`. -/
def IsVirsh (command : String) : Prop :=
  Text.startsWith command "virsh " = true

/-- A shell redirects into the file that holds a number of virtual functions. -/
structure WritesCount (command : String) (options : Host.Options) : Prop where
  shell : options.shell = true
  redirects : '>' ∈ Shell.bare command
  target : "/sriov_numvfs".toList <:+ command.toList

/-- The time after which a command is given up. -/
structure TimedAs (s : Settings) (command : String) (options : Host.Options) : Prop where
  virsh : IsVirsh command →
    options.timeout = some (Duration.ofSeconds s.virshTimeout) ∧ options.shell = false
  count : WritesCount command options →
    options.timeout = some (Duration.ofSeconds s.sysfsTimeout)
  other : ¬ IsVirsh command → ¬ WritesCount command options → options.timeout = none

/-- Every command is given up after its time. -/
def Timed (s : Settings) : Host.Request → Prop
  | .execute command options => TimedAs s command options
  | _ => True

/-- A shell runs every command that needs one. -/
def InShell : Host.Request → Prop
  | .execute command options => Shell.NeedsShell command → options.shell = true
  | .start command shell => Shell.NeedsShell command → shell = true
  | _ => True

/-- A request follows the rules. -/
def Proper (s : Settings) (trusted : Prop) (request : Host.Request) : Prop :=
  Timed s request ∧ (trusted → InShell request)

/-- Whatever is asked of a host, whose texts are plain if they are `trusted`, follows the rules. -/
def Follows (s : Settings) (trusted : Prop) {α : Type} (p : Program α) : Prop :=
  p.Ensures (fun e => trusted → e.Plain) (Proper s trusted) fun _ => True

variable {s : Settings} {trusted : Prop}

theorem Follows.of_uses {α : Type} {p : Program α} (h : p.Uses (Proper s trusted)) :
    Follows s trusted p :=
  Program.Ensures.of_uses h fun _ => trivial

theorem Follows.of_ensures {α : Type} {a : Action α} {wanted : α → Prop}
    (h : a.Ensures (fun e => trusted → e.Plain) (Proper s trusted) wanted) :
    Follows s trusted a.attempt :=
  Program.Ensures.mono h fun _ _ => trivial

/-! ## Kinds of commands -/

/-- Neither the text nor what begins with it is a subcommand of `virsh`. -/
def Apart (head : String) : Prop :=
  ¬ head.toList <+: "virsh ".toList ∧ ¬ "virsh ".toList <+: head.toList

instance : DecidablePred Apart :=
  fun head => inferInstanceAs (Decidable (¬ head.toList <+: "virsh ".toList ∧
    ¬ "virsh ".toList <+: head.toList))

theorem Apart.append {head : String} (h : Apart head) (rest : String) : Apart (head ++ rest) := by
  rw [Apart, String.toList_append]
  refine ⟨fun hprefix => h.1 ((List.prefix_append _ _).trans hprefix), fun hprefix => ?_⟩
  rcases List.prefix_or_prefix_of_prefix (List.prefix_append head.toList rest.toList) hprefix with
    hhead | hhead
  · exact h.1 hhead
  · exact h.2 hhead

theorem Apart.not_isVirsh {command : String} (h : Apart command) : ¬ IsVirsh command := by
  rw [IsVirsh, Text.startsWith, List.isPrefixOf_iff_prefix]
  exact h.2

theorem not_writesCount_of_plain {command : String} {options : Host.Options} (h : Plain command) :
    ¬ WritesCount command options := by
  intro hwrites
  exact h.not_needsShell (.inl hwrites.redirects)

/-- The text has a last character, and it is not that of the file of a number of virtual functions. -/
def EndsApart (tail : String) : Prop :=
  tail.toList.getLastD 's' ≠ 's'

instance : DecidablePred EndsApart :=
  fun tail => inferInstanceAs (Decidable (tail.toList.getLastD 's' ≠ 's'))

theorem EndsApart.append {tail : String} (h : EndsApart tail) (head : String) :
    EndsApart (head ++ tail) := by
  rw [EndsApart, String.toList_append, List.getLastD_eq_getLast?, List.getLast?_append]
  rw [EndsApart, List.getLastD_eq_getLast?] at h
  cases hlast : tail.toList.getLast? with
  | none =>
    rw [hlast] at h
    exact absurd rfl h
  | some c =>
    rw [hlast] at h
    exact h

theorem EndsApart.not_writesCount {command : String} (h : EndsApart command)
    (options : Host.Options) : ¬ WritesCount command options := by
  intro hwrites
  obtain ⟨rest, hrest⟩ := hwrites.target
  rw [EndsApart, ← hrest, List.getLastD_eq_getLast?, List.getLast?_append] at h
  exact h rfl

theorem proper_virsh {arguments : String} {options : Host.Options} (hshell : options.shell = false)
    (htimeout : options.timeout = some (Duration.ofSeconds s.virshTimeout))
    (h : trusted → Plain arguments) : Proper s trusted (.execute ("virsh " ++ arguments) options) := by
  have hvirsh : IsVirsh ("virsh " ++ arguments) := by
    rw [IsVirsh, Text.startsWith_append (Nat.le_refl _)]
    decide +kernel
  refine ⟨⟨fun _ => ⟨htimeout, hshell⟩, fun hcount => ?_, fun hother => absurd hvirsh hother⟩,
    fun ht hneeds => ?_⟩
  · have hfalse := hcount.shell
    rw [hshell] at hfalse
    cases hfalse
  · have hplain : Plain ("virsh " ++ arguments) := plain_append.2 ⟨by decide +kernel, h ht⟩
    exact absurd hneeds hplain.not_needsShell

theorem proper_direct {command : String} {options : Host.Options} (hvirsh : Apart command)
    (hshell : options.shell = false) (htimeout : options.timeout = none)
    (h : trusted → ¬ Shell.NeedsShell command) : Proper s trusted (.execute command options) := by
  refine ⟨⟨fun hisVirsh => absurd hisVirsh hvirsh.not_isVirsh, fun hcount => ?_, fun _ _ => htimeout⟩,
    fun ht hneeds => absurd hneeds (h ht)⟩
  have hfalse := hcount.shell
  rw [hshell] at hfalse
  cases hfalse

theorem proper_plain {command : String} {options : Host.Options} (hvirsh : Apart command)
    (hshell : options.shell = false) (htimeout : options.timeout = none) (h : trusted → Plain command) :
    Proper s trusted (.execute command options) :=
  proper_direct hvirsh hshell htimeout fun ht => (h ht).not_needsShell

theorem proper_shell {command : String} {options : Host.Options} (hvirsh : Apart command)
    (hcount : ¬ WritesCount command options) (hshell : options.shell = true)
    (htimeout : options.timeout = none) : Proper s trusted (.execute command options) :=
  ⟨⟨fun hisVirsh => absurd hisVirsh hvirsh.not_isVirsh, fun hwrites => absurd hwrites hcount,
    fun _ _ => htimeout⟩, fun _ _ => hshell⟩

/-! ## Paths -/

theorem plain_interfaceDirectory {interface : String} (hinterface : Plain interface) :
    Plain (Command.interfaceDirectory interface) := by
  unfold Command.interfaceDirectory
  rw [plain_append, plain_append]
  exact ⟨⟨by decide, hinterface⟩, by decide⟩

theorem plain_deviceDirectory (pf : Pci.Address) : Plain (Command.deviceDirectory pf) :=
  plain_append.2 ⟨by decide, Shell.plain_pciText pf⟩

theorem plain_workFile {name : String} (hsettings : trusted → s.Plain) (hname : Plain name)
    (ht : trusted) : Plain ((ofSettings s).workFile name) :=
  Shell.plain_joinPath (hsettings ht).workDirectory hname

/-! ## Requests that run nothing -/

theorem proper_readLocal (path : String) : Proper s trusted (.readLocal path) :=
  ⟨trivial, fun _ => trivial⟩

theorem proper_write (path content : String) : Proper s trusted (.write path content) :=
  ⟨trivial, fun _ => trivial⟩

theorem proper_sleep (time : Duration) : Proper s trusted (.sleep time) :=
  ⟨trivial, fun _ => trivial⟩

/-! ## Commands without a shell -/

theorem proper_ping (ip : Ipv4) :
    Proper s trusted (.execute (Command.ping ip.text) ({} : Host.Options).anyCode) :=
  proper_plain (Apart.append (by decide) _) rfl rfl fun _ =>
    plain_append.2 ⟨by decide, Shell.plain_ipv4Text ip⟩

theorem plain_copyFile {source destination : String} (hsource : Plain source)
    (hdestination : Plain destination) : Plain (Command.copyFile source destination) := by
  simp +decide [Command.copyFile, hsource, hdestination]

theorem proper_copyFile {source destination : String} (hsource : Plain source)
    (hdestination : trusted → Plain destination) :
    Proper s trusted (.execute (Command.copyFile source destination) {}) :=
  proper_plain (((Apart.append (by decide) _).append _).append _) rfl rfl fun ht =>
    plain_copyFile hsource (hdestination ht)

theorem proper_start_copyFile {source destination : String} (hsource : trusted → Plain source)
    (hdestination : trusted → Plain destination) :
    Proper s trusted (.start (Command.copyFile source destination) false) :=
  ⟨trivial, fun ht hneeds =>
    absurd hneeds (plain_copyFile (hsource ht) (hdestination ht)).not_needsShell⟩

theorem proper_fileSize {path : String} (hpath : trusted → Plain path) :
    Proper s trusted (.execute (Command.fileSize path) ({} : Host.Options).anyCode) :=
  proper_plain (Apart.append (by decide) _) rfl rfl fun ht =>
    plain_append.2 ⟨by decide, hpath ht⟩

/-- The text that replaces a mark of a file stands between quotes, as does the mark. -/
theorem proper_replaceUuid {path uuid : String} (hpath : trusted → Plain path)
    (huuid : trusted → Plain uuid) :
    Proper s trusted (.execute (Command.replaceUuid path uuid) {}) := by
  refine proper_direct (((Apart.append (by decide) _).append _).append _) rfl rfl fun ht => ?_
  have hcommand : (Command.replaceUuid path uuid).toList =
      "sed -i ".toList ++ '\'' ::
        (("s/<VM_UUID>/" ++ uuid ++ "/g").toList ++ '\'' :: (" " ++ path).toList) := by
    unfold Command.replaceUuid
    simp only [String.toList_append, String.reduceToList, List.cons_append, List.nil_append,
      List.append_assoc]
  have hhead : Plain "sed -i " := by decide
  have htail : Plain (" " ++ path) := plain_append.2 ⟨by decide, hpath ht⟩
  refine Shell.not_needsShell_quoted hcommand hhead ?_ htail
  have hnone : '\'' ∉ uuid.toList := fun hmem => huuid ht _ hmem (by decide)
  simp [hnone]

theorem proper_listKernelDevices : Proper s trusted (.execute Command.listKernelDevices {}) :=
  proper_plain (by decide) rfl rfl fun _ => by decide

theorem proper_listMediated : Proper s trusted (.execute Command.listMediated {}) :=
  proper_plain (by decide) rfl rfl fun _ => by decide

theorem proper_showLink {interface : String} (hinterface : Plain interface) :
    Proper s trusted (.execute (Command.showLink interface) {}) :=
  proper_plain (Apart.append (by decide) _) rfl rfl fun _ =>
    plain_append.2 ⟨by decide, hinterface⟩

theorem proper_listInterface {interface : String} (hinterface : Plain interface) :
    Proper s trusted (.execute (Command.listInterface interface) {}) :=
  proper_plain (Apart.append (by decide) _) rfl rfl fun _ =>
    plain_append.2 ⟨by decide, hinterface⟩

theorem proper_getTrunk {interface : String} (hinterface : Plain interface) (id : Nat) :
    Proper s trusted (.execute (Command.getTrunk interface id) {}) := by
  refine proper_plain (Apart.append (by decide) _) rfl rfl fun _ => ?_
  have hdirectory := plain_interfaceDirectory hinterface
  simp +decide [Command.getTrunk, Command.trunkFile, hdirectory]

theorem proper_getTpid {interface : String} (hinterface : Plain interface) :
    Proper s trusted (.execute (Command.getTpid interface) {}) := by
  refine proper_plain (Apart.append (by decide) _) rfl rfl fun _ => ?_
  have hdirectory := plain_interfaceDirectory hinterface
  simp +decide [Command.getTpid, Command.tpidFile, hdirectory]

/-! ## Commands in a shell -/

theorem proper_freeMemory :
    Proper s trusted (.execute Command.freeMemory ({} : Host.Options).inShell.anyCode) :=
  proper_shell (by decide) (EndsApart.not_writesCount (by decide) _) rfl rfl

theorem proper_listVirtualFunctions {directory : String} {options : Host.Options}
    (hshell : options.shell = true) (htimeout : options.timeout = none) :
    Proper s trusted (.execute (Command.listVirtualFunctions directory) options) := by
  refine proper_shell ((Apart.append (by decide) _).append _) ?_ hshell htimeout
  exact (EndsApart.append (by decide) _).not_writesCount _

theorem proper_listVirtualFunction {directory : String} (hdirectory : Plain directory) (id : Nat) :
    Proper s trusted
      (.execute (Command.listVirtualFunction directory id) ({} : Host.Options).inShell) := by
  refine proper_shell (((Apart.append (by decide) _).append _).append _)
    (not_writesCount_of_plain ?_) rfl rfl
  simp +decide [Command.listVirtualFunction, hdirectory]

theorem proper_setTrunk (interface : String) (action : Network.TrunkAction) (vlan id : Nat) :
    Proper s trusted
      (.execute (Command.setTrunk interface action vlan id) ({} : Host.Options).inShell) := by
  refine proper_shell (((((Apart.append (by decide) _).append _).append _).append _).append _) ?_ rfl rfl
  exact ((EndsApart.append (by decide) _).append _).not_writesCount _

theorem proper_setTpid (interface tpid : String) :
    Proper s trusted (.execute (Command.setTpid interface tpid) ({} : Host.Options).inShell) := by
  refine proper_shell (((Apart.append (by decide) _).append _).append _) ?_ rfl rfl
  exact ((EndsApart.append (by decide) _).append _).not_writesCount _

theorem proper_createMediated (uuid : String) (parent : Pci.Address) (type : String) :
    Proper s trusted
      (.execute (Command.createMediated uuid parent type) ({} : Host.Options).inShell) := by
  refine proper_shell ((((((Apart.append (by decide) _).append _).append _).append _).append _).append _)
    ?_ rfl rfl
  exact (EndsApart.append (by decide) _).not_writesCount _

theorem proper_removeMediated (uuid : String) :
    Proper s trusted (.execute (Command.removeMediated uuid) ({} : Host.Options).inShell) := by
  refine proper_shell ((Apart.append (by decide) _).append _) ?_ rfl rfl
  exact (EndsApart.append (by decide) _).not_writesCount _

theorem proper_mediatedParent (uuid : String) :
    Proper s trusted (.execute (Command.mediatedParent uuid) ({} : Host.Options).inShell) := by
  refine proper_shell ((Apart.append (by decide) _).append _) ?_ rfl rfl
  exact (EndsApart.append (by decide) _).not_writesCount _

theorem proper_addBridge {bridge : String} (hbridge : Plain bridge) :
    Proper s trusted (.execute (Command.addBridge bridge) ({} : Host.Options).inShell) :=
  proper_shell (Apart.append (by decide) _)
    (not_writesCount_of_plain (plain_append.2 ⟨by decide, hbridge⟩)) rfl rfl

theorem proper_deleteBridge {bridge : String} (hbridge : Plain bridge) :
    Proper s trusted (.execute (Command.deleteBridge bridge) ({} : Host.Options).inShell) :=
  proper_shell (Apart.append (by decide) _)
    (not_writesCount_of_plain (plain_append.2 ⟨by decide, hbridge⟩)) rfl rfl

theorem proper_addToBridge {bridge interface : String} (hbridge : Plain bridge)
    (hinterface : Plain interface) :
    Proper s trusted
      (.execute (Command.addToBridge bridge interface) ({} : Host.Options).inShell) := by
  refine proper_shell (((Apart.append (by decide) _).append _).append _)
    (not_writesCount_of_plain ?_) rfl rfl
  unfold Command.addToBridge
  rw [plain_append, plain_append, plain_append]
  exact ⟨⟨⟨by decide, hbridge⟩, by decide⟩, hinterface⟩

/-- A number of virtual functions is written in a shell and given up after a time of its own. -/
theorem proper_setVirtualFunctions {directory : String} (hdirectory : Plain directory) (count : Nat)
    {options : Host.Options} (hshell : options.shell = true)
    (htimeout : options.timeout = some (Duration.ofSeconds s.sysfsTimeout)) :
    Proper s trusted (.execute (Command.setVirtualFunctions directory count) options) := by
  have hvirsh : Apart (Command.setVirtualFunctions directory count) :=
    (((Apart.append (by decide) _).append _).append _).append _
  have hunquoted : Shell.Unquoted (Command.setVirtualFunctions directory count).toList := by
    have hnumber := (Shell.plain_decimal count).unquoted
    simp only [Command.setVirtualFunctions, String.toList_append, Shell.unquoted_append]
    exact ⟨⟨⟨⟨by decide, hnumber⟩, by decide⟩, hdirectory.unquoted⟩, by decide⟩
  have hwrites : WritesCount (Command.setVirtualFunctions directory count) options := by
    refine ⟨hshell, ?_, ?_⟩
    · rw [Shell.bare_of_unquoted hunquoted]
      simp [Command.setVirtualFunctions]
    · rw [Command.setVirtualFunctions, String.toList_append]
      exact List.suffix_append _ _
  exact ⟨⟨fun hisVirsh => absurd hisVirsh hvirsh.not_isVirsh, fun _ => htimeout,
    fun _ hnot => absurd hwrites hnot⟩, fun _ _ => hshell⟩

end Hypervisor
end VirtHost
