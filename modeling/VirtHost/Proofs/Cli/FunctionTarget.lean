import VirtHost.Proofs.Cli.Calls
import VirtHost.Proofs.Cli.Job
import VirtHost.Proofs.Hypervisor.VirtualFunctionCount

/-! # The physical function that a command line names

* `Aims`: the physical functions that words give.
* `TargetRequest`: what a host is asked for when the number of virtual functions is set.
* `setFunctions_aims`: words that are accepted give one physical function, and nothing else is changed.
-/

namespace VirtHost.Hypervisor
open Host (Succeeded)
set_option autoImplicit false

variable {h : Hypervisor} {f : PhysicalFunction} {directory : String} {count : Nat} {check : Bool}
  {t : List Exchange} {r : Except Error Unit} {e : Exchange}

/-- What a host is asked for when the number of virtual functions of a physical function is set. -/
inductive TargetRequest (f : PhysicalFunction) (count : Nat) : Host.Request → Prop
  | found {name : String} (hname : f = .interface name) (options : Host.Options) :
      TargetRequest f count (.execute (Command.listInterface name) options)
  | written {number : Nat} (hnumber : number = count ∨ number = 0) (options : Host.Options) :
      TargetRequest f count (.execute
        ("echo " ++ Text.decimal number ++ " > " ++ f.directory ++ "/sriov_numvfs") options)
  | listed (options : Host.Options) :
      TargetRequest f count (.execute (Command.listVirtualFunctions f.directory) options)

theorem Writing.targetRequest (hw : Writing h f.directory count t r) (he : e ∈ t) :
    TargetRequest f count e.request := by
  cases hw with
  | once hfirst hr =>
    obtain rfl := List.mem_singleton.1 he
    exact .written (.inl rfl) _
  | reset hfirst hsecond =>
    rcases List.mem_cons.1 he with rfl | he
    · exact .written (.inl rfl) _
    · obtain rfl := List.mem_singleton.1 he
      exact .written (.inr rfl) _
  | again hfirst hsecond hr =>
    rcases List.mem_cons.1 he with rfl | he
    · exact .written (.inl rfl) _
    · rcases List.mem_cons.1 he with rfl | he
      · exact .written (.inr rfl) _
      · obtain rfl := List.mem_singleton.1 he
        exact .written (.inl rfl) _

theorem Found.targetRequest (hf : Found f t) (he : e ∈ t) : TargetRequest f count e.request := by
  cases hf with
  | interface hreply =>
    obtain rfl := List.mem_singleton.1 he
    exact .found rfl _
  | address => cases he

theorem targetRequest_of_runs (hrun : (f.setCount h count check).Runs t r) (he : e ∈ t) :
    TargetRequest f count e.request := by
  rcases runs_setCount hrun with ⟨name, reply, e, rfl, rfl, -⟩ | ⟨u, v, rfl, hu, hv⟩
  · obtain rfl := List.mem_singleton.1 he
    exact .found rfl _
  · rcases List.mem_append.1 he with he | he
    · exact hu.targetRequest he
    · rcases runs_setCountIn hv with ⟨hw, -⟩ | ⟨w, reply, rfl, hw, -⟩
      · exact hw.targetRequest he
      · rcases List.mem_append.1 he with he | he
        · exact hw.targetRequest he
        · obtain rfl := List.mem_singleton.1 he
          exact .listed _

/-- The interface, if it is named by one. -/
def PhysicalFunction.interface? : PhysicalFunction → Option String
  | interface name => some name
  | address _ => none

/-- The address, if it is named by one. -/
def PhysicalFunction.address? : PhysicalFunction → Option Pci.Address
  | interface _ => none
  | address pci => some pci

/-- What it is named by. -/
def PhysicalFunction.text : PhysicalFunction → String
  | interface name => name
  | address pci => pci.text

end VirtHost.Hypervisor

namespace VirtHost.Cli
open Hypervisor (PhysicalFunction Protocol)
open Data (Document)
open Text (decimal)
set_option autoImplicit false

theorem takes_interface : (grammarOf "set-vfs").Takes "interface" .text where
  isName := ⟨by decide, by decide⟩
  form := by decide +kernel
  ne_position := by simp [grammarOf, Grammar.positions, option, position, flag, helpFlag]

theorem takes_pf : (grammarOf "set-vfs").Takes "pf" .address where
  isName := ⟨by decide, by decide⟩
  form := by decide +kernel
  ne_position := by simp [grammarOf, Grammar.positions, option, position, flag, helpFlag]

theorem command_eq_setFunctions {m : Matches} {name : String} {interface : Option String}
    {pf : Option Pci.Address} {count : Nat} {noCheck : Bool}
    (h : Command.setFunctions interface pf count noCheck = m.command name) :
    name = "set-vfs" ∧ interface = m.text? "interface" ∧ pf = m.address? "pf" := by
  by_cases hname : name = "set-vfs"
  · subst hname
    cases h
    exact ⟨rfl, rfl, rfl⟩
  · grind [Matches.command]

/-- The physical functions that words give. -/
inductive Aims (words : List String) : PhysicalFunction → Prop
  | interface {name : String} (hgiven : Given words "interface" name) : Aims words (.interface name)
  | address {text : String} {pci : Pci.Address} (hgiven : Given words "pf" text)
      (hpci : Pci.Address.parse text = .ok pci) : Aims words (.address pci)

section
variable {rest : List String} {m : Matches}

theorem aims_iff (h : (grammarOf "set-vfs").read rest = .ok m) (f : PhysicalFunction) : Aims rest f ↔
    (∃ name, m.text? "interface" = some name ∧ f = .interface name) ∨
      ∃ pci, m.address? "pf" = some pci ∧ f = .address pci := by
  simp only [text?_eq_some_iff_given takes_interface h, address?_eq_some_iff_given takes_pf h]
  constructor
  · rintro (⟨hgiven⟩ | ⟨hgiven, hpci⟩)
    · exact .inl ⟨_, hgiven, rfl⟩
    · exact .inr ⟨_, ⟨_, hgiven, hpci⟩, rfl⟩
  · rintro (⟨name, hgiven, rfl⟩ | ⟨pci, ⟨text, hgiven, hpci⟩, rfl⟩)
    · exact .interface hgiven
    · exact .address hgiven hpci

theorem named_of_read (h : (grammarOf "set-vfs").read rest = .ok m) :
    Named rest "interface" ↔ ¬ Named rest "pf" := by
  obtain ⟨hcheck, -⟩ := Grammar.exists_tracks_of_read (plain_grammarOf _) h
  obtain ⟨hexclusive, -, -, hunless⟩ := Grammar.check_eq_ok_iff.1 hcheck
  have hboth := hexclusive ("interface", "pf") (by decide +kernel)
  have hone := hunless ("interface", "pf") (by decide +kernel)
  simp only [Grammar.has_iff_named (plain_grammarOf _) takes_interface h,
    Grammar.has_iff_named (plain_grammarOf _) takes_pf h] at hboth hone
  exact ⟨fun hinterface hpf => hboth ⟨hinterface, hpf⟩, hone.resolve_right⟩

/-- The physical function that is given is the one that the command is about. -/
theorem exists_target_of_read (h : (grammarOf "set-vfs").read rest = .ok m) :
    ∃ target : PhysicalFunction, m.text? "interface" = target.interface? ∧
      m.address? "pf" = target.address? ∧ ∀ f, Aims rest f ↔ f = target := by
  have hone := named_of_read h
  rw [← isSome_text?_iff_named takes_interface h, ← isSome_address?_iff_named takes_pf h] at hone
  cases hinterface : m.text? "interface" with
  | some name =>
    have hpf : m.address? "pf" = none := by simpa [hinterface] using hone
    exact ⟨.interface name, rfl, hpf, fun f => by simp [aims_iff h, hinterface, hpf]⟩
  | none =>
    obtain ⟨pci, hpf⟩ : ∃ pci, m.address? "pf" = some pci := by
      simpa [hinterface, Option.isSome_iff_exists] using hone
    exact ⟨.address pci, rfl, hpf, fun f => by simp [aims_iff h, hinterface, hpf]⟩

end

/-- The result of the command, from that of setting the number. -/
def functionsSet (target : PhysicalFunction) (count : Nat) (o : Except Error Unit) :
    Except Failure (Option Document) :=
  (o.mapError (Failure.operation (some ("Failed to set " ++ decimal count ++ " VFs on " ++ target.text)))).map
    fun _ => none

theorem runs_setFunctions {h : Hypervisor} {target : PhysicalFunction} {count : Nat} {noCheck : Bool}
    {t : List Exchange} {r : Except Failure (Option Document)} :
    (run h (.setFunctions target.interface? target.address? count noCheck)).Runs t r ↔
      ∃ o, (target.setCount h count !noCheck).Runs t o ∧ r = functionsSet target count o := by
  have hcommand : run h (.setFunctions target.interface? target.address? count noCheck) =
      Job.doing (some ("Failed to set " ++ decimal count ++ " VFs on " ++ target.text))
        (target.setCount h count !noCheck) >>= fun _ => pure none := by
    cases target <;> rfl
  rw [hcommand, Job.runs_bind_pure]
  simp only [Job.runs_doing]
  constructor
  · rintro ⟨_, ⟨o, ho, rfl⟩, rfl⟩
    exact ⟨o, ho, rfl⟩
  · rintro ⟨o, ho, rfl⟩
    exact ⟨_, ⟨o, ho, rfl⟩, rfl⟩

/-- **The target of the number of virtual functions.** Words that name both an interface and an address, or
none of them, are refused, wherever they stand. Words that are accepted give one physical function, which is
what the command is about: on every host it asks only for what belongs to that physical function, and ends
with the result of setting its number. -/
theorem setFunctions_aims (environment : Option String) (words : List String) :
    (∀ rest, Calls words "set-vfs" rest → (Named rest "interface" ↔ Named rest "pf") →
      ∃ refusal, Invocation.read environment words = .error refusal) ∧
    ∀ globals interface pf count noCheck,
      Invocation.read environment words = .ok ⟨globals, .setFunctions interface pf count noCheck⟩ →
      ∃ rest target, Calls words "set-vfs" rest ∧ (∀ f, Aims rest f ↔ f = target) ∧
        interface = target.interface? ∧ pf = target.address? ∧ interface.isSome = !pf.isSome ∧
        ∀ (h : Hypervisor) t r, (run h (.setFunctions interface pf count noCheck)).Runs t r →
          (∃ o, (target.setCount h count !noCheck).Runs t o ∧ r = functionsSet target count o) ∧
          (∀ what, r ≠ .error (.unmet what)) ∧ Protocol target count t ∧
          ∀ e ∈ t, Hypervisor.TargetRequest target count e.request := by
  constructor
  · intro rest hcalls hnamed
    refine hcalls.refused fun m hread => ?_
    have hone := named_of_read hread
    tauto
  · intro globals interface pf count noCheck hread
    obtain ⟨name, rest, m, hcalls, hm, hcommand⟩ := exists_calls_of_read hread
    obtain ⟨rfl, rfl, rfl⟩ := command_eq_setFunctions hcommand
    obtain ⟨target, hinterface, hpf, htarget⟩ := exists_target_of_read hm
    refine ⟨rest, target, hcalls, htarget, hinterface, hpf, ?_, fun h t r hrun => ?_⟩
    · rw [hinterface, hpf]
      cases target <;> rfl
    · rw [hinterface, hpf] at hrun
      obtain ⟨o, ho, rfl⟩ := runs_setFunctions.1 hrun
      refine ⟨⟨o, ho, rfl⟩, fun what => ?_, Hypervisor.protocol_of_runs ho,
        fun e he => Hypervisor.targetRequest_of_runs ho he⟩
      cases o <;> simp [functionsSet, Except.map, Except.mapError]

/-- An address between a flag and a count, and an interface beside an address. -/
theorem setFunctions_aims_address :
    let own := ["--no-check", "--pf=0000:b1:00.0", "6"]
    let both := ["4", "--interface", "eth0", "--pf=0000:b1:00.0"]
    let target := PhysicalFunction.address ⟨0, 0xb1, 0, 0⟩
    let t := [Hypervisor.wrote target.directory ({} : Hypervisor).firstOptions 6 (Host.printed "")]
    (Calls ("set-vfs" :: both) "set-vfs" both ∧ (Named both "interface" ↔ Named both "pf") ∧
      ∃ refusal, Invocation.read none ("set-vfs" :: both) = .error refusal) ∧
    (∃ globals, Invocation.read none ("--json" :: "set-vfs" :: own) =
      .ok ⟨globals, .setFunctions none target.address? 6 true⟩) ∧
    (run {} (.setFunctions none target.address? 6 true)).Runs t (.ok none) ∧
    (∀ f, Aims own f ↔ f = target) ∧ Protocol target 6 t := by
  intro own both target t
  have hboth : Calls ("set-vfs" :: both) "set-vfs" both := ⟨[], {}, rfl, rfl, by decide +kernel⟩
  have hnamed : Named both "interface" ↔ Named both "pf" :=
    iff_of_true ⟨["4"], _, _, rfl, by decide, .inl rfl⟩
      ⟨["4", "--interface", "eth0"], _, _, rfl, by decide, .inr ⟨"0000:b1:00.0", rfl⟩⟩
  have hcalls : Calls ("--json" :: "set-vfs" :: own) "set-vfs" own :=
    ⟨["--json"], _, rfl, rfl, by decide +kernel⟩
  have hread : ∃ globals, Invocation.read none ("--json" :: "set-vfs" :: own) =
      .ok ⟨globals, .setFunctions none target.address? 6 true⟩ := ⟨_, by rfl⟩
  have hrun : (run {} (.setFunctions target.interface? target.address? 6 true)).Runs t (.ok none) :=
    runs_setFunctions.2 ⟨.ok (), Action.runs_of_play (by decide +kernel), rfl⟩
  obtain ⟨globals, hglobals⟩ := hread
  obtain ⟨rest, found, hfound, hunique, -, hpf, -, hruns⟩ :=
    (setFunctions_aims none ("--json" :: "set-vfs" :: own)).2 globals _ _ _ _ hglobals
  obtain ⟨-, rfl⟩ := hcalls.unique hfound
  obtain rfl : target = found := by
    cases found with
    | interface name => cases hpf
    | address pci =>
      cases hpf
      rfl
  obtain ⟨-, -, hprotocol, -⟩ := hruns {} t (.ok none) hrun
  exact ⟨⟨hboth, hnamed, (setFunctions_aims none ("set-vfs" :: both)).1 both hboth hnamed⟩,
    ⟨globals, hglobals⟩, hrun, hunique, hprotocol⟩

end VirtHost.Cli
