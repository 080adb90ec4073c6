import VirtHost.Proofs.Host.Files
import VirtHost.Proofs.Hypervisor.Devices
import VirtHost.Proofs.Listing.VirtualFunction
import VirtHost.Proofs.Template.OnePass
import VirtHost.Proofs.Text.Scan

/-! # Virtual functions and their device files

* `functionFile_inj`: every address has a device file of its own.
* `FunctionChange`: a virtual function that a virtual machine is given, or that is taken from it;
  `FunctionChange.Called`: what is asked for then.
* `FunctionCall`: one change with its exchanges, on whatever host.
* `functionCalls_keep_files`: the files that any number of calls leave behind, and what each of their
  commands finds.
-/

namespace VirtHost.Hypervisor
open Host (Succeeded Spares Stores KeepsOnFailure)
open Text (hexadecimal)
set_option autoImplicit false

/-! ## Device files -/

theorem underscore_notMem_hexadecimal (width n : Nat) : '_' ∉ hexadecimal width n :=
  Listing.notMem_of_isHexDigit Listing.isHexDigit_of_mem_hexadecimal (by decide)

theorem toList_functionFileName (pci : Pci.Address) : (functionFileName pci).toList =
    "vf_".toList ++ (hexadecimal 4 pci.domain.toNat ++ '_' :: (hexadecimal 2 pci.bus.toNat ++
      '_' :: (hexadecimal 2 pci.slot.toNat ++ '_' :: (hexadecimal 1 pci.function.toNat ++
        ".xml".toList)))) := by
  simp [functionFileName]

theorem functionFileName_injective : Function.Injective functionFileName := by
  intro p q hname
  have hchars := congrArg String.toList hname
  rw [toList_functionFileName, toList_functionFileName] at hchars
  have hsplit {width m n : Nat} {s t : List Char}
      (h : hexadecimal width m ++ '_' :: s = hexadecimal width n ++ '_' :: t) : m = n ∧ s = t := by
    have hpair := congrArg (Text.splitOnce '_') h
    rw [Text.splitOnce_append (underscore_notMem_hexadecimal width m),
      Text.splitOnce_append (underscore_notMem_hexadecimal width n)] at hpair
    obtain ⟨hnumeral, hrest⟩ := Prod.mk.inj (Option.some.inj hpair)
    exact ⟨Text.hexadecimal_injective width hnumeral, hrest⟩
  obtain ⟨hdomain, hchars⟩ := hsplit (List.append_cancel_left hchars)
  obtain ⟨hbus, hchars⟩ := hsplit hchars
  obtain ⟨hslot, hchars⟩ := hsplit hchars
  have hfunction := Text.hexadecimal_injective 1 (List.append_cancel_right hchars)
  rcases p with ⟨d, b, s, f⟩
  rcases q with ⟨d', b', s', f'⟩
  obtain rfl := UInt32.toNat_inj.1 hdomain
  obtain rfl := UInt8.toNat_inj.1 hbus
  obtain rfl := UInt8.toNat_inj.1 hslot
  obtain rfl := UInt8.toNat_inj.1 hfunction
  rfl

theorem functionFile_inj (h : Hypervisor) {p q : Pci.Address} :
    h.functionFile p = h.functionFile q ↔ p = q := by
  have hhead (pci : Pci.Address) : (functionFileName pci).toList.head? ≠ some '/' := by
    rw [toList_functionFileName]
    simp
  exact (Host.joinPath_inj (hhead p) (hhead q)).trans functionFileName_injective.eq_iff

/-! ## Templates -/

/-- The exchanges in which the template of virtual functions is loaded and turns out to be some text. -/
def loading (h : Hypervisor) (template : String) : List Exchange :=
  match h.settings.templates.virtualFunction with
  | none => []
  | some path => [⟨.readLocal path, .ok template⟩]

/-- In some exchanges the template of virtual functions is one text whenever it is loaded. -/
structure LoadsOnly (h : Hypervisor) (template : String) (t : List Exchange) : Prop where
  builtIn : h.settings.templates.virtualFunction = none → template = Template.builtIn .virtualFunction
  file : ∀ path text, h.settings.templates.virtualFunction = some path →
    (⟨.readLocal path, .ok text⟩ : Exchange) ∈ t → text = template

section
variable {h : Hypervisor} {t u : List Exchange} {template text : String}

theorem LoadsOnly.mono (ht : LoadsOnly h template t) (hu : u ⊆ t) : LoadsOnly h template u where
  builtIn := ht.builtIn
  file path text hpath hmem := ht.file path text hpath (hu hmem)

/-- Without a file for it, the template is the built-in one. -/
theorem loadsOnly_builtIn (hfile : h.settings.templates.virtualFunction = none) (t : List Exchange) :
    LoadsOnly h (Template.builtIn .virtualFunction) t where
  builtIn _ := rfl
  file path text hpath _ := by
    rw [hfile] at hpath
    cases hpath

theorem mem_loading {e : Exchange} (he : e ∈ h.loading template) :
    ∃ path, e = ⟨.readLocal path, .ok template⟩ := by
  unfold loading at he
  cases hfile : h.settings.templates.virtualFunction with
  | none =>
    rw [hfile] at he
    cases he
  | some path =>
    rw [hfile] at he
    exact ⟨path, List.mem_singleton.1 he⟩

theorem loading_of_runs (ht : LoadsOnly h template t)
    (hr : (h.template .virtualFunction).Runs t (.ok text)) :
    t = h.loading template ∧ text = template := by
  unfold loading
  cases hfile : h.settings.templates.virtualFunction with
  | none =>
    simp only [Hypervisor.template, TemplateFiles.file?, hfile] at hr
    obtain ⟨rfl, htext⟩ := Action.runs_pure.1 hr
    exact ⟨rfl, (Except.ok.inj htext).trans (ht.builtIn hfile).symm⟩
  | some path =>
    simp only [Hypervisor.template, TemplateFiles.file?, hfile] at hr
    obtain ⟨reply, rest, rfl, rfl, hreply⟩ := hr
    cases reply with
    | error cause => cases cause <;> cases hreply
    | ok loaded =>
      cases hreply
      obtain rfl := ht.file path text hfile List.mem_cons_self
      exact ⟨rfl, rfl⟩

theorem runs_loading (ht : LoadsOnly h template t) :
    (h.template .virtualFunction).Runs (h.loading template) (.ok template) := by
  unfold loading
  cases hfile : h.settings.templates.virtualFunction with
  | none =>
    simp only [Hypervisor.template, TemplateFiles.file?, hfile]
    rw [ht.builtIn hfile]
    exact Action.runs_pure.2 ⟨rfl, rfl⟩
  | some path =>
    simp only [Hypervisor.template, TemplateFiles.file?, hfile]
    exact ⟨.ok template, [], rfl, rfl, rfl⟩

theorem not_loaded_iff : (∃ e, (h.template .virtualFunction).Runs t (.error e)) ↔
    ∃ path cause, h.settings.templates.virtualFunction = some path ∧
      t = [⟨.readLocal path, .error cause⟩] := by
  cases hfile : h.settings.templates.virtualFunction with
  | none =>
    simp only [Hypervisor.template, TemplateFiles.file?, hfile]
    constructor
    · rintro ⟨e, he⟩
      cases (Action.runs_pure.1 he).2
    · rintro ⟨path, cause, hpath, -⟩
      cases hpath
  | some path =>
    simp only [Hypervisor.template, TemplateFiles.file?, hfile]
    constructor
    · rintro ⟨e, reply, rest, rfl, rfl, hreply⟩
      cases reply with
      | error cause => exact ⟨path, cause, rfl, rfl⟩
      | ok _ => cases hreply
    · rintro ⟨_, cause, ⟨⟩, rfl⟩
      cases cause <;> exact ⟨_, _, [], rfl, rfl, rfl⟩

end

/-! ## Commands that change devices -/

/-- A device of a virtual machine is attached or detached by a file. -/
def ChangesDevice (e : Exchange) : Prop :=
  ∃ command, e.command? = some command ∧ (Text.startsWith command "virsh attach-device " = true ∨
    Text.startsWith command "virsh detach-device " = true)

theorem not_changesDevice_of_command? {e : Exchange} (he : e.command? = none) :
    ¬ ChangesDevice e := by
  rintro ⟨command, hcommand, -⟩
  rw [he] at hcommand
  cases hcommand

theorem not_changesDevice_dominfo (v : Virsh) (name : String)
    (reply : Except Error Host.Completion) : ¬ ChangesDevice (v.ran ("dominfo " ++ name) reply) := by
  rintro ⟨command, hcommand, hchanges⟩
  have hname : "virsh " ++ ("dominfo " ++ name) = "virsh dominfo " ++ name := by
    rw [← String.append_assoc]
    rfl
  rw [Virsh.command?_ran, Option.some.injEq, hname] at hcommand
  subst hcommand
  rcases hchanges with hattaches | hdetaches
  · exact Text.not_startsWith_append (by decide +kernel) (by decide +kernel) hattaches
  · exact Text.not_startsWith_append (by decide +kernel) (by decide +kernel) hdetaches

/-! ## One change -/

/-- A virtual function that a virtual machine is given, or that is taken from it. -/
structure FunctionChange where
  attaches : Bool
  name : String
  pci : Pci.Address

namespace FunctionChange
variable (h : Hypervisor) (c : FunctionChange) (template : String)

def action : Action Unit :=
  if c.attaches then h.attachFunction c.name c.pci else h.detachFunction c.name c.pci

def subcommand : String :=
  if c.attaches then "attach-device " else "detach-device "

/-- The exchange in which its device file is written. -/
def wrote (reply : Except Error Unit) : Exchange :=
  ⟨.write (h.functionFile c.pci) (Template.virtualFunction template c.pci), reply⟩

/-- The exchange in which the state of the virtual machine is asked for. -/
def asked (reply : Except Error Host.Completion) : Exchange :=
  h.tool.ran ("dominfo " ++ c.name) reply

/-- The exchange in which it is made, after a report about the virtual machine. -/
def made (report : String) (reply : Except Error Host.Completion) : Exchange :=
  h.tool.ran (c.subcommand ++ c.name ++ " --file " ++ h.functionFile c.pci ++
    Virsh.configFlag (reportedState report)) reply

/-- The exchanges before it is made, if the file is written. -/
def prepared (written : Except Error Unit) (status : Except Error Host.Completion) : List Exchange :=
  h.loading template ++ [c.wrote h template written, c.asked h status]

/-- The exchanges of a change: they end with the first one that fails. -/
inductive Called : List Exchange → Prop
  | unloaded {path : String} {cause : FileError}
      (hpath : h.settings.templates.virtualFunction = some path) :
    Called [⟨.readLocal path, .error cause⟩]
  | unwritten {e : Error} : Called (h.loading template ++ [c.wrote h template (.error e)])
  | unknown {status : Except Error Host.Completion} (hstatus : ¬ Succeeded status) :
    Called (c.prepared h template (.ok ()) status)
  | known {status : Host.Completion} {reply : Except Error Host.Completion}
      (hstatus : status.code = 0) :
    Called (c.prepared h template (.ok ()) (.ok status) ++ [c.made h status.stdout reply])

section
variable {h : Hypervisor} {c : FunctionChange} {template : String} {t before after : List Exchange}
  {e : Exchange} {r : Except Error Unit}

theorem action_eq : c.action h = (do
    let file ← h.writeFunctionXml (h.functionFile c.pci) c.pci
    let state ← h.currentState c.name
    h.tool.perform (c.subcommand ++ c.name ++ " --file " ++ file ++ Virsh.configFlag state)) := by
  rcases c with ⟨_ | _, name, pci⟩ <;> rfl

theorem changing_eq {status reply : Except Error Host.Completion} :
    h.changing c.subcommand c.name (h.functionFile c.pci) status reply = c.asked h status ::
      match h.tool.outcome status with
      | .ok report => [c.made h report.stdout reply]
      | .error _ => [] := by
  rfl

theorem runs_action (ht : LoadsOnly h template t) (hr : (c.action h).Runs t r) :
    (∃ path cause, h.settings.templates.virtualFunction = some path ∧
      t = [⟨.readLocal path, .error cause⟩]) ∨
    (∃ e, t = h.loading template ++ [c.wrote h template (.error e)]) ∨
    ∃ status reply, t = h.loading template ++ c.wrote h template (.ok ()) ::
      h.changing c.subcommand c.name (h.functionFile c.pci) status reply ∧
      r = h.attached status reply := by
  rw [action_eq] at hr
  rcases Action.runs_bind.1 hr with ⟨e, he, rfl⟩ | ⟨u, v, file, rfl, hu, hv⟩
  · rcases runs_writeXml.1 he with ⟨e', hload, -⟩ | ⟨load, text, reply, hload, rfl, hreply⟩
    · exact .inl (not_loaded_iff.1 ⟨e', hload⟩)
    · obtain ⟨rfl, rfl⟩ := loading_of_runs (ht.mono (List.subset_append_left _ _)) hload
      cases reply with
      | error e' => exact .inr (.inl ⟨e', rfl⟩)
      | ok _ => cases hreply
  · rcases runs_writeXml.1 hu with ⟨e', -, hfile⟩ | ⟨load, text, reply, hload, rfl, hreply⟩
    · cases hfile
    · rw [List.append_assoc] at ht ⊢
      obtain ⟨rfl, rfl⟩ := loading_of_runs (ht.mono (List.subset_append_left _ _)) hload
      cases reply with
      | error e' => cases hreply
      | ok _ =>
        cases hreply
        obtain ⟨status, reply, rfl, rfl⟩ := runs_change.1 hv
        exact .inr (.inr ⟨status, reply, rfl, rfl⟩)

theorem called_of_runs (ht : LoadsOnly h template t) (hr : (c.action h).Runs t r) :
    c.Called h template t := by
  rcases runs_action ht hr with ⟨path, cause, hpath, rfl⟩ | ⟨e, rfl⟩ | ⟨status, reply, rfl, -⟩
  · exact .unloaded hpath
  · exact .unwritten
  · rw [changing_eq]
    cases hstatus : h.tool.outcome status with
    | error e => exact .unknown (Virsh.not_succeeded hstatus)
    | ok report =>
      obtain ⟨rfl, hcode⟩ := Virsh.outcome_eq_ok_iff.1 hstatus
      have hknown : c.Called h template (c.prepared h template (.ok ()) (.ok report) ++
          [c.made h report.stdout reply]) := .known hcode
      simpa [prepared] using hknown

theorem exists_runs_of_called (ht : LoadsOnly h template t) (hcalled : c.Called h template t) :
    ∃ r, (c.action h).Runs t r := by
  have hwrite (reply : Except Error Unit) : (h.writeFunctionXml (h.functionFile c.pci) c.pci).Runs
      (h.loading template ++ [c.wrote h template reply]) (reply.map fun _ => h.functionFile c.pci) :=
    runs_writeXml.2 (.inr ⟨_, template, reply, runs_loading ht, rfl, rfl⟩)
  have hchange (status reply : Except Error Host.Completion) : ∃ r, (c.action h).Runs
      (h.loading template ++ [c.wrote h template (.ok ())] ++
        h.changing c.subcommand c.name (h.functionFile c.pci) status reply) r := by
    rw [action_eq]
    exact ⟨_, Action.runs_bind.2 (.inr ⟨_, _, _, rfl, hwrite (.ok ()), runs_change.2 ⟨_, _, rfl, rfl⟩⟩)⟩
  cases hcalled with
  | unloaded hpath =>
    obtain ⟨e, he⟩ := not_loaded_iff.2 ⟨_, _, hpath, rfl⟩
    rw [action_eq]
    exact ⟨_, Action.runs_bind.2 (.inl ⟨e, runs_writeXml.2 (.inl ⟨e, he, rfl⟩), rfl⟩)⟩
  | @unwritten e =>
    rw [action_eq]
    exact ⟨_, Action.runs_bind.2 (.inl ⟨e, hwrite (.error e), rfl⟩)⟩
  | @unknown status hstatus =>
    have hrun := hchange status status
    rw [changing_eq] at hrun
    cases houtcome : h.tool.outcome status with
    | error e => simpa [houtcome, prepared] using hrun
    | ok report => exact absurd ⟨report, Virsh.outcome_eq_ok_iff.1 houtcome⟩ hstatus
  | @known status reply hstatus =>
    have houtcome : h.tool.outcome (.ok status) = .ok status :=
      Virsh.outcome_eq_ok_iff.2 ⟨rfl, hstatus⟩
    have hrun := hchange (.ok status) reply
    rw [changing_eq, houtcome] at hrun
    simpa [prepared] using hrun

theorem changesDevice_made {report : String} {reply : Except Error Host.Completion} :
    ChangesDevice (c.made h report reply) := by
  refine ⟨_, Virsh.command?_ran _ _ _, ?_⟩
  rw [String.append_assoc, String.append_assoc, String.append_assoc, ← String.append_assoc]
  rcases c with ⟨_ | _, name, pci⟩
  · exact .inr (Text.startsWith_append (s := "virsh " ++ "detach-device ") (by decide))
  · exact .inl (Text.startsWith_append (s := "virsh " ++ "attach-device ") (by decide))

theorem exists_runs_iff (ht : LoadsOnly h template t) :
    (∃ r, (c.action h).Runs t r) ↔ c.Called h template t :=
  ⟨fun ⟨_, hr⟩ => called_of_runs ht hr, exists_runs_of_called ht⟩

/-! ### Exchanges of a change -/

/-- An exchange of a change that is not the one in which it is made. -/
inductive Preparation (h : Hypervisor) (c : FunctionChange) (template : String) : Exchange → Prop
  | loading (path : String) (reply : Except FileError String) :
    Preparation h c template ⟨.readLocal path, reply⟩
  | wrote (reply : Except Error Unit) : Preparation h c template (c.wrote h template reply)
  | asked (reply : Except Error Host.Completion) : Preparation h c template (c.asked h reply)

theorem preparation_loading (he : e ∈ h.loading template) : Preparation h c template e := by
  obtain ⟨path, rfl⟩ := mem_loading he
  exact .loading path _

variable {written : Except Error Unit} {status : Except Error Host.Completion}

theorem mem_prepared : e ∈ c.prepared h template written status ↔
    e ∈ h.loading template ∨ e = c.wrote h template written ∨ e = c.asked h status := by
  simp [prepared]

theorem preparation_prepared (he : e ∈ c.prepared h template written status) :
    Preparation h c template e := by
  rcases mem_prepared.1 he with he | rfl | rfl
  · exact preparation_loading he
  · exact .wrote written
  · exact .asked status

theorem Preparation.not_changesDevice (he : Preparation h c template e) : ¬ ChangesDevice e := by
  cases he with
  | loading path reply => exact not_changesDevice_of_command? rfl
  | wrote reply => exact not_changesDevice_of_command? rfl
  | asked reply => exact not_changesDevice_dominfo _ _ _

/-- A change is made only after everything else has succeeded. -/
theorem Called.preparation_or_made (hcalled : c.Called h template t) (he : e ∈ t) :
    Preparation h c template e ∨ ∃ status reply, status.code = 0 ∧
      e = c.made h status.stdout reply ∧
      t = c.prepared h template (.ok ()) (.ok status) ++ [c.made h status.stdout reply] := by
  cases hcalled with
  | unloaded _ =>
    obtain rfl := List.mem_singleton.1 he
    exact .inl (.loading _ _)
  | unwritten =>
    rcases List.mem_append.1 he with he | he
    · exact .inl (preparation_loading he)
    · obtain rfl := List.mem_singleton.1 he
      exact .inl (.wrote _)
  | unknown _ => exact .inl (preparation_prepared he)
  | @known status reply hstatus =>
    rcases List.mem_append.1 he with he | he
    · exact .inl (preparation_prepared he)
    · exact .inr ⟨status, reply, hstatus, List.mem_singleton.1 he, rfl⟩

theorem Called.of_changesDevice (hcalled : c.Called h template t) (he : e ∈ t)
    (hchanges : ChangesDevice e) : ∃ status reply, status.code = 0 ∧
      t = c.prepared h template (.ok ()) (.ok status) ++ [c.made h status.stdout reply] := by
  rcases hcalled.preparation_or_made he with hearly | ⟨status, reply, hcode, -, ht⟩
  · exact absurd hchanges hearly.not_changesDevice
  · exact ⟨status, reply, hcode, ht⟩

/-- A device is changed at the end of a call. -/
theorem eq_of_changesDevice {status : Host.Completion} {reply : Except Error Host.Completion}
    (ht : before ++ e :: after =
      c.prepared h template (.ok ()) (.ok status) ++ [c.made h status.stdout reply])
    (hchanges : ChangesDevice e) : before = c.prepared h template (.ok ()) (.ok status) ∧
      e = c.made h status.stdout reply ∧ after = [] := by
  rcases List.eq_nil_or_concat after with rfl | ⟨rest, last, rfl⟩
  · obtain ⟨hbefore, hlast⟩ := List.append_inj' ht rfl
    exact ⟨hbefore, (List.cons.inj hlast).1, rfl⟩
  · rw [List.concat_eq_append, ← List.cons_append, ← List.append_assoc] at ht
    obtain ⟨hbefore, -⟩ := List.append_inj' ht rfl
    have hmem : e ∈ c.prepared h template (.ok ()) (.ok status) := by
      rw [← hbefore]
      simp
    exact absurd hchanges (preparation_prepared hmem).not_changesDevice

theorem served_of_mem_prepared (he : e ∈ c.prepared h template (.ok ()) status) : e.Served := by
  rcases mem_prepared.1 he with he | rfl | rfl
  · obtain ⟨path, rfl⟩ := mem_loading he
    exact ⟨template, rfl⟩
  · exact rfl
  · trivial

theorem asked_mem_prepared {reply : Except Error Host.Completion}
    (he : c.asked h reply ∈ c.prepared h template written status) : reply = status := by
  rcases mem_prepared.1 he with he | he | he
  · obtain ⟨path, he⟩ := mem_loading he
    cases he
  · cases he
  · cases he
    rfl

/-- A call in which the template is not loaded, the file not written or the state not found out
changes no device. -/
theorem Called.quiet (hcalled : c.Called h template t) (hfailed : (∃ e ∈ t, ¬ e.Served) ∨
    ∃ reply, c.asked h reply ∈ t ∧ ¬ Succeeded reply) : ∀ e ∈ t, ¬ ChangesDevice e := by
  intro e he hchanges
  obtain ⟨status, reply, hcode, rfl⟩ := hcalled.of_changesDevice he hchanges
  rcases hfailed with ⟨x, hx, hserved⟩ | ⟨answer, hanswer, hsucceeded⟩
  · rcases List.mem_append.1 hx with hx | hx
    · exact hserved (served_of_mem_prepared hx)
    · obtain rfl := List.mem_singleton.1 hx
      exact hserved trivial
  · rcases List.mem_append.1 hanswer with hanswer | hanswer
    · rw [asked_mem_prepared hanswer] at hsucceeded
      exact hsucceeded (Host.succeeded_ok.2 hcode)
    · rcases List.mem_append.1 he with he | he
      · exact (preparation_prepared he).not_changesDevice hchanges
      · rw [List.mem_singleton.1 he, ← List.mem_singleton.1 hanswer] at hchanges
        exact not_changesDevice_dominfo _ _ _ hchanges

/-! ### Device files -/

/-- A request that leaves the device file of an address alone, or writes what belongs there. -/
def Respects (h : Hypervisor) (template : String) (pci : Pci.Address) (request : Host.Request) : Prop :=
  Spares (h.functionFile pci) request ∨
    request = .write (h.functionFile pci) (Template.virtualFunction template pci)

theorem respects_wrote (pci : Pci.Address) (reply : Except Error Unit) :
    Respects h template pci (c.wrote h template reply).request := by
  by_cases hpci : c.pci = pci
  · right
    rw [← hpci]
    rfl
  · left
    exact .write _ fun hfile => hpci ((functionFile_inj h).1 hfile)

theorem respects_ran (pci : Pci.Address) (arguments : String)
    (reply : Except Error Host.Completion) :
    Respects h template pci (h.tool.ran arguments reply).request :=
  .inl (.virsh arguments _)

theorem Called.respects (hcalled : c.Called h template t) (pci : Pci.Address) (he : e ∈ t) :
    Respects h template pci e.request := by
  rcases hcalled.preparation_or_made he with hearly | ⟨status, reply, -, rfl, -⟩
  · cases hearly with
    | loading path reply => exact .inl (.readLocal path)
    | wrote reply => exact respects_wrote pci reply
    | asked reply => exact respects_ran pci _ reply
  · exact respects_ran pci _ reply

theorem content_prepared {σ : Type} {host : Host σ} {content : σ → String → Option String}
    (hstores : Stores host content) {s m : σ} {status : Except Error Host.Completion}
    (hs : host.Answers s (c.prepared h template (.ok ()) status) m) :
    content m (h.functionFile c.pci) = some (Template.virtualFunction template c.pci) := by
  obtain ⟨s', -, hwritten, hasked, hm⟩ := Host.answers_append.1 hs
  have hspared := hstores.spared (host s' (c.wrote h template (.ok ())).request).2
    (h.functionFile c.pci) (c.asked h status).request (.virsh _ _)
  have hm : m = _ := hm
  rw [hm, hspared]
  exact hstores.written s' _ _ hwritten

end

end FunctionChange

/-! ## Many changes -/

/-- A change that was asked for, with the exchanges in which that was done. -/
structure FunctionCall (h : Hypervisor) where
  change : FunctionChange
  exchanges : List Exchange
  runs : ∃ result, (change.action h).Runs exchanges result

/-- The exchanges of some calls, one call after the other. -/
def exchangesOf {h : Hypervisor} (calls : List (FunctionCall h)) : List Exchange :=
  calls.flatMap FunctionCall.exchanges

theorem configFlag_reportedState (report : String) : Virsh.configFlag (reportedState report) =
    if (Listing.status report).state? = some .running then "" else " --config" := by
  rw [Virsh.configFlag, Vm.State.isRunning, reportedState]
  cases (Listing.status report).state? <;> simp

section
variable {h : Hypervisor} {calls earlier later : List (FunctionCall h)} {call : FunctionCall h}
  {template : String} {before after : List Exchange} {e : Exchange}

theorem exchangesOf_split (hcalls : calls = earlier ++ call :: later)
    (he : call.exchanges = before ++ e :: after) :
    exchangesOf calls = (exchangesOf earlier ++ before) ++ e :: (after ++ exchangesOf later) := by
  simp [hcalls, exchangesOf, he]

theorem FunctionCall.called (call : FunctionCall h)
    (htemplate : LoadsOnly h template (exchangesOf calls)) (hcall : call ∈ calls) :
    call.change.Called h template call.exchanges := by
  refine (FunctionChange.exists_runs_iff (htemplate.mono ?_)).1 call.runs
  intro e he
  exact List.mem_flatMap.2 ⟨call, hcall, he⟩

/-- What a command that changes a device comes after, and what the file that it names then holds. -/
theorem exists_moment {σ : Type} {host : Host σ} {content : σ → String → Option String}
    (hstores : Stores host content) (htemplate : LoadsOnly h template (exchangesOf calls)) {s s' : σ}
    (hs : host.Answers s (exchangesOf calls) s') (hcalls : calls = earlier ++ call :: later)
    (hsplit : call.exchanges = before ++ e :: after) (he : ChangesDevice e) :
    ∃ status reply m, status.code = 0 ∧
      before = call.change.prepared h template (.ok ()) (.ok status) ∧
      e = call.change.made h status.stdout reply ∧
      host.Answers s (exchangesOf earlier ++ before) m ∧
      content m (h.functionFile call.change.pci) =
        some (Template.virtualFunction template call.change.pci) ∧
      host.Answers m (e :: exchangesOf later) s' := by
  have hcalled := call.called htemplate (by simp [hcalls])
  obtain ⟨status, reply, hcode, hknown⟩ := hcalled.of_changesDevice (by simp [hsplit]) he
  obtain ⟨rfl, rfl, rfl⟩ := FunctionChange.eq_of_changesDevice (hsplit.symm.trans hknown) he
  rw [exchangesOf_split hcalls hsplit] at hs
  obtain ⟨m, hm, hrest⟩ := Host.answers_append.1 hs
  obtain ⟨_, -, hprepared⟩ := Host.answers_append.1 hm
  exact ⟨status, reply, m, hcode, rfl, rfl, hm, FunctionChange.content_prepared hstores hprepared, hrest⟩

/-- **Device files of virtual functions.** In any number of calls that attach or detach virtual
functions, a command that does so comes last in its call and finds the file that it names with what
describes the address of its own call: the template with the numbers of the address filled in. It
changes the configuration unless the virtual machine was reported as running just before. Different
addresses have different files, so each of these files still describes its own address in the end, if no
later write of it failed or the host leaves a file alone that it cannot write. A call issues no such
command if the template could not be loaded, the file not written or the state not found out. -/
theorem functionCalls_keep_files (h : Hypervisor) {template : String} {σ : Type} {host : Host σ}
    {content : σ → String → Option String} (hstores : Stores host content)
    (calls : List (FunctionCall h)) (htemplate : LoadsOnly h template (exchangesOf calls)) {s s' : σ}
    (hs : host.Answers s (exchangesOf calls) s') :
    (∀ pci : Pci.Address,
      Template.AtOnce template pci.values (Template.virtualFunction template pci)) ∧
    (∀ earlier call later before e after, calls = earlier ++ call :: later →
      call.exchanges = before ++ e :: after → ChangesDevice e →
      ∃ status reply m, status.code = 0 ∧
        before = h.loading template ++
          [⟨.write (h.functionFile call.change.pci)
              (Template.virtualFunction template call.change.pci), .ok ()⟩,
            h.tool.ran ("dominfo " ++ call.change.name) (.ok status)] ∧
        e = h.tool.ran (call.change.subcommand ++ call.change.name ++ " --file " ++
          h.functionFile call.change.pci ++
          if (Listing.status status.stdout).state? = some .running then "" else " --config") reply ∧
        host.Answers s (exchangesOf earlier ++ before) m ∧
        content m (h.functionFile call.change.pci) =
          some (Template.virtualFunction template call.change.pci)) ∧
    (∀ p q, h.functionFile p = h.functionFile q ↔ p = q) ∧
    (∀ earlier call later, calls = earlier ++ call :: later →
      (∃ e ∈ call.exchanges, ChangesDevice e) →
      (KeepsOnFailure host content (h.functionFile call.change.pci) ∨
        ∀ text e, ⟨.write (h.functionFile call.change.pci) text, .error e⟩ ∉ exchangesOf later) →
      content s' (h.functionFile call.change.pci) =
        some (Template.virtualFunction template call.change.pci)) ∧
    (∀ call ∈ calls, ((∃ e ∈ call.exchanges, ¬ e.Served) ∨
        ∃ reply, h.tool.ran ("dominfo " ++ call.change.name) reply ∈ call.exchanges ∧
          ¬ Succeeded reply) → ∀ e ∈ call.exchanges, ¬ ChangesDevice e) := by
  refine ⟨?_, ?_, fun p q => h.functionFile_inj, ?_, ?_⟩
  · intro pci
    exact Template.atOnce_render template (Template.inert_values pci)
  · intro earlier call later before e after hcalls hsplit he
    obtain ⟨status, reply, m, hcode, hbefore, hmade, hm, hcontent, -⟩ :=
      exists_moment hstores htemplate hs hcalls hsplit he
    refine ⟨status, reply, m, hcode, hbefore, ?_, hm, hcontent⟩
    rw [← configFlag_reportedState]
    exact hmade
  · rintro earlier call later hcalls ⟨e, he, hchanges⟩ hfailed
    obtain ⟨before, after, hsplit⟩ := List.append_of_mem he
    obtain ⟨status, reply, m, -, -, hmade, -, hcontent, hrest⟩ :=
      exists_moment hstores htemplate hs hcalls hsplit hchanges
    refine hstores.stays (fun x hx => ?_) (hfailed.imp_right fun hnone error herror => ?_) hrest hcontent
    · rcases List.mem_cons.1 hx with rfl | hx
      · rw [hmade]
        exact FunctionChange.respects_ran _ _ _
      · obtain ⟨other, hother, hx⟩ := List.mem_flatMap.1 hx
        have hmem : other ∈ calls := by simp [hcalls, hother]
        exact (other.called htemplate hmem).respects call.change.pci hx
    · rcases List.mem_cons.1 herror with herror | herror
      · rw [hmade] at herror
        cases herror
      · exact hnone _ error herror
  · intro call hcall hfailed
    exact (call.called htemplate hcall).quiet hfailed

end

/-- A call on a host that answers everything, with a report about the virtual machine. -/
def FunctionCall.reported (c : FunctionChange) (report : String) : FunctionCall {} where
  change := c
  exchanges := c.prepared {} (Template.builtIn .virtualFunction) (.ok ()) (Host.printed report) ++
    [c.made {} report (Host.printed "")]
  runs := (FunctionChange.exists_runs_iff (loadsOnly_builtIn rfl _)).2 (.known rfl)

/-- A call on a host that knows nothing about the virtual machine. -/
def FunctionCall.refused (c : FunctionChange) : FunctionCall {} where
  change := c
  exchanges := c.prepared {} (Template.builtIn .virtualFunction) (.ok ()) (Host.refused "no such domain")
  runs := (FunctionChange.exists_runs_iff (loadsOnly_builtIn rfl _)).2
    (.unknown (by simp [Host.refused]))

/-- A call in which a host cannot write the device file. -/
def FunctionCall.unwritten (c : FunctionChange) : FunctionCall {} where
  change := c
  exchanges := [c.wrote {} (Template.builtIn .virtualFunction)
    (.error (.file (.reported "No space left on device (os error 28)")))]
  runs := (FunctionChange.exists_runs_iff (loadsOnly_builtIn rfl _)).2 .unwritten

theorem FunctionCall.changesDevice_reported (c : FunctionChange) (report : String) :
    ∃ e ∈ (FunctionCall.reported c report).exchanges, ChangesDevice e :=
  ⟨_, List.mem_append_right _ (List.mem_singleton_self _), FunctionChange.changesDevice_made⟩

/-- Two virtual machines, one of which is running, are given functions in different domains, and one of
these is then to be taken from a virtual machine that is not known. -/
theorem functionCalls_keep_files_three :
    let h : Hypervisor := {}
    let p : Pci.Address := ⟨0, 0x18, 2, 1⟩
    let q : Pci.Address := ⟨1, 0x18, 2, 1⟩
    let web := FunctionCall.reported ⟨true, "web", p⟩ "State: running"
    let db := FunctionCall.reported ⟨true, "db", q⟩ "State: shut off"
    let gone := FunctionCall.refused ⟨false, "gone", p⟩
    Stores (Host.storing id) Prod.snd ∧
      LoadsOnly h (Template.builtIn .virtualFunction) (exchangesOf [web, db, gone]) ∧
      (h.functionFile p = "/tmp/vf_0000_18_02_1.xml" ∧ h.functionFile q = "/tmp/vf_0001_18_02_1.xml") ∧
      ∃ s', (Host.storing id).Answers (exchangesOf [web, db, gone], fun _ => none)
          (exchangesOf [web, db, gone]) s' ∧
        s'.2 (h.functionFile p) =
          some (Template.virtualFunction (Template.builtIn .virtualFunction) p) ∧
        s'.2 (h.functionFile q) =
          some (Template.virtualFunction (Template.builtIn .virtualFunction) q) := by
  intro h p q web db gone
  have htemplate : LoadsOnly h (Template.builtIn .virtualFunction) (exchangesOf [web, db, gone]) :=
    loadsOnly_builtIn rfl _
  have hs := Host.answers_storing id (exchangesOf [web, db, gone]) fun _ => none
  obtain ⟨-, -, -, hlast, -⟩ :=
    functionCalls_keep_files h (Host.stores_storing id) [web, db, gone] htemplate hs
  have hweb := FunctionCall.changesDevice_reported ⟨true, "web", p⟩ "State: running"
  have hdb := FunctionCall.changesDevice_reported ⟨true, "db", q⟩ "State: shut off"
  have hp := hlast [] web [db, gone] rfl hweb (.inl (Host.keepsOnFailure_storing _))
  have hq := hlast [web] db [gone] rfl hdb (.inl (Host.keepsOnFailure_storing _))
  exact ⟨Host.stores_storing id, htemplate, ⟨by decide +kernel, by decide +kernel⟩, _, hs, hp, hq⟩

/-- A function was attached by its file. When it is to be attached again, the host empties the file and
has no space left for what belongs there. -/
theorem functionCalls_lose_file :
    let h : Hypervisor := {}
    let p : Pci.Address := ⟨0, 0x18, 2, 1⟩
    let web := FunctionCall.reported ⟨true, "web", p⟩ "State: running"
    let db := FunctionCall.unwritten ⟨true, "db", p⟩
    Stores Host.truncating Prod.snd ∧
      LoadsOnly h (Template.builtIn .virtualFunction) (exchangesOf [web, db]) ∧
      (∃ e ∈ web.exchanges, ChangesDevice e) ∧
      ∃ s', Host.truncating.Answers (exchangesOf [web, db], fun _ => none) (exchangesOf [web, db]) s' ∧
        s'.2 (h.functionFile p) = some "" ∧
        s'.2 (h.functionFile p) ≠
          some (Template.virtualFunction (Template.builtIn .virtualFunction) p) := by
  intro h p web db
  have hweb := FunctionCall.changesDevice_reported ⟨true, "web", p⟩ "State: running"
  have hboth : exchangesOf [web, db] = exchangesOf [web] ++ db.exchanges := by
    simp [exchangesOf]
  obtain ⟨s', hs, hlost⟩ := Host.exists_answers_truncating (exchangesOf [web]) (fun _ => none)
    (h.functionFile p) (Template.virtualFunction (Template.builtIn .virtualFunction) p)
    (.file (.reported "No space left on device (os error 28)"))
  refine ⟨Host.stores_storing _, loadsOnly_builtIn rfl _, hweb, s', ?_, hlost, ?_⟩
  · rw [hboth]
    exact hs
  · rw [hlost]
    decide +kernel

end VirtHost.Hypervisor
