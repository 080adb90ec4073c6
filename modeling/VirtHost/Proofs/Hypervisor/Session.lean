import VirtHost.Proofs.Hypervisor.CreationOptions
import VirtHost.Proofs.Hypervisor.DeviceOptions
import VirtHost.Proofs.Hypervisor.FunctionOptions
import VirtHost.Proofs.Hypervisor.VirtualFunctionWrites

/-! # Commands of whole sessions

A session is what becomes of any operations, one after the other, on a host that may answer in any way.

* `Operation`, `Session`: all that can be asked of a hypervisor with plain texts, and what that leads to.
* `Session.proper`: an operation keeps to the rules, hence a session does.
* `session_options`: every command of a session is given up after its time, and, if the texts of the settings
  and of the host are plain as well, a shell runs it if it needs one.
* `exposes_special_texts`: for each of these texts, a session in which one that is not plain gets into a
  command without a shell.
-/

namespace VirtHost.Hypervisor
set_option autoImplicit false

variable {s : Settings} {trusted : Prop} {t : List Exchange}

/-! ## Sessions -/

/-- What can be asked of a hypervisor, with plain texts. -/
inductive Operation (h : Hypervisor) {α : Type} (p : Program α) : Prop
  | vm (hp : VmOperation h p)
  | network (hp : NetworkOperation h p)
  | function (hp : FunctionOperation h p)
  | device (hp : DeviceOperation h p)
  | creation (hp : CreationOperation h p)

theorem Operation.follows (hsettings : trusted → s.Plain) {α : Type} {p : Program α}
    (hp : Operation (ofSettings s) p) : Follows s trusted p := by
  cases hp with
  | vm hp => exact hp.follows hsettings
  | network hp => exact hp.follows
  | function hp => exact hp.follows
  | device hp => exact hp.follows hsettings
  | creation hp => exact hp.follows hsettings

/-- The exchanges of operations, one after the other. The last one may still be going on. -/
inductive Session (h : Hypervisor) : List Exchange → Prop
  | nil : Session h []
  | unfinished {α : Type} {p : Program α} {t : List Exchange} (hp : Operation h p) (ht : p.Begins t) :
      Session h t
  | cons {α : Type} {p : Program α} {a : α} {t u : List Exchange} (hp : Operation h p)
      (hrun : p.Runs t a) (hrest : Session h u) : Session h (t ++ u)

theorem Session.proper (ht : Session (ofSettings s) t) (hsettings : trusted → s.Plain)
    (hplain : trusted → ∀ e ∈ t, e.Plain) : ∀ e ∈ t, Proper s trusted e.request := by
  induction ht with
  | nil => simp
  | unfinished hp ht =>
    exact (hp.follows hsettings).of_begins ht fun e he htrusted => hplain htrusted e he
  | @cons _ _ _ t u hp hrun _ ih =>
    have hfirst : ∀ e ∈ t, Proper s trusted e.request :=
      (hp.follows hsettings).of_begins hrun.begins fun e he htrusted =>
        hplain htrusted e (List.mem_append_left u he)
    have hrest := ih fun htrusted e he => hplain htrusted e (List.mem_append_right t he)
    intro e he
    rcases List.mem_append.1 he with he | he
    · exact hfirst e he
    · exact hrest e he

/-- In every session, commands are given up after their times; and a shell runs the commands that need one,
if the texts of the settings and those of the host are plain. -/
theorem session_options (s : Settings) {t : List Exchange} (ht : Session (ofSettings s) t) :
    (∀ e ∈ t, Timed s e.request) ∧
      (s.Plain → (∀ e ∈ t, e.Plain) → ∀ e ∈ t, InShell e.request) := by
  constructor
  · have hproper : ∀ e ∈ t, Proper s False e.request := ht.proper False.elim fun hfalse => hfalse.elim
    exact fun e he => (hproper e he).1
  · intro hsettings hplain e he
    have hproper : ∀ e ∈ t, Proper s True e.request := ht.proper (fun _ => hsettings) fun _ => hplain
    exact (hproper e he).2 trivial

/-- The list of one running virtual machine. -/
def oneRunning (name : String) : String :=
  " Id   Name   State\n-------------------\n 1    " ++ name ++ "   running\n"

/-- The exchanges in which all virtual machines are to be stopped, of which there is one that does not
listen. -/
def notStopped (h : Hypervisor) (name : String) : List Exchange :=
  [h.tool.asked "list" (Host.printed (oneRunning name)),
    h.tool.ran ("shutdown " ++ name) (Host.refused "")]

/-- The exchanges in which an interface is given four virtual functions. -/
def fourWritten (h : Hypervisor) : List Exchange :=
  [.ran (Command.listInterface "eth0") {} (Host.printed ""),
    wrote (Command.interfaceDirectory "eth0") h.firstOptions 4 (Host.printed "")]

theorem session_options_two :
    let t := fourWritten (ofSettings {}) ++ notStopped (ofSettings {}) "vm1"
    (∀ e ∈ t, Timed {} e.request) ∧ ∀ e ∈ t, InShell e.request := by
  intro t
  have hwrite : ((ofSettings {}).setCount "eth0" 4 false).Runs (fourWritten (ofSettings {})) (.ok ()) :=
    Action.runs_of_play (by decide +kernel)
  have hstop : ((ofSettings {}).stopAll false).Runs (notStopped (ofSettings {}) "vm1") false :=
    Program.runs_of_play (by decide +kernel)
  have hsession : Session (ofSettings {}) t :=
    .cons (.function (.setCount (by decide) 4 false)) hwrite
      (.unfinished (.vm (.stopAll false)) hstop.begins)
  have hlisted : Virsh.listed (Host.printed (oneRunning "vm1")) = [⟨"1", "vm1", .running⟩] := by
    decide +kernel
  obtain ⟨htimed, hshell⟩ := session_options {} hsession
  refine ⟨htimed, hshell ⟨by decide, by decide, by decide⟩ fun e he => ?_⟩
  simp only [t, fourWritten, notStopped, List.cons_append, List.nil_append, List.mem_cons,
    List.not_mem_nil, or_false] at he
  rcases he with rfl | rfl | rfl | rfl
  · exact Exchange.plain_ran (by decide +kernel) (by decide +kernel)
  · exact Exchange.plain_ran (by decide +kernel) (by decide +kernel)
  · intro _ vm hvm
    rw [hlisted] at hvm
    obtain rfl := List.mem_singleton.1 hvm
    decide
  · exact Exchange.plain_ran (by decide +kernel) (by decide +kernel)

/-! ## Texts that are not plain -/

/-- In the session `t` a command that needs a shell is run without one. -/
def Exposes (s : Settings) (t : List Exchange) (command : String) : Prop :=
  Session (ofSettings s) t ∧ Shell.NeedsShell command ∧
    ∃ options reply, Exchange.ran command options reply ∈ t ∧ options.shell = false

theorem exposes_of_runs {α : Type} {p : Program α} {a : α} {t : List Exchange} {command : String}
    {options : Host.Options} {reply : Except Error Host.Completion} (hp : Operation (ofSettings s) p)
    (hrun : p.Runs t a) (hmem : Exchange.ran command options reply ∈ t) (hshell : options.shell = false)
    (hneeds : Shell.NeedsShell command) : Exposes s t command :=
  ⟨.unfinished hp hrun.begins, hneeds, options, reply, hmem, hshell⟩

/-- A virtual machine on network data whose MAC ends in a star. -/
def onStar : Vm.Parameters :=
  paramsOn {} "vm" ⟨⟨10, 0, 0, 5⟩, "52:54:00:00:00:*"⟩

/-- A virtual machine that is defined from a template. -/
def onTemplate : Vm.Parameters :=
  { name := "vm1", xmlTemplate := some "base.xml" }

/-- Settings with a star in a flag for virtual machines with more than one vCPU. -/
def starFlag : Settings :=
  { largeVcpu := ⟨1, ["--features *"]⟩ }

/-- A name in the list of a host, a MAC of network data, the work directory, the network of the leases, and
the flags for many vCPUs: a star in any of them gets into a command without a shell. -/
theorem exposes_special_texts :
    Exposes {} (notStopped (ofSettings {}) "vm*") "virsh shutdown vm*" ∧
    Exposes {}
      [⟨.readLocal "net.conf", .ok "[kvm]\n10.0.0.5 52:54:00:00:00:*\n"⟩, unanswered ⟨10, 0, 0, 5⟩,
        .ran ((ofSettings {}).installCommand onStar none) {} (Host.printed "")]
      ((ofSettings {}).installCommand onStar none) ∧
    Exposes { workDirectory := "/srv/*" } [.ran "cp base.xml /srv/*/vm1.xml" {} (Host.refused "")]
      "cp base.xml /srv/*/vm1.xml" ∧
    Exposes { dhcpNetwork := "net*" }
      [(ofSettings {}).tool.ran "net-dhcp-leases net*" (Host.refused "")]
      "virsh net-dhcp-leases net*" ∧
    Exposes starFlag
      [.ran ((ofSettings starFlag).installCommand {} none) {} (Host.printed "")]
      ((ofSettings starFlag).installCommand {} none) := by
  refine ⟨?_, ?_, ?_, ?_, ?_⟩
  · have hrun : ((ofSettings {}).stopAll false).Runs (notStopped (ofSettings {}) "vm*") false :=
      Program.runs_of_play (by decide +kernel)
    have hmem : (ofSettings {}).tool.ran "shutdown vm*" (Host.refused "")
        ∈ notStopped (ofSettings {}) "vm*" :=
      List.mem_cons_of_mem _ (List.mem_singleton.2 rfl)
    exact exposes_of_runs (.vm (.stopAll false)) hrun hmem rfl (by decide +kernel)
  · have hrun : ((ofSettings {}).createVms 1 {} "net.conf" "vm").Runs
        [⟨.readLocal "net.conf", .ok "[kvm]\n10.0.0.5 52:54:00:00:00:*\n"⟩, unanswered ⟨10, 0, 0, 5⟩,
          .ran ((ofSettings {}).installCommand onStar none) {} (Host.printed "")]
        (.ok [("vm-000-005", ⟨10, 0, 0, 5⟩)]) :=
      Action.runs_of_play (by decide +kernel)
    have hoperation : CreationOperation (ofSettings {})
        ((ofSettings {}).createVms 1 {} "net.conf" "vm").attempt :=
      .createVms 1 (by decide) "net.conf" (by decide)
    have hmem {e f g : Exchange} : g ∈ [e, f, g] := by simp
    exact exposes_of_runs (.creation hoperation) hrun hmem rfl (by decide +kernel)
  · have hrun : ((ofSettings { workDirectory := "/srv/*" }).createFromXml onTemplate).Runs
        [.ran "cp base.xml /srv/*/vm1.xml" {} (Host.refused "")] (.error (.execution "" 1 "" "")) :=
      Action.runs_of_play (by decide +kernel)
    have hoperation : CreationOperation (ofSettings { workDirectory := "/srv/*" })
        ((ofSettings { workDirectory := "/srv/*" }).createFromXml onTemplate).attempt :=
      .createFromXml (by decide) (by decide)
    exact exposes_of_runs (.creation hoperation) hrun (List.mem_singleton.2 rfl) rfl (by decide +kernel)
  · have hrun : ((ofSettings { dhcpNetwork := "net*" }).leasedAddress "52:54:00:00:00:01").Runs
        [(ofSettings {}).tool.ran "net-dhcp-leases net*" (Host.refused "")]
        (.error (.execution "" 1 "" "")) :=
      Action.runs_of_play (by decide +kernel)
    have hoperation : VmOperation (ofSettings { dhcpNetwork := "net*" })
        ((ofSettings { dhcpNetwork := "net*" }).leasedAddress "52:54:00:00:00:01").attempt :=
      .leasedAddress "52:54:00:00:00:01"
    exact exposes_of_runs (.vm hoperation) hrun (List.mem_singleton.2 rfl) rfl (by decide +kernel)
  · have hrun : ((ofSettings starFlag).createVm {}).Runs
        [.ran ((ofSettings starFlag).installCommand {} none) {} (Host.printed "")] (.ok "vm") :=
      Action.runs_of_play (by decide +kernel)
    have hoperation : CreationOperation (ofSettings starFlag)
        ((ofSettings starFlag).createVm {}).attempt :=
      .createVm (by decide) (by decide) (by decide)
    exact exposes_of_runs (.creation hoperation) hrun (List.mem_singleton.2 rfl) rfl (by decide +kernel)

end VirtHost.Hypervisor
