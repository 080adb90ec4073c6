import VirtHost.Proofs.Host.Action

/-! # Printed output

* `Prints output reply`: a command has printed this.
* `run_execute_of_prints`: what comes of such a command.
* `printing output`: a host on which every command prints this.
-/

namespace VirtHost.Hypervisor
set_option autoImplicit false

/-- A command has succeeded and has printed a text. -/
def Prints (output : String) (reply : Except Error Host.Completion) : Prop :=
  ∃ c, reply = .ok c ∧ c.code = 0 ∧ c.stdout = output

theorem run_execute_of_prints {σ : Type} {host : Host σ} {s : σ} {command output : String}
    {options : Host.Options} (rounds : Nat) (ho : options.expected = some [0])
    (h : Prints output (host s (.execute command options)).1) :
    ∃ c, c.stdout = output ∧ (Host.execute command options).attempt.run host rounds s =
      some (.ok c, (host s (.execute command options)).2) := by
  obtain ⟨c, hreply, hcode, hstdout⟩ := h
  have houtcome : options.outcome (host s (.execute command options)).1 = .ok c :=
    (Host.Options.outcome_eq_ok_iff ho).2 ⟨hreply, hcode⟩
  refine ⟨c, hstdout, ?_⟩
  rw [← houtcome]
  exact Action.run_execute

/-- A host that answers every command by one output. -/
def printing (output : String) : Host Unit := fun s request =>
  match request with
  | .execute _ _ => (Host.printed output, s)
  | request => (Host.anyReply request, s)

end VirtHost.Hypervisor
