import VirtHost.Cli.Command
import VirtHost.Proofs.Cli.Grammar

/-! # Which command words call

* `Calls`: the name of a command and the words behind it.
* `exists_calls_of_read`: what is known of a command line that is accepted.
* `text?_eq_some_iff_given`, `address?_eq_some_iff_given`: the texts and the addresses that are given.
-/

namespace VirtHost.Cli
set_option autoImplicit false

variable {words rest : List String} {name : String} {environment : Option String}

/-- The words call a command: behind what goes in front of its name, which no value is awaited for, stand its
name and its own words. -/
def Calls (words : List String) (name : String) (rest : List String) : Prop :=
  ∃ front p, words = front ++ name :: rest ∧ globalGrammar.readWords {} front = .ok (p, none) ∧
    globalGrammar.isSubcommand p name = true

theorem calls_iff : Calls words name rest ↔
    ∃ p, globalGrammar.readWords {} words = .ok (p, some (name, rest)) := by
  simp only [Calls, Grammar.readWords_eq_ok_some_iff]
  exact exists_comm

theorem Calls.unique {other : String} {words' : List String} (h : Calls words name rest)
    (h' : Calls words other words') : name = other ∧ rest = words' := by
  obtain ⟨p, hwords⟩ := calls_iff.1 h
  obtain ⟨q, hwords'⟩ := calls_iff.1 h'
  have hsame : (p, some (name, rest)) = (q, some (other, words')) := by
    simpa [hwords] using hwords'
  simpa using congrArg Prod.snd hsame

theorem readCommand_eq_ok {command : Command} (h : readCommand name rest = .ok command) :
    ∃ m, (grammarOf name).read rest = .ok m ∧ command = m.command name := by
  rw [readCommand] at h
  split at h
  · cases h
  · cases hread : (grammarOf name).read rest with
    | error refusal =>
      rw [hread] at h
      cases h
    | ok m =>
      rw [hread] at h
      cases h
      exact ⟨m, rfl, rfl⟩

/-- Commands have no commands of their own, and only help can be asked for by a letter. -/
theorem plain_grammarOf (name : String) : (grammarOf name).Plain := by
  have hletters : ∀ p ∈ (grammarOf name).parameters, p.letter.isSome → p = helpFlag := by
    unfold grammarOf
    split_ifs <;> simp [runVmParameters, option, position, flag, helpFlag]
  refine ⟨?_, fun p hp hletter => ?_⟩
  · unfold grammarOf
    split_ifs <;> rfl
  · rw [hletters p hp hletter]
    exact ⟨.help, rfl⟩

/-- Words that are accepted call a command, whose own words are read with its grammar. -/
theorem exists_calls_of_read {invocation : Invocation}
    (h : Invocation.read environment words = .ok invocation) : ∃ name rest m, Calls words name rest ∧
      (grammarOf name).read rest = .ok m ∧ invocation.command = m.command name := by
  rw [Invocation.read] at h
  obtain ⟨⟨p, found⟩, hwords, h⟩ := exists_of_bind_eq_ok h
  obtain ⟨command, hcommand, h⟩ := exists_of_bind_eq_ok h
  obtain ⟨q, -, h⟩ := exists_of_bind_eq_ok h
  cases found with
  | none =>
    cases hcommand
    cases h
  | some found =>
    obtain ⟨name, rest⟩ := found
    obtain ⟨c, hc, hcommand⟩ := exists_of_bind_eq_ok hcommand
    cases hcommand
    cases h
    obtain ⟨m, hm, rfl⟩ := readCommand_eq_ok hc
    exact ⟨name, rest, m, calls_iff.2 ⟨p, hwords⟩, hm, rfl⟩

theorem Calls.refused (h : Calls words name rest) (hread : ∀ m, (grammarOf name).read rest ≠ .ok m) :
    ∃ refusal, Invocation.read environment words = .error refusal := by
  cases hinvocation : Invocation.read environment words with
  | error refusal => exact ⟨refusal, rfl⟩
  | ok invocation =>
    obtain ⟨other, words', m, hcalls, hm, -⟩ := exists_calls_of_read hinvocation
    obtain ⟨rfl, rfl⟩ := h.unique hcalls
    exact absurd hm (hread m)

/-! ## Values -/

namespace Matches
variable {m : Matches} {name : String}

theorem text?_eq_some_iff {s : String} : m.text? name = some s ↔ m.get? name = some (.text s) := by
  rw [text?]
  split <;> simp_all

theorem address?_eq_some_iff {pci : Pci.Address} :
    m.address? name = some pci ↔ m.get? name = some (.address pci) := by
  rw [address?]
  split <;> simp_all

end Matches

theorem read_address_eq_ok_iff {text : String} {v : Argument} : Kind.address.read text = .ok v ↔
    ∃ pci, Pci.Address.parse text = .ok pci ∧ .address pci = v := by
  rw [Kind.read]
  cases Pci.Address.parse text <;> simp [Except.map, Except.mapError]

section
variable {m : Matches} {words : List String} {command name : String}

theorem text?_eq_some_iff_given (ht : (grammarOf command).Takes name .text)
    (h : (grammarOf command).read words = .ok m) {s : String} : m.text? name = some s ↔ Given words name s := by
  rw [Matches.text?_eq_some_iff, Grammar.get?_eq_some_iff_given (plain_grammarOf command) ht h]
  simp [Kind.read]

theorem isSome_text?_iff_named (ht : (grammarOf command).Takes name .text)
    (h : (grammarOf command).read words = .ok m) : (m.text? name).isSome = true ↔ Named words name := by
  rw [Option.isSome_iff_exists, Grammar.named_iff_exists_given (plain_grammarOf command) ht h]
  simp only [text?_eq_some_iff_given ht h, Kind.read]
  simp

theorem address?_eq_some_iff_given (ht : (grammarOf command).Takes name .address)
    (h : (grammarOf command).read words = .ok m) {pci : Pci.Address} : m.address? name = some pci ↔
      ∃ text, Given words name text ∧ Pci.Address.parse text = .ok pci := by
  rw [Matches.address?_eq_some_iff, Grammar.get?_eq_some_iff_given (plain_grammarOf command) ht h]
  simp [read_address_eq_ok_iff]

theorem isSome_address?_iff_named (ht : (grammarOf command).Takes name .address)
    (h : (grammarOf command).read words = .ok m) : (m.address? name).isSome = true ↔ Named words name := by
  rw [Option.isSome_iff_exists, Grammar.named_iff_exists_given (plain_grammarOf command) ht h]
  simp only [address?_eq_some_iff_given ht h, read_address_eq_ok_iff]
  constructor
  · rintro ⟨pci, text, hgiven, hpci⟩
    exact ⟨text, _, hgiven, pci, hpci, rfl⟩
  · rintro ⟨text, _, hgiven, pci, hpci, rfl⟩
    exact ⟨pci, text, hgiven, hpci⟩

end
end VirtHost.Cli
