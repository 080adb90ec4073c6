import VirtHost.Proofs.Text.Words
import VirtHost.Vm.State

/-! # States read back

* `State.parse_text_parse`: the text of a state that was read is read as that state.
* `State.IsOfWords.words_text`: so are the words of its text, if it was read of words.
* `FirstOf`, `Status.get?_eq_some_iff`: a lookup takes the first field of a name.
-/

namespace VirtHost.Vm
open Text
set_option autoImplicit false

namespace State

variable {name : String} {s : State}

/-- A state with a name of its own is read of its text and of the words of its text. -/
theorem of_named? (h : named? name = some s) : parse s.text = s ∧ words s.text.toList ≠ [] ∧
    parse (String.ofList (join [' '] (words s.text.toList))) = s := by
  have hall : ∀ s ∈ [running, idle, paused, inShutdown, shutOff, crashed, pmSuspended],
      parse s.text = s ∧ words s.text.toList ≠ [] ∧
        parse (String.ofList (join [' '] (words s.text.toList))) = s := by
    decide +kernel
  apply hall
  unfold named? at h
  split_ifs at h <;> obtain rfl := Option.some.inj h <;> simp

theorem parse_text_parse (raw : String) : parse (parse raw).text = parse raw := by
  cases hname : named? (String.ofList (lowercase (trim raw.toList))) with
  | some s =>
    have hparse : parse raw = s := by simp [parse, hname]
    rw [hparse, (of_named? hname).1]
  | none =>
    have hparse : parse raw = other (String.ofList (trim raw.toList)) := by simp [parse, hname]
    rw [hparse, text, parse, String.toList_ofList, trim_trim, hname]
    rfl

/-- A state that is read of words with one space between any two of them. -/
def IsOfWords (s : State) : Prop :=
  ∃ ws, ws ≠ [] ∧ (∀ w ∈ ws, IsWord w) ∧ s = parse (String.ofList (join [' '] ws))

theorem IsOfWords.words_text (h : s.IsOfWords) : words s.text.toList ≠ [] ∧
    parse (String.ofList (join [' '] (words s.text.toList))) = s := by
  obtain ⟨ws, hne, hws, rfl⟩ := h
  cases hname : named? (String.ofList (lowercase (trim (join [' '] ws)))) with
  | some s =>
    have hparse : parse (String.ofList (join [' '] ws)) = s := by simp [parse, hname]
    rw [hparse]
    exact (of_named? hname).2
  | none =>
    have hparse : parse (String.ofList (join [' '] ws)) = other (String.ofList (trim (join [' '] ws))) := by
      simp [parse, hname]
    have hwords : words (other (String.ofList (trim (join [' '] ws)))).text.toList = ws := by
      rw [text, String.toList_ofList, words_trim, words_of_spaced (spaced_join hws)]
    rw [hparse, hwords]
    exact ⟨hne, hparse⟩

end State

/-! ## Fields -/

variable {fields : List (String × String)} {key value : String}

/-- The first field called `key` has this value. -/
def FirstOf (fields : List (String × String)) (key value : String) : Prop :=
  ∃ before after, fields = before ++ (key, value) :: after ∧ ∀ f ∈ before, f.1 ≠ key

theorem find?_eq_some_iff_firstOf :
    (fields.find? (·.1 = key)).map (·.2) = some value ↔ FirstOf fields key value := by
  constructor
  · intro h
    obtain ⟨⟨k, v⟩, hfind, hv⟩ := Option.map_eq_some_iff.1 h
    obtain ⟨hk, before, after, hfields, hbefore⟩ := List.find?_eq_some_iff_append.1 hfind
    obtain rfl : k = key := by simpa using hk
    obtain rfl : v = value := hv
    exact ⟨before, after, hfields, fun f hf => by simpa using hbefore f hf⟩
  · rintro ⟨before, after, rfl, hbefore⟩
    have hnone : before.find? (·.1 = key) = none := by simpa using hbefore
    simp [List.find?_append, hnone]

theorem Status.get?_eq_some_iff {s : Status} : s.get? key = some value ↔ FirstOf s.fields key value :=
  find?_eq_some_iff_firstOf

end VirtHost.Vm
