import VirtHost.Cli.Grammar
import VirtHost.Proofs.Cli.Words

/-! # What the words of a command are read for

The parameters that are read from the words of a command are those that the words name, each with the value
that is given for it.

* `Grammar.Reads`: what one word does to what has been read.
* `Grammar.Tracks`: what has been read is what the words so far name and give.
* `Grammar.has_iff_named`, `Grammar.get?_eq_some_iff_given`: what is read in the end.
* `Grammar.check_eq_ok_iff`: which parameters may go together.
* `Grammar.readWords_eq_ok_some_iff`: where the name of a subcommand stands.
-/

namespace VirtHost.Cli
open Text (splitOnce)
set_option autoImplicit false

/-! ## What has been read -/

theorem exists_of_bind_eq_ok {α β : Type} {x : Except Refusal α} {f : α → Except Refusal β} {b : β}
    (h : (x >>= f) = .ok b) : ∃ a, x = .ok a ∧ f a = .ok b := by
  cases x with
  | error refusal => cases h
  | ok a => exact ⟨a, rfl, h⟩

@[simp] theorem Matches.get?_cons (m : Matches) (name other : String) (v : Argument) :
    Matches.get? ((other, v) :: m) name = if other = name then some v else m.get? name := by
  by_cases h : other = name <;> simp [Matches.get?, h]

@[simp] theorem Matches.has_cons (m : Matches) (name other : String) (v : Argument) :
    Matches.has ((other, v) :: m) name = (decide (other = name) || m.has name) := by
  by_cases h : other = name <;> simp [Matches.has, h]

namespace Grammar
namespace Progress

/-- A parameter was given; its value may still be to come or to be read. -/
def Has (p : Progress) (name : String) : Prop :=
  p.done.has name = true ∨ ∃ kind value, p.pending = some (name, kind, value)

/-- A value of a parameter has been read, or a word that is still to be read has come. -/
def Holds (p : Progress) (name : String) (value : Except Refusal Argument) : Prop :=
  (∃ v, p.done.get? name = some v ∧ value = .ok v) ∨
    ∃ kind word, p.pending = some (name, kind, some word) ∧ value = kind.read word

/-- The next word may be the value of an option. -/
def Awaits (p : Progress) (name : String) : Prop :=
  p.onlyPositions = false ∧ ∃ kind, p.pending = some (name, kind, none)

/-- A word gives a value of a parameter: together with its name, or behind it. -/
def Gives (p : Progress) (word name value : String) : Prop :=
  p.onlyPositions = false ∧
    (word = "--" ++ name ++ "=" ++ value ∨ p.Awaits name ∧ IsValue word ∧ word = value)

/-- The value that was still to be read has been read, and nothing else has changed. -/
structure Settled (p q : Progress) : Prop where
  pending : q.pending = none
  onlyPositions : q.onlyPositions = p.onlyPositions
  complete : ∀ name kind, p.pending ≠ some (name, kind, none)
  has : ∀ name, q.Has name ↔ p.Has name
  holds : ∀ name value, q.Holds name value ↔ p.Holds name value

variable {p q : Progress} {name : String} {value : Except Refusal Argument}

theorem record_eq_ok_iff : p.record name value = .ok q ↔
    p.done.has name = false ∧ ∃ v, value = .ok v ∧ q = { p with done := (name, v) :: p.done } := by
  rw [record]
  cases hdone : p.done.has name <;> cases value <;> simp [Except.map, eq_comm]

theorem get?_eq_none_of_has {m : Matches} (h : m.has name = false) : m.get? name = none := by
  simpa [Matches.has] using h

/-- A parameter that is recorded is there with its value, and nothing else has changed. -/
theorem holds_record (hpending : p.pending = none) (hdone : p.done.has name = false) (v : Argument)
    (other : String) (value : Except Refusal Argument) :
    Holds { p with done := (name, v) :: p.done } other value ↔
      p.Holds other value ∨ name = other ∧ value = .ok v := by
  by_cases hname : name = other
  · subst hname
    simp [Holds, hpending, get?_eq_none_of_has hdone]
  · simp [Holds, hpending, hname]

theorem settled_of_settle (h : p.settle = .ok q) : Settled p q := by
  rw [settle] at h
  split at h
  · rename_i hpending
    cases h
    exact ⟨hpending, rfl, by simp [hpending], fun _ => Iff.rfl, fun _ _ => Iff.rfl⟩
  · cases h
  · rename_i name kind word hpending
    obtain ⟨hdone, v, hv, rfl⟩ := record_eq_ok_iff.1 h
    refine ⟨rfl, rfl, by simp [hpending], fun other => ?_, fun other value => ?_⟩
    · simp [Has, hpending, or_comm]
    · rw [holds_record rfl hdone]
      simp [Holds, hpending, hv]

theorem Settled.gives_iff {word value : String} (h : Settled p q) :
    p.Gives word name value ↔ p.onlyPositions = false ∧ word = "--" ++ name ++ "=" ++ value := by
  have hcomplete : ¬ p.Awaits name := fun ⟨_, kind, hpending⟩ => h.complete name kind hpending
  simp [Gives, hcomplete]

end Progress

/-! ## One word -/

/-- No words are names of subcommands, and a parameter that has a letter ends everything. -/
structure Plain (g : Grammar) : Prop where
  subcommands : g.subcommands = []
  letters : ∀ parameter ∈ g.parameters, parameter.letter.isSome →
    ∃ refusal, parameter.form = .stop refusal

/-- How the parameter with a name is given. -/
def formOf? (g : Grammar) (name : String) : Option Form :=
  (g.named? name).map (·.form)

/-- What a word does to what has been read. -/
inductive Reads (g : Grammar) (p : Progress) : String → Progress → Prop
  | separator (hfree : p.onlyPositions = false) : Reads g p "--" { p with onlyPositions := true }
  | value {name word : String} {kind : Kind} (hfree : p.onlyPositions = false) (hword : IsValue word)
      (hpending : p.pending = some (name, kind, none)) :
      Reads g p word { p with pending := some (name, kind, some word) }
  | position {q : Progress} {name word : String} {kind : Kind}
      (hplace : p.onlyPositions = true ∨ IsValue word) (hposition : (name, kind) ∈ g.positions)
      (hq : p.Settled q) :
      Reads g p word { q with pending := some (name, kind, some word), filled := q.filled + 1 }
  | flag {q : Progress} {name : String} (hfree : p.onlyPositions = false) (hname : IsName name)
      (hform : g.formOf? name = some .flag) (hq : p.Settled q) (hdone : q.done.has name = false) :
      Reads g p ("--" ++ name) { q with done := (name, .given) :: q.done }
  | joined {q : Progress} {name value : String} {kind : Kind} {v : Argument}
      (hfree : p.onlyPositions = false) (hname : '=' ∉ name.toList)
      (hform : g.formOf? name = some (.option kind)) (hq : p.Settled q)
      (hdone : q.done.has name = false) (hread : kind.read value = .ok v) :
      Reads g p ("--" ++ name ++ "=" ++ value) { q with done := (name, v) :: q.done }
  | apart {q : Progress} {name : String} {kind : Kind} (hfree : p.onlyPositions = false)
      (hname : IsName name) (hform : g.formOf? name = some (.option kind)) (hq : p.Settled q) :
      Reads g p ("--" ++ name) { q with pending := some (name, kind, none) }

section
variable {g : Grammar} {p q : Progress} {name word : String} {kind : Kind}

theorem bind_settle_eq_ok {f : Progress → Except Refusal Progress} (h : (p.settle >>= f) = .ok q) :
    ∃ settled, p.Settled settled ∧ f settled = .ok q := by
  obtain ⟨settled, hsettle, hf⟩ := exists_of_bind_eq_ok h
  exact ⟨settled, Progress.settled_of_settle hsettle, hf⟩

theorem stop_ne_ok (refusal : Refusal) : p.flag name (.error refusal) ≠ .ok q := by
  intro h
  obtain ⟨settled, -, hrecord⟩ := bind_settle_eq_ok h
  obtain ⟨-, v, hv, -⟩ := Progress.record_eq_ok_iff.1 hrecord
  cases hv

theorem readLetters_ne_ok (hg : g.Plain) (c : Char) (letters : List Char) :
    g.readLetters p (c :: letters) ≠ .ok q := by
  intro h
  unfold readLetters at h
  split at h
  · cases h
  · rename_i parameter hlettered
    have hletter : parameter.letter = some c := by simpa using List.find?_some hlettered
    obtain ⟨refusal, hform⟩ := hg.letters parameter (List.mem_of_find?_eq_some hlettered) (by simp [hletter])
    rw [hform] at h
    exact stop_ne_ok refusal h

theorem reads_of_place (hplace : p.onlyPositions = true ∨ IsValue word)
    (h : readValue.place g p word = .ok q) : Reads g p word q := by
  rw [readValue.place] at h
  split at h
  · rename_i name kind hposition
    obtain ⟨settled, hsettled, hq⟩ := bind_settle_eq_ok h
    cases hq
    exact .position hplace (List.mem_of_getElem? hposition) hsettled
  · cases h

theorem reads_of_readValue (hplace : p.onlyPositions = true ∨ IsValue word)
    (h : g.readValue p word = .ok q) : Reads g p word q := by
  rw [readValue] at h
  split at h
  · rename_i name kind hpending
    split at h
    · exact reads_of_place hplace h
    · rename_i hfree
      cases h
      exact .value (by simpa using hfree) (hplace.resolve_left hfree) hpending
  · exact reads_of_place hplace h

theorem reads_of_readLong (hfree : p.onlyPositions = false) (hname : IsName name)
    (h : g.readLong p name none = .ok q) : Reads g p ("--" ++ name) q := by
  rw [readLong] at h
  split at h
  · cases h
  · rename_i parameter hnamed
    have hform : g.formOf? name = some parameter.form := by rw [formOf?, hnamed]; rfl
    split at h
    · rename_i hflag _
      obtain ⟨settled, hsettled, hrecord⟩ := bind_settle_eq_ok h
      obtain ⟨hdone, v, hv, rfl⟩ := Progress.record_eq_ok_iff.1 hrecord
      cases hv
      exact .flag hfree hname (hform.trans (by rw [hflag])) hsettled hdone
    · exact absurd h (stop_ne_ok _)
    · rename_i kind hoption
      obtain ⟨settled, hsettled, hq⟩ := bind_settle_eq_ok h
      cases hq
      exact .apart hfree hname (hform.trans (by rw [hoption])) hsettled
    · cases h

theorem reads_of_readLong_joined {value : String} (hfree : p.onlyPositions = false) (hname : '=' ∉ name.toList)
    (h : g.readLong p name (some value) = .ok q) : Reads g p ("--" ++ name ++ "=" ++ value) q := by
  rw [readLong] at h
  split at h
  · cases h
  · rename_i parameter hnamed
    have hform : g.formOf? name = some parameter.form := by rw [formOf?, hnamed]; rfl
    split at h
    · rename_i hvalue
      cases hvalue
    · rename_i hvalue
      cases hvalue
    · rename_i kind hoption
      obtain ⟨settled, hsettled, hrecord⟩ := bind_settle_eq_ok h
      obtain ⟨hdone, v, hv, rfl⟩ := Progress.record_eq_ok_iff.1 hrecord
      exact .joined hfree hname (hform.trans (by rw [hoption])) hsettled hdone hv
    · cases h

theorem reads_of_readWord (hg : g.Plain) (h : g.readWord p word = .ok q) : Reads g p word q := by
  rw [readWord] at h
  split at h
  · rename_i honly
    exact reads_of_readValue (.inl honly) h
  · rename_i hfree
    have hfree : p.onlyPositions = false := by simpa using hfree
    split at h
    · rename_i hlist
      obtain rfl : word = "--" := String.toList_inj.1 hlist
      cases h
      exact .separator hfree
    · rename_i long hlong hlist
      obtain rfl : word = "--" ++ String.ofList long := String.toList_inj.1 (by simp [hlist])
      split at h
      · rename_i name value hsplit
        obtain ⟨rfl, hname⟩ := Text.splitOnce_eq_some hsplit
        have hword : "--" ++ String.ofList (name ++ '=' :: value) =
            "--" ++ String.ofList name ++ "=" ++ String.ofList value := String.toList_inj.1 (by simp)
        rw [hword]
        exact reads_of_readLong_joined hfree (by simpa using hname) h
      · rename_i hsplit
        refine reads_of_readLong hfree ⟨?_, by simpa using Text.splitOnce_eq_none_iff.1 hsplit⟩ h
        intro hempty
        exact hlong (by simpa using congrArg String.toList hempty)
    · exact absurd h (readLetters_ne_ok hg _ _)
    · rename_i hletters
      exact reads_of_readValue (.inr (isValue_of_forall_ne hletters)) h

end

/-! ## What the words so far name and give -/

/-- An option of the grammar whose name can stand on a command line and is no name of a position. -/
structure Takes (g : Grammar) (name : String) (kind : Kind) : Prop where
  isName : IsName name
  form : g.formOf? name = some (.option kind)
  ne_position : ∀ k, (name, k) ∉ g.positions

/-- What has been read of an option is what the words name and give. -/
structure Tracks (name : String) (kind : Kind) (words : List String) (p : Progress) : Prop where
  onlyPositions : p.onlyPositions = true ↔ "--" ∈ words
  ofKind : ∀ k, p.pending = some (name, k, none) → k = kind
  awaits : p.Awaits name ↔ "--" ∉ words ∧ words.getLast? = some ("--" ++ name)
  has : p.Has name ↔ Named words name
  holds : ∀ outcome, p.Holds name outcome ↔ ∃ value, Given words name value ∧ outcome = kind.read value

section
variable {g : Grammar} {p q : Progress} {name word : String} {kind : Kind} {words : List String}

theorem Takes.ne_flag (ht : g.Takes name kind) {other : String} (h : g.formOf? other = some .flag) :
    other ≠ name := by
  rintro rfl
  rw [ht.form] at h
  cases h

theorem Takes.ne_position_name (ht : g.Takes name kind) {other : String} {k : Kind}
    (h : (other, k) ∈ g.positions) : other ≠ name := by
  rintro rfl
  exact ht.ne_position k h

theorem Takes.kind_unique (ht : g.Takes name kind) {k : Kind}
    (h : g.formOf? name = some (.option k)) : k = kind := by
  simpa [ht.form] using h.symm

theorem Reads.onlyPositions_iff (h : Reads g p word q) :
    q.onlyPositions = true ↔ p.onlyPositions = true ∨ word = "--" := by
  cases h with
  | separator hfree => simp
  | value hfree hword hpending => simp [hword.ne_separator]
  | position hplace hposition hq =>
    rw [hq.onlyPositions]
    rcases hplace with honly | hword
    · simp [honly]
    · simp [hword.ne_separator]
  | flag hfree hname hform hq hdone => simp [hq.onlyPositions, long_ne_separator hname]
  | joined hfree hname hform hq hdone hread => simp [hq.onlyPositions, joined_ne_separator]
  | apart hfree hname hform hq => simp [hq.onlyPositions, long_ne_separator hname]

theorem Reads.awaits_iff (h : Reads g p word q) (ht : g.Takes name kind) :
    q.Awaits name ↔ p.onlyPositions = false ∧ word = "--" ++ name := by
  cases h with
  | separator hfree => simp [Progress.Awaits, (long_ne_separator ht.isName).symm]
  | value hfree hword hpending => simp [Progress.Awaits, hword.ne_long]
  | position hplace hposition hq =>
    rcases hplace with honly | hword
    · simp [Progress.Awaits, honly]
    · simp [Progress.Awaits, hword.ne_long]
  | flag hfree hname hform hq hdone => simp [Progress.Awaits, hq.pending, ht.ne_flag hform]
  | joined hfree hname hform hq hdone hread =>
    simp [Progress.Awaits, hq.pending, joined_ne_long ht.isName.equals]
  | apart hfree hname hform hq => simp [Progress.Awaits, hq.onlyPositions, hfree]

theorem Reads.has_iff (h : Reads g p word q) (ht : g.Takes name kind) :
    q.Has name ↔ p.Has name ∨ p.onlyPositions = false ∧ Names word name := by
  cases h with
  | separator hfree => simp [Progress.Has, not_names_separator ht.isName]
  | value hfree hword hpending => simp [Progress.Has, hpending, hword.not_names]
  | position hplace hposition hq =>
    have hother := ht.ne_position_name hposition
    rw [← hq.has]
    rcases hplace with honly | hword
    · simp [Progress.Has, hq.pending, hother, honly]
    · simp [Progress.Has, hq.pending, hother, hword.not_names]
  | flag hfree hname hform hq hdone =>
    rw [← hq.has]
    simp [Progress.Has, hq.pending, hfree, names_long_iff hname.equals, or_comm]
  | joined hfree hname hform hq hdone hread =>
    rw [← hq.has]
    simp [Progress.Has, hq.pending, hfree, names_joined_iff ht.isName.equals hname, or_comm]
  | apart hfree hname hform hq =>
    rw [← hq.has]
    simp [Progress.Has, hq.pending, hfree, names_long_iff hname.equals]

theorem Reads.holds_iff (h : Reads g p word q) (ht : g.Takes name kind)
    (hkind : ∀ k, p.pending = some (name, k, none) → k = kind) (outcome : Except Refusal Argument) :
    q.Holds name outcome ↔
      p.Holds name outcome ∨ ∃ value, p.Gives word name value ∧ outcome = kind.read value := by
  -- What most words do: they give no value, and the values there are stay.
  have hsame (hnone : ∀ value, ¬ p.Gives word name value)
      (hholds : q.Holds name outcome ↔ p.Holds name outcome) :
      q.Holds name outcome ↔
        p.Holds name outcome ∨ ∃ value, p.Gives word name value ∧ outcome = kind.read value := by
    rw [hholds, or_iff_left]
    rintro ⟨value, hgives, -⟩
    exact hnone value hgives
  cases h with
  | separator hfree =>
    refine hsame ?_ Iff.rfl
    rintro value ⟨-, hjoined | ⟨-, hvalue, -⟩⟩
    · exact joined_ne_separator hjoined.symm
    · exact hvalue.ne_separator rfl
  | @value other _ k hfree hword hpending =>
    -- The word behind a name is its value, and the kind is that with which the name was read.
    have hgives (value : String) : p.Gives word name value ↔ other = name ∧ word = value := by
      have hjoined : word ≠ "--" ++ name ++ "=" ++ value := fun h => hword.not_names (.inr ⟨value, h⟩)
      simp [Progress.Gives, Progress.Awaits, hfree, hword, hpending, hjoined]
    by_cases hother : other = name
    · subst hother
      obtain rfl := hkind k hpending
      simp [Progress.Holds, hpending, hgives]
    · simp [Progress.Holds, hpending, hgives, hother]
  | position hplace hposition hq =>
    have hother := ht.ne_position_name hposition
    refine hsame (fun value hgives => ?_) ?_
    · obtain ⟨hfree, rfl⟩ := hq.gives_iff.1 hgives
      rcases hplace with honly | hword
      · rw [hfree] at honly
        cases honly
      · exact hword.not_names (.inr ⟨value, rfl⟩)
    · rw [← hq.holds]
      simp [Progress.Holds, hq.pending, hother]
  | @flag q other hfree hname hform hq hdone =>
    refine hsame (fun value hgives => ?_) ?_
    · exact joined_ne_long hname.equals (hq.gives_iff.1 hgives).2.symm
    · rw [← hq.holds]
      simp [Progress.Holds, hq.pending, ht.ne_flag hform]
  | @joined q other value k v hfree hname hform hq hdone hread =>
    rw [Progress.holds_record hq.pending hdone, hq.holds]
    refine or_congr_right ⟨?_, ?_⟩
    · rintro ⟨rfl, rfl⟩
      exact ⟨value, hq.gives_iff.2 ⟨hfree, rfl⟩, by rw [← ht.kind_unique hform, hread]⟩
    · rintro ⟨found, hgives, rfl⟩
      obtain ⟨rfl, rfl⟩ := joined_inj hname ht.isName.equals (hq.gives_iff.1 hgives).2
      exact ⟨rfl, by rw [← ht.kind_unique hform, hread]⟩
  | @apart q other k hfree hname hform hq =>
    refine hsame (fun value hgives => ?_) ?_
    · exact joined_ne_long hname.equals (hq.gives_iff.1 hgives).2.symm
    · rw [← hq.holds]
      simp [Progress.Holds, hq.pending]

/-- The kind of an option whose value is still to come. -/
theorem Reads.ofKind (h : Reads g p word q) (ht : g.Takes name kind)
    (hkind : ∀ k, p.pending = some (name, k, none) → k = kind) :
    ∀ k, q.pending = some (name, k, none) → k = kind := by
  intro k hk
  cases h with
  | separator hfree => exact hkind k hk
  | value hfree hword hpending => cases hk
  | position hplace hposition hq => cases hk
  | flag hfree hname hform hq hdone =>
    rw [hq.pending] at hk
    cases hk
  | joined hfree hname hform hq hdone hread =>
    rw [hq.pending] at hk
    cases hk
  | apart hfree hname hform hq =>
    cases hk
    exact ht.kind_unique hform

theorem tracks_nil (name : String) (kind : Kind) : Tracks name kind [] {} where
  onlyPositions := by simp
  ofKind := by simp
  awaits := by simp [Progress.Awaits]
  has := by simp [Progress.Has, Matches.has, Matches.get?, Named]
  holds := by simp [Progress.Holds, Matches.get?, not_given_nil]

/-- One more word names and gives what is read for it. -/
theorem Tracks.step (hp : Tracks name kind words p) (h : Reads g p word q) (ht : g.Takes name kind) :
    Tracks name kind (words ++ [word]) q := by
  have hfree : p.onlyPositions = false ↔ "--" ∉ words := by
    rw [← hp.onlyPositions, Bool.not_eq_true]
  refine ⟨?_, h.ofKind ht hp.ofKind, ?_, ?_, fun outcome => ?_⟩
  · rw [h.onlyPositions_iff, hp.onlyPositions, List.mem_append, List.mem_singleton, eq_comm]
  · rw [h.awaits_iff ht, hfree, List.getLast?_concat, Option.some.injEq, List.mem_append,
      List.mem_singleton, not_or]
    constructor
    · rintro ⟨hwords, rfl⟩
      exact ⟨⟨hwords, (long_ne_separator ht.isName).symm⟩, rfl⟩
    · rintro ⟨⟨hwords, -⟩, hword⟩
      exact ⟨hwords, hword⟩
  · rw [h.has_iff ht, hp.has, hfree, named_concat]
  · -- What the word gives depends on the words before it only through the last of them.
    have hgives (value : String) : p.Gives word name value ↔ "--" ∉ words ∧
        (word = "--" ++ name ++ "=" ++ value ∨
          words.getLast? = some ("--" ++ name) ∧ IsValue word ∧ word = value) := by
      rw [Progress.Gives, hfree, hp.awaits]
      refine and_congr_right fun hnone => ?_
      rw [and_iff_right hnone]
    rw [h.holds_iff ht hp.ofKind, hp.holds]
    simp only [given_concat ht.isName, hgives, or_and_right, exists_or]

theorem Tracks.readWords (hg : g.Plain) (ht : g.Takes name kind) {rest : List String}
    {found : Option (String × List String)} (hp : Tracks name kind words p)
    (h : g.readWords p rest = .ok (q, found)) : Tracks name kind (words ++ rest) q := by
  induction rest generalizing words p with
  | nil =>
    cases h
    simpa using hp
  | cons word rest ih =>
    have hsubcommand : g.isSubcommand p word = false := by simp [isSubcommand, hg.subcommands]
    rw [Grammar.readWords, if_neg (by simp [hsubcommand])] at h
    obtain ⟨next, hword, h⟩ := exists_of_bind_eq_ok h
    simpa using ih (hp.step (reads_of_readWord hg hword) ht) h

/-- The parameters of words that are accepted may go together, and come from what the words name and give. -/
theorem exists_tracks_of_read (hg : g.Plain) {m : Matches} (h : g.read words = .ok m) :
    g.check m = .ok () ∧ ∃ p q, p.Settled q ∧ q.done = m ∧
      ∀ name kind, g.Takes name kind → Tracks name kind words p := by
  obtain ⟨⟨p, found⟩, hwords, h⟩ := exists_of_bind_eq_ok h
  obtain ⟨q, hsettle, h⟩ := exists_of_bind_eq_ok h
  obtain ⟨_, hcheck, h⟩ := exists_of_bind_eq_ok h
  cases h
  refine ⟨hcheck, p, q, Progress.settled_of_settle hsettle, rfl, fun name kind ht => ?_⟩
  simpa using (tracks_nil name kind).readWords hg ht hwords

theorem has_iff_named (hg : g.Plain) (ht : g.Takes name kind) {m : Matches} (h : g.read words = .ok m) :
    m.has name = true ↔ Named words name := by
  obtain ⟨-, p, q, hq, rfl, htracks⟩ := exists_tracks_of_read hg h
  rw [← (htracks name kind ht).has, ← hq.has]
  simp [Progress.Has, hq.pending]

theorem get?_eq_some_iff_given (hg : g.Plain) (ht : g.Takes name kind) {m : Matches}
    (h : g.read words = .ok m) {v : Argument} :
    m.get? name = some v ↔ ∃ value, Given words name value ∧ kind.read value = .ok v := by
  obtain ⟨-, p, q, hq, rfl, htracks⟩ := exists_tracks_of_read hg h
  simp only [eq_comm, ← (htracks name kind ht).holds, ← hq.holds]
  simp [Progress.Holds, hq.pending, eq_comm]

theorem named_iff_exists_given (hg : g.Plain) (ht : g.Takes name kind) {m : Matches}
    (h : g.read words = .ok m) :
    Named words name ↔ ∃ value v, Given words name value ∧ kind.read value = .ok v := by
  rw [← has_iff_named hg ht h, Matches.has, Option.isSome_iff_exists]
  simp only [get?_eq_some_iff_given hg ht h]
  exact exists_comm

/-! ## What goes together -/

theorem check_eq_ok_iff {m : Matches} : g.check m = .ok () ↔
    (∀ pair ∈ g.exclusive, ¬ (m.has pair.1 = true ∧ m.has pair.2 = true)) ∧
    (∀ name ∈ g.required, g.isSatisfied m name = true) ∧
    (∀ pair ∈ g.needs, m.has pair.1 = true → g.isSatisfied m pair.2 = true) ∧
    ∀ pair ∈ g.requiredUnless, m.has pair.1 = true ∨ m.has pair.2 = true := by
  rw [check]
  split
  · rename_i hexcluded
    obtain ⟨pair, hpair, hboth⟩ := List.any_eq_true.1 hexcluded
    simp only [reduceCtorEq, false_iff]
    rintro ⟨hexclusive, -⟩
    exact hexclusive pair hpair (by simpa using hboth)
  · rename_i hexcluded
    have hexclusive : ∀ pair ∈ g.exclusive, ¬ (m.has pair.1 = true ∧ m.has pair.2 = true) := by
      simpa using hexcluded
    rw [and_iff_right hexclusive]
    split
    · rename_i hlacks
      simpa [and_assoc, imp_iff_not_or] using hlacks
    · rename_i hlacks
      simpa [and_assoc, imp_iff_not_or] using hlacks

/-! ## Names of subcommands -/

theorem readWords_eq_ok_some_iff {rest : List String} : g.readWords p words = .ok (q, some (name, rest)) ↔
    ∃ front, words = front ++ name :: rest ∧ g.readWords p front = .ok (q, none) ∧
      g.isSubcommand q name = true := by
  induction words generalizing p with
  | nil => simp [readWords]
  | cons word words ih =>
    by_cases hsubcommand : g.isSubcommand p word = true
    · rw [readWords, if_pos hsubcommand]
      constructor
      · intro h
        cases h
        exact ⟨[], rfl, rfl, hsubcommand⟩
      · rintro ⟨front, hwords, hfront, -⟩
        cases front with
        | nil =>
          cases hwords
          cases hfront
          rfl
        | cons first front =>
          cases hwords
          rw [readWords, if_pos hsubcommand] at hfront
          cases hfront
    · rw [readWords, if_neg hsubcommand]
      constructor
      · intro h
        obtain ⟨next, hword, h⟩ := exists_of_bind_eq_ok h
        obtain ⟨front, rfl, hfront, hname⟩ := ih.1 h
        refine ⟨word :: front, rfl, ?_, hname⟩
        rw [readWords, if_neg hsubcommand, hword]
        exact hfront
      · rintro ⟨front, hwords, hfront, hname⟩
        cases front with
        | nil =>
          cases hwords
          cases hfront
          exact absurd hname hsubcommand
        | cons first front =>
          cases hwords
          rw [readWords, if_neg hsubcommand] at hfront
          obtain ⟨next, hword, hfront⟩ := exists_of_bind_eq_ok hfront
          rw [hword]
          exact ih.2 ⟨front, rfl, hfront, hname⟩

end
end Grammar
end VirtHost.Cli
