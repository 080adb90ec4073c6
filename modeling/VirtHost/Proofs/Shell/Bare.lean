import VirtHost.Device
import VirtHost.Command.Install
import VirtHost.Host.Program
import VirtHost.Proofs.Pci.Forms
import VirtHost.Proofs.Text.LowerCase

/-! # What a shell would read in a command

A redirection, a pipe, a pattern or a substitution means something only if a shell reads it, and only
outside quotes.

* `bare`: a command without its quoted parts; `NeedsShell`: something there is for a shell.
* `Plain`: texts that say nothing to a shell, wherever they stand. The texts that are made of numbers are
  plain, and so is what is put together from plain texts.
-/

namespace VirtHost.Shell
open Text
set_option autoImplicit false

/-! ## Quotes -/

/-- What stands outside quotes; `quote` is the one that is open. -/
def bareFrom (quote : Option Char) : List Char → List Char
  | [] => []
  | c :: rest =>
    match quote with
    | some q => if c = q then bareFrom none rest else bareFrom (some q) rest
    | none => if c = '\'' ∨ c = '"' then bareFrom (some c) rest else c :: bareFrom none rest

/-- A command without its quoted parts. -/
def bare (command : String) : List Char :=
  bareFrom none command.toList

/-- Whether there is a redirection, a pipe, a pattern or a substitution outside quotes. -/
def NeedsShell (command : String) : Prop :=
  '>' ∈ bare command ∨ '|' ∈ bare command ∨ '*' ∈ bare command ∨ ['$', '('] <:+: bare command

instance : DecidablePred NeedsShell :=
  fun command => inferInstanceAs (Decidable ('>' ∈ bare command ∨ '|' ∈ bare command ∨
    '*' ∈ bare command ∨ ['$', '('] <:+: bare command))

/-- Neither quote is in a text. -/
def Unquoted (s : List Char) : Prop :=
  ∀ c ∈ s, c ≠ '\'' ∧ c ≠ '"'

instance : DecidablePred Unquoted :=
  fun s => List.decidableBAll (fun c => c ≠ '\'' ∧ c ≠ '"') s

theorem unquoted_append {s t : List Char} : Unquoted (s ++ t) ↔ Unquoted s ∧ Unquoted t :=
  List.forall_mem_append

theorem bareFrom_append {s : List Char} (hs : Unquoted s) (t : List Char) :
    bareFrom none (s ++ t) = s ++ bareFrom none t := by
  induction s with
  | nil => rfl
  | cons c s ih =>
    obtain ⟨hsingle, hdouble⟩ := hs c (by simp)
    have hrest : Unquoted s := fun d hd => hs d (by simp [hd])
    simp only [List.cons_append, bareFrom, hsingle, hdouble, or_self, if_false, ih hrest]

theorem bare_of_unquoted {command : String} (h : Unquoted command.toList) :
    bare command = command.toList := by
  have happend := bareFrom_append h []
  simpa [bare, bareFrom] using happend

theorem bareFrom_quoted {q : Char} {s : List Char} (hs : q ∉ s) (t : List Char) :
    bareFrom (some q) (s ++ q :: t) = bareFrom none t := by
  induction s with
  | nil => simp [bareFrom]
  | cons c s ih =>
    obtain ⟨hc, hrest⟩ : c ≠ q ∧ q ∉ s := by simpa [eq_comm] using hs
    simp only [List.cons_append, bareFrom, hc, if_false, ih hrest]

/-! ## Plain texts -/

/-- The characters that say something to a shell, and the quotes. -/
def special : List Char :=
  ['>', '|', '*', '$', '\'', '"']

/-- No character of a text is special. -/
def Plain (s : String) : Prop :=
  ∀ c ∈ s.toList, c ∉ special

instance : DecidablePred Plain :=
  fun s => List.decidableBAll (fun c => c ∉ special) s.toList

theorem unquoted_of_plain {s : List Char} (hs : ∀ c ∈ s, c ∉ special) : Unquoted s := by
  intro c hc
  have hspecial := hs c hc
  constructor
  · rintro rfl
    exact hspecial (by decide)
  · rintro rfl
    exact hspecial (by decide)

theorem Plain.unquoted {s : String} (hs : Plain s) : Unquoted s.toList :=
  unquoted_of_plain hs

theorem not_needsShell_of_bare {command : String} (h : ∀ c ∈ bare command, c ∉ special) :
    ¬ NeedsShell command := by
  rintro (hmem | hmem | hmem | hopens)
  · exact h _ hmem (by decide)
  · exact h _ hmem (by decide)
  · exact h _ hmem (by decide)
  · exact h '$' (hopens.subset (by simp)) (by decide)

theorem Plain.not_needsShell {command : String} (h : Plain command) : ¬ NeedsShell command := by
  refine not_needsShell_of_bare ?_
  rw [bare_of_unquoted h.unquoted]
  exact h

theorem not_needsShell_quoted {command : String} {head quoted tail : List Char}
    (hcommand : command.toList = head ++ '\'' :: (quoted ++ '\'' :: tail))
    (hhead : ∀ c ∈ head, c ∉ special) (hquoted : '\'' ∉ quoted) (htail : ∀ c ∈ tail, c ∉ special) :
    ¬ NeedsShell command := by
  have hbare : bare command = head ++ tail := by
    have hopen : bareFrom none ('\'' :: (quoted ++ '\'' :: tail)) = bareFrom none tail := by
      rw [bareFrom, if_pos (.inl rfl), bareFrom_quoted hquoted]
    have hrest := bareFrom_append (unquoted_of_plain htail) []
    rw [List.append_nil] at hrest
    rw [bare, hcommand, bareFrom_append (unquoted_of_plain hhead), hopen, hrest, bareFrom,
      List.append_nil]
  refine not_needsShell_of_bare fun c hc => ?_
  rw [hbare] at hc
  rcases List.mem_append.1 hc with hc | hc
  · exact hhead c hc
  · exact htail c hc

/-! ## Texts put together -/

@[simp] theorem plain_append {s t : String} : Plain (s ++ t) ↔ Plain s ∧ Plain t := by
  simp [Plain, or_imp, forall_and]

theorem plain_ofList {s : List Char} : Plain (String.ofList s) ↔ ∀ c ∈ s, c ∉ special := by
  rw [Plain, String.toList_ofList]

theorem plain_joinPath {base name : String} (hbase : Plain base) (hname : Plain name) :
    Plain (Host.joinPath base name) := by
  refine plain_ofList.2 fun c hc => ?_
  rcases List.mem_append.1 hc with hc | hc
  · refine hbase c ?_
    have hmem := (List.dropWhile_sublist _).subset (List.mem_reverse.1 hc)
    simpa using hmem
  · rcases List.mem_cons.1 hc with rfl | hc
    · decide
    · exact hname c ((List.dropWhile_sublist _).subset hc)

theorem plain_joinStrings {sep : String} (hsep : Plain sep) {parts : List String}
    (hparts : ∀ s ∈ parts, Plain s) : Plain (Command.joinStrings sep parts) := by
  unfold Command.joinStrings
  induction parts with
  | nil =>
    rw [String.intercalate_nil]
    decide
  | cons s parts ih =>
    have hs := hparts s (by simp)
    cases parts with
    | nil => rwa [String.intercalate_singleton]
    | cons t parts =>
      rw [String.intercalate_cons_cons, plain_append, plain_append]
      exact ⟨⟨hs, hsep⟩, ih fun u hu => hparts u (by simp [hu])⟩

/-! ## Numbers -/

theorem digitChar_notMem_special : ∀ d < 16, digitChar d ∉ special := by
  decide

@[simp] theorem plain_decimal (n : Nat) : Plain (decimal n) :=
  plain_ofList.2 (forall_mem_digitsOf (by decide) (fun d hd => digitChar_notMem_special d (by omega)) n)

theorem notMem_special_of_mem_hexadecimal {width n : Nat} :
    ∀ c ∈ hexadecimal width n, c ∉ special :=
  forall_mem_zeroFill (by decide) digitChar_notMem_special width n

theorem plain_pciText (a : Pci.Address) : Plain a.text :=
  plain_ofList.2 (Pci.Address.forall_mem_chars digitChar_notMem_special (by decide) (by decide) a)

theorem plain_ipv4Text (ip : Ipv4) : Plain ip.text := by
  have hpoint : Plain "." := by decide +kernel
  simp [Ipv4.text, hpoint]

/-! ## Letter case -/

theorem unmapped_of_mem_special : ∀ c ∈ special, Unmapped c := by
  have hall : special.all (fun c => decide (Unmapped c)) = true := by
    decide +kernel
  exact fun c hc => of_decide_eq_true (List.all_eq_true.1 hall c hc)

theorem plain_lower {s : String} (hs : Plain s) : Plain (lower s) := by
  refine plain_ofList.2 fun c hc hspecial => ?_
  exact hs c (mem_of_mem_lowercase (unmapped_of_mem_special c hspecial) hc) hspecial

end VirtHost.Shell
