import VirtHost.Listing.Network
import VirtHost.Proofs.Ipv4
import VirtHost.Proofs.Text.Words

/-! # Network-data files

A network-data file is a preamble followed by sections, each a header and the lines below it. Indentation,
blank lines and comments have no meaning.

* `Section`, `Sectioned`: a file cut at its headers; `Sectioned.IsTextOf`: its text.
* `exists_sectioned`: every text is one of such a file.
* `Sectioned.statements`: the lines of its `[kvm]` sections that say something.
* `ShowsEntry`, `Faulty`: a line that shows an entry, and why a line shows none.
* `networkData_outcome`: what is read of a file, and why it is refused.
-/

namespace VirtHost.Listing
open Text
set_option autoImplicit false

variable {line : List Char} {ls rest : List (List Char)} {entries : List Network.Entry}
  {e : Network.Entry} {text what : String}

/-! ## Sections -/

/-- Behind its indentation a header begins with a bracket. -/
def IsHeader (line : List Char) : Prop :=
  (trim line).head? = some '['

/-- A line that is blank or a comment. -/
def SaysNothing (line : List Char) : Prop :=
  trim line = [] ∨ (trim line).head? = some '#'

instance : DecidablePred IsHeader := fun line =>
  inferInstanceAs (Decidable ((trim line).head? = some '['))

instance : DecidablePred SaysNothing := fun line =>
  inferInstanceAs (Decidable (trim line = [] ∨ (trim line).head? = some '#'))

/-- A header and the lines below it, up to the next header. -/
structure Section where
  header : List Char
  body : List (List Char)
  opens : IsHeader header
  keeps : ∀ line ∈ body, ¬ IsHeader line

namespace Section

def IsKvm (s : Section) : Prop :=
  trim s.header = "[kvm]".toList

instance : DecidablePred IsKvm := fun s =>
  inferInstanceAs (Decidable (trim s.header = "[kvm]".toList))

/-- The lines of a section that say something. -/
def statements (s : Section) : List (List Char) :=
  s.body.filter fun line => ¬ SaysNothing line

end Section

/-- A file cut at its headers. -/
structure Sectioned where
  preamble : List (List Char)
  sections : List Section
  outside : ∀ line ∈ preamble, ¬ IsHeader line

namespace Sectioned

/-- All lines of a file. -/
def lines (f : Sectioned) : List (List Char) :=
  f.preamble ++ f.sections.flatMap fun s => s.header :: s.body

/-- The lines of the `[kvm]` sections that say something. -/
def statements (f : Sectioned) : List (List Char) :=
  (f.sections.filter fun s => s.IsKvm).flatMap Section.statements

/-- The text consists of the lines of a file. -/
def IsTextOf (f : Sectioned) (text : String) : Prop :=
  text.toList = join ['\n'] f.lines ∧ ∀ line ∈ f.lines, '\n' ∉ line

end Sectioned

/-- Lines can be cut at the headers among them. -/
theorem exists_sectioned_lines (ls : List (List Char)) : ∃ f : Sectioned, f.lines = ls := by
  induction ls with
  | nil => exact ⟨⟨[], [], by simp⟩, rfl⟩
  | cons line ls ih =>
    obtain ⟨⟨preamble, sections, houtside⟩, rfl⟩ := ih
    by_cases hline : IsHeader line
    · exact ⟨⟨[], ⟨line, preamble, hline, houtside⟩ :: sections, by simp⟩, by simp [Sectioned.lines]⟩
    · exact ⟨⟨line :: preamble, sections, List.forall_mem_cons.2 ⟨hline, houtside⟩⟩, by
        simp [Sectioned.lines]⟩

theorem exists_sectioned (text : String) : ∃ f : Sectioned, f.IsTextOf text := by
  obtain ⟨f, hf⟩ := exists_sectioned_lines (text.toList.splitOn '\n')
  refine ⟨f, ?_, fun line hline => ?_⟩
  · rw [hf]
    exact (List.intercalate_splitOn '\n').symm
  · rw [hf] at hline
    exact notMem_of_mem_splitOn hline

/-! ## Statements -/

/-- The lines that say something in the part of a file that is left, inside or outside a `[kvm]` section. -/
def statementsFrom (inSection : Bool) : List (List Char) → List (List Char)
  | [] => []
  | line :: rest =>
    if SaysNothing line then statementsFrom inSection rest
    else if IsHeader line then statementsFrom (trim line = "[kvm]".toList) rest
    else if inSection then line :: statementsFrom inSection rest
    else statementsFrom inSection rest

theorem isRemark_trim_iff : isRemark (trim line) = true ↔ SaysNothing line := by
  simp [isRemark, SaysNothing]

theorem not_saysNothing_of_isHeader (h : IsHeader line) : ¬ SaysNothing line := by
  rintro (hnil | hremark)
  · rw [IsHeader, hnil] at h
    cases h
  · rw [IsHeader, hremark] at h
    cases h

/-- The lines that say something are those that are read as entries. -/
theorem entriesFrom_eq_mapM (inSection : Bool) (ls : List (List Char)) :
    entriesFrom inSection (ls.map trim)
      = (statementsFrom inSection ls).mapM fun line => entryOfLine (trim line) := by
  induction ls generalizing inSection with
  | nil => rfl
  | cons line rest ih =>
    rw [List.map_cons, entriesFrom, statementsFrom]
    by_cases hremark : SaysNothing line
    · rw [if_pos (isRemark_trim_iff.2 hremark), if_pos hremark, ih]
    · rw [if_neg (fun h => hremark (isRemark_trim_iff.1 h)), if_neg hremark]
      by_cases hheader : IsHeader line
      · have hbracket : (trim line).head? = some '[' := hheader
        rw [if_pos hbracket, if_pos hheader, ih]
      · have hbracket : (trim line).head? ≠ some '[' := hheader
        rw [if_neg hbracket, if_neg hheader]
        cases inSection with
        | false => simp only [Bool.false_eq_true, if_false, ih]
        | true => simp only [if_true, ih, List.mapM_cons]

/-- Up to the next header the same section goes on. -/
theorem statementsFrom_append (h : ∀ line ∈ ls, ¬ IsHeader line) (inSection : Bool)
    (rest : List (List Char)) : statementsFrom inSection (ls ++ rest) =
      (if inSection then ls.filter fun line => ¬ SaysNothing line else [])
        ++ statementsFrom inSection rest := by
  induction ls with
  | nil => cases inSection <;> rfl
  | cons line ls ih =>
    obtain ⟨hline, hls⟩ := List.forall_mem_cons.1 h
    rw [List.cons_append, statementsFrom, if_neg hline, ih hls]
    by_cases hremark : SaysNothing line
    · simp [hremark]
    · cases inSection <;> simp [hremark]

theorem statementsFrom_sections (inSection : Bool) (sections : List Section) :
    statementsFrom inSection (sections.flatMap fun s => s.header :: s.body)
      = (sections.filter fun s => s.IsKvm).flatMap Section.statements := by
  induction sections generalizing inSection with
  | nil => rfl
  | cons s sections ih =>
    rw [List.flatMap_cons, List.cons_append, statementsFrom,
      if_neg (not_saysNothing_of_isHeader s.opens), if_pos s.opens, statementsFrom_append s.keeps, ih]
    by_cases hkvm : s.IsKvm
    · simp [Section.IsKvm] at hkvm
      simp [Section.IsKvm, hkvm, Section.statements]
    · simp [Section.IsKvm] at hkvm
      simp [Section.IsKvm, hkvm]

theorem Sectioned.statementsFrom_lines (f : Sectioned) : statementsFrom false f.lines = f.statements := by
  rw [lines, statementsFrom_append f.outside, statementsFrom_sections]
  rfl

/-! ## Lines -/

/-- A line on which the address and the MAC of an entry stand in front. -/
def ShowsEntry (line : List Char) (e : Network.Entry) : Prop :=
  ∃ more, Spaced (e.ip.text.toList :: e.mac.toList :: more) line

/-- Why a line shows no entry. -/
inductive Faulty (line : List Char) : String → Prop
  | short {ws : List (List Char)} (hline : Spaced ws line) (hws : ws.length < 2) :
      Faulty line ("invalid network data line: " ++ String.ofList (trim line))
  | address {first second : List Char} {more : List (List Char)}
      (hline : Spaced (first :: second :: more) line) (hfirst : ∀ ip : Ipv4, first ≠ ip.text.toList) :
      Faulty line ("invalid IP address in network data: " ++ String.ofList first)

theorem settles_entryOfLine (hline : '\n' ∉ line) :
    Settles (ShowsEntry line) (fun err => ∃ what, Faulty line what ∧ err = .parse what)
      (entryOfLine (trim line)) := by
  refine .intro (fun e he => ?_) (fun err herr => ?_) ?_
  · obtain ⟨more, h⟩ := he
    rw [entryOfLine, words_trim, words_of_spaced h]
    simp only [Ipv4.read?_eq_some_iff.2 rfl, String.ofList_toList]
  · obtain ⟨what, hfaulty, rfl⟩ := herr
    rw [entryOfLine, words_trim]
    cases hfaulty with
    | @short ws h hws =>
      rw [words_of_spaced h]
      match ws, hws with
      | [], _ => rfl
      | [_], _ => rfl
    | @address first second more h hfirst =>
      have hip : Ipv4.read? first = none :=
        Option.eq_none_iff_forall_ne_some.2 fun ip hip => hfirst ip (Ipv4.read?_eq_some_iff.1 hip)
      rw [words_of_spaced h]
      simp only [hip]
  · have hspaced := spaced_words hline
    match hwords : words line with
    | [] => exact .inr ⟨_, _, .short (hwords ▸ hspaced) (by simp), rfl⟩
    | [_] => exact .inr ⟨_, _, .short (hwords ▸ hspaced) (by simp), rfl⟩
    | first :: second :: more =>
      rw [hwords] at hspaced
      by_cases hip : ∃ ip : Ipv4, first = ip.text.toList
      · obtain ⟨ip, rfl⟩ := hip
        exact .inl ⟨⟨ip, String.ofList second⟩, more, by rwa [String.toList_ofList]⟩
      · exact .inr ⟨_, _, .address hspaced (not_exists.1 hip), rfl⟩

/-! ## Files -/

theorem entriesFrom_lines (inSection : Bool) (s : List Char) :
    entriesFrom inSection ((lines s).map trim) = entriesFrom inSection ((s.splitOn '\n').map trim) := by
  have hblank (ls : List (List Char)) (inSection : Bool) :
      entriesFrom inSection (ls ++ [[]]) = entriesFrom inSection ls := by
    induction ls generalizing inSection with
    | nil => rfl
    | cons line ls ih => simp only [List.cons_append, entriesFrom, ih]
  rcases map_trim_splitOn s with h | h
  · rw [h]
  · rw [h, hblank]

/-- What is read of a file is read of its statements. -/
theorem networkData_eq {f : Sectioned} (h : f.IsTextOf text) : networkData text = (do
    let entries ← f.statements.mapM fun line => entryOfLine (trim line)
    if entries.isEmpty then .error (.notFound "No network data found in [kvm] section")
    else .ok entries) := by
  have hentries : entriesFrom false ((lines text.toList).map trim)
      = f.statements.mapM fun line => entryOfLine (trim line) := by
    rw [entriesFrom_lines, ← f.statementsFrom_lines, ← entriesFrom_eq_mapM, h.1]
    by_cases hnil : f.lines = []
    · rw [hnil]
      rfl
    · rw [join, List.splitOn_intercalate '\n' h.2 hnil]
  rw [networkData, hentries]

theorem Sectioned.newline_notMem {f : Sectioned} (h : f.IsTextOf text) :
    ∀ line ∈ f.statements, '\n' ∉ line := by
  intro line hline
  obtain ⟨s, hs, hbody⟩ := List.mem_flatMap.1 hline
  refine h.2 line (List.mem_append_right _ (List.mem_flatMap.2 ⟨s, (List.mem_filter.1 hs).1, ?_⟩))
  exact List.mem_cons_of_mem _ (List.mem_filter.1 hbody).1

theorem settles_networkData {f : Sectioned} (h : f.IsTextOf text) :
    Settles (fun entries => entries ≠ [] ∧ List.Forall₂ ShowsEntry f.statements entries)
      (fun err => (f.statements = [] ∧ err = .notFound "No network data found in [kvm] section") ∨
        ∃ before line behind, f.statements = before ++ line :: behind ∧
          (∀ l ∈ before, ∃ e, ShowsEntry l e) ∧ ∃ what, Faulty line what ∧ err = .parse what)
      (networkData text) := by
  have hread := Settles.mapM fun line hline => settles_entryOfLine (f.newline_notMem h line hline)
  rw [networkData_eq h]
  refine .intro (fun entries hentries => ?_) (fun err herr => ?_) ?_
  · obtain ⟨hne, hshows⟩ := hentries
    rw [(hread.ok_iff entries).2 hshows]
    cases entries with
    | nil => exact absurd rfl hne
    | cons e entries => rfl
  · rcases herr with ⟨hnone, rfl⟩ | hfaulty
    · rw [hnone]
      rfl
    · rw [(hread.error_iff err).2 hfaulty]
      rfl
  · obtain ⟨entries, hshows⟩ | ⟨err, hfaulty⟩ := hread.reads_or_fails
    · cases entries with
      | nil => exact .inr ⟨_, .inl ⟨List.forall₂_nil_right_iff.1 hshows, rfl⟩⟩
      | cons e entries => exact .inl ⟨e :: entries, List.cons_ne_nil e entries, hshows⟩
    · exact .inr ⟨err, .inr hfaulty⟩

/-- A line that is at fault shows no entry. -/
theorem Faulty.not_showsEntry (h : Faulty line what) : ¬ ShowsEntry line e := by
  rintro ⟨more, hline⟩
  have hwords := words_of_spaced hline
  cases h with
  | short hshort hws =>
    rw [words_of_spaced hshort] at hwords
    rw [hwords, List.length_cons, List.length_cons] at hws
    omega
  | address haddress hfirst =>
    rw [words_of_spaced haddress] at hwords
    exact hfirst e.ip (List.cons.inj hwords).1

/-- **Network data.** The entries of a file are shown by the lines of its `[kvm]` sections that say something, in
order, whatever else stands in the file. There is nothing to be found if there are no such lines, and if one of
them shows no entry, the first of these is reported. -/
theorem networkData_outcome :
    (∀ text, ∃ f : Sectioned, f.IsTextOf text) ∧
    ∀ (f : Sectioned) (text : String), f.IsTextOf text →
      (∀ entries, networkData text = .ok entries ↔
        entries ≠ [] ∧ List.Forall₂ ShowsEntry f.statements entries) ∧
      ((∃ entries, networkData text = .ok entries) ↔
        f.statements ≠ [] ∧ ∀ line ∈ f.statements, ∃ e, ShowsEntry line e) ∧
      (∀ what, networkData text = .error (.notFound what) ↔
        f.statements = [] ∧ what = "No network data found in [kvm] section") ∧
      (∀ what, networkData text = .error (.parse what) ↔
        ∃ before line behind, f.statements = before ++ line :: behind ∧
          (∀ l ∈ before, ∃ e, ShowsEntry l e) ∧ Faulty line what) ∧
      ((∃ what, networkData text = .error (.parse what)) ↔
        ∃ line ∈ f.statements, ¬ ∃ e, ShowsEntry line e) := by
  refine ⟨exists_sectioned, fun f text h => ?_⟩
  have hsettles := settles_networkData h
  have hread : (∃ entries, networkData text = .ok entries) ↔
      f.statements ≠ [] ∧ ∀ line ∈ f.statements, ∃ e, ShowsEntry line e := by
    simp only [hsettles.ok_iff, ← exists_forall₂_iff]
    constructor
    · rintro ⟨entries, hne, hshows⟩
      refine ⟨fun hnil => hne ?_, entries, hshows⟩
      rwa [hnil, List.forall₂_nil_left_iff] at hshows
    · rintro ⟨hne, entries, hshows⟩
      refine ⟨entries, fun hnil => hne ?_, hshows⟩
      rwa [hnil, List.forall₂_nil_right_iff] at hshows
  have hmissing (what : String) : networkData text = .error (.notFound what) ↔
      f.statements = [] ∧ what = "No network data found in [kvm] section" := by
    rw [hsettles.error_iff]
    simp
  have hfaulty (what : String) : networkData text = .error (.parse what) ↔
      ∃ before line behind, f.statements = before ++ line :: behind ∧
        (∀ l ∈ before, ∃ e, ShowsEntry l e) ∧ Faulty line what := by
    rw [hsettles.error_iff]
    simp
  refine ⟨hsettles.ok_iff, hread, hmissing, hfaulty, ?_⟩
  constructor
  · rintro ⟨what, hwhat⟩
    obtain ⟨before, line, behind, hsplit, -, hline⟩ := (hfaulty what).1 hwhat
    exact ⟨line, by simp [hsplit], fun ⟨e, he⟩ => hline.not_showsEntry he⟩
  · rintro ⟨line, hline, hnone⟩
    cases hresult : networkData text with
    | ok entries => exact absurd ((hread.1 ⟨entries, hresult⟩).2 line hline) hnone
    | error err =>
      rcases (hsettles.error_iff err).1 hresult with ⟨hnil, -⟩ | ⟨-, -, -, -, -, what, -, rfl⟩
      · rw [hnil] at hline
        cases hline
      · exact ⟨what, rfl⟩

/-- Two `[kvm]` sections with a comment, a blank line and words behind a MAC, and entries elsewhere. -/
def mixedFile : Sectioned where
  preamble := ["10.0.0.9 99:99".toList]
  sections := [
    ⟨"[lab]".toList, ["10.0.0.8 88:88".toList], by decide, by decide⟩,
    ⟨"  [kvm]\r".toList, ["# spare".toList, "\t10.0.0.1  AA:bb rack 7".toList, " ".toList],
      by decide, by decide⟩,
    ⟨"[kvm-old]".toList, ["10.0.0.7".toList], by decide, by decide⟩,
    ⟨"[kvm]".toList, ["10.0.0.2 cc".toList, []], by decide, by decide⟩]
  outside := by decide

theorem networkData_outcome_mixed :
    let text := String.ofList (join ['\n'] mixedFile.lines)
    mixedFile.IsTextOf text ∧
    networkData text = .ok [⟨⟨10, 0, 0, 1⟩, "AA:bb"⟩, ⟨⟨10, 0, 0, 2⟩, "cc"⟩] := by
  intro text
  have htext : mixedFile.IsTextOf text := ⟨String.toList_ofList, by decide⟩
  have hstatements : mixedFile.statements = ["\t10.0.0.1  AA:bb rack 7".toList, "10.0.0.2 cc".toList] := by
    decide
  have hshows {line : List Char} {e : Network.Entry} (hnewline : '\n' ∉ line)
      (hline : entryOfLine (trim line) = .ok e) : ShowsEntry line e :=
    ((settles_entryOfLine hnewline).ok_iff e).1 hline
  refine ⟨htext, ((networkData_outcome.2 mixedFile text htext).1 _).2 ⟨by simp, ?_⟩⟩
  rw [hstatements]
  exact .cons (hshows (by decide) (by rfl)) (.cons (hshows (by decide) (by rfl)) .nil)

end VirtHost.Listing
