import VirtHost.Listing.Vm
import VirtHost.Proofs.Text.Lines
import VirtHost.Proofs.Vm.State

/-! # Records of fields

A record has one field a line, its name and its value with a colon between them. Lines of another form may
stand anywhere.

* `IsField`, `ShowsField`, `LacksField`: fields, lines that show one, and lines that show none.
* `status_of_lined`: the fields that are read from a record are those that its lines show.
-/

namespace VirtHost.Listing
open Text
set_option autoImplicit false

variable {f : String × String} {line s t : List Char} {ls : List (List Char)} {text : String}

/-- A field has a name, in which there is no colon, and a value. Both are trimmed. -/
structure IsField (f : String × String) : Prop where
  name_ne : f.1 ≠ ""
  colon_notMem : ':' ∉ f.1.toList
  trim_name : trim f.1.toList = f.1.toList
  trim_value : trim f.2.toList = f.2.toList

instance : DecidablePred IsField := fun f =>
  decidable_of_iff (f.1 ≠ "" ∧ ':' ∉ f.1.toList ∧ trim f.1.toList = f.1.toList ∧ trim f.2.toList = f.2.toList)
    ⟨fun h => ⟨h.1, h.2.1, h.2.2.1, h.2.2.2⟩, fun h => ⟨h.1, h.2, h.3, h.4⟩⟩

/-- A line with the name of a field, a colon and the value, and gaps before the two and behind them. -/
def ShowsField (f : String × String) (line : List Char) : Prop :=
  ∃ indent gap behind, IsGap indent ∧ IsGap gap ∧ IsGap behind ∧
    line = indent ++ (f.1.toList ++ ':' :: (gap ++ (f.2.toList ++ behind)))

/-- A line without a colon, or with nothing but a gap before the first one. -/
def LacksField (line : List Char) : Prop :=
  ':' ∉ line ∨ ∃ gap rest, IsGap gap ∧ line = gap ++ ':' :: rest

theorem colon_notMem_of_isGap (h : IsGap s) : ':' ∉ s := by
  intro hmem
  have hblank := (h ':' hmem).1
  revert hblank
  decide

theorem fieldOfLine?_of_shows (hf : IsField f) (h : ShowsField f line) : fieldOfLine? line = some f := by
  obtain ⟨indent, gap, behind, hindent, hgap, hbehind, rfl⟩ := h
  have hcolon : ':' ∉ indent ++ f.1.toList := by
    simp [colon_notMem_of_isGap hindent, hf.colon_notMem]
  have hname : trim (indent ++ f.1.toList) = f.1.toList := by
    rw [trim_blanks_append fun c hc => (hindent c hc).1, hf.trim_name]
  have hvalue : trim (gap ++ (f.2.toList ++ behind)) = f.2.toList := by
    rw [trim_blanks_append fun c hc => (hgap c hc).1, trim_append_blanks fun c hc => (hbehind c hc).1,
      hf.trim_value]
  have hne : f.1.toList ≠ [] := fun hnil => hf.name_ne (String.toList_eq_nil_iff.1 hnil)
  rw [← List.append_assoc, fieldOfLine?, splitOnce_append hcolon]
  simp [hname, hvalue, hne]

theorem fieldOfLine?_of_lacks (h : LacksField line) : fieldOfLine? line = none := by
  rcases h with hnone | ⟨gap, rest, hgap, rfl⟩
  · rw [fieldOfLine?, splitOnce_eq_none_iff.2 hnone]
    rfl
  · have hname : trim gap = [] := by
      have hblank := trim_blanks_append (fun c hc => (hgap c hc).1) []
      rwa [List.append_nil] at hblank
    rw [fieldOfLine?, splitOnce_append (colon_notMem_of_isGap hgap)]
    simp [hname]

/-- A carriage return at the end belongs to the gap behind the value. -/
theorem fieldOfLine?_dropReturn (line : List Char) : fieldOfLine? (dropReturn line) = fieldOfLine? line := by
  by_cases hlast : line.getLast? = some '\r'
  · obtain ⟨s, rfl⟩ := List.getLast?_eq_some_iff.1 hlast
    have hreturn : ∀ c ∈ ['\r'], isBlank c = true := by
      rw [List.forall_mem_singleton]
      decide
    have hdrop : dropReturn (s ++ ['\r']) = s := by simp [dropReturn]
    rw [hdrop]
    by_cases hmem : ':' ∈ s
    · obtain ⟨name, value, rfl, hname⟩ := List.eq_append_cons_of_mem hmem
      rw [List.append_assoc, List.cons_append, fieldOfLine?, fieldOfLine?, splitOnce_append hname,
        splitOnce_append hname]
      simp [trim_append_blanks hreturn]
    · have hmem' : ':' ∉ s ++ ['\r'] := by simp [hmem]
      rw [fieldOfLine?, fieldOfLine?, splitOnce_eq_none_iff.2 hmem, splitOnce_eq_none_iff.2 hmem']
  · simp [dropReturn, hlast]

theorem status_of_lined {fields : List (String × String)} (hfields : ∀ f ∈ fields, IsField f)
    (hls : Among ShowsField LacksField fields ls) (htext : Lined ls text) : status text = ⟨fields⟩ := by
  have hread : ls.filterMap fieldOfLine? = fields.map id :=
    hls.filterMap (fun f hf line h => fieldOfLine?_of_shows (hfields f hf) h)
      fun line h => fieldOfLine?_of_lacks h
  rw [status, htext.filterMap_lines rfl fun line _ => fieldOfLine?_dropReturn line, hread, List.map_id]

end VirtHost.Listing
