import VirtHost.Proofs.Listing.Links

/-! # Listings line by line

* `ListingLine`: a line with a link, or any other line.
* `ListingLine.lists`: what a line adds to a listing.
* `virtualFunctionLinks_listing`: the links are read from their lines, in full and in their order.
-/

namespace VirtHost.Listing
open Text
open VirtualFunction (Link)
set_option autoImplicit false

/-- A line of a listing. No name of a link stands in it but that of its own. -/
inductive ListingLine
  /-- A link in a directory, behind some columns. Its target has a domain of four digits. -/
  | link (columns path : List Char) (shown : Link) (hcolumns : ¬ linkName <:+: columns)
      (hpath : ¬ linkName <:+: path) (hid : shown.id ≤ limit32)
      (hdomain : shown.target.domain.toNat ≤ 0xffff)
  | other (text : List Char) (htext : ¬ linkName <:+: text)

namespace ListingLine

def text : ListingLine → List Char
  | link columns path shown _ _ _ _ =>
    columns ++ ' ' :: (path ++ '/' :: (linkHead shown.id ++ (['.', '.', '/'] ++ shown.target.chars)))
  | other text _ => text

def link? : ListingLine → Option Link
  | link _ _ shown _ _ _ _ => some shown
  | other _ _ => none

end ListingLine

/-- The links of some lines. -/
def linksOf (lines : List ListingLine) : List Link :=
  lines.filterMap ListingLine.link?

/-- The text of some lines. -/
def listing (lines : List ListingLine) : String :=
  String.ofList (join ['\n'] (lines.map ListingLine.text))

/-! ## One line -/

/-- The name of a link goes on where a word does. -/
theorem isWordCharacter_of_mem_linkName : ∀ c ∈ linkName, isWordCharacter c = true :=
  List.all_eq_true.1 (by decide +kernel)

theorem Lists.append {links : List Link} {s rest : List Char} (hs : ¬ linkName <:+: s)
    (hends : endsWord rest = true) (h : Lists links rest) : Lists links (s ++ rest) := by
  have hhead : ∀ c ∈ rest.head?, c ∉ linkName := by
    intro c hc hname
    obtain ⟨tail, rfl⟩ := List.head?_eq_some_iff.1 hc
    simp [endsWord, isWordCharacter_of_mem_linkName c hname] at hends
  cases h with
  | nil hrest => exact .nil (not_infix_append hs hrest hhead)
  | @cons link links before path rest hbefore hid hblank hcolon hrest hlists =>
    rw [← List.append_assoc]
    refine .cons (not_infix_append hs hbefore fun c hc => hhead c ?_) hid hblank hcolon hrest hlists
    obtain ⟨tail, rfl⟩ := List.head?_eq_some_iff.1 hc
    rfl

/-- A line adds its link to the listing behind it. -/
theorem ListingLine.lists (line : ListingLine) {links : List Link} {rest : List Char}
    (hends : endsWord rest = true) (h : Lists links rest) :
    Lists (line.link?.toList ++ links) (line.text ++ rest) := by
  cases line with
  | other text htext => exact h.append htext hends
  | link columns path shown hcolumns hpath hid hdomain =>
    have hempty : ¬ linkName <:+: [] := by decide
    have hbefore : ¬ linkName <:+: columns ++ ' ' :: (path ++ ['/']) :=
      not_infix_append_cons hcolumns (by decide) (not_infix_append_cons hpath (by decide) hempty)
    have hlink := Lists.cons hbefore hid isBlank_upward (by decide) hends h
    simpa [ListingLine.text, ListingLine.link?] using hlink

/-! ## All lines -/

theorem lists_lines (lines : List ListingLine) :
    Lists (linksOf lines) (join ['\n'] (lines.map ListingLine.text)) := by
  have hempty : Lists [] [] := .nil (by decide)
  induction lines with
  | nil => exact hempty
  | cons line lines ih =>
    have hlinks : linksOf (line :: lines) = line.link?.toList ++ linksOf lines := by
      cases line <;> rfl
    rw [hlinks]
    cases lines with
    | nil =>
      have hlast : Lists (line.link?.toList ++ []) (line.text ++ []) := line.lists rfl hempty
      simpa [join, List.intercalate, linksOf] using hlast
    | cons next lines =>
      rw [List.map_cons, List.map_cons, join_cons_cons, List.singleton_append]
      exact line.lists (endsWord_newline _) ih.newline

/-- **Listings.** Exactly the links of its lines are read from a listing, in their order. -/
theorem virtualFunctionLinks_listing (lines : List ListingLine) :
    virtualFunctionLinks (listing lines) = .ok (linksOf lines) := by
  have hfull : ∀ link ∈ linksOf lines, reported link = link := by
    intro link hlink
    obtain ⟨line, -, hline⟩ := List.mem_filterMap.1 hlink
    cases line with
    | other text htext => cases hline
    | link columns path shown hcolumns hpath hid hdomain =>
      obtain rfl : shown = link := Option.some.inj hline
      exact reported_eq_iff.2 hdomain
  have hlists : Lists (linksOf lines) (listing lines).toList := by
    rw [listing, String.toList_ofList]
    exact lists_lines lines
  rw [virtualFunctionLinks_eq_reported hlists, List.map_congr_left hfull, List.map_id']

end VirtHost.Listing
