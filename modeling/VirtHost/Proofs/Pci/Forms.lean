import VirtHost.Proofs.Pci
import VirtHost.Proofs.Pci.Grammar

/-! # The forms in which addresses are written

* `written_chars`, `written_shortChars`: what is written is a form of the address.
* `filter_escapeColons`: escaping adds backslashes and nothing else.
* `read_back`: every form in which an address is written gives the address back.
-/

namespace VirtHost.Pci.Address
open Text
set_option autoImplicit false

/-! ## Numerals that are written -/

theorem denotes_hexadecimal (width n : Nat) : Denotes 16 n (hexadecimal width n) :=
  (readNumeral?_eq_some_iff.1 (readNumeral?_hexadecimal width (Nat.le_refl n))).1

theorem written_chars (a : Address) : Written a a.chars := by
  have hchars : a.chars = hexadecimal 4 a.domain.toNat ++ ':' :: hexadecimal 2 a.bus.toNat ++
      ':' :: hexadecimal 2 a.slot.toNat ++ '.' :: hexadecimal 1 a.function.toNat := by
    simp [chars, shortChars]
  rw [hchars]
  exact .long (denotes_hexadecimal 4 _) (denotes_hexadecimal 2 _) (denotes_hexadecimal 2 _)
    (denotes_hexadecimal 1 _)

theorem written_shortChars (a : Address) : Written { a with domain := 0 } a.shortChars :=
  .short rfl (denotes_hexadecimal 2 _) (denotes_hexadecimal 2 _) (denotes_hexadecimal 1 _)

theorem forall_mem_chars {p : Char → Prop} (hdigits : ∀ d < 16, p (digitChar d)) (hcolon : p ':')
    (hpoint : p '.') (a : Address) : ∀ c ∈ a.chars, p c := by
  have hnumeral (width n : Nat) : ∀ c ∈ hexadecimal width n, p c :=
    forall_mem_zeroFill (by decide) hdigits width n
  simp only [chars, shortChars, List.forall_mem_append, List.forall_mem_cons]
  exact ⟨hnumeral 4 _, hcolon, ⟨hnumeral 2 _, hcolon, hnumeral 2 _⟩, hpoint, hnumeral 1 _⟩

theorem map_toLower_toUpper (a : Address) : (a.chars.map Char.toUpper).map Char.toLower = a.chars := by
  have hchar : ∀ c ∈ a.chars, c.toUpper.toLower = c :=
    forall_mem_chars (by decide) (by decide) (by decide) a
  rw [List.map_map]
  conv => rhs; rw [← List.map_id a.chars]
  exact List.map_congr_left hchar

theorem filter_escapeColons {s : List Char} (h : '\\' ∉ s) :
    (escapeColons s).filter (· ≠ '\\') = s := by
  induction s with
  | nil => rfl
  | cons c s ih =>
    have hc : c ≠ '\\' := fun heq => h (heq ▸ List.mem_cons_self)
    have hs := ih fun hmem => h (List.mem_cons_of_mem c hmem)
    have hcons : escapeColons (c :: s) = (if c = ':' then ['\\', ':'] else [c]) ++ escapeColons s := by
      rw [escapeColons, List.flatMap_cons]
      rfl
    rw [hcons, List.filter_append, hs]
    split
    · rename_i hcolon
      subst hcolon
      rfl
    · simp [hc]

/-! ## Reading back -/

/-- **Every form gives the address back**: the long one, also between blanks and in digits of either
case, the short one but for the domain, the four attribute values, and the form for a shell when its
backslashes are deleted. So addresses with the same text are the same. -/
theorem read_back (a : Address) :
    parse a.text = .ok a ∧
    parse (String.ofList (a.chars.map Char.toUpper)) = .ok a ∧
    (∀ before written behind : List Char, (∀ c ∈ before ++ behind, isBlank c = true) →
      written.map Char.toLower = a.chars →
      parse (String.ofList (before ++ written ++ behind)) = .ok a) ∧
    parse a.shortText = .ok { a with domain := 0 } ∧
    (∃ domain bus slot function,
      a.values = [("domain", domain), ("bus", bus), ("slot", slot), ("func", function)] ∧
      ofHexFields domain bus slot function = .ok a) ∧
    String.ofList (a.shellText.toList.filter (· ≠ '\\')) = a.text ∧
    ∀ b : Address, b.text = a.text → b = a := by
  have hlong (b : Address) : parse b.text = .ok b := parse_of_written (written_chars b)
  refine ⟨hlong a, ?_, ?_, ?_, ?_, ?_, ?_⟩
  · apply parse_of_written
    apply written_of_map_toLower
    rw [map_toLower_toUpper]
    exact written_chars a
  · intro before written behind hblank hwritten
    refine parse_between_blanks (written_of_map_toLower ?_) hblank
    rw [hwritten]
    exact written_chars a
  · exact parse_of_written (written_shortChars a)
  · exact ⟨_, _, _, _, rfl, ofHexFields_hexValue a⟩
  · have hbackslash : '\\' ∉ a.chars := by
      intro hmem
      exact forall_mem_chars (p := fun c => c ≠ '\\') (by decide) (by decide) (by decide) a _ hmem rfl
    rw [shellText, String.toList_ofList, filter_escapeColons hbackslash, text]
  · intro b hb
    have hread := hlong b
    rw [hb, hlong a] at hread
    exact (Except.ok.inj hread).symm

/-- A domain of five digits and a function of two, in digits of both cases. -/
theorem read_back_wide :
    let a : Address := ⟨0x1ab5e, 0x5e, 0xa, 0x19⟩
    (∀ c ∈ [' ', '\t'] ++ ['\n'], isBlank c = true) ∧
    "1aB5E:5e:0A.19".toList.map Char.toLower = a.chars ∧
    parse (String.ofList ([' ', '\t'] ++ "1aB5E:5e:0A.19".toList ++ ['\n'])) = .ok a := by
  intro a
  have hblank : ∀ c ∈ [' ', '\t'] ++ ['\n'], isBlank c = true := List.all_eq_true.1 (by decide)
  have hwritten : "1aB5E:5e:0A.19".toList.map Char.toLower = a.chars := by
    decide +kernel
  exact ⟨hblank, hwritten, (read_back a).2.2.1 _ _ _ hblank hwritten⟩

end VirtHost.Pci.Address
