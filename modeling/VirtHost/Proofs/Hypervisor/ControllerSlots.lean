import Mathlib.Data.Finset.Prod
import Mathlib.Data.Finset.Sort
import Mathlib.Data.Prod.Lex
import VirtHost.Hypervisor.Controllers

/-! # The slots of controllers

The slots and functions that are tried are those of a bus from a first pair on, each once and in
ascending lexicographic order.

* `legalSlots`: the set of these pairs.
* `sort_legalSlots`: its elements in ascending order are the list that is tried.
-/

namespace VirtHost.Hypervisor
set_option autoImplicit false

/-- The pairs of a slot up to `0x1f` and a function up to 7 from a first pair on. -/
def legalSlots (firstSlot firstFunction : Nat) : Finset (Nat ×ₗ Nat) :=
  ((Finset.range 0x20 ×ˢ Finset.range 8).map toLex.toEmbedding).filter fun p =>
    toLex (firstSlot, firstFunction) ≤ p

theorem mem_legalSlots {firstSlot firstFunction slot function : Nat} :
    toLex (slot, function) ∈ legalSlots firstSlot firstFunction ↔ slot ≤ 0x1f ∧ function ≤ 7 ∧
      (firstSlot < slot ∨ firstSlot = slot ∧ firstFunction ≤ function) := by
  simp only [legalSlots, Finset.mem_filter, Finset.mem_map_equiv, toLex_symm_eq, ofLex_toLex,
    Finset.mem_product, Finset.mem_range, Prod.Lex.toLex_le_toLex]
  constructor
  · rintro ⟨⟨hslot, hfunction⟩, h⟩
    exact ⟨by omega, by omega, h⟩
  · rintro ⟨hslot, hfunction, h⟩
    exact ⟨⟨by omega, by omega⟩, h⟩

theorem mem_between {first last n : Nat} : n ∈ between first last ↔ first ≤ n ∧ n ≤ last := by
  rw [between, List.mem_range'_1]
  omega

theorem pairwise_between (first last : Nat) : (between first last).Pairwise (· < ·) :=
  List.pairwise_lt_range' 1

theorem mem_controllerSlots {firstSlot firstFunction slot function : Nat} :
    (slot, function) ∈ controllerSlots firstSlot firstFunction ↔
      toLex (slot, function) ∈ legalSlots firstSlot firstFunction := by
  rw [mem_legalSlots]
  simp only [controllerSlots, List.mem_flatMap, List.mem_map, Prod.mk.injEq, mem_between, maxSlot,
    maxFunction]
  constructor
  · rintro ⟨_, ⟨hfirst, hslot⟩, _, ⟨hstart, hfunction⟩, rfl, rfl⟩
    refine ⟨hslot, hfunction, ?_⟩
    split at hstart <;> omega
  · rintro ⟨hslot, hfunction, h⟩
    refine ⟨slot, ⟨by omega, hslot⟩, function, ⟨?_, hfunction⟩, rfl, rfl⟩
    split <;> omega

theorem pairwise_controllerSlots (firstSlot firstFunction : Nat) :
    ((controllerSlots firstSlot firstFunction).map toLex).Pairwise (· < ·) := by
  rw [List.pairwise_map, controllerSlots, List.pairwise_flatMap]
  constructor
  · intro slot _
    rw [List.pairwise_map]
    refine (pairwise_between _ _).imp fun {a b} hab => ?_
    exact Prod.Lex.toLex_lt_toLex.2 (.inr ⟨rfl, hab⟩)
  · refine (pairwise_between _ _).imp fun {a b} hab x hx y hy => ?_
    obtain ⟨f, -, rfl⟩ := List.mem_map.1 hx
    obtain ⟨g, -, rfl⟩ := List.mem_map.1 hy
    exact Prod.Lex.toLex_lt_toLex.2 (.inl hab)

theorem nodup_controllerSlots (firstSlot firstFunction : Nat) :
    ((controllerSlots firstSlot firstFunction).map toLex).Nodup :=
  (pairwise_controllerSlots _ _).imp fun h => ne_of_lt h

/-- The list that is tried is the set of all pairs from the first one on, in ascending order. -/
theorem sort_legalSlots (firstSlot firstFunction : Nat) :
    (legalSlots firstSlot firstFunction).sort =
      (controllerSlots firstSlot firstFunction).map toLex := by
  have hset : ((controllerSlots firstSlot firstFunction).map toLex).toFinset =
      legalSlots firstSlot firstFunction := by
    ext p
    rw [List.mem_toFinset, List.mem_map]
    constructor
    · rintro ⟨q, hq, rfl⟩
      exact mem_controllerSlots.1 hq
    · intro hp
      exact ⟨ofLex p, mem_controllerSlots.2 hp, rfl⟩
  rw [← hset]
  exact (List.toFinset_sort _ (nodup_controllerSlots _ _)).2
    ((pairwise_controllerSlots _ _).imp fun h => le_of_lt h)

theorem length_controllerSlots (firstSlot firstFunction : Nat) :
    (controllerSlots firstSlot firstFunction).length = (legalSlots firstSlot firstFunction).card := by
  rw [← Finset.length_sort (· ≤ ·), sort_legalSlots, List.length_map]

/-- A bus has no more than 256 of these pairs. -/
theorem card_legalSlots_le (firstSlot firstFunction : Nat) :
    (legalSlots firstSlot firstFunction).card ≤ 256 := by
  refine (Finset.card_filter_le _ _).trans ?_
  simp

example : (legalSlots 0x1f 6).sort = [toLex (0x1f, 6), toLex (0x1f, 7)] := by
  rw [sort_legalSlots]
  rfl

end VirtHost.Hypervisor
