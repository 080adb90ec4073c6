import Mathlib.Data.List.Sort
import VirtHost.Xml.Node

/-! # Positions in a tree

The position of an element is the list of child numbers on the way to it from the outermost element. In
document order an element comes before those inside it and these before what follows: positions are in
lexicographic order.

* `Node.at?`: the element at a position.
* `Node.positions`: all positions; `mem_positions_iff`, `pairwise_positions`, `map_at?_positions`: they are
  positions of elements, in ascending order, and the elements there are the descendants.
* `Node.mem_descendants_iff`: an element is inside another one if it has a position in it.
* `Node.Lists`: the elements of a kind in document order; `Node.Lists.unique`, `Node.lists_filter`: they are
  one list, the descendants of that kind.
* `Node.FirstAt`: the first element of a kind; `Node.Lists.head?_eq_some_iff`: it is the head of that list.
-/

namespace VirtHost.Xml.Node
set_option autoImplicit false

variable {n : Node} {p q : List Nat}

/-- The element at a position. -/
def at? : Node → List Nat → Option Node
  | n, [] => some n
  | n, i :: p => n.children[i]?.bind fun c => c.at? p

mutual

/-- The positions of an element and of all elements inside it. -/
def positions : Node → List (List Nat)
  | mk _ _ children => [] :: positionsOfAll 0 children

/-- The positions of the elements of a list whose first one has number `i`, and of all elements inside them. -/
def positionsOfAll (i : Nat) : List Node → List (List Nat)
  | [] => []
  | n :: rest => n.positions.map (i :: ·) ++ positionsOfAll (i + 1) rest

end

theorem at?_cons (name : String) (attributes : List (String × String)) (children : List Node) (i : Nat)
    (p : List Nat) : (mk name attributes children).at? (i :: p) = children[i]?.bind fun c => c.at? p := by
  rw [at?]
  rfl

theorem at?_append (n : Node) (p q : List Nat) : n.at? (p ++ q) = (n.at? p).bind fun e => e.at? q := by
  induction p generalizing n with
  | nil => rfl
  | cons i p ih =>
    obtain ⟨name, attributes, children⟩ := n
    rw [List.cons_append, at?_cons, at?_cons, Option.bind_assoc]
    exact Option.bind_congr fun c _ => ih c

mutual

theorem map_at?_positions : ∀ n : Node, n.positions.map n.at? = n.descendants.map some
  | mk name attributes children => by
    have hchildren := map_at?_positionsOfAll name attributes [] children
    rw [positions, descendants, List.map_cons, List.map_cons, at?]
    exact congrArg _ hchildren

theorem map_at?_positionsOfAll (name : String) (attributes : List (String × String)) (before : List Node) :
    ∀ ns : List Node, (positionsOfAll before.length ns).map (mk name attributes (before ++ ns)).at?
      = (descendantsOfAll ns).map some
  | [] => by
    rw [positionsOfAll, descendantsOfAll]
    rfl
  | n :: ns => by
    have hfirst : (n.positions.map (before.length :: ·)).map (mk name attributes (before ++ n :: ns)).at?
        = n.descendants.map some := by
      rw [← map_at?_positions n, List.map_map]
      refine List.map_congr_left fun p _ => ?_
      rw [Function.comp_apply, at?_cons, List.getElem?_append_right (Nat.le_refl _), Nat.sub_self]
      rfl
    have hrest := map_at?_positionsOfAll name attributes (before ++ [n]) ns
    rw [List.length_append, List.length_singleton, List.append_assoc, List.singleton_append] at hrest
    rw [positionsOfAll, descendantsOfAll, List.map_append, List.map_append, hfirst, hrest]

end

mutual

theorem mem_positions_iff : ∀ (n : Node) (p : List Nat), p ∈ n.positions ↔ ∃ e, n.at? p = some e
  | mk name attributes children, [] => by
    rw [positions, at?]
    simp
  | mk name attributes children, i :: p => by
    rw [positions, at?_cons, List.mem_cons, mem_positionsOfAll_iff children 0 (i :: p)]
    simp only [reduceCtorEq, false_or, Nat.zero_add, List.cons.injEq, Option.bind_eq_some_iff]
    constructor
    · rintro ⟨j, q, c, e, ⟨rfl, rfl⟩, hc, he⟩
      exact ⟨e, c, hc, he⟩
    · rintro ⟨e, c, hc, he⟩
      exact ⟨i, p, c, e, ⟨rfl, rfl⟩, hc, he⟩

theorem mem_positionsOfAll_iff : ∀ (ns : List Node) (i : Nat) (p : List Nat),
    p ∈ positionsOfAll i ns ↔ ∃ j q c e, p = (i + j) :: q ∧ ns[j]? = some c ∧ c.at? q = some e
  | [], i, p => by simp [positionsOfAll]
  | n :: ns, i, p => by
    rw [positionsOfAll, List.mem_append, mem_positionsOfAll_iff ns (i + 1) p, List.mem_map]
    simp only [mem_positions_iff n]
    constructor
    · rintro (⟨q, ⟨e, he⟩, rfl⟩ | ⟨j, q, c, e, rfl, hc, he⟩)
      · exact ⟨0, q, n, e, rfl, rfl, he⟩
      · exact ⟨j + 1, q, c, e, by rw [Nat.add_assoc, Nat.add_comm 1], hc, he⟩
    · rintro ⟨j, q, c, e, rfl, hc, he⟩
      cases j with
      | zero =>
        obtain rfl : n = c := Option.some.inj hc
        exact .inl ⟨q, ⟨e, he⟩, rfl⟩
      | succ j => exact .inr ⟨j, q, c, e, by rw [Nat.add_assoc, Nat.add_comm 1], hc, he⟩

end

mutual

/-- An element comes before those inside it and these before what follows. -/
theorem pairwise_positions : ∀ n : Node, n.positions.Pairwise (· < ·)
  | mk name attributes children => by
    rw [positions, List.pairwise_cons]
    refine ⟨fun p hp => ?_, pairwise_positionsOfAll children 0⟩
    obtain ⟨j, q, c, e, rfl, -, -⟩ := (mem_positionsOfAll_iff children 0 p).1 hp
    exact List.nil_lt_cons _ _

theorem pairwise_positionsOfAll : ∀ (ns : List Node) (i : Nat), (positionsOfAll i ns).Pairwise (· < ·)
  | [], i => by
    rw [positionsOfAll]
    exact .nil
  | n :: ns, i => by
    rw [positionsOfAll, List.pairwise_append]
    refine ⟨?_, pairwise_positionsOfAll ns (i + 1), fun p hp q hq => ?_⟩
    · rw [List.pairwise_map]
      exact (pairwise_positions n).imp fun h => List.cons_lt_cons_self.2 h
    · obtain ⟨p, -, rfl⟩ := List.mem_map.1 hp
      obtain ⟨j, q, c, e, rfl, -, -⟩ := (mem_positionsOfAll_iff ns (i + 1) q).1 hq
      exact List.cons_lt_cons_iff.2 (.inl (by omega))

end

theorem mem_descendants_iff {e : Node} : e ∈ n.descendants ↔ ∃ p, n.at? p = some e := by
  have hsome : e ∈ n.descendants ↔ some e ∈ n.descendants.map some := by simp
  rw [hsome, ← map_at?_positions, List.mem_map]
  constructor
  · rintro ⟨p, -, he⟩
    exact ⟨p, he⟩
  · rintro ⟨p, he⟩
    exact ⟨p, (mem_positions_iff n p).2 ⟨e, he⟩, he⟩

/-! ## Elements of a kind -/

/-- The elements of a kind, in document order. -/
def Lists (n : Node) (kind : Node → Prop) (elements : List Node) : Prop :=
  ∃ ps : List (List Nat), ps.Pairwise (· < ·) ∧ (∀ p, p ∈ ps ↔ ∃ e, n.at? p = some e ∧ kind e) ∧
    ps.map n.at? = elements.map some

theorem Lists.unique {kind : Node → Prop} {elements others : List Node} (h : n.Lists kind elements)
    (h' : n.Lists kind others) : elements = others := by
  obtain ⟨ps, hps, hmem, helements⟩ := h
  obtain ⟨qs, hqs, hmem', hothers⟩ := h'
  obtain rfl : ps = qs := hps.eq_of_mem_iff hqs fun p => (hmem p).trans (hmem' p).symm
  exact List.map_injective_iff.2 (Option.some_injective Node) (helements.symm.trans hothers)

theorem lists_filter (n : Node) (kind : Node → Bool) :
    n.Lists (fun e => kind e = true) (n.descendants.filter kind) := by
  refine ⟨n.positions.filter fun p => (n.at? p).any kind, (pairwise_positions n).filter _, fun p => ?_, ?_⟩
  · rw [List.mem_filter, mem_positions_iff, Option.any_eq_true]
    constructor
    · rintro ⟨-, e, he, hkind⟩
      exact ⟨e, he, hkind⟩
    · rintro ⟨e, he, hkind⟩
      exact ⟨⟨e, he⟩, e, he, hkind⟩
  · have hall : (n.positions.map n.at?).filter (fun o => o.any kind)
        = (n.descendants.map some).filter fun o => o.any kind := by rw [map_at?_positions]
    rw [List.filter_map, List.filter_map] at hall
    exact hall

/-! ## The first element of a kind -/

/-- The first element of a kind, in document order, and its position. -/
structure FirstAt (n : Node) (kind : Node → Prop) (p : List Nat) (e : Node) : Prop where
  at? : n.at? p = some e
  first : ∀ q f, q < p → n.at? q = some f → ¬ kind f
  kind : kind e

theorem FirstAt.before {kind : Node → Prop} {e f : Node} (h : n.FirstAt kind p e) (hq : n.at? q = some f)
    (hf : kind f) : p < q ∨ p = q ∧ e = f := by
  rcases Std.lt_trichotomy p q with hlt | rfl | hgt
  · exact .inl hlt
  · exact .inr ⟨rfl, Option.some.inj (h.at?.symm.trans hq)⟩
  · exact absurd hf (h.first q f hgt hq)

theorem FirstAt.unique {kind : Node → Prop} {e f : Node} (h : n.FirstAt kind p e)
    (h' : n.FirstAt kind q f) : p = q ∧ e = f := by
  rcases h.before h'.at? h'.kind with hlt | heq
  · exact absurd h.kind (h'.first p e hlt h.at?)
  · exact heq

theorem Lists.head?_eq_some_iff {kind : Node → Prop} {elements : List Node} {e : Node}
    (h : n.Lists kind elements) : elements.head? = some e ↔ ∃ p, n.FirstAt kind p e := by
  obtain ⟨ps, hsorted, hmem, helements⟩ := h
  have hhead : elements.head? = some e ↔ ∃ p rest, ps = p :: rest ∧ n.at? p = some e := by
    cases ps with
    | nil =>
      obtain rfl : elements = [] := by simpa using helements.symm
      simp
    | cons p rest =>
      cases elements with
      | nil => simp at helements
      | cons first others =>
        obtain ⟨hfirst, -⟩ := List.cons.inj helements
        simp [hfirst]
  rw [hhead]
  constructor
  · rintro ⟨p, rest, rfl, hp⟩
    obtain ⟨e', he', hkind⟩ := (hmem p).1 List.mem_cons_self
    obtain rfl : e = e' := Option.some.inj (hp.symm.trans he')
    refine ⟨p, hp, fun q f hqp hq hf => ?_, hkind⟩
    rcases List.mem_cons.1 ((hmem q).2 ⟨f, hq, hf⟩) with rfl | hrest
    · exact List.lt_irrefl q hqp
    · exact List.lt_asymm hqp (List.rel_of_pairwise_cons hsorted hrest)
  · rintro ⟨p, hp⟩
    obtain ⟨before, rest, rfl⟩ := List.append_of_mem ((hmem p).2 ⟨e, hp.at?, hp.kind⟩)
    cases before with
    | nil => exact ⟨p, rest, rfl, hp.at?⟩
    | cons q before =>
      obtain ⟨f, hq, hf⟩ := (hmem q).1 List.mem_cons_self
      have hqp : q < p := List.rel_of_pairwise_cons hsorted (by simp)
      exact absurd hf (hp.first q f hqp hq)

theorem exists_firstAt {kind : Node → Prop} {e : Node} (hp : n.at? p = some e) (he : kind e) :
    ∃ q f, n.FirstAt kind q f := by
  classical
  have hlists := n.lists_filter fun e => decide (kind e)
  simp only [decide_eq_true_eq] at hlists
  have hmem : e ∈ n.descendants.filter fun e => decide (kind e) :=
    List.mem_filter.2 ⟨mem_descendants_iff.2 ⟨p, hp⟩, by simpa using he⟩
  obtain ⟨f, rest, heq⟩ := List.exists_cons_of_ne_nil (List.ne_nil_of_mem hmem)
  obtain ⟨q, hq⟩ := hlists.head?_eq_some_iff.1 (by rw [heq]; rfl)
  exact ⟨q, f, hq⟩

end VirtHost.Xml.Node
