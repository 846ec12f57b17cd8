import Mathlib.Data.List.Flatten
import Mathlib.Data.List.Sort

/-! # Items grouped by a key

A dictionary from keys to lists of items, in the order in which the keys first came up.  A group
keeps the header of the item that opened it.
-/

namespace Foundations

/-- The items added under one key. -/
structure Group (Key Header Item : Type) where
  key : Key
  header : Header
  items : List Item
deriving DecidableEq, Repr

namespace Group

variable {Key Header Item : Type}

/-- All items with the key they stand under. -/
def entries (groups : List (Group Key Header Item)) : List (Key × Item) :=
  groups.flatMap fun group => group.items.map fun item => (group.key, item)

variable {groups : List (Group Key Header Item)} {item : Item} {key : Key}
  {group : Group Key Header Item} {header : Header}

theorem mem_entries :
    (key, item) ∈ entries groups ↔ ∃ group ∈ groups, group.key = key ∧ item ∈ group.items := by
  simp only [entries, List.mem_flatMap, List.mem_map, Prod.mk.injEq]
  constructor
  · rintro ⟨group, mem, found, inItems, same, rfl⟩
    exact ⟨group, mem, same, inItems⟩
  · rintro ⟨group, mem, same, inItems⟩
    exact ⟨group, mem, item, inItems, same, rfl⟩

/-- If the items of one kind stand under different keys, no group has two of a kind. -/
theorem nodup_items {Kind : Type} [DecidableEq Kind] (kind : Item → Kind)
    (spread : ∀ one, (((entries groups).filter fun entry => kind entry.2 = one).map Prod.fst).Nodup)
    (mem : group ∈ groups) : (group.items.map kind).Nodup := by
  rw [List.Nodup, List.pairwise_map, List.pairwise_iff_forall_sublist]
  intro first second two same
  have inside : (group.items.map fun item => (group.key, item)).Sublist (entries groups) := by
    have single := (List.singleton_sublist.mpr mem).flatMap
      fun group => group.items.map fun item => (group.key, item)
    rwa [List.flatMap_singleton] at single
  -- Two items of a kind in a group would be two entries of that kind under its key.
  have pair := (((two.map fun item => (group.key, item)).trans inside).filter
    fun entry => kind entry.2 = kind second).map Prod.fst
  have twice := (spread (kind second)).sublist pair
  simp [same] at twice

variable [DecidableEq Key]

/-- Adds an item to the group of its key; the header counts only when the group is new. -/
def add (key : Key) (header : Header) (item : Item) :
    List (Group Key Header Item) → List (Group Key Header Item)
  | [] => [⟨key, header, [item]⟩]
  | group :: rest =>
    if group.key = key then { group with items := group.items ++ [item] } :: rest
    else group :: add key header item rest

theorem entries_add (key : Key) (header : Header) (item : Item)
    (groups : List (Group Key Header Item)) :
    (entries (add key header item groups)).Perm ((key, item) :: entries groups) := by
  induction groups with
  | nil => simp [add, entries]
  | cons group rest ih =>
    by_cases same : group.key = key
    · have front : entries (add key header item (group :: rest)) =
          group.items.map (fun mem => (group.key, mem)) ++ (key, item) :: entries rest := by
        simp [add, entries, same]
      rw [front]
      exact List.perm_middle
    · have front : entries (add key header item (group :: rest)) =
          group.items.map (fun mem => (group.key, mem)) ++
            entries (add key header item rest) := by
        simp [add, entries, same]
      rw [front]
      exact (ih.append_left _).trans List.perm_middle

theorem mem_keys_add {other : Key} : other ∈ (add key header item groups).map Group.key ↔
      other = key ∨ other ∈ groups.map Group.key := by
  induction groups with
  | nil => simp [add]
  | cons group rest ih =>
    by_cases same : group.key = key
    · simp only [add, same, if_true, List.map_cons, List.mem_cons]
      tauto
    · simp only [add, same, if_false, List.map_cons, List.mem_cons, ih]
      tauto

theorem mem_add (mem : group ∈ add key header item groups) : group ∈ groups ∨
      (group.key = key ∧ group.header = header ∧ group.items = [item]) ∨
      ∃ old ∈ groups, old.key = key ∧ group = { old with items := old.items ++ [item] } := by
  induction groups with
  | nil =>
    cases List.mem_singleton.mp mem
    exact .inr (.inl ⟨rfl, rfl, rfl⟩)
  | cons head rest ih =>
    by_cases same : head.key = key
    · simp only [add, same, if_true, List.mem_cons] at mem
      rcases mem with rfl | later
      · exact .inr (.inr ⟨head, List.mem_cons_self, same, by rw [← same]⟩)
      · exact .inl (List.mem_cons_of_mem _ later)
    · simp only [add, same, if_false, List.mem_cons] at mem
      rcases mem with rfl | later
      · exact .inl List.mem_cons_self
      · grind

theorem items_ne_nil_add (filled : ∀ group ∈ groups, group.items ≠ [])
    (mem : group ∈ add key header item groups) : group.items ≠ [] := by
  rcases mem_add mem with old | ⟨-, -, single⟩ | ⟨old, -, -, rfl⟩
  · exact filled group old
  · simp [single]
  · simp

theorem nodup_keys_add (key : Key) (header : Header) (item : Item)
    (nodup : (groups.map Group.key).Nodup) :
    ((add key header item groups).map Group.key).Nodup := by
  induction groups with
  | nil => simp [add]
  | cons group rest ih =>
    simp only [List.map_cons, List.nodup_cons] at nodup
    by_cases same : group.key = key
    · simpa [add, same] using nodup
    simp only [add, same, if_false, List.map_cons, List.nodup_cons]
    refine ⟨?_, ih nodup.2⟩
    rw [mem_keys_add]
    rintro (equal | mem)
    · exact same equal
    · exact nodup.1 mem

end Group

end Foundations
