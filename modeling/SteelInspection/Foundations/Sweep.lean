import Mathlib.Data.List.Nodup

/-! # Sweeps

A loop over a list in which every turn concerns the item's own key.  What such a loop does to one
key is what the turn of that key does, whatever the order of the turns.
-/

namespace Foundations

variable {State Item Key View : Type} {step : State → Item → State} {state : State}
  {items : List Item}

theorem foldl_invariant_of_mem (inv : State → Prop)
    (keeps : ∀ state, ∀ item ∈ items, inv state → inv (step state item)) (holds : inv state) :
    inv (items.foldl step state) := by
  induction items generalizing state with
  | nil => exact holds
  | cons item items ih =>
    apply ih fun state other mem => keeps state other (List.mem_cons_of_mem _ mem)
    exact keeps state item List.mem_cons_self holds

theorem foldl_invariant (inv : State → Prop)
    (keeps : ∀ state item, inv state → inv (step state item)) (items : List Item)
    (holds : inv state) : inv (items.foldl step state) :=
  foldl_invariant_of_mem inv (fun state item _ => keeps state item) holds

section

variable [DecidableEq Key] (key : Item → Key) (inv : State → Prop) (view : State → View)
  (turn : Item → View → View) {own : Key} (keeps : ∀ state item, inv state → inv (step state item))
  (acts : ∀ state item, inv state →
    view (step state item) = if key item = own then turn item (view state) else view state)
include keeps acts

theorem foldl_view_of_absent (absent : ∀ item ∈ items, key item ≠ own) (holds : inv state) :
    view (items.foldl step state) = view state := by
  induction items generalizing state with
  | nil => rfl
  | cons item items ih => grind

/-- The one turn of a key decides what becomes of its view. -/
theorem foldl_view {item : Item} (own_key : key item = own)
    (distinct : items.Pairwise fun first second => key first ≠ key second) (mem : item ∈ items)
    (holds : inv state) :
    view (items.foldl step state) = turn item (view state) := by
  induction items generalizing state with
  | nil => cases mem
  | cons head items ih =>
    obtain ⟨apart, distinct⟩ := List.pairwise_cons.mp distinct
    rcases List.mem_cons.mp mem with rfl | later
    · have rest := foldl_view_of_absent key inv view turn keeps acts
        (fun other found same => apart other found (own_key.trans same.symm)) (keeps state item holds)
      rw [List.foldl_cons, rest, acts state item holds, if_pos own_key]
    · grind

end

theorem foldl_unchanged (key : Item → Key) (inv : State → Prop) (view : Item → State → View)
    (quiet : Item → View → Prop) (total : State → Nat)
    (keeps : ∀ state item, inv state → inv (step state item))
    (others : ∀ state item other, inv state → key item ≠ key other →
      view other (step state item) = view other state)
    (still : ∀ state item, inv state → quiet item (view item state) →
      total (step state item) = total state)
    (distinct : items.Pairwise fun first second => key first ≠ key second) (holds : inv state)
    (allQuiet : ∀ item ∈ items, quiet item (view item state)) :
    total (items.foldl step state) = total state := by
  induction items generalizing state with
  | nil => rfl
  | cons head items ih => grind [List.pairwise_cons]

end Foundations
