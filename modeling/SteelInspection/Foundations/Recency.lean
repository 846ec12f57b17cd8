import Mathlib.Init

/-! # Entries in the order of their last use

A linked hash map as a list: the entry used longest ago stands first.  What a cache holds was put into
it, and that is all a proof needs.
-/

namespace Foundations.Recency

variable {Key Value : Type} [DecidableEq Key]

def find? (entries : List (Key × Value)) (key : Key) : Option Value :=
  (entries.find? fun entry => decide (entry.1 = key)).map (·.2)

/-- The entry of the key moves to the back. -/
def touch (entries : List (Key × Value)) (key : Key) : List (Key × Value) :=
  match find? entries key with
  | none => entries
  | some value => entries.filter (fun entry => !decide (entry.1 = key)) ++ [(key, value)]

/-- An entry of the same key makes room. -/
def put (entries : List (Key × Value)) (key : Key) (value : Value) : List (Key × Value) :=
  entries.filter (fun entry => !decide (entry.1 = key)) ++ [(key, value)]

/-- The oldest entries leave while the rest is too much. -/
def evictWhile (tooMuch : List (Key × Value) → Bool) : List (Key × Value) → List (Key × Value)
  | [] => []
  | entry :: entries =>
    if tooMuch (entry :: entries) then evictWhile tooMuch entries else entry :: entries

variable {entries : List (Key × Value)} {key : Key} {entry : Key × Value}

theorem mem_of_find? {value : Value} (found : find? entries key = some value) :
    (key, value) ∈ entries := by
  obtain ⟨entry, first, rfl⟩ := Option.map_eq_some_iff.mp found
  have same : entry.1 = key := by simpa using List.find?_some first
  exact same ▸ List.mem_of_find?_eq_some first

theorem mem_put {value : Value} (mem : entry ∈ put entries key value) :
    entry = (key, value) ∨ entry ∈ entries := by
  rcases List.mem_append.mp mem with old | new
  · exact .inr (List.mem_filter.mp old).1
  · exact .inl (List.mem_singleton.mp new)

theorem mem_touch (mem : entry ∈ touch entries key) : entry ∈ entries := by
  unfold touch at mem
  split at mem
  · exact mem
  · grind [mem_of_find?]

omit [DecidableEq Key] in
theorem mem_evictWhile {tooMuch : List (Key × Value) → Bool}
    (mem : entry ∈ evictWhile tooMuch entries) : entry ∈ entries := by
  induction entries with
  | nil => cases mem
  | cons first entries ih => grind [evictWhile]

end Foundations.Recency
