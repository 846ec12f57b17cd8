import Mathlib.Data.List.Nodup

/-! # Tables with a primary key

A table is a list of rows with pairwise different keys; the list is the order in which rows were
inserted.  Writes are the ones an SQL layer offers: insert, update where a condition holds, delete.
Everything a proof needs is said through `find?`.
-/

namespace Foundations

structure Table (Row : Type) {Key : Type} (key : Row → Key) where
  rows : List Row
  unique : (rows.map key).Nodup

namespace Table

variable {Row Key : Type} {key : Row → Key}

def empty : Table Row key := ⟨[], List.nodup_nil⟩

def select (table : Table Row key) (condition : Row → Bool) : List Row :=
  table.rows.filter condition

def affected (table : Table Row key) (condition : Row → Bool) : Nat :=
  (table.select condition).length

/-- `UPDATE … SET … WHERE condition`, for a change that keeps the key. -/
def updateWhere (table : Table Row key) (condition : Row → Bool) (change : Row → Row)
    (keeps : ∀ row, key (change row) = key row := by intros; rfl) : Table Row key where
  rows := table.rows.map fun row => if condition row then change row else row
  unique := by
    have same : (key ∘ fun row => if condition row then change row else row) = key := by
      funext row
      by_cases holds : condition row <;> simp [holds, keeps]
    rw [List.map_map, same]
    exact table.unique

def deleteWhere (table : Table Row key) (condition : Row → Bool) : Table Row key where
  rows := table.rows.filter fun row => !condition row
  unique := table.unique.sublist (List.filter_sublist.map key)

variable {rows : List Row} {row : Row} {table next : Table Row key} {value : Key}
  {condition : Row → Bool} {change : Row → Row}

/-- Keys stay different when a row with a new key comes last. -/
theorem nodup_concat (unique : (rows.map key).Nodup) (fresh : ∀ other ∈ rows, key other ≠ key row) :
    ((rows ++ [row]).map key).Nodup := by
  rw [List.map_append, List.map_singleton, List.nodup_append_comm, List.singleton_append,
    List.nodup_cons]
  refine ⟨fun taken => ?_, unique⟩
  obtain ⟨other, mem, same⟩ := List.mem_map.mp taken
  exact fresh other mem same

theorem nodup_select (table : Table Row key) (condition : Row → Bool) :
    ((table.select condition).map key).Nodup :=
  table.unique.sublist (List.filter_sublist.map key)

theorem affected_updateWhere_le (table : Table Row key) (condition counted : Row → Bool)
    (keeps : ∀ row, key (change row) = key row)
    (spares : ∀ row, condition row = true → counted (change row) = true → counted row = true) :
    (table.updateWhere condition change keeps).affected counted ≤ table.affected counted := by
  simp only [affected, select, updateWhere, ← List.countP_eq_length_filter, List.countP_map]
  refine List.countP_mono_left fun row _ meets => ?_
  by_cases changed : condition row = true
  · exact spares row changed (by simpa [changed] using meets)
  · simpa [changed] using meets

/-- Every row that an update makes meet a condition is one that it changes. -/
theorem affected_updateWhere_le_add (table : Table Row key) (condition counted : Row → Bool)
    (keeps : ∀ row, key (change row) = key row) :
    (table.updateWhere condition change keeps).affected counted ≤
      table.affected counted + table.affected condition := by
  simp only [affected, select, updateWhere, ← List.countP_eq_length_filter, List.countP_map]
  induction table.rows with
  | nil => simp
  | cons row rows ih => grind

variable [DecidableEq Key]

/-- `SELECT … WHERE key = value`, at most one row. -/
def find? (table : Table Row key) (value : Key) : Option Row :=
  table.rows.find? fun row => decide (key row = value)

/-- `INSERT`; `none` is the violation of the primary key. -/
def insert (table : Table Row key) (row : Row) : Option (Table Row key) :=
  if fresh : key row ∈ table.rows.map key then none
  else some
    { rows := table.rows ++ [row]
      unique := by
        rw [List.map_append, List.nodup_append]
        refine ⟨table.unique, by simp, ?_⟩
        intro first firstMember second secondMember same
        simp only [List.map_cons, List.map_nil, List.mem_singleton] at secondMember
        exact fresh (secondMember ▸ same ▸ firstMember) }

/-- `INSERT OR REPLACE`: a row with the same key makes room. -/
def put (table : Table Row key) (row : Row) : Table Row key where
  rows := table.rows.filter (fun other => !decide (key other = key row)) ++ [row]
  unique := by
    rw [List.map_append, List.nodup_append]
    refine ⟨table.unique.sublist (List.filter_sublist.map key), by simp, ?_⟩
    intro first firstMember second secondMember same
    simp only [List.mem_map, List.mem_filter, List.map_cons, List.map_nil, List.mem_singleton]
      at firstMember secondMember
    obtain ⟨other, ⟨-, different⟩, rfl⟩ := firstMember
    simp [same, secondMember] at different

theorem find?_key (found : table.find? value = some row) : key row = value := by
  simpa using List.find?_some found

private theorem find?_of_mem (unique : (rows.map key).Nodup) (mem : row ∈ rows) :
    rows.find? (fun other => decide (key other = key row)) = some row := by
  induction rows with
  | nil => cases mem
  | cons head tail ih => grind

theorem mem_rows_iff : row ∈ table.rows ↔ table.find? (key row) = some row :=
  ⟨find?_of_mem table.unique, List.mem_of_find?_eq_some⟩

theorem mem_select_iff :
    row ∈ table.select condition ↔ table.find? (key row) = some row ∧ condition row = true := by
  rw [select, List.mem_filter, mem_rows_iff]

/-- A condition that singles out one key holds of no more than one row. -/
theorem affected_of_key (only : ∀ other, condition other = true → key other = value)
    (found : table.find? value = some row) (holds : condition row = true) :
    table.affected condition = 1 := by
  have unique : (table.select condition).Nodup :=
    (List.Nodup.of_map key table.unique).sublist List.filter_sublist
  have same : ∀ other ∈ table.select condition, other = row := by
    intro other mem
    obtain ⟨present, selected⟩ := mem_select_iff.mp mem
    rw [only other selected, found] at present
    exact (Option.some.inj present).symm
  have present : row ∈ table.select condition :=
    mem_select_iff.mpr ⟨by rw [only row holds, found], holds⟩
  -- a list without repetitions whose members are all equal has one member
  have repeated := List.eq_replicate_of_mem same
  have short : (table.select condition).length ≤ 1 :=
    List.nodup_replicate.mp (repeated ▸ unique)
  have some : 0 < (table.select condition).length := List.length_pos_of_mem present
  show (table.select condition).length = 1
  omega

/-- A condition that singles out one key holds of at most one row. -/
theorem affected_le_one (only : ∀ row, condition row = true → key row = value) :
    table.affected condition ≤ 1 := by
  cases found : table.select condition with
  | nil => simp [affected, found]
  | cons row rest =>
    have mem : row ∈ table.select condition := found ▸ List.mem_cons_self
    obtain ⟨stored, holds⟩ := mem_select_iff.mp mem
    exact Nat.le_of_eq (affected_of_key only (only row holds ▸ stored) holds)

theorem find?_eq_none_iff : table.find? value = none ↔ value ∉ table.rows.map key := by
  simp [find?, List.find?_eq_none]

section

variable (table) (change) (keeps : ∀ row, key (change row) = key row)
include table change keeps

theorem find?_updateWhere (condition : Row → Bool) (value : Key) :
    (table.updateWhere condition change keeps).find? value =
      (table.find? value).map fun row => if condition row then change row else row := by
  obtain ⟨rows, unique⟩ := table
  simp only [find?, updateWhere]
  clear unique
  induction rows with
  | nil => rfl
  | cons head tail ih => grind

def update (table : Table Row key) (value : Key) (change : Row → Row)
    (keeps : ∀ row, key (change row) = key row := by intros; rfl) : Table Row key :=
  table.updateWhere (fun row => decide (key row = value)) change keeps

theorem find?_update (value other : Key) : (table.update value change keeps).find? other =
      if other = value then (table.find? other).map change else table.find? other := by
  rw [update, find?_updateWhere]
  by_cases same : other = value
  · subst same
    cases found : table.find? other with
    | none => simp
    | some row => simp [find?_key found]
  · cases found : table.find? other with
    | none => simp
    | some row =>
      have different : key row ≠ value := fun equal => same (find?_key found ▸ equal)
      simp [same, different]

end

theorem insert_isSome_iff : (table.insert row).isSome ↔ table.find? (key row) = none := by
  rw [find?_eq_none_iff]
  unfold insert
  split <;> simp_all

section

variable (inserted : table.insert row = some next)
include inserted

theorem find?_insert (value : Key) :
    next.find? value = if key row = value then some row else table.find? value := by
  unfold insert at inserted
  split at inserted
  · cases inserted
  cases inserted
  simp only [find?, List.find?_append]
  by_cases same : key row = value
  · grind
  · simp [same]

theorem find?_insert_of_found {present : Row} (found : table.find? value = some present) :
    next.find? value = some present := by
  have fresh : key row ≠ value := by
    rintro rfl
    have absent := insert_isSome_iff.mp (Option.isSome_of_eq_some inserted)
    rw [absent] at found
    cases found
  rw [find?_insert inserted, if_neg fresh, found]

theorem rows_insert : next.rows = table.rows ++ [row] := by
  unfold insert at inserted
  split at inserted
  · cases inserted
  · cases inserted
    rfl

end

/-- Inserts rows one after the other; `none` at the first violation of the primary key. -/
def insertAll (table : Table Row key) : List Row → Option (Table Row key)
  | [] => some table
  | row :: rows => (table.insert row).bind fun next => next.insertAll rows

theorem rows_insertAll {last : Table Row key} (inserted : table.insertAll rows = some last) :
    last.rows = table.rows ++ rows := by
  induction rows generalizing table with
  | nil =>
    cases inserted
    simp
  | cons row rows ih =>
    simp only [insertAll, Option.bind_eq_some_iff] at inserted
    obtain ⟨next, first, rest⟩ := inserted
    rw [ih rest, rows_insert first, List.append_assoc, List.singleton_append]

theorem find?_deleteWhere (table : Table Row key) (condition : Row → Bool) (value : Key) :
    (table.deleteWhere condition).find? value =
      (table.find? value).filter fun row => !condition row := by
  obtain ⟨rows, unique⟩ := table
  simp only [find?, deleteWhere]
  induction rows with
  | nil => rfl
  | cons head tail ih => grind

theorem find?_put (table : Table Row key) (row : Row) (value : Key) :
    (table.put row).find? value = if key row = value then some row else table.find? value := by
  have kept := find?_deleteWhere table (fun other => decide (key other = key row)) value
  have rows : (table.put row).find? value =
      ((table.deleteWhere fun other => decide (key other = key row)).find? value).or
        ([row].find? fun other => decide (key other = value)) := List.find?_append
  rw [rows, kept]
  by_cases same : key row = value
  · -- What the table had under this key is filtered away.
    subst same
    cases found : table.find? (key row) with
    | none => simp
    | some old => simp [Option.filter, find?_key found]
  · cases found : table.find? value with
    | none => simp [same]
    | some old =>
      have different : key old ≠ key row := fun equal => same (equal ▸ find?_key found)
      simp [Option.filter, same, different]

theorem mem_put {mem : Row} (found : mem ∈ (table.put row).rows) :
    mem = row ∨ mem ∈ table.rows := by
  rcases List.mem_append.mp found with old | new
  · exact .inr (List.mem_of_mem_filter old)
  · exact .inl (List.mem_singleton.mp new)

end Table

/-! ## The first row of an order -/

variable {Row : Type}

/-- `ORDER BY … LIMIT 1`; `less first second` says that `second` is listed before `first`. -/
def greatest (less : Row → Row → Bool) : List Row → Option Row
  | [] => none
  | row :: rows =>
    match greatest less rows with
    | none => some row
    | some best => if less row best then some best else some row

variable {less : Row → Row → Bool} {rows : List Row}

theorem greatest_mem {row : Row} (isGreatest : greatest less rows = some row) : row ∈ rows := by
  induction rows generalizing row with
  | nil => cases isGreatest
  | cons head tail ih =>
    unfold greatest at isGreatest
    split at isGreatest
    · cases isGreatest
      exact List.mem_cons_self
    · grind

theorem greatest_eq_none (isNone : greatest less rows = none) : rows = [] := by
  cases rows with
  | nil => rfl
  | cons head tail =>
    unfold greatest at isNone
    split at isNone
    · cases isNone
    · split at isNone <;> cases isNone

/-- The row that is listed before all others is the one that is selected. -/
theorem greatest_eq_some {row : Row} (mem : row ∈ rows)
    (first : ∀ other ∈ rows, other ≠ row → less other row = true ∧ less row other = false) :
    greatest less rows = some row := by
  induction rows with
  | nil => cases mem
  | cons head tail ih =>
    unfold greatest
    cases isBest : greatest less tail with
    | none =>
      rw [greatest_eq_none isBest, List.mem_singleton] at mem
      rw [mem]
    | some best =>
      have inTail := greatest_mem isBest
      -- among the rest the selected row is the greatest one, if it stands there
      have best_of_tail : row ∈ tail → best = row := fun present =>
        Option.some.inj (isBest.symm.trans (ih present fun other mem =>
          first other (List.mem_cons_of_mem _ mem)))
      by_cases same : best = row
      · grind
      · grind

end Foundations
