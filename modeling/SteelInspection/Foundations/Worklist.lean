import Mathlib.Logic.Relation

/-! # Traversals with a worklist

A traversal marks what it reaches and keeps a list of the keys whose edges it has still to follow.
When the list is empty, exactly what can be reached from the start is marked.
-/

namespace Foundations

open Relation (TransGen)

variable {Key : Type} {edge : Key → Key → Prop} {start key : Key} {done frontier fresh : List Key}

/-- The traversal has marked `done` and has still to follow the edges of `frontier`. -/
structure Traversed (edge : Key → Key → Prop) (start : Key) (done frontier : List Key) : Prop where
  nodup : done.Nodup
  reached : ∀ key ∈ done, TransGen edge start key
  waiting : ∀ key ∈ frontier, key = start ∨ key ∈ done
  closed : ∀ key, key = start ∨ key ∈ done → key ∉ frontier → ∀ next, edge key next → next ∈ done

namespace Traversed

theorem start_only : Traversed edge start [] [start] where
  nodup := List.nodup_nil
  reached := by simp
  waiting key mem := .inl (List.mem_singleton.mp mem)
  closed key known away := by simp_all

theorem visit (traversed : Traversed edge start done (key :: frontier)) (distinct : fresh.Nodup)
    (new : ∀ next ∈ fresh, edge key next ∧ next ∉ done)
    (all : ∀ next, edge key next → next ∈ done ∨ next ∈ fresh) :
    Traversed edge start (fresh ++ done) (fresh ++ frontier) where
  nodup := by
    refine List.nodup_append.mpr ⟨distinct, traversed.nodup, ?_⟩
    rintro next mem _ old rfl
    exact (new next mem).2 old
  reached next mem := by
    rcases List.mem_append.mp mem with mem | old
    · rcases traversed.waiting key List.mem_cons_self with rfl | known
      · exact .single (new next mem).1
      · exact (traversed.reached key known).tail (new next mem).1
    · exact traversed.reached next old
  waiting next mem := by
    rcases List.mem_append.mp mem with mem | old
    · exact .inr (List.mem_append_left _ mem)
    · exact (traversed.waiting next (List.mem_cons_of_mem _ old)).imp_right (List.mem_append_right _)
  closed other known away next leads := by
    rw [List.mem_append, not_or] at away
    by_cases same : other = key
    · subst same
      rw [List.mem_append]
      exact (all next leads).symm
    -- an edge of an earlier key leads to what was marked before
    have before : other = start ∨ other ∈ done := by
      rcases known with isStart | mem
      · exact .inl isStart
      · exact .inr ((List.mem_append.mp mem).resolve_left away.1)
    exact List.mem_append_right _ (traversed.closed other before (by simp [same, away.2]) next leads)

theorem mem_done_iff (traversed : Traversed edge start done []) :
    key ∈ done ↔ TransGen edge start key := by
  refine ⟨traversed.reached key, fun reached => ?_⟩
  induction reached with
  | single leads => exact traversed.closed start (.inl rfl) List.not_mem_nil _ leads
  | tail _ leads ih => exact traversed.closed _ (.inr ih) List.not_mem_nil _ leads

end Traversed

end Foundations
