import SteelInspection.Calibration.Fence

/-! # Reconciled operations

An operation that needs reconciliation is marked as reconciled by a rollback that names it as its
parent.  In the runs in which no unresolved operation has come in between the fence query of a
request and its lock, the ledger then holds the rollback that explains the mark: it has succeeded,
and the apply operation it asked for and the one the provider has confirmed are the one that the
ledger expects for the parent.  `unconfirmed_reconciliation` is a run in which the parent has come
in between and is marked although the provider has confirmed nothing.
-/

namespace SteelInspection.Calibration

open Foundations Discipline

def Explained (ledger : Ledger) : Prop :=
  ∀ id parent, ledger.find? id = some parent → parent.status = .reconciled →
    ∃ rollbackId rollback, ledger.find? rollbackId = some rollback ∧ Confirms rollback parent

def reconciliationRules (setSafety : Json → Option String) :
    Rules Shared Thread Env Call Call.Reply OperationAnswer :=
  { calibrationRules setSafety with
    initial := fun shared => shared.operationLock = none ∧ Explained shared.ledger }

variable {setSafety : Json → Option String} {thread : Thread} {shared : Shared}

/-! ## What keeps the ledger explained -/

theorem Confirms.change {rollback parent : CalibrationOperation} (confirms : Confirms rollback parent)
    (statement : Statement) (now : String) : Confirms rollback (statement.change now parent) := by
  have same : expectedApplyOperationId (statement.change now parent) =
      expectedApplyOperationId parent := by
    obtain ⟨kind, request, -⟩ := statement.change_origin now parent
    simp only [expectedApplyOperationId, kind, request, Statement.change_id]
  exact ⟨confirms.kind, confirms.succeeded, by rw [confirms.names, Statement.change_id],
    by rw [same]; exact confirms.expected, by rw [same]; exact confirms.requested,
    by rw [same]; exact confirms.confirmed⟩

theorem explained_call {env : Env} {request : Call} {after : Shared} {reply : request.Reply}
    (explained : Explained shared.ledger) (permitted : Permitted thread request shared)
    (ran : semantics thread env request shared = some (reply, after)) : Explained after.ledger := by
  -- the rollback that explains a parent is still there afterwards
  have stays : ∀ parent, IsConfirmed shared.ledger parent → IsConfirmed after.ledger parent := by
    rintro parent ⟨rollbackId, rollback, found, confirms⟩
    obtain ⟨later, foundLater, rfl | ⟨statement, -, holds, -⟩⟩ := row_after ran found
    · exact ⟨rollbackId, _, foundLater, confirms⟩
    · cases statement <;> simp [Statement.condition, confirms.succeeded] at holds
  intro id parent found isReconciled
  obtain before | ⟨input, rfl, rfl⟩ | ⟨statement, old, rfl, foundOld, holds, rfl⟩ :=
    row_before ran found
  · exact stays parent (explained id parent before isReconciled)
  · cases isReconciled
  have confirmed : IsConfirmed shared.ledger old := by
    cases statement with
    | finish _ _ status _ _ _ _ =>
      have sameStatus : status = .reconciled := isReconciled
      have isEnd : status.isEnd = true := permitted.2
      rw [sameStatus] at isEnd
      cases isEnd
    | reconcile target version reconciliationId outcome actor =>
      obtain ⟨⟨isTarget, needs⟩, -⟩ : (old.id = target ∧ old.status = .needsReconciliation) ∧
          old.rowVersion = version := by simpa [Statement.condition] using holds
      have sameId : id = target := (Table.find?_key foundOld).symm.trans isTarget
      exact permitted.2 old (sameId ▸ foundOld) needs
  obtain ⟨rollbackId, rollback, foundRollback, confirms⟩ := confirmed
  exact stays _ ⟨rollbackId, rollback, foundRollback, confirms.change statement env.timestamp⟩

/-! ## Every run -/

/-- In the runs in which no unresolved operation comes in between the fence query of a request and
its lock, every reconciled operation has its own rollback: it has succeeded and both what it asked
for and what the provider confirmed is the apply operation expected for the parent. -/
theorem reconciled_by_own_rollback {setSafety : Json → Option String}
    {machine}
    (reached : (reconciliationRules setSafety).Reachable machine) : Explained machine.shared.ledger := by
  refine reached.invariant (fun shared => Explained shared.ledger) And.right ?_
  intro machine earlier explained thread env request reply after next _ ran
  have calibrating : (calibrationRules setSafety).Reachable machine :=
    earlier.transfer And.left (fun handler => handler) (fun ran => ⟨_, ran⟩) fun _ _ _ _ _ calm => calm
  exact explained_call explained (reachable_permitted calibrating next) ran

/-! ## A rollback and its parent -/

/-- The provider has rolled back; it may confirm which apply operation. -/
def rolledBack (confirmed : List (String × Json)) : Env where
  response := some ⟨200, "rolled back",
    some (.obj (confirmed ++ [("code", .int 0), ("complete", .bool true)]))⟩

/-- The rollback from the lock to the update of its parent. -/
def rollsBack (confirmed : List (String × Json)) : Schedule :=
  steps 1 3 ++ .advance 1 (rolledBack confirmed) :: steps 1 5

/-- The rollback reads an empty fence, then its parent is dispatched and not answered in time. -/
def parentMeanwhile : Schedule :=
  .spawn 0 (applyAllRequest "A") :: .spawn 1 (rollbackRequest "R" "A") ::
    (steps 1 2 ++ steps 0 10 ++ rollsBack [])

/-- The parent is not answered in time, then the rollback comes. -/
def parentBefore : Schedule :=
  .spawn 0 (applyAllRequest "A") :: .spawn 1 (rollbackRequest "R" "A") ::
    (steps 0 10 ++ steps 1 2 ++ rollsBack [("applyOperationId", .str "A")])

theorem emptyLedger_explained : emptyLedger.operationLock = none ∧ Explained emptyLedger.ledger :=
  ⟨rfl, fun _ _ => nofun⟩

/-- The parent is reconciled although the provider has not confirmed any apply operation. -/
theorem unconfirmed_reconciliation : ¬ ∀ (setSafety : Json → Option String)
        (machine : Machine Shared Thread Call Call.Reply OperationAnswer),
      (reconciliationRules setSafety).free.Reachable machine → Explained machine.shared.ledger := by
  intro explained
  obtain ⟨machine, reached, facts⟩ : ∃ machine,
      (reconciliationRules fun _ => none).free.Reachable machine ∧
      ((machine.shared.ledger.find? "A").map (·.status),
        machine.shared.ledger.rows.all fun row => confirmedApplyOperationId row = "") =
        (some .reconciled, true) :=
    Rules.exists_reachable (fun _ _ _ => true) emptyLedger parentMeanwhile (fun _ _ _ _ => trivial)
      emptyLedger_explained ⟨⟨_, _, _, rfl⟩, ⟨_, _, _, rfl⟩, trivial⟩ (by decide +kernel)
  obtain ⟨parentEnd, nothingConfirmed⟩ := Prod.mk.inj facts
  obtain ⟨parent, found, isReconciled⟩ := Option.map_eq_some_iff.mp parentEnd
  obtain ⟨rollbackId, rollback, foundRollback, confirms⟩ :=
    explained _ machine reached "A" parent found isReconciled
  have member := Table.mem_rows_iff.mpr (Table.find?_key foundRollback ▸ foundRollback)
  have unconfirmed : confirmedApplyOperationId rollback = "" := by
    simpa using List.all_eq_true.mp nothingConfirmed rollback member
  exact confirms.expected (confirms.confirmed.symm.trans unconfirmed)

/-- A rollback that comes after its parent reconciles it. -/
theorem reconciled_after_timeout :
    ∃ (machine : Machine Shared Thread Call Call.Reply OperationAnswer)
        (parent rollback : CalibrationOperation) (rollbackId : OperationId),
      (reconciliationRules fun _ => none).Reachable machine ∧
      machine.shared.ledger.find? "A" = some parent ∧ parent.status = .reconciled ∧
      machine.shared.ledger.find? rollbackId = some rollback ∧ Confirms rollback parent := by
  obtain ⟨machine, reached, isReconciled⟩ : ∃ machine,
      (reconciliationRules fun _ => none).Reachable machine ∧
      (machine.shared.ledger.find? "A").map (·.status) = some .reconciled :=
    Rules.exists_reachable (fun _ => fenceUndisturbed) emptyLedger parentBefore
      (fun _ _ _ passed => passed) emptyLedger_explained
      ⟨⟨_, _, _, rfl⟩, ⟨_, _, _, rfl⟩, trivial⟩ (by decide +kernel)
  obtain ⟨parent, found, isReconciled⟩ := Option.map_eq_some_iff.mp isReconciled
  obtain ⟨rollbackId, rollback, foundRollback, confirms⟩ :=
    reconciled_by_own_rollback reached "A" parent found isReconciled
  exact ⟨machine, parent, rollback, rollbackId, reached, found, isReconciled, foundRollback, confirms⟩

end SteelInspection.Calibration
