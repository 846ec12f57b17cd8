import SteelInspection.Tasks.Handlers

/-! # The calls of each program

Which calls a program can make, whatever it is answered.  What a call keeps is then kept by every
program that makes only such calls.
-/

namespace SteelInspection.Tasks

open Foundations

/-- The calls that leave the tasks and the locks alone. -/
def LooksUp : Call → Prop
  | .insert _ | .execute _ | .update _ | .lockAdmin | .unlockAdmin | .lockCommand | .unlockCommand
  | .dispatch _ => False
  | _ => True

/-- The calls of an enqueue request while it holds the lock. -/
def EnqueueCalls : Call → Prop
  | .insert _ => True
  | request => LooksUp request

def RetryCalls : Call → Prop
  | .find _ | .selectBlockedDependents _ | .execute (.requeueBlocked _) | .update (.retry _ _)
  | .appendAuditLog _ | .lockAdmin | .unlockAdmin => True
  | _ => False

theorem EnqueueCalls.of_looksUp {request : Call} (looks : LooksUp request) : EnqueueCalls request := by
  cases request with
  | insert _ => trivial
  | _ => exact looks

/-! ## The queue functions -/

section Calls

variable {allowed : Call → Prop}

theorem calls_dependencyState (finds : ∀ id, allowed (.find id)) (task : ProductionTask) :
    (productionTaskDependencyState task).run.Calls allowed := by
  unfold productionTaskDependencyState
  split
  · exact .pure
  · split
    · exact .pure
    · refine .attempt (.ask _ (finds _)) fun found => ?_
      cases found <;> exact .pure

section Blocking

variable (blocks : ∀ id reason, allowed (.execute (.markBlocked id reason)))
include blocks

theorem calls_markBlocked (id : TaskId) (reason : String) :
    (markProductionTaskBlocked id reason).run.Calls allowed :=
  .attempt (.ask _ (blocks id reason)) fun _ => .pure

theorem calls_blockDependents (reason : String) (dependents : List ProductionTask)
    (frontier : List TaskId) (blocked : Nat) :
    (blockDependents reason dependents frontier blocked).run.Calls allowed := by
  induction dependents generalizing frontier blocked with
  | nil => exact .pure
  | cons dependent dependents ih =>
    refine .attempt (calls_markBlocked blocks _ _) fun done => ?_
    split
    · exact ih _ _
    · exact ih _ _

theorem calls_propagateFrontier (finds : ∀ id, allowed (.find id))
    (selects : ∀ id, allowed (.selectDependents id)) (fuel : Nat) (frontier : List TaskId)
    (blocked : Nat) : (propagateFrontier fuel frontier blocked).run.Calls allowed := by
  induction fuel generalizing frontier blocked with
  | zero => exact .diverge
  | succ fuel ih =>
    cases frontier with
    | nil => exact .pure
    | cons parent frontier =>
      refine .attempt (.ask _ (selects parent)) fun dependents => ?_
      refine .attempt (.ask _ (finds parent)) fun parentTask => ?_
      refine .attempt (calls_blockDependents blocks _ _ _ _) fun outcome => ?_
      exact ih _ _

end Blocking

section

variable (requeues : ∀ id, allowed (.execute (.requeueBlocked id))) (frontier : List TaskId)
  (requeued : Nat)
include requeues frontier requeued

theorem calls_requeueDependents (dependents : List ProductionTask) :
    (requeueDependents dependents frontier requeued).run.Calls allowed := by
  induction dependents generalizing frontier requeued with
  | nil => exact .pure
  | cons dependent dependents ih =>
    refine .attempt (.ask _ (requeues _)) fun affected => ?_
    split
    · exact ih _ _
    · exact ih _ _

theorem calls_requeueFrontier (selects : ∀ id, allowed (.selectBlockedDependents id)) (fuel : Nat) :
    (requeueFrontier fuel frontier requeued).run.Calls allowed := by
  induction fuel generalizing frontier requeued with
  | zero => exact .diverge
  | succ fuel ih =>
    cases frontier with
    | nil => exact .pure
    | cons parent frontier =>
      refine .attempt (.ask _ (selects parent)) fun dependents => ?_
      refine .attempt (calls_requeueDependents requeues _ _ _) fun outcome => ?_
      exact ih _ _

end

theorem calls_updateProgress (finds : ∀ id, allowed (.find id))
    (progresses : ∀ id phase percent, allowed (.execute (.progress id phase percent)))
    (id : TaskId) (phase : String) (percent : Int) :
    (updateProductionTaskProgress id phase percent).run.Calls allowed := by
  refine .attempt (.ask _ (progresses _ _ _)) fun affected => ?_
  split
  · exact .pure
  · exact .ask _ (finds _)

end Calls

variable (fuel capacity : Nat) (input : ProductionTaskInput)

theorem calls_appendAuditLog {allowed : Call → Prop}
    (appends : ∀ entry, allowed (.appendAuditLog entry))
    (actor action target detail level : String) :
    (appendAuditLog actor action target detail level).Calls allowed :=
  .bind (.ask (Call.appendAuditLog _) (appends _)) fun _ => .pure

theorem calls_adminGuard {allowed : Call → Prop} (locks : allowed .lockAdmin)
    (unlocks : allowed .unlockAdmin) {body : Code TaskAnswer} (calls : body.Calls allowed) :
    (withAdminGuard body).Calls allowed := by
  refine .bind (.ask Call.lockAdmin locks) fun locked => ?_
  split
  · exact .bind calls fun answer => .bind (.ask Call.unlockAdmin unlocks) fun _ => .pure
  · exact .pure

/-! ## Retry -/

theorem calls_requeueProductionTask (model : ProductionTask) :
    (requeueProductionTask fuel model).run.Calls RetryCalls := by
  refine .attempt (.ask (Call.update _) trivial) fun updated => ?_
  exact .attempt (calls_requeueFrontier (fun _ => trivial) _ _ (fun _ => trivial) fuel)
    fun _ => .pure

theorem calls_retryProductionTask (id : TaskId) :
    (retryProductionTask fuel id).run.Calls RetryCalls := by
  refine .attempt (.ask (Call.find id) trivial) fun found => ?_
  cases found with
  | none => exact .pure
  | some model =>
    dsimp only
    split
    · exact .pure
    split
    · refine .attempt (calls_dependencyState (fun _ => trivial) model) fun state => ?_
      cases state with
      | ready => exact calls_requeueProductionTask fuel model
      | waiting | blocked _ => exact .pure
    · exact calls_requeueProductionTask fuel model

theorem calls_retryResponse (body : Option Json) (actor : String) :
    (retryResponse fuel body actor).Calls RetryCalls := by
  unfold retryResponse
  split
  · exact .pure
  refine calls_adminGuard trivial trivial (.bind (.ask (Call.find _) trivial) fun found => ?_)
  split
  · exact .pure
  · exact .pure
  split
  · exact .pure
  refine .bind (calls_retryProductionTask fuel _) fun outcome => ?_
  split
  · exact .pure
  · exact .pure
  · split
    · exact .pure
    · exact .bind (calls_appendAuditLog (fun _ => trivial) _ _ _ _ _) fun _ => .pure

/-! ## Enqueue -/

theorem looksUp_latestForSession (sessionId : String) :
    (latestProductionTaskForSession sessionId).run.Calls LooksUp := by
  unfold latestProductionTaskForSession
  split
  · exact .pure
  · exact .ask (Call.latestForSession sessionId) trivial

theorem looksUp_findByKey (key : String) :
    (findProductionTaskByIdempotencyKey key).run.Calls LooksUp := by
  unfold findProductionTaskByIdempotencyKey
  split
  · exact .pure
  · exact .ask (Call.findByIdempotencyKey key) trivial

theorem looksUp_taskTarget (payload : Json) : (taskTarget payload).Calls LooksUp := by
  refine .bind (.ask Call.latestOpenMaterialSession trivial) fun latestOpen => ?_
  refine .bind (.ask (Call.latestUnresolved _) trivial) fun latestTask => ?_
  dsimp only
  split
  · exact .pure
  refine .bind ?_ fun _ => .pure
  unfold sessionIdFromPayload
  dsimp only
  split
  · exact .bind (.ask Call.currentTimeMillis trivial) fun _ => .pure
  · exact .pure

theorem calls_storeTask : (storeTask input).Calls EnqueueCalls := by
  refine .bind (.ask (Call.insert input) trivial) fun outcome => ?_
  split
  · exact .pure
  · exact .bind (calls_appendAuditLog (fun _ => trivial) _ _ _ _ _) fun _ => .pure

theorem calls_admitDependency : (admitDependency input).Calls EnqueueCalls := by
  unfold admitDependency
  split
  · exact calls_storeTask input
  refine .bind (.ask (Call.find _) trivial) fun outcome => ?_
  split
  · exact .pure
  · exact .pure
  · split
    · exact .pure
    · exact calls_storeTask input

theorem calls_admitChain (request : EnqueueRequest) (input : ProductionTaskInput) :
    (admitChain request input).Calls EnqueueCalls := by
  refine .bind ((looksUp_latestForSession _).mono fun _ => .of_looksUp) fun outcome => ?_
  split
  · exact .pure
  dsimp only
  split
  · exact .pure
  split
  · exact calls_admitDependency _
  split
  · exact calls_admitDependency _
  · refine .bind ?_ fun latest => ?_
    · unfold latestProductionTaskInChain
      split
      · exact .pure
      · exact .ask (Call.latestInChain _) trivial
    split
    · exact .pure
    · exact calls_admitDependency _

section

variable (request : EnqueueRequest) (actor : String)
include request actor

theorem calls_admitTask : (admitTask capacity request actor).Calls EnqueueCalls := by
  refine .bind (.ask Call.countOpen trivial) fun openTasks => ?_
  split
  · exact .pure
  split
  · exact .pure
  refine .bind (.ask Call.nextSequence trivial) fun sequence => ?_
  refine .bind (.ask Call.currentTimeMillis trivial) fun now => ?_
  refine .bind ((looksUp_taskTarget _).mono fun _ => .of_looksUp) fun target => ?_
  dsimp only
  split
  · exact .pure
  · exact calls_admitChain _ _

theorem calls_enqueueFresh : (enqueueFresh capacity request actor).Calls EnqueueCalls := by
  refine .bind (.ask Call.runtimeIsDraining trivial) fun draining => ?_
  split
  · exact .pure
  · exact calls_admitTask _ _ _

theorem calls_enqueueAdmitted : (enqueueAdmitted capacity request actor).Calls EnqueueCalls := by
  unfold enqueueAdmitted
  split
  · exact calls_enqueueFresh _ _ _
  refine .bind ((looksUp_findByKey _).mono fun _ => .of_looksUp) fun found => ?_
  split
  · exact .pure
  · split <;> exact .pure
  · exact calls_enqueueFresh _ _ _

end

end SteelInspection.Tasks
