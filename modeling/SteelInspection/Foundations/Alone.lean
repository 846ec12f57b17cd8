import SteelInspection.Foundations.Interleaving

/-! # A thread that runs alone

No other thread makes a step between two calls.  What the calls meet is given by a list; there is no
answer when the list is used up or a call waits for another thread.
-/

namespace Foundations.Program

variable {State Thread Env Call : Type} {Reply : Call → Type} {α β : Type}

/-- The answer and the state that is left. -/
def alone (semantics : Semantics State Thread Env Call Reply) (thread : Thread) :
    Program Call Reply α → List Env → State → Option (α × State)
  | .pure value, _, state => some (value, state)
  | .call request next, env :: script, state =>
    (semantics thread env request state).bind fun done =>
      (next done.1).alone semantics thread script done.2
  | _, _, _ => none

/-- Whatever the calls meet, the answer and the state that is left meet `post`. -/
def Leaves (semantics : Semantics State Thread Env Call Reply) (thread : Thread)
    (post : α → State → Prop) (program : Program Call Reply α) (state : State) : Prop :=
  ∀ script value after, program.alone semantics thread script state = some (value, after) →
    post value after

variable {semantics : Semantics State Thread Env Call Reply} {thread : Thread} {state : State}
  {post : α → State → Prop}

theorem Leaves.pure {value : α} (holds : post value state) :
    (Program.pure value : Program Call Reply α).Leaves semantics thread post state := by
  intro script other after answered
  cases answered
  exact holds

theorem Leaves.ask (request : Call) {post : Reply request → State → Prop}
    (holds : ∀ env reply after, semantics thread env request state = some (reply, after) →
      post reply after) :
    (Program.ask request : Program Call Reply _).Leaves semantics thread post state := by
  intro script value after answered
  cases script with
  | nil => cases answered
  | cons env script =>
    obtain ⟨done, ran, rest⟩ := Option.bind_eq_some_iff.mp answered
    cases rest
    exact holds env _ _ ran

theorem Leaves.bind {last : β → State → Prop} {program : Program Call Reply α}
    {next : α → Program Call Reply β} (leaves : program.Leaves semantics thread post state)
    (continues : ∀ value after, post value after → (next value).Leaves semantics thread last after) :
    (program >>= next).Leaves semantics thread last state := by
  induction program generalizing state with
  | pure value => exact continues value state (leaves [] value state rfl)
  | diverge => exact nofun
  | call request rest ih =>
    intro script value after answered
    cases script with
    | nil => cases answered
    | cons env script =>
      obtain ⟨done, ran, ended⟩ := Option.bind_eq_some_iff.mp answered
      refine ih done.1 (fun script value last finished => ?_) script value after ended
      exact leaves (env :: script) value last (Option.bind_eq_some_iff.mpr ⟨done, ran, finished⟩)

end Foundations.Program
