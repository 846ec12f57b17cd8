import Mathlib.Init

/-! # Programs over atomic calls

A `Program` is a sequential piece of code whose only effects are atomic calls: a database
statement, one file operation, one access to a table behind a mutex.  It is a tree, so that a
stored program says exactly where its thread stands between two calls.  Loops without a static
bound are written with fuel and end in `diverge`, a point from which the thread never moves again:
every finite piece of a run of the loop is then a run at some fuel.
-/

namespace Foundations

/-- Code that answers with a value, makes a call and goes on with the reply, or never comes back. -/
inductive Program (Call : Type) (Reply : Call → Type) (α : Type) where
  | pure (value : α)
  | call (request : Call) (next : Reply request → Program Call Reply α)
  | diverge

namespace Program

variable {Call : Type} {Reply : Call → Type} {α β : Type} {program : Program Call Reply α}
  {allowed : Call → Prop}

def bind (program : Program Call Reply α) (next : α → Program Call Reply β) :
    Program Call Reply β :=
  match program with
  | .pure value => next value
  | .call request rest => .call request (fun reply => (rest reply).bind next)
  | .diverge => .diverge

instance : Monad (Program Call Reply) where
  pure := .pure
  bind := bind

/-- The program that makes one call and answers with its reply. -/
def ask (request : Call) : Program Call Reply (Reply request) := .call request .pure

@[simp] theorem pure_eq (value : α) : (Pure.pure value : Program Call Reply α) = .pure value := rfl

section

variable (next : α → Program Call Reply β)
include next

@[simp] theorem pure_bind' (value : α) : (Program.pure value >>= next) = next value := rfl

@[simp] theorem call_bind (request : Call) (rest : Reply request → Program Call Reply α) :
    (Program.call request rest >>= next) = .call request (fun reply => rest reply >>= next) := rfl

end

/-- Every call the program can make is one of `allowed`, whatever the replies are. -/
def Calls (allowed : Call → Prop) : Program Call Reply α → Prop
  | .pure _ => True
  | .diverge => True
  | .call request next => allowed request ∧ ∀ reply, (next reply).Calls allowed

theorem calls_call {request : Call} {next : Reply request → Program Call Reply α} :
    (Program.call request next).Calls allowed ↔
      allowed request ∧ ∀ reply, (next reply).Calls allowed := Iff.rfl

theorem Calls.bind {next : α → Program Call Reply β} (first : program.Calls allowed)
    (second : ∀ value, (next value).Calls allowed) : (program >>= next).Calls allowed := by
  induction program with
  | pure value => exact second value
  | diverge => trivial
  | call request rest ih =>
    exact ⟨first.1, fun reply => ih reply (first.2 reply)⟩

theorem Calls.pure {value : α} :
    (Program.pure value : Program Call Reply α).Calls allowed := trivial

theorem Calls.diverge : (Program.diverge : Program Call Reply α).Calls allowed := trivial

theorem Calls.ask (request : Call) (holds : allowed request) :
    (Program.ask request : Program Call Reply (Reply request)).Calls allowed :=
  ⟨holds, fun _ => trivial⟩

theorem Calls.mono {wider : Call → Prop} (calls : program.Calls allowed)
    (implies : ∀ request, allowed request → wider request) : program.Calls wider := by
  induction program with
  | pure _ | diverge => trivial
  | call request next ih =>
    exact ⟨implies request calls.1, fun reply => ih reply (calls.2 reply)⟩

theorem calls_any (program : Program Call Reply α) : program.Calls fun _ => True := by
  induction program with
  | pure _ | diverge => trivial
  | call request next ih => exact ⟨trivial, ih⟩

/-! ### Programs of a part of a system -/

section lift

variable {Part : Type} {PartReply : Part → Type} (embed : Part → Call)
  (back : ∀ request, Reply (embed request) → PartReply request)

/-- A program of a part as one of the whole: its calls are embedded. -/
def lift : Program Part PartReply α → Program Call Reply α
  | .pure value => .pure value
  | .diverge => .diverge
  | .call request next => .call (embed request) fun reply => lift (next (back request reply))

theorem lift_bind (program : Program Part PartReply α) (next : α → Program Part PartReply β) :
    lift embed back (program >>= next) =
      lift embed back program >>= fun value => lift embed back (next value) := by
  induction program with
  | pure value | diverge => rfl
  | call request rest ih =>
    simp only [call_bind, lift, ih]

theorem Calls.lift {allowed : Part → Prop} {program : Program Part PartReply α}
    (calls : program.Calls allowed) :
    (program.lift embed back).Calls fun request => ∃ part, request = embed part ∧ allowed part := by
  induction program with
  | pure _ | diverge => trivial
  | call request next ih =>
    exact ⟨⟨request, rfl, calls.1⟩, fun reply => ih _ (calls.2 _)⟩

end lift

-- proofs use the rules above; unfolding `Calls` would run the program
attribute [irreducible] Calls

end Program

/-- Code with atomic calls that may fail with an error. -/
abbrev Attempt (Call : Type) (Reply : Call → Type) (ε α : Type) := ExceptT ε (Program Call Reply) α

section Attempt

variable {Call : Type} {Reply : Call → Type} {ε α β : Type} {allowed : Call → Prop}

/-- The loop that has run out of fuel. -/
def Attempt.diverge : Attempt Call Reply ε α := ExceptT.mk .diverge

/-- A postcondition of code that may fail: what holds of its value, and what after an error. -/
abbrev Returns {State : Type} (post : α → State → Prop) (failed : State → Prop) :
    Except ε α → State → Prop
  | .ok value, state => post value state
  | .error _, state => failed state

theorem Program.Calls.attempt {program : Attempt Call Reply ε α} {next : α → Attempt Call Reply ε β}
    (first : program.run.Calls allowed) (second : ∀ value, (next value).run.Calls allowed) :
    (program >>= next).run.Calls allowed := by
  refine first.bind fun outcome => ?_
  cases outcome with
  | ok value => exact second value
  | error error => exact .pure

end Attempt

end Foundations
