import Mathlib.Init

/-! # Calls to the database

What every database call of the service has in common: it can fail before its statement runs, and
the reply of a statement that has run can be lost.
-/

namespace SteelInspection

structure DbErr where
  message : String
  deriving DecidableEq, Repr

structure AuditEntry where
  actor : String
  action : String
  target : String
  detail : String
  level : String
  deriving DecidableEq, Repr

/-- What happens to a database call: it works, it fails before the statement runs, or the statement
runs and its reply is lost. -/
inductive Connection where
  | works
  | fails (error : DbErr)
  | losesReply (error : DbErr)

namespace Connection

variable {State β : Type} {connection : Connection}

def query (connection : Connection) (value : β) (shared : State) : Except DbErr β × State :=
  match connection with
  | .works => (.ok value, shared)
  | .fails error | .losesReply error => (.error error, shared)

/-- A write: the state after it, and its reply unless the connection failed. -/
def write (connection : Connection) (reply : Except DbErr β) (before after : State) :
    Except DbErr β × State :=
  match connection with
  | .works => (reply, after)
  | .fails error => (.error error, before)
  | .losesReply error => (.error error, after)

theorem after_query {value : β} {shared after : State} {reply : Except DbErr β}
    (ran : some (connection.query value shared) = some (reply, after)) : after = shared := by
  cases connection <;> cases ran <;> rfl

theorem query_ok {value result : β} {shared after : State}
    (ran : some (connection.query value shared) = some (.ok result, after)) :
    result = value ∧ after = shared := by
  cases connection <;> cases ran
  exact ⟨rfl, rfl⟩

theorem after_write {outcome reply : Except DbErr β} {before written after : State}
    (ran : some (connection.write outcome before written) = some (reply, after)) :
    after = before ∨ after = written := by
  cases connection with
  | works | losesReply _ => cases ran; exact .inr rfl
  | fails _ => cases ran; exact .inl rfl

theorem write_ok {outcome : Except DbErr β} {result : β} {before written after : State}
    (ran : some (connection.write outcome before written) = some (.ok result, after)) :
    outcome = .ok result ∧ after = written := by
  cases connection <;> cases ran
  exact ⟨rfl, rfl⟩

end Connection

end SteelInspection
