/-
What the routes of the ingestor answer when they fail.

FastAPI validates a request before the route runs; a route raises
`HTTPException`, and a flush raises when the database refuses it.
-/

namespace ApiObservatory

/-- What a flush raises: a constraint is violated, or a value does not fit the
type of its column. -/
inductive DbError where
  | integrityError | statementError
deriving DecidableEq

/-- Why a request fails. -/
inductive RouteError where
  | requestValidation
  | httpException (statusCode : Nat) (detail : String)
  | database (error : DbError)
deriving DecidableEq

/-- An answer with a 4xx status. -/
def RouteError.IsClientError : RouteError → Prop
  | .requestValidation => True
  | .httpException statusCode _ => 400 ≤ statusCode ∧ statusCode < 500
  | .database _ => False

theorem ok_of_bind {ε α β : Type} {answer : Except ε α} {f : α → Except ε β} {b : β}
    (success : answer >>= f = .ok b) : ∃ a, answer = .ok a ∧ f a = .ok b := by
  cases answer with
  | error => cases success
  | ok a => exact ⟨a, rfl, success⟩

theorem ok_of_map {ε α β : Type} {answer : Except ε α} {f : α → β} {b : β}
    (success : answer.map f = .ok b) : ∃ a, answer = .ok a ∧ f a = b := by
  cases answer with
  | error => cases success
  | ok a => exact ⟨a, rfl, Except.ok.inj success⟩

theorem error_of_map {ε α β : Type} {answer : Except ε α} {f : α → β} {error : ε}
    (failed : answer.map f = .error error) : answer = .error error := by
  cases answer with
  | error error' => exact congrArg Except.error (Except.error.inj failed)
  | ok a => cases failed

theorem ok_of_toOption {ε α : Type} {answer : Except ε α} {a : α}
    (success : answer.toOption = some a) : answer = .ok a := by
  cases answer with
  | error => cases success
  | ok b => exact congrArg Except.ok (Option.some.inj success)

theorem ok_of_toOption_map {ε α β : Type} {answer : Except ε α} {f : α → β} {b : β}
    (success : (answer.map f).toOption = some b) : ∃ a, answer = .ok a ∧ f a = b := by
  cases answer with
  | error => cases success
  | ok a => exact ⟨a, rfl, Option.some.inj success⟩

end ApiObservatory
