import Mathlib.Init

/-!
# Errors of the service

The variants of `ayane/src/error.rs`, the HTTP status each maps to, and how they
are rendered. A request can also end in a panic of the arithmetic on instants,
which is no error value and is not turned into a response: an `Outcome` keeps
the two apart.
-/

namespace Ayane

inductive Error where
  /-- Invalid or unloadable configuration. -/
  | config (message : String)
  | badRequest (message : String)
  /-- Authentication failed: bad signature, expired, replayed. -/
  | unauthorized (message : String)
  /-- Authenticated but not permitted. -/
  | forbidden (message : String)
  | notFound (message : String)
  /-- A uniqueness constraint was violated. -/
  | conflict (message : String)
  | internal (message : String)
  deriving DecidableEq, Repr

/-- HTTP status code for an error. -/
def Error.status : Error → Nat
  | .config _ | .internal _ => 500
  | .badRequest _ => 400
  | .unauthorized _ => 401
  | .forbidden _ => 403
  | .notFound _ => 404
  | .conflict _ => 409

/-- The rendering of an error in messages and audit events. -/
def Error.toString : Error → String
  | .config m => "configuration error: " ++ m
  | .badRequest m => "bad request: " ++ m
  | .unauthorized m => "unauthorized: " ++ m
  | .forbidden m => "forbidden: " ++ m
  | .notFound m => "not found: " ++ m
  | .conflict m => "conflict: " ++ m
  | .internal m => "internal error: " ++ m

abbrev Result := Except Error

/-- How a computation ends when it returns no value. -/
inductive Abort where
  | error (e : Error)
  /-- A panic, with its message. -/
  | panic (message : String)
  deriving DecidableEq, Repr

abbrev Outcome := Except Abort

/-- The `?` operator on a `Result` inside a computation that may panic. -/
def Result.orAbort {α : Type} : Result α → Outcome α
  | .ok a => .ok a
  | .error e => .error (.error e)

@[simp] theorem Result.orAbort_eq_ok {α : Type} (x : Result α) (a : α) :
    x.orAbort = .ok a ↔ x = .ok a := by
  cases x <;> simp [Result.orAbort]

theorem Result.eq_error_of_orAbort {α : Type} {x : Result α} {e : Error}
    (h : x.orAbort = .error (.error e)) : x = .error e := by
  cases x with
  | error e' => exact congrArg Except.error (Abort.error.inj (Except.error.inj h))
  | ok a => cases h

/-- `map_err`: rewrite what a crate reported into an error of ours. -/
def mapErr {ε α : Type} (f : ε → Error) : Except ε α → Result α
  | .ok a => .ok a
  | .error e => .error (f e)

@[simp] theorem mapErr_eq_ok {ε α : Type} (f : ε → Error) (x : Except ε α) (a : α) :
    mapErr f x = .ok a ↔ x = .ok a := by
  cases x <;> simp [mapErr]

/-- `ok_or`. -/
def okOr {α : Type} (e : Error) : Option α → Result α
  | some a => .ok a
  | none => .error e

@[simp] theorem okOr_eq_ok {α : Type} (e : Error) (x : Option α) (a : α) :
    okOr e x = .ok a ↔ x = some a := by
  cases x <;> simp [okOr]

/-- An encoding failure of the `der` or `spki` crates, as the `?` operator converts it. -/
def derError (e : String) : Error := .internal ("der: " ++ e)

end Ayane
