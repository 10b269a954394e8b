/-!
# Errors of the application

* `AppError` with the subclasses that the modelled services throw.
* `Failure` : what a call can be rejected with, and its `Failure.kind`.
-/

namespace PolymeshRest

/-- `AppErrorCode` -/
inductive AppErrorCode where
  | notFound
  | conflict
  | validation
  | unauthorized
  | unprocessable
  | internal
  deriving DecidableEq, Repr

/-- `AppError` -/
structure AppError where
  code : AppErrorCode
  message : String
  deriving DecidableEq, Repr

/-- `AppNotFoundError` -/
def AppError.notFound (id resource : String) : AppError where
  code := .notFound
  message :=
    let identifierMessage := if id ≠ "" then ": with identifier: \"" ++ id ++ "\"" else ""
    "Not Found: " ++ resource ++ " was not found" ++ identifierMessage

/-- `AppConflictError` -/
def AppError.conflict (id resource : String) : AppError where
  code := .conflict
  message := "Conflict: " ++ resource ++ " already exists with unique identifier: \"" ++ id ++ "\""

/-- `AppValidationError` -/
def AppError.validation (message : String) : AppError where
  code := .validation
  message := "Validation: " ++ message

/-- `AppInternalError` -/
def AppError.internal (message : String) : AppError where
  code := .internal
  message := "Internal: " ++ message

/-- `AppUnauthorizedError` -/
def AppError.unauthorized (message : String) : AppError where
  code := .unauthorized
  message := "Unauthorized: " ++ message

/-- `AppUnprocessableError` -/
def AppError.unprocessable (message : String) : AppError where
  code := .unprocessable
  message := "Unprocessable: " ++ message

/-- What the database refuses, or `typeorm` before it. -/
inductive DatabaseError where
  /-- The message has "duplicate key value violates unique constraint". -/
  | duplicateKey
  | checkViolation
  /-- A statement with an empty list after `IN`. -/
  | syntaxError
  /-- `UpdateValuesMissingError` -/
  | updateValuesMissing
  deriving DecidableEq, Repr

/-- What a call is rejected with. -/
inductive Failure where
  | app (error : AppError)
  /-- A `TypeError` of the language. -/
  | typeError (message : String)
  /-- An error of the database that nothing converts. -/
  | database (error : DatabaseError)
  deriving DecidableEq, Repr

/-- `convertTypeOrmErrorToAppError` -/
def convertTypeOrmErrorToAppError (id resourceType : String) : DatabaseError → Failure
  | .duplicateKey => .app (.conflict id resourceType)
  | error => .database error

/-- The class of a failure: two errors of a class differ in their text. -/
inductive FailureKind where
  | app (code : AppErrorCode)
  | typeError
  | database
  deriving DecidableEq, Repr

def Failure.kind : Failure → FailureKind
  | .app error => .app error.code
  | .typeError _ => .typeError
  | .database _ => .database

end PolymeshRest
