/-
Roster.Error — why an operation failed.

Errors are causes: an answer of the API server, a rule of the domain that
was broken, an object that is missing, or other errors in context
(`wrapped`) and in number (`aggregate`, never empty).  The wording is one
function, `Error.message`; two classifications say how a failure is to
be treated.  `isNotFound` means the object is not there, which a deletion
takes for success; `isRetryable` means that trying again may help without
anything else changing.
-/
import Roster.Decimal.Digits
import Roster.Http.Target
import Roster.Text.Quoted

namespace Roster

/-- A failure reported by the API server. -/
structure ApiStatus where
  status : String
  message : String
  reason : String
  code : UInt16
  deriving DecidableEq, Repr

/-- Why a request could not be made. -/
inductive RequestFault where
  /-- The object it is about has no name. -/
  | unnamed
  /-- It has no target. -/
  | target (fault : Http.Target.Fault)
  deriving DecidableEq, Repr

/-- The wording of why a request could not be made. -/
def RequestFault.message : RequestFault → String
  | .unnamed => "failed to validate request: A non-empty name is required"
  | .target fault => "failed to build request: " ++ fault.message

/-- Why an operation failed. -/
inductive Error where
  /-- The API server refused a request. -/
  | api (status : ApiStatus)
  /-- The API server answered with something that could not be read. -/
  | unreadable
  /-- The API server could not even be asked. -/
  | unsendable (fault : RequestFault)
  /-- A resource breaks a rule of its specification. -/
  | validation (resource message : String) (field : Option String)
  /-- A value could not be written or read. -/
  | serialization (message : String) (kind : Option String)
  /-- A referenced object does not exist. -/
  | notFound (kind name : String)
  /-- A health condition does not hold. -/
  | conditionCheck (kind name condition detail : String)
  /-- The observed state contradicts what the controller relies on. -/
  | invariant (context message : String)
  /-- A failure with what was being attempted. -/
  | wrapped (message : String) (source : Error)
  /-- Independent failures of one operation, in the order they happened. -/
  | aggregate (first : Error) (others : List Error)
  /-- Anything else. -/
  | internal (context message : String)
  deriving Repr

namespace Error

/-- The context of an internal error that names none. -/
def unknownContext : String := "unknown"

/-- A failure in context. -/
def wrap (e : Error) (message : String) : Error := .wrapped message e

/-- One error for a list of failures, if there are any. -/
def ofList? : List Error → Option Error
  | [] => none
  | e :: es => some (.aggregate e es)

/-! ## Wording -/

/-- The wording of a failure reported by the API server. -/
def apiMessage (s : ApiStatus) : String :=
  "kubernetes error: ApiError: " ++ s.message ++ ": " ++ s.reason ++
    " (ErrorResponse \x7b status: " ++ Text.quoted s.status ++
    ", message: " ++ Text.quoted s.message ++
    ", reason: " ++ Text.quoted s.reason ++
    ", code: " ++ String.ofList (Decimal.digits s.code.toNat) ++ " \x7d)"

/-- The wording of several failures: one alone stands bare. -/
def listMessage : List String → String
  | [only] => only
  | all => "[" ++ Text.join ", " all ++ "]"

mutual

/-- The wording of an error. -/
def message : Error → String
  | .api s => apiMessage s
  | .unreadable => "kubernetes error: Error deserializing response"
  | .unsendable fault => "kubernetes error: Failed to build request: " ++ fault.message
  | .validation resource message _ => "validation error for " ++ resource ++ ": " ++ message
  | .serialization message _ => "serialization error: " ++ message
  | .notFound kind name => kind ++ " " ++ name ++ " not found"
  | .conditionCheck kind name _ detail => kind ++ " " ++ name ++ " " ++ detail
  | .invariant context message => "invariant violated [" ++ context ++ "]: " ++ message
  | .wrapped message source => message ++ ": " ++ source.message
  | .aggregate first others => listMessage (first.message :: messages others)
  | .internal context message => "internal error [" ++ context ++ "]: " ++ message

/-- The wordings of a list of errors. -/
def messages : List Error → List String
  | [] => []
  | e :: es => e.message :: messages es

end

/-! ## Classification -/

/-- Whether the error says that the object does not exist.  A lone failure
of an aggregate speaks for the whole. -/
def isNotFound : Error → Bool
  | .notFound _ _ => true
  | .api s => s.code == 404
  | .wrapped _ source => source.isNotFound
  | .aggregate first [] => first.isNotFound
  | _ => false

mutual

/-- Whether trying again may succeed without the control plane or its
template being changed first. -/
def isRetryable : Error → Bool
  | .validation _ _ _ => false
  | .serialization _ _ => false
  | .invariant _ _ => false
  | .wrapped _ source => source.isRetryable
  | .aggregate first others => first.isRetryable && allRetryable others
  | _ => true

/-- Whether every error of a list is retryable. -/
def allRetryable : List Error → Bool
  | [] => true
  | e :: es => e.isRetryable && allRetryable es

end

end Error

end Roster
