/-
Roster.Http — requests and responses, and the transports between them.
-/
import Roster.Http.Target
import Roster.Json.Document

namespace Roster.Http

/-- What a request wants done. -/
inductive Method where
  | get
  | post
  | patch
  | delete
  deriving DecidableEq, Repr

/-- The word for a method. -/
def Method.word : Method → String
  | .get => "GET"
  | .post => "POST"
  | .patch => "PATCH"
  | .delete => "DELETE"

/-- A value sent along with a request. -/
structure Payload where
  contentType : String
  content : Json

/-- A request. -/
structure Request where
  method : Method
  target : Target
  payload : Option Payload

/-- A path with parameters behind it, as text. -/
def targetText (path : String) (parameters : List (String × String)) : String :=
  path ++ "?" ++ String.join (parameters.map fun (name, value) =>
    "&" ++ Text.queryText name ++ "=" ++ Text.queryText value)

/-- A response. -/
structure Response where
  status : UInt16
  body : String

/-- A way to get responses to requests. -/
abbrev Transport (τ : Type) := Request → τ → Response × τ

/-- What failing statuses are called. -/
def reasons : List (Nat × String) :=
  [(400, "Bad Request"), (401, "Unauthorized"), (402, "Payment Required"), (403, "Forbidden"),
    (404, "Not Found"), (405, "Method Not Allowed"), (406, "Not Acceptable"),
    (407, "Proxy Authentication Required"), (408, "Request Timeout"), (409, "Conflict"),
    (410, "Gone"), (411, "Length Required"), (412, "Precondition Failed"),
    (413, "Payload Too Large"), (414, "URI Too Long"), (415, "Unsupported Media Type"),
    (416, "Range Not Satisfiable"), (417, "Expectation Failed"), (418, "I'm a teapot"),
    (421, "Misdirected Request"), (422, "Unprocessable Entity"), (423, "Locked"),
    (424, "Failed Dependency"), (425, "Too Early"), (426, "Upgrade Required"),
    (428, "Precondition Required"), (429, "Too Many Requests"),
    (431, "Request Header Fields Too Large"), (451, "Unavailable For Legal Reasons"),
    (500, "Internal Server Error"), (501, "Not Implemented"), (502, "Bad Gateway"),
    (503, "Service Unavailable"), (504, "Gateway Timeout"), (505, "HTTP Version Not Supported"),
    (506, "Variant Also Negotiates"), (507, "Insufficient Storage"), (508, "Loop Detected"),
    (510, "Not Extended"), (511, "Network Authentication Required")]

/-- A status with what it is called. -/
def statusText (status : UInt16) : String :=
  String.ofList (Nat.toDigits 10 status.toNat) ++ " " ++
    (reasons.lookup status.toNat).getD "<unknown status code>"

/-- Whether a status says that the request failed. -/
def isFailure (status : UInt16) : Bool := 400 ≤ status && status < 600

/-! ## Transports for trying things out -/

/-- What was asked of a transport that always answers alike. -/
structure Exchange where
  response : Response
  requests : List Request

/-- The transport that always answers alike. -/
def replay : Transport Exchange := fun request exchange =>
  (exchange.response, { exchange with requests := exchange.requests ++ [request] })

end Roster.Http
