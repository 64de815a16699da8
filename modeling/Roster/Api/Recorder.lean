/-
Roster.Api.Recorder — publishing reports through the API server.

A report is created as an object of its own.  When the same report is
made again (same type, action, reason and subject) the object is updated
instead: it starts a series and counts up.  A report that cannot be sent,
that the server refuses, or that it answers with something else than a
report, is dropped.
-/
import Roster.Api.Store
import Roster.Event

namespace Roster.Api

/-- Who publishes. -/
structure Reporter where
  controller : String
  /-- The name of the instance of the controller, if it has one. -/
  pod : Option String

/-- A report that the server accepted. -/
structure Published where
  event : Event
  /-- The name of the object that holds it. -/
  name : String
  firstSeen : Instant
  /-- How often it was made. -/
  count : Nat

/-- Whether a report is the same as one made before, its note apart. -/
def Published.isSame (published : Published) (event : Event) : Bool :=
  published.event.type == event.type && published.event.action == event.action &&
    published.event.reason == event.reason && published.event.subject == event.subject

/-- The kind of the objects that hold reports. -/
def eventKind : Kind := ⟨"events.k8s.io/v1", "Event"⟩

/-- The namespace of reports about objects without one. -/
def usualNamespace : String := "default"

/-- Nanoseconds since the start of 1970. -/
def nanoseconds (t : Instant) : Nat := (t.seconds * 1000000000 + t.nanos).toNat

/-- The name of the object that holds a new report. -/
def eventName (reporter : Reporter) (now : Instant) (event : Event) : String :=
  event.subject.name.getD reporter.controller ++ "." ++ Text.hexadecimal (nanoseconds now)

/-- The object that holds a report. -/
def Published.encode (reporter : Reporter) (now : Instant) (p : Published) : Json :=
  let metadata := { Metadata.named p.name with ns := p.event.subject.ns }
  .object (always "action" (.text p.event.action) ++
    always "apiVersion" (.text eventKind.apiVersion) ++
    always "eventTime" (.text p.firstSeen.renderMicros) ++ always "kind" (.text eventKind.name) ++
    always "metadata" metadata.encode ++ whenSome "note" .text p.event.note ++
    always "reason" (.text p.event.reason) ++ always "regarding" p.event.subject.encode ++
    always "reportingController" (.text reporter.controller) ++
    always "reportingInstance" (.text (reporter.pod.getD reporter.controller)) ++
    (if 1 < p.count then always "series" (.object
      [("count", .nat p.count), ("lastObservedTime", .text now.renderMicros)]) else []) ++
    always "type" (.text p.event.type))

/-! ## What the server answers -/

/-- Whether the fields of a document can be read, given what to read. -/
def holdsFields (read : (String → List Document) → Option Unit) (d : Document) : Bool :=
  match d.looseRecord? with
  | some field => (read field).isSome
  | none => false

/-- Read fields that are texts. -/
def readTexts (names : List String) (field : String → List Document) : Option Unit :=
  names.forM fun name => (Decode.loose Decode.text (field name)).map fun _ => ()

/-- Whether a document can be read as a series of reports: it says when the
last one was made, and never that this is unknown. -/
def isSeries : Document → Bool :=
  holdsFields fun field => do
    let _ ← Decode.loose Decode.int32 (field "count")
    let times := field "lastObservedTime"
    guard (!times.isEmpty && times.all fun d => (Instant.decode d).isSome)

/-- Whether a document can be read as who made a report. -/
def isSource : Document → Bool := holdsFields (readTexts ["component", "host"])

/-- Read the object that holds a report. -/
def decodeEvent : Decoder Unit := fun d => do
  let field ← d.looseRecord?
  let given (value : String) (documents : List Document) : Bool :=
    documents.all fun d => Decode.text d == some value
  guard (given eventKind.apiVersion (field "apiVersion") && given eventKind.name (field "kind"))
  readTexts ["action", "note", "reason", "reportingController", "reportingInstance", "type"] field
  let _ ← Decode.loose Metadata.decode (field "metadata")
  let _ ← Decode.loose Instant.decode (field "eventTime")
  let _ ← Decode.loose Subject.decode (field "regarding")
  let _ ← Decode.loose Subject.decode (field "related")
  let _ ← Decode.loose (readable isSeries) (field "series")
  let _ ← Decode.loose Decode.int32 (field "deprecatedCount")
  let _ ← Decode.loose Instant.decode (field "deprecatedFirstTimestamp")
  let _ ← Decode.loose Instant.decode (field "deprecatedLastTimestamp")
  let _ ← Decode.loose (readable isSource) (field "deprecatedSource")
  return ()

/-- The reports that were accepted. -/
abbrev Ledger := List Published

namespace Ledger

/-- The report to publish: a new one, or a known one once more. -/
def next (ledger : Ledger) (reporter : Reporter) (now : Instant) (event : Event) : Published :=
  match ledger.find? fun p => p.isSame event with
  | some p => { p with count := p.count + 1 }
  | none => ⟨event, eventName reporter now event, now, 1⟩

/-- The request that publishes a report. -/
def request (reporter : Reporter) (now : Instant) (p : Published) :
    Except RequestFault Http.Request :=
  let ns := some (p.event.subject.ns.getD usualNamespace)
  if 1 < p.count then do
    merging (← objectPath eventKind ns p.name) [] (p.encode reporter now)
  else posting (listPath eventKind ns) (p.encode reporter now)

/-- Keep a report that was accepted, in the place of the same one before. -/
def keep (ledger : Ledger) (p : Published) : Ledger :=
  p :: ledger.filter fun known => !known.isSame p.event

/-- Publish a report. -/
def publish (reporter : Reporter) (transport : Http.Transport τ) (now : Instant) (event : Event)
    (ledger : Ledger) (t : τ) : Ledger × τ :=
  let p := ledger.next reporter now event
  match request reporter now p with
  | .error _ => (ledger, t)
  | .ok request =>
    match transport request t with
    | (response, t) =>
      match read decodeEvent response with
      | .ok () => (ledger.keep p, t)
      | .error _ => (ledger, t)

end Ledger

end Roster.Api
