import SchoolWeek.Engine
import SchoolWeek.Exchange.Decode
import SchoolWeek.Exchange.Encode
import SchoolWeek.Http.Request

/-! The service that answers HTTP requests over any backend. A request is refused for
its path, its method, its path text and its body, in this order, before the handler
looks at what they say. -/
namespace SchoolWeek.Http

/-- A status and a JSON body; a body that is no JSON does not count. -/
structure Response where
  status : Nat
  body? : Option Json
  deriving Repr

namespace Response

def ok (body : Json) : Response := ⟨200, some body⟩

/-- A refusal without a body of our own. -/
def bare (status : Nat) : Response := ⟨status, none⟩

def refusal (status : Nat) (error message : String) : Response :=
  ⟨status, some (.object [("error", .text error), ("message", .text message)])⟩

def notFound (message : String) : Response := refusal 404 "not_found" message

def forbidden (message : String) : Response := refusal 403 "forbidden" message

def invalid (message : String) : Response := refusal 400 "invalid_request" message

def internal (message : String) : Response := refusal 500 "internal_error" message

def ofStoreError : StoreError → Response
  | .badData error => invalid error.message
  | .noTimetable => notFound StoreError.noTimetable.message
  | .io text => internal (StoreError.io text).message
  | .readOnly => internal StoreError.readOnly.message

/-- The answer to a failed change. There is none when the calendar has no day that could
follow the date: that fault stops the handler. -/
def ofApplyError? : ApplyError → Option Response
  | .calendar (.noNextDay _) => none
  | .calendar .permissionDenied => some (forbidden CalendarError.permissionDenied.message)
  | .calendar error => some (internal (ApplyError.calendar error).message)
  | .store error => some (ofStoreError error)

end Response

/-- What the paths of the service name. Dates are as they stand in the path; one that comes
last is not empty. -/
inductive Route
  | health
  | patterns
  | classify
  | preview
  | timetable
  | schedule (date : List Char)
  | special (date : List Char)
  | specials
  deriving DecidableEq, Repr

namespace Route

def ofTarget? (target : Target) : Option Route :=
  match target.segments.map String.ofList with
  | ["", "health"] => some health
  | ["", "patterns"] => some patterns
  | ["", "classify"] => some classify
  | ["", "preview"] => some preview
  | ["", "timetable"] => some timetable
  | ["", "specials"] => some specials
  | ["", "schedule", date] => if date.isEmpty then none else some (schedule date.toList)
  | ["", "schedule", date, "special"] => some (special date.toList)
  | _ => none

end Route

/-- The date in a request, without the white space around it. -/
def readDate (raw : List Char) : Except Response Date :=
  match Date.readWith false (Text.trim raw) with
  | .ok date => .ok date
  | .error _ =>
    .error (.invalid ("invalid date '" ++ String.ofList raw ++ "' (expected YYYY-MM-DD)"))

/-- The date in a path. -/
def readPathDate (raw : List Char) : Except Response Date :=
  match decodeSegment? raw with
  | some raw => readDate raw
  | none => .error (.bare 400)

/-- The value in a JSON body. What follows the value does not count, but the whole body must
not be too long. -/
def readBody {α : Type} (decoder : Json.Decoder α) (request : Request) : Except Response α :=
  if !request.contentType?.any MediaType.isJson then .error (.bare 415)
  else if Request.sizeLimit < request.size then .error (.bare 413)
  else match decoder.leading request.body with
    | .ok value => .ok value
    | .error .malformed => .error (.bare 400)
    | .error _ => .error (.bare 422)

structure PreviewOrder where
  patternName : String
  weekday? : Option Weekday
  date? : Option Date
  custom? : Option String

structure ApplyOrder where
  patternName : String
  custom? : Option String

def patternNameOnly : Json.Decoder String :=
  (id <$> Json.Fields.required "pattern_name" Json.Decoder.string).decoder

def previewOrder : Json.Decoder PreviewOrder :=
  (PreviewOrder.mk <$> Json.Fields.required "pattern_name" Json.Decoder.string <*>
    Json.Fields.optional "weekday" Decode.mondayWeekday <*>
    Json.Fields.optional "date" Decode.date <*>
    Json.Fields.optional "custom_notation" Json.Decoder.string).decoder

def applyOrder : Json.Decoder ApplyOrder :=
  (ApplyOrder.mk <$> Json.Fields.required "pattern_name" Json.Decoder.string <*>
    Json.Fields.optional "custom_notation" Json.Decoder.string).decoder

def builtInPatterns : Json :=
  .array (Kind.builtIn.map fun (kind, name) =>
    .object [("kind", Encode.kind kind), ("pattern_name", .text name)])

/-- The plan that applying the order would store, with its kind and its notation. -/
def previewOf (order : PreviewOrder) : Except Response Json :=
  match order.weekday?.or (order.date?.map Date.weekday) with
  | none => .error (.invalid "preview requires a weekday or a date")
  | some day =>
    let kind := if (Plan.effectiveCustom? order.custom?).isSome then .custom
      else Kind.ofPatternName order.patternName.toList
    let remaps := Plan.preview order.patternName day order.custom?
    .ok (.object [
      ("kind", Encode.kind kind),
      ("configs", Encode.remaps remaps),
      ("notation", .text (String.ofList (Mapping.render remaps)))])

section
variable {σ : Type} [Backend σ]

/-- The answer with the result of an operation of the backend. -/
def answer {α : Type} (encode : α → Json) (operation : Operation σ StoreError α) (state : σ) :
    Response × σ :=
  match operation state with
  | (.error error, state) => (.ofStoreError error, state)
  | (.ok value, state) => (.ok (encode value), state)

def getTimetable (state : σ) : Response × σ := answer Encode.entries Backend.entries state

def putTimetable (entries : List Entry) (state : σ) : Response × σ :=
  match Backend.replaceEntries entries state with
  | (.error error, state) => (.ofStoreError error, state)
  | (.ok (), state) => getTimetable state

/-- The body for the schedule of a date; the pattern name is that of the record. -/
def scheduleBody (date : Date) (slots : List Slot) (record? : Option Record) : Json :=
  .object ([("date", Encode.date date), ("special", .bool (slots.any (·.isSpecial)))] ++
    Json.optional "pattern_name" (record?.map fun record => .text record.patternName) ++
    [("entries", Encode.slots slots)])

def getSchedule (date : Date) (state : σ) : Response × σ :=
  let (slots, state) := Engine.effectiveSchedule date state
  let (record, state) := Backend.record date state
  (.ok (scheduleBody date (Slot.sortByPeriod slots) (record.toOption.bind id)), state)

/-- Applies a special schedule and answers with what is stored after it. -/
def putSpecial (date : Date) (order : ApplyOrder) (state : σ) : Option Response × σ :=
  let patternName := String.ofList (Text.trim order.patternName.toList)
  if patternName.isEmpty then (some (.invalid "pattern_name must not be empty"), state)
  else
    match Engine.apply date patternName order.custom? state with
    | (.error error, state) => (Response.ofApplyError? error, state)
    | (.ok applied, state) =>
      let encode (remaps : List Remap) : Json :=
        .object [("applied", .bool applied), ("configs", Encode.remaps remaps)]
      let (response, state) := answer encode (Backend.storedRemaps date) state
      (some response, state)

def deleteSpecial (date : Date) (state : σ) : Option Response × σ :=
  match Engine.remove date state with
  | (.error error, state) => (Response.ofApplyError? error, state)
  | (.ok true, state) => (some (.bare 204), state)
  | (.ok false, state) => (some (.notFound ("no special schedule on " ++ date.text)), state)

/-- The two dates of a query, each given once. -/
def readRange (query : List Char) : Except Response (Date × Date) := do
  let pairs := queryPairs query
  match onlyValue? "start" pairs, onlyValue? "end" pairs with
  | some start, some stop =>
    let first ← readDate start
    let last ← readDate stop
    return (first, last)
  | _, _ => throw (.bare 400)

def getSpecials (first last : Date) (state : σ) : Response × σ :=
  answer (fun dates => .array (dates.map Encode.date)) (Backend.specialDates first last) state

/-- Goes on with what was read from a request, or answers with its refusal. -/
def andThen {α : Type} (read : Except Response α) (next : α → σ → Option Response × σ)
    (state : σ) : Option Response × σ :=
  match read with
  | .error response => (some response, state)
  | .ok value => next value state

/-- An answer there is in any case. -/
def always (answered : Response × σ) : Option Response × σ := (some answered.1, answered.2)

/-- The answer to a request whose route is known. A method that the route does not have
is refused. -/
def serve (route : Route) (method : String) (request : Request) (state : σ) :
    Option Response × σ :=
  match route, method with
  | .health, "GET" => (some (.ok (.object [("status", .text "ok")])), state)
  | .patterns, "GET" => (some (.ok builtInPatterns), state)
  | .classify, "POST" =>
    andThen (readBody patternNameOnly request) (fun name state =>
      (some (.ok (.object [("kind", Encode.kind (Kind.ofPatternName name.toList))])), state)) state
  | .preview, "POST" =>
    andThen ((readBody previewOrder request).bind previewOf) (fun body state =>
      (some (.ok body), state)) state
  | .timetable, "GET" => always (getTimetable state)
  | .timetable, "PUT" =>
    andThen (readBody Decode.entries request) (fun entries state =>
      always (putTimetable entries state)) state
  | .schedule raw, "GET" =>
    andThen (readPathDate raw) (fun date state => always (getSchedule date state)) state
  | .special raw, "PUT" =>
    match decodeSegment? raw with
    | none => (some (.bare 400), state)
    | some raw =>
      andThen (readBody applyOrder request) (fun order =>
        andThen (readDate raw) fun date => putSpecial date order) state
  | .special raw, "DELETE" => andThen (readPathDate raw) deleteSpecial state
  | .specials, "GET" =>
    andThen (readRange request.target.query) (fun range state =>
      always (getSpecials range.1 range.2 state)) state
  | _, _ => (some (.bare 405), state)

/-- The answer to any request. HEAD is answered as GET is, without the body. -/
def handle (request : Request) (state : σ) : Option Response × σ :=
  match Route.ofTarget? request.target with
  | none => (some (.bare 404), state)
  | some route =>
    if request.method = "HEAD" then
      let (response?, state) := serve route "GET" request state
      (response?.map fun response => .bare response.status, state)
    else serve route request.method request state

end
end SchoolWeek.Http
