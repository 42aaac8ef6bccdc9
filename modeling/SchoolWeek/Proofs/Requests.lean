import Mathlib
import SchoolWeek.Http.Service

/-! What a request comes down to. Its target, its method, its content type and its body
decide, before the backend is looked at, on a refusal, on a fixed answer or on one
operation of the service with all that it needs. -/
namespace SchoolWeek.Http

/-- What is left to do once a request has been read. -/
inductive Task
  | respond (response : Response)
  | readTimetable
  | writeTimetable (entries : List Entry)
  | readSchedule (date : Date)
  | writeSpecial (date : Date) (order : ApplyOrder)
  | removeSpecial (date : Date)
  | listSpecials (first last : Date)

namespace Task

/-- The task read from a request, or its refusal. -/
def orRefuse : Except Response Task → Task
  | .ok task => task
  | .error response => respond response

def perform {σ : Type} [Backend σ] (task : Task) (state : σ) : Option Response × σ :=
  match task with
  | respond response => (some response, state)
  | readTimetable => always (getTimetable state)
  | writeTimetable entries => always (putTimetable entries state)
  | readSchedule date => always (getSchedule date state)
  | writeSpecial date order => putSpecial date order state
  | removeSpecial date => deleteSpecial date state
  | listSpecials first last => always (getSpecials first last state)

/-- Going on with what was read is performing the task that it makes, or the refusal. -/
theorem andThen_eq_perform {σ α : Type} [Backend σ] {next : α → σ → Option Response × σ}
    {task : α → Task} (read : Except Response α) (state : σ)
    (same : ∀ value, next value state = (task value).perform state) :
    andThen read next state = (orRefuse (task <$> read)).perform state := by
  cases read with
  | error response => rfl
  | ok value => exact same value

/-- The task of writing to a path. The path text is decoded first, then the body is read,
then the date. -/
def ofOrder (raw : List Char) (request : Request) : Task :=
  match decodeSegment? raw with
  | none => respond (.bare 400)
  | some raw =>
    orRefuse ((fun order => orRefuse ((writeSpecial · order) <$> readDate raw)) <$>
      readBody applyOrder request)

end Task

namespace Route

/-- The task of a request whose route is known. -/
def task (route : Route) (method : String) (request : Request) : Task :=
  match route, method with
  | health, "GET" => .respond (.ok (.object [("status", .text "ok")]))
  | patterns, "GET" => .respond (.ok builtInPatterns)
  | classify, "POST" => .orRefuse ((fun name =>
      .respond (.ok (.object [("kind", Encode.kind (Kind.ofPatternName name.toList))]))) <$>
    readBody patternNameOnly request)
  | preview, "POST" =>
    .orRefuse ((fun body => .respond (.ok body)) <$>
      (readBody previewOrder request).bind previewOf)
  | timetable, "GET" => .readTimetable
  | timetable, "PUT" => .orRefuse (.writeTimetable <$> readBody Decode.entries request)
  | schedule raw, "GET" => .orRefuse (.readSchedule <$> readPathDate raw)
  | special raw, "PUT" => .ofOrder raw request
  | special raw, "DELETE" => .orRefuse (.removeSpecial <$> readPathDate raw)
  | specials, "GET" =>
    .orRefuse ((fun range => .listSpecials range.1 range.2) <$> readRange request.target.query)
  | _, _ => .respond (.bare 405)

theorem serve_eq_perform {σ : Type} [Backend σ] (route : Route) (method : String)
    (request : Request) (state : σ) :
    serve route method request state = (route.task method request).perform state := by
  unfold serve
  split
  · rfl
  · rfl
  · exact Task.andThen_eq_perform _ state fun name => rfl
  · exact Task.andThen_eq_perform _ state fun body => rfl
  · rfl
  · exact Task.andThen_eq_perform _ state fun entries => rfl
  · exact Task.andThen_eq_perform _ state fun date => rfl
  · rename_i raw
    rw [task, Task.ofOrder]
    cases decodeSegment? raw with
    | none => rfl
    | some text =>
      exact Task.andThen_eq_perform _ state fun order =>
        Task.andThen_eq_perform _ state fun date => rfl
  · exact Task.andThen_eq_perform _ state fun date => rfl
  · exact Task.andThen_eq_perform _ state fun range => rfl
  · unfold task
    split <;> simp_all [Task.perform]

end Route

namespace Request

/-- The task of a request. HEAD asks for what GET asks for. -/
def task (request : Request) : Task :=
  match Route.ofTarget? request.target with
  | none => .respond (.bare 404)
  | some route => route.task (if request.method = "HEAD" then "GET" else request.method) request

/-- What is sent of an answer: to HEAD on a known route only the status. -/
def shown (request : Request) (response? : Option Response) : Option Response :=
  if (Route.ofTarget? request.target).isSome ∧ request.method = "HEAD" then
    response?.map fun response => .bare response.status
  else response?

end Request

namespace Task

/-- The dates that the operation is asked for. -/
def dates : Task → List Date
  | readSchedule date => [date]
  | writeSpecial date _ => [date]
  | removeSpecial date => [date]
  | listSpecials first last => [first, last]
  | _ => []

theorem dates_orRefuse (read : Except Response Date) (task : Date → Task)
    (names : ∀ date, (task date).dates = [date]) :
    (∃ response, orRefuse (task <$> read) = respond response) ∨
      (orRefuse (task <$> read)).dates = read.toOption.toList := by
  cases read with
  | error response => exact .inl ⟨response, rfl⟩
  | ok date => exact .inr (names date)

theorem dates_ofOrder (raw : List Char) (request : Request) :
    (∃ response, ofOrder raw request = respond response) ∨
      (ofOrder raw request).dates = (readPathDate raw).toOption.toList := by
  unfold ofOrder readPathDate
  cases decodeSegment? raw with
  | none => exact .inl ⟨_, rfl⟩
  | some text =>
    cases readBody applyOrder request with
    | error response => exact .inl ⟨response, rfl⟩
    | ok order => exact dates_orRefuse (readDate text) (.writeSpecial · order) fun date => rfl

end Task

namespace Request

/-- The dates that can be read in the target of a request. -/
def dates (request : Request) : List Date :=
  match Route.ofTarget? request.target with
  | some (.schedule raw) => (readPathDate raw).toOption.toList
  | some (.special raw) => (readPathDate raw).toOption.toList
  | some .specials =>
    match readRange request.target.query with
    | .ok range => [range.1, range.2]
    | .error _ => []
  | _ => []

/-- Only a request for a list of dates names more than one. -/
theorem length_dates_le {request : Request} (single : Route.ofTarget? request.target ≠ some .specials) :
    request.dates.length ≤ 1 := by
  have most (read : Except Response Date) : read.toOption.toList.length ≤ 1 := by
    cases read with
    | error response => exact Nat.zero_le 1
    | ok date => exact le_rfl
  unfold dates
  split
  · exact most _
  · exact most _
  · rename_i listing
    exact absurd listing single
  · exact Nat.zero_le 1

/-- The operation is asked for the dates in the target, unless there is nothing to ask for. -/
theorem task_dates (request : Request) :
    (∃ response, request.task = .respond response) ∨ request.task.dates = request.dates := by
  unfold task dates
  cases Route.ofTarget? request.target with
  | none => exact .inl ⟨_, rfl⟩
  | some route =>
    dsimp only
    generalize (if request.method = "HEAD" then "GET" else request.method) = method
    unfold Route.task
    split
    · exact .inl ⟨_, rfl⟩
    · exact .inl ⟨_, rfl⟩
    · cases readBody patternNameOnly request <;> exact .inl ⟨_, rfl⟩
    · cases (readBody previewOrder request).bind previewOf <;> exact .inl ⟨_, rfl⟩
    · exact .inr rfl
    · cases readBody Decode.entries request with
      | error response => exact .inl ⟨response, rfl⟩
      | ok entries => exact .inr rfl
    · exact Task.dates_orRefuse _ .readSchedule fun date => rfl
    · exact Task.dates_ofOrder _ request
    · exact Task.dates_orRefuse _ .removeSpecial fun date => rfl
    · cases readRange request.target.query with
      | error response => exact .inl ⟨response, rfl⟩
      | ok range => exact .inr rfl
    · exact .inl ⟨_, rfl⟩

theorem dates_eq {request : Request} {task : Task} (known : request.task = task)
    (goesOn : ∀ response, task ≠ .respond response) : request.dates = task.dates := by
  rcases request.task_dates with ⟨response, refused⟩ | same
  · exact absurd (known.symm.trans refused) (goesOn response)
  · rw [← known, same]

end Request

/-- Answering a request is performing its task and sending what is to be shown of it. -/
theorem handle_eq_perform {σ : Type} [Backend σ] (request : Request) (state : σ) :
    handle request state =
      (request.shown (request.task.perform state).1, (request.task.perform state).2) := by
  unfold handle Request.shown Request.task
  cases Route.ofTarget? request.target with
  | none => rfl
  | some route =>
    by_cases head : request.method = "HEAD"
    · simp [head, Route.serve_eq_perform]
    · simp [head, Route.serve_eq_perform]

/-- The body of the answer to an order. -/
def appliedBody (applied : Bool) (remaps : List Remap) : Json :=
  .object [("applied", .bool applied), ("configs", Encode.remaps remaps)]

/-- The body of the answer to a preview. -/
def previewBody (kind : Json) (remaps : List Remap) (written : Json) : Json :=
  .object [("kind", kind), ("configs", Encode.remaps remaps), ("notation", written)]

namespace Request

theorem shown_of_ne {request : Request} (sends : request.method ≠ "HEAD")
    (response? : Option Response) : request.shown response? = response? :=
  if_neg fun head => sends head.2

/-- A PUT to the special schedule of the date, with the order in its body. -/
structure Orders (request : Request) (date : Date) (order : ApplyOrder) : Prop where
  method : request.method = "PUT"
  route : ∃ raw, Route.ofTarget? request.target = some (.special raw) ∧ readPathDate raw = .ok date
  body : readBody applyOrder request = .ok order

theorem Orders.sends {request : Request} {date : Date} {order : ApplyOrder}
    (orders : request.Orders date order) : request.method ≠ "HEAD" := by
  rw [orders.method]
  decide

theorem Orders.task_eq {request : Request} {date : Date} {order : ApplyOrder}
    (orders : request.Orders date order) : request.task = .writeSpecial date order := by
  obtain ⟨raw, named, read⟩ := orders.route
  unfold readPathDate at read
  split at read
  · rename_i text decoded
    rw [task, named]
    dsimp only
    rw [if_neg orders.sends, orders.method]
    show Task.ofOrder raw request = _
    rw [Task.ofOrder, decoded]
    dsimp only
    rw [orders.body, read]
    rfl
  · cases read

theorem Orders.handle_eq {request : Request} {date : Date} {order : ApplyOrder} {σ : Type}
    [Backend σ] (orders : request.Orders date order) (state : σ) :
    handle request state = putSpecial date order state := by
  rw [handle_eq_perform, shown_of_ne orders.sends, orders.task_eq, Task.perform]

/-- A POST that asks what the order would make of the date. -/
structure Previews (request : Request) (date : Date) (order : ApplyOrder) : Prop where
  method : request.method = "POST"
  route : Route.ofTarget? request.target = some .preview
  body : readBody previewOrder request = .ok ⟨order.patternName, none, some date, order.custom?⟩

theorem Previews.handle_eq {request : Request} {date : Date} {order : ApplyOrder} {σ : Type}
    [Backend σ] (previews : request.Previews date order) (state : σ) :
    ∃ kind written, handle request state =
      (some (.ok (previewBody kind
        (Plan.preview order.patternName date.weekday order.custom?) written)), state) := by
  have sends : request.method ≠ "HEAD" := by
    rw [previews.method]
    decide
  rw [handle_eq_perform, shown_of_ne sends, task, previews.route]
  dsimp only
  rw [if_neg sends, previews.method]
  dsimp only [Route.task]
  rw [previews.body]
  exact ⟨_, _, rfl⟩

end Request

end SchoolWeek.Http
