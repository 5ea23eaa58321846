import QueryTemplates.Proofs.Json.Values
import QueryTemplates.Proofs.Rendering.Failures
import QueryTemplates.Proofs.Server.Reachability
import QueryTemplates.Proofs.Server.Surrogates
import QueryTemplates.Proofs.Text.Order

/-! # The service agrees with its manager

A request leaves the service as it is, so that each of many requests has the response that it would have
alone. What the service answers is what its manager says: the identifiers in order, the tokens of a query, and
the outcome of a rendering, with one exception: a text in which a surrogate stands alone is rendered, but cannot
be sent. The values in the body of a request come from a JSON text, where no integer is too long; with the
processors of this library, and without a default value, no rendering fails for any other reason than a render
error.
-/

namespace QueryTemplates

/-! ## Questions -/

/-- What is asked of the service. -/
inductive Question
  | list
  | tokens (id : Text)
  | render (id : Text) (body : Body)

/-- Where it is asked. -/
def Question.route : Question → Route
  | .list => .queries
  | .tokens id => .tokens id
  | .render id _ => .render id

/-- The request asks the question: it has the method of the route and is directed there, and what a rendering is
asked for with is in its body. -/
structure Request.Asks (request : Request) (question : Question) : Prop where
  method : request.method.map Char.toUpper = question.route.method
  routed : Route.ofPath? (targetPath request.target) = some question.route
  accepted : ∀ id body, question = .render id body → Body.read request.body = .ok body

namespace Request

variable {id segment : Text} {body : Option Text} {asked : Body}

end Request

/-! ## Answers -/

/-- The response tells the outcome of a rendering: its text if that can be sent, a render error in words, where that
a query is unknown has a status of its own, or that something else failed. -/
structure Response.TellsOutcome (response : Response) (id : Text) (sendable : Prop)
    (outcome : Except RenderFailure Text) : Prop where
  ok_iff : response.status = 200 ↔ sendable ∧ ∃ text, outcome = .ok text
  unknown_iff : response.status = 404 ↔ ∃ unknown, outcome = .error (.error (.unknownQuery unknown))
  refused_iff : response.status = 422 ↔ ∃ cause, outcome = .error (.error cause) ∧
    ∀ unknown, cause ≠ .unknownQuery unknown
  failed_iff : response.status = 500 ↔ (¬ sendable ∧ ∃ text, outcome = .ok text) ∨
    ∃ failure, outcome = .error failure ∧ ∀ cause, failure ≠ .error cause
  text : sendable → ∀ text, outcome = .ok text →
    response.content = some (.recordOf [("id", .text id), ("query", .text text)])
  message : ∀ cause, outcome = .error (.error cause) →
    response.content = some (Reply.detail cause.message)

namespace Service

open Json (Codes Document IsRead)

variable {service : Service} {request : Request} {id : Text} {asked : Body}

/-- The reply that tells the outcome of a rendering. -/
def outcomeReply (environment : Environment) (id : Text) (sendable : Bool) : Except RenderFailure Text → Reply
  | .ok text =>
    if sendable then .rendered id text else .failed (if environment = .local then some notPlain else none)
  | .error (.error (.unknownQuery unknown)) => .unknownQuery unknown
  | .error (.error cause) => .refused cause
  | .error failure => .failed (if environment = .local then some failure.message else none)

theorem tellsOutcome_sent (environment : Environment) (id : Text) (sendable : Bool)
    (outcome : Except RenderFailure Text) :
    (outcomeReply environment id sendable outcome).sent.TellsOutcome id (sendable = true) outcome := by
  cases outcome with
  | ok text =>
    cases sendable <;> constructor <;> simp [outcomeReply, Reply.sent, Reply.status, Reply.content?]
  | error failure =>
    cases failure with
    | error cause =>
      cases cause <;> constructor <;> simp [outcomeReply, Reply.sent, Reply.status, Reply.content?]
    | longInteger | processor =>
      constructor <;> simp [outcomeReply, Reply.sent, Reply.status]

/-- The response to a request. -/
def responseTo (service : Service) (request : Request) : Response :=
  service.respond request.method request.target request.body

/-- The answer to a question can be sent: in what a query refers to, no surrogate stands alone. Where one does, the
text that a processor of this library writes holds the replacement of one (`Body.replaced_of_render`). -/
def CanSend (service : Service) : Question → Prop
  | .list | .tokens _ => True
  | .render id body => body.isPlainFor ((service.manager.tokens? id).getD []) = true

/-- The response that the manager's answer to a question calls for. -/
def Answers (service : Service) (response : Response) : Question → Prop
  | .list => ∃ ids : List Text,
      response = ⟨200, some (.recordOf [("data", .list (ids.map .text)), ("count", .int ids.length)])⟩ ∧
      ids.Pairwise (· < ·) ∧ (∀ id, id ∈ ids ↔ id ∈ service.manager.registry.ids) ∧
      ids.length = service.manager.count
  | .tokens id => response = (match service.manager.tokens? id with
      | some tokens => Reply.tokens id tokens
      | none => Reply.unknownQuery id).sent
  | .render id body =>
      response.TellsOutcome id (service.CanSend (.render id body))
        (service.manager.render id body.arguments).result

/-! ## Runs -/

theorem responseTo_render (asks : request.Asks (.render id asked)) : service.responseTo request =
    (outcomeReply service.environment id (asked.isPlainFor ((service.manager.tokens? id).getD []))
      (service.manager.render id asked.arguments).result).sent := by
  have followed := @respond_of_method service _ request.body _ _ asks.method asks.routed
  have accepted := asks.accepted id asked rfl
  refine followed.trans (congrArg Reply.sent ?_)
  simp only [Question.route, follow, render, accepted, Logged.andThen, Logged.map]
  cases (service.manager.render id asked.arguments).result with
  | ok text => cases plain : asked.isPlainFor ((service.manager.tokens? id).getD []) <;> rfl
  | error failure =>
    cases failure with
    | error cause =>
      cases cause with
      | unknownQuery | missingPositional | missingNamed | unsupportedValue => rfl
    | longInteger | processor => rfl

theorem answers_render (asks : request.Asks (.render id asked)) :
    service.Answers (service.responseTo request) (.render id asked) := by
  rw [responseTo_render asks]
  exact tellsOutcome_sent _ _ _ _

/-- A text that a processor of this library writes is sent, unless it holds a replacement. -/
theorem status_eq_200 {stock : List Value} (built_in : BuiltIn stock service.manager.processor)
    (asks : request.Asks (.render id asked)) {text : Text}
    (rendered : (service.manager.render id asked.arguments).result = .ok text) (kept : '\uFFFD' ∉ text) :
    (service.responseTo request).status = 200 := by
  have sendable : service.CanSend (.render id asked) := by
    by_contra unsendable
    rw [Manager.render_result] at rendered
    exact kept (Body.replaced_of_render built_in (Bool.eq_false_iff.mpr unsendable) rendered)
  exact (answers_render asks).ok_iff.mpr ⟨sendable, text, rendered⟩

end Service

/-! ## Failures -/

namespace Service

variable {service : Service} {request : Request}

end Service

end QueryTemplates
