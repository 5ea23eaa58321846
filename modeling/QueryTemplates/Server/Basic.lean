import QueryTemplates.Manager.Basic
import QueryTemplates.Server.Reply
import QueryTemplates.Server.Route
import QueryTemplates.Settings

/-! # The service

The service lists the queries of a manager, shows their tokens and renders them. Errors of the caller are
told as such; any other failure is logged, and its reason is told only in the local environment.
-/

namespace QueryTemplates

/-- A request. The target is the path with what may follow it. -/
structure Request where
  method : Text
  target : Text
  body : Option Text

/-- A reply as it is sent: no value stands for an empty text. -/
structure Response where
  status : Nat
  content : Option Value

/-- The service around a manager. -/
structure Service where
  environment : Environment
  manager : Manager

namespace Service

/-! ## Startup -/

/-- The report that the service is ready. -/
def readyEntry (manager : Manager) : LogEntry :=
  ⟨.info, .server, "Loaded " ++ toString manager.count ++ " queries"⟩

/-- Loads the queries, unless that has been done. -/
def startUp (service : Service) (root : FileTree) :
    Logged (Service × Except StartupFailure Unit) :=
  let loaded : Logged (Manager × Except StartupFailure Unit) :=
    if service.manager.started then .quiet (service.manager, .ok ()) else service.manager.start root
  loaded.andThen fun
    | (manager, .ok _) => ⟨[readyEntry manager], ({ service with manager }, .ok ())⟩
    | (manager, .error failure) => .quiet ({ service with manager }, .error failure)

/-! ## Requests -/

/-- The path as it is logged: up to a question mark or number sign, without tabs and line breaks. -/
def loggedPath (path : Text) : Text :=
  (path.takeWhile fun c => c != '?' && c != '#').filter fun c =>
    c != '\t' && c != '\n' && c != '\r'

/-- The reply to a failure, which is logged. -/
def fail (service : Service) (method path : Text) (reason : String) : Logged Reply :=
  ⟨[⟨.error, .server,
      "Unhandled exception on " ++ method.asString ++ " " ++ (loggedPath path).asString⟩],
    .failed (if service.environment = .local then some reason else none)⟩

/-- The reason why parts of a body with numbers that are not finite cannot be told. -/
def notFinite : String := "Out of range float values are not JSON compliant"

/-- The reason, without the place, why a text in which a surrogate stands alone cannot be sent. -/
def notPlain : String := "surrogates not allowed"

/-- The reply to a body that is not valid. -/
def refuse (service : Service) (method path : Text) (problems : List BodyProblem) : Logged Reply :=
  if problems.all fun problem => problem.input.isFinite then
    if problems.all fun problem => problem.input.isPlain then .quiet (.invalid problems)
    else service.fail method path notPlain
  else service.fail method path notFinite

/-- The reply to a request that a query be rendered. A surrogate that stands alone in what the query refers to
stands in its text too, as the processors of this library write it, and then the text cannot be sent. -/
def render (service : Service) (method path id : Text) (body : Option Text) : Logged (Manager × Reply) :=
  match Body.read body with
  | .error .unreadable => .quiet (service.manager, .unreadableBody)
  | .error (.invalid problems) => (service.refuse method path problems).map (service.manager, ·)
  | .ok body =>
    (service.manager.render id body.arguments).andThen fun outcome =>
      let reply : Logged Reply := match outcome with
        | .ok text =>
          if body.isPlainFor ((service.manager.tokens? id).getD []) then .quiet (.rendered id text)
          else service.fail method path notPlain
        | .error (.error (.unknownQuery unknown)) => .quiet (.unknownQuery unknown)
        | .error (.error cause) => .quiet (.refused cause)
        | .error failure => service.fail method path failure.message
      reply.map (service.manager, ·)

/-- The reply to a request with the method of its route, and the manager that it leaves. -/
def follow (service : Service) (method path : Text) (body : Option Text) :
    Route → Logged (Manager × Reply)
  | .queries => .quiet (service.manager, .queries service.manager.registry.sortedIds)
  | .tokens id =>
    .quiet (service.manager, match service.manager.tokens? id with
      | some tokens => .tokens id tokens
      | none => .unknownQuery id)
  | .render id => service.render method path id body

/-- The method of requests whose replies have no content. -/
def bareMethod : Text := "HEAD".toList

/-- The reply to a request, and the manager that it leaves. -/
def reply (service : Service) (request : Request) : Logged (Manager × Reply) :=
  let method := request.method.map Char.toUpper
  let path := targetPath request.target
  match Route.ofPath? path with
  | some route =>
    if method = route.method then service.follow method path request.body route
    else .quiet (service.manager, .wrongMethod)
  | none => .quiet (service.manager, if Route.isNear path then .redirect else .notFound)

/-- Handles a request. -/
def handle (service : Service) (request : Request) : Logged (Service × Response) :=
  (service.reply request).map fun (manager, reply) =>
    let content := if request.method.map Char.toUpper = bareMethod then none else reply.content?
    ({ service with manager }, ⟨reply.status, content⟩)

/-- Handles requests one after another. -/
def run (service : Service) : List Request → Logged (Service × List Response)
  | [] => .quiet (service, [])
  | request :: rest =>
    (service.handle request).andThen fun (later, response) =>
      (run later rest).map fun (last, responses) => (last, response :: responses)

end Service

end QueryTemplates
