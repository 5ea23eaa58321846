import QueryTemplates.Proofs.Definitions.Identifiers
import QueryTemplates.Proofs.Rendering.Unknown
import QueryTemplates.Proofs.Server.Segments
import QueryTemplates.Server.Basic

/-! # Queries that can be reached

Every query that the service lists can be asked for under its identifier, as long as there is no slash in it.
A query with a slash in its identifier is listed, but no path leads to it.
-/

namespace QueryTemplates

/-! ## Requests -/

/-- The reply as it is sent. -/
def Reply.sent (reply : Reply) : Response := ⟨reply.status, reply.content?⟩

namespace Service

variable {service : Service} {target : Text} {body : Option Text}

/-- The response to a request. -/
def respond (service : Service) (method target : Text) (body : Option Text) : Response :=
  (service.handle ⟨method, target, body⟩).result.2

theorem plain_of_method (route : Route) :
    route.method.map Char.toUpper = route.method ∧ route.method ≠ bareMethod := by
  have method : route.method = "GET".toList ∨ route.method = "POST".toList := by
    cases route with
    | queries | tokens => exact .inl rfl
    | render => exact .inr rfl
  rcases method with get | post
  · rw [get]
    decide
  · rw [post]
    decide

/-- A request with the method of its route is followed, however the method is written. -/
theorem respond_of_method {method : Text} {route : Route} (upper : method.map Char.toUpper = route.method)
    (routed : Route.ofPath? (targetPath target) = some route) :
    service.respond method target body =
      (service.follow route.method (targetPath target) body route).result.2.sent := by
  have not_bare := (plain_of_method route).2
  simp only [respond, handle, reply, upper, routed, if_true, not_bare, if_false, Logged.map]
  rfl

theorem respond_of_route {route : Route} (routed : Route.ofPath? (targetPath target) = some route) :
    service.respond route.method target body =
      (service.follow route.method (targetPath target) body route).result.2.sent :=
  respond_of_method (plain_of_method route).1 routed

/-- Nothing is found where there is no route, whatever the method. -/
theorem status_respond_of_astray (method : Text)
    (astray : Route.ofPath? (targetPath target) = none ∧ Route.isNear (targetPath target) = false) :
    (service.respond method target body).status = 404 := by
  obtain ⟨no_route, far⟩ := astray
  simp only [respond, handle, reply, no_route, far, Logged.map, Logged.quiet]
  rfl

theorem respond_tokens {id : Text} {tokens : List Token}
    (routed : Route.ofPath? (targetPath target) = some (.tokens id))
    (known : service.manager.tokens? id = some tokens) :
    service.respond "GET".toList target body = (Reply.tokens id tokens).sent := by
  have followed := @respond_of_route service target body _ routed
  simp only [follow, known, Logged.quiet] at followed
  exact followed

theorem status_respond_render {id : Text} {tokens : List Token} {asked : Body}
    (routed : Route.ofPath? (targetPath target) = some (.render id))
    (known : service.manager.tokens? id = some tokens)
    (knows : service.manager.processor.KnowsQueries) (accepted : Body.read body = .ok asked) :
    (service.respond "POST".toList target body).status ≠ 404 := by
  have followed := @respond_of_route service target body _ routed
  have rendered := @Manager.render_result service.manager id asked.arguments
  simp only [follow, render, accepted, Logged.andThen, Logged.map] at followed
  change service.respond "POST".toList target body = _ at followed
  rw [followed]
  split
  · split
    · exact Nat.ne_of_beq_eq_false rfl
    · exact Nat.ne_of_beq_eq_false rfl
  · next unknown told =>
    rw [rendered] at told
    obtain ⟨absent, -⟩ := knows.render_eq_unknownQuery_iff.mp told
    rw [Manager.tokens?, absent] at known
    cases known
  · exact Nat.ne_of_beq_eq_false rfl
  · exact Nat.ne_of_beq_eq_false rfl

end Service

/-! ## Listed queries -/

/-- The service around the manager after operations. -/
def Origin.service (origin : Origin) (environment : Environment) (operations : List Operation) : Service :=
  ⟨environment, (origin.session.after operations).manager⟩

/-- The service lists the queries of its manager. To every query without a slash in its identifier there are
paths, one for each way to write the identifier as a segment: there its tokens are told, and rendering it is
not refused as unknown. To a query with a slash in its identifier there is no path. This holds whatever was
done with the manager, unless a processor that is not of this library says itself that queries are
unknown. -/
theorem reachable_of_listed (environment : Environment) (origin : Origin) (operations : List Operation)
    (knows : ∀ own, origin.processor = some own → own.KnowsQueries) :
    let service := origin.service environment operations
    let ids := service.manager.registry.sortedIds
    (∀ body, service.respond "GET".toList (Route.path .queries) body =
      ⟨200, some (.recordOf [("data", .list (ids.map .text)), ("count", .int ids.length)])⟩) ∧
    ∀ id ∈ ids, (∃ segment, IsSegmentOf segment id) ∧
      ('/' ∉ id → ∃ tokens, service.manager.tokens? id = some tokens ∧
        ∀ segment, IsSegmentOf segment id →
          (∀ body, service.respond "GET".toList (Route.path (.tokens segment)) body =
            ⟨200, some (.recordOf [("id", .text id), ("tokens", .list (tokens.map Token.described))])⟩) ∧
          ∀ body asked, Body.read body = .ok asked →
            (service.respond "POST".toList (Route.path (.render segment)) body).status ≠ 404) ∧
      ('/' ∈ id → ∀ segment, IsSegmentOf segment id → ∀ body,
        (service.respond "GET".toList (Route.path (.tokens segment)) body).status = 404 ∧
          (service.respond "POST".toList (Route.path (.render segment)) body).status = 404) := by
  intro service ids
  have follows := (Session.follows_session origin).after operations
  have processor_knows : service.manager.processor.KnowsQueries := by
    change (origin.session.after operations).manager.processor.KnowsQueries
    rw [follows.processor, Origin.usedProcessor]
    cases own : origin.processor with
    | none => exact origin.config.knowsQueries
    | some processor => exact knows processor own
  refine ⟨?_, fun id listed => ⟨exists_segment id, ?_, ?_⟩⟩
  · intro body
    exact @Service.respond_of_route service _ body .queries (by decide +kernel)
  · intro plain
    obtain ⟨tokens, known⟩ := Dictionary.exists_of_mem_keys (Registry.mem_sortedIds.mp listed)
    have not_blank := not_blank_of_mem_sortedIds origin operations id listed
    have some_id : id ≠ [] := by
      rintro rfl
      cases not_blank
    refine ⟨tokens, known, fun segment stands => ⟨?_, ?_⟩⟩
    · intro body
      exact Service.respond_tokens (Route.ofPath?_targetPath_tokens stands some_id plain) known
    · intro body asked accepted
      exact Service.status_respond_render (Route.ofPath?_targetPath_render stands some_id plain) known
        processor_knows accepted
  · intro slash segment stands body
    exact ⟨Service.status_respond_of_astray _ (Route.astray_of_slash stands (List.mem_cons_self ..) slash),
      Service.status_respond_of_astray _
        (Route.astray_of_slash stands (List.mem_cons_of_mem _ (List.mem_cons_self ..)) slash)⟩

/-- A file with one query, in whose identifier there are a space and a percent sign. -/
def spacedFiles : FileTree := .directory [(['t'], .file "ID: a b%\n$\x7bx\x7d".toUTF8.toList)]

/-- A manager among these files. -/
def spacedOrigin : Origin := ⟨.standard, none, spacedFiles⟩

/-- The service around this manager after a load. -/
def spacedService : Service := spacedOrigin.service .local [.load [['t']]]

theorem reachable_of_listed_spaced :
    (∀ own, spacedOrigin.processor = some own → own.KnowsQueries) ∧
      "a b%".toList ∈ spacedService.manager.registry.sortedIds ∧
      IsSegmentOf "a%20b%25".toList "a b%".toList ∧
        (∀ body, spacedService.respond "GET".toList (Route.path (.tokens "a%20b%25".toList)) body =
          ⟨200, some (.recordOf [("id", .text "a b%".toList),
            ("tokens", .list [Token.described (.named ['x'] none)])])⟩) ∧
        (spacedService.respond "POST".toList (Route.path (.render "a%20b%25".toList))
          (some "\x7b\x7d".toList)).status ≠ 404 := by
  have knows : ∀ own, spacedOrigin.processor = some own → own.KnowsQueries := fun _ none => nomatch none
  have listed : "a b%".toList ∈ spacedService.manager.registry.sortedIds := by decide +kernel
  have known : spacedService.manager.tokens? "a b%".toList =
      some [.named ['x'] (some "$\x7bx\x7d".toList)] := by
    decide +kernel
  have bytes : Utf8.encode "a b%".toList =
      Utf8.encode ['a'] ++
        UInt8.ofNat (2 * 16 + 0) :: (Utf8.encode ['b'] ++ [UInt8.ofNat (2 * 16 + 5)]) := by
    decide +kernel
  have stands : IsSegmentOf "a%20b%25".toList "a b%".toList := by
    refine ⟨?_, by decide, by decide⟩
    rw [bytes]
    exact .plain rfl (.escape rfl rfl (.plain rfl (.escape rfl rfl .nil)))
  have accepted : Body.read (some "\x7b\x7d".toList) = .ok ⟨[], []⟩ := by rfl
  obtain ⟨-, reached⟩ := reachable_of_listed .local spacedOrigin [.load [['t']]] knows
  obtain ⟨-, plain, -⟩ := reached _ listed
  obtain ⟨tokens, told, answers⟩ := plain (by decide)
  obtain ⟨tokens_answer, render_answer⟩ := answers _ stands
  rw [← Option.some.inj (known.symm.trans told)] at tokens_answer
  exact ⟨knows, listed, stands, tokens_answer, render_answer _ _ accepted⟩

/-- A file with three queries: there is a slash in the identifier of one, and that of another is a dot. -/
def slashFiles : FileTree :=
  .directory [(['t'], .file "ID:a/b\nSELECT 1\nID:.\nSELECT 2\nID:q\nSELECT $\x7bx\x7d".toUTF8.toList)]

/-- A processor that says of every query that it is unknown. -/
def denyingProcessor : Processor where
  format _ id _ := .error (.error (.unknownQuery id))
  substitute _ id := .error (.error (.unknownQuery id))

/-- The service around a manager that has loaded this file. -/
def slashService (processor : Option Processor) : Service :=
  ⟨.local, ((Manager.create .standard processor).load slashFiles [['t']]).result.1⟩

/-- No path leads to the first of these queries. The segment that is a dot does not lead to the second one,
and a processor can say that the third one is unknown. -/
theorem listed_but_not_found :
    ((Manager.create .standard none).load slashFiles [['t']]).result.2 = .ok () ∧
      (∃ ids : List Text, (slashService none).respond "GET".toList "/api/v1/queries".toList none =
        ⟨200, some (.recordOf [("data", .list (ids.map .text)), ("count", .int ids.length)])⟩ ∧
        ∀ id ∈ ["a/b".toList, ['.'], ['q']], id ∈ ids) ∧
      Escapes "a%2Fb".toList (Utf8.encode "a/b".toList) ∧
      ((slashService none).respond "GET".toList "/api/v1/queries/a%2Fb/tokens".toList none).status = 404 ∧
      Escapes ".".toList (Utf8.encode ".".toList) ∧
      ((slashService none).respond "GET".toList "/api/v1/queries/./tokens".toList none).status = 404 ∧
      Body.read (some "\x7b\x7d".toList) = .ok ⟨[], []⟩ ∧
      ((slashService (some denyingProcessor)).respond "POST".toList "/api/v1/queries/q/render".toList
        (some "\x7b\x7d".toList)).status = 404 := by
  have loaded : ((Manager.create .standard none).load slashFiles [['t']]).result.2 = .ok () := by
    decide +kernel
  have ids : ∀ id ∈ ["a/b".toList, ['.'], ['q']], id ∈ (slashService none).manager.registry.ids := by
    decide +kernel
  have listing := @Service.respond_of_route (slashService none) "/api/v1/queries".toList none .queries
    (by decide +kernel)
  have slash : Utf8.encode "a/b".toList =
      Utf8.encode ['a'] ++ UInt8.ofNat (2 * 16 + 15) :: (Utf8.encode ['b'] ++ []) := by
    decide +kernel
  have all_listed : ∀ id ∈ ["a/b".toList, ['.'], ['q']],
      id ∈ (slashService none).manager.registry.sortedIds :=
    fun id one => Registry.mem_sortedIds.mpr (ids id one)
  refine ⟨loaded, ⟨_, listing, all_listed⟩, ?_, ?_, ?_, ?_, rfl, ?_⟩
  · rw [slash]
    exact .plain rfl (.escape rfl rfl (.plain rfl .nil))
  · decide +kernel
  · exact .plain rfl .nil
  · decide +kernel
  · decide +kernel

end QueryTemplates
