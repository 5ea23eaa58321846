import QueryTemplates.Proofs.Dictionary
import QueryTemplates.Proofs.Manager.History
import QueryTemplates.Proofs.Manager.Loading

/-! # Managers answer as their histories say

A manager keeps the queries of a load and the texts of fragments. The texts that are kept are those that
rendering gives, so that every answer is the one that the history of the manager determines.
-/

namespace QueryTemplates

namespace Manager

variable {manager : Manager} {origin : Origin}

/-- What the manager builds is what there is to be found in the files. -/
theorem buildRegistry_result (origin : Origin) (files : FileTree) (paths : List Text) :
    (buildRegistry origin.config files paths).result = origin.foundIn files paths := by
  rw [buildRegistry, Origin.foundIn]
  cases Placeholder.compile origin.config.pattern with
  | error failure => rfl
  | ok placeholder =>
    simp only [Logged.map]
    cases (QueryTemplates.load files origin.config.format origin.config.policy paths).result with
    | error failure => rfl
    | ok definitions => rfl

theorem start_result (configured : manager.config = origin.config) (files : FileTree) :
    (manager.start files).result = manager.adopt (origin.foundAtLocation files) := by
  simp only [start, Logged.after, Origin.foundAtLocation, configured]
  cases files.list origin.config.location.text with
  | error failure => rfl
  | ok paths =>
    change (manager.load files (paths.map Path.text)).result = _
    rw [load_result, configured, buildRegistry_result]

theorem render_result (id : Text) (arguments : Arguments) :
    (manager.render id arguments).result = manager.registry.render manager.processor id arguments := by
  rw [render, Registry.renderLogged]
  split
  · next failed => exact failed.symm
  · next written => exact written.symm

/-! ## Fragments -/

/-- Each text that is kept is the one that its query is rendered to. -/
def KeepsRenderings (manager : Manager) : Prop :=
  ∀ id text, manager.fragments.get? id = some text →
    manager.registry.render manager.processor id .none = .ok text

/-- The manager that keeps one more text. -/
def keep (manager : Manager) (id text : Text) : Manager :=
  { manager with fragments := manager.fragments.put id text }

theorem KeepsRenderings.publish (registry : Registry) : (manager.publish registry).KeepsRenderings := by
  intro id text found
  rw [Manager.publish, Dictionary.get?_empty] at found
  cases found

theorem KeepsRenderings.keep (keeps : manager.KeepsRenderings) {id text : Text}
    (written : manager.registry.render manager.processor id .none = .ok text) :
    (manager.keep id text).KeepsRenderings := by
  intro other kept found
  rw [Manager.keep, Dictionary.get?_put] at found
  split at found
  · next same =>
    cases found
    rw [same]
    exact written
  · exact keeps other kept found

/-- A fragment is what rendering gives. -/
theorem fragment_answer (keeps : manager.KeepsRenderings) (id : Text) :
    (manager.fragment id).result.2 = manager.registry.render manager.processor id .none := by
  rw [fragment]
  cases kept : manager.fragments.get? id with
  | some text => exact (keeps id text kept).symm
  | none =>
    simp only [Logged.map, render_result]
    cases manager.registry.render manager.processor id .none with
    | error failure => rfl
    | ok text => rfl

/-- A text may be kept, but nothing else is changed, and nothing at all by a fragment that fails. -/
theorem fragment_manager (id : Text) :
    (manager.fragment id).result.1 = manager ∨ ∃ text,
      manager.registry.render manager.processor id .none = .ok text ∧
        (manager.fragment id).result.1 = manager.keep id text := by
  rw [fragment]
  cases manager.fragments.get? id with
  | some text => exact .inl rfl
  | none =>
    simp only [Logged.map, render_result]
    cases manager.registry.render manager.processor id .none with
    | error failure => exact .inl rfl
    | ok text => exact .inr ⟨text, rfl, rfl⟩

end Manager

/-! ## Sessions -/

/-- The operation loads queries. -/
def Operation.isLoad : Operation → Bool
  | .load _ | .start | .reload => true
  | _ => false

/-- The session is as its history says: what its manager holds is what the operations of the past amount
to, and the texts that are kept are renderings. -/
structure Session.Follows (origin : Origin) (past : List Operation) (session : Session) : Prop where
  files : session.files = origin.filesAfter past
  config : session.manager.config = origin.config
  processor : session.manager.processor = origin.usedProcessor
  registry : session.manager.registry = origin.registryAfter past
  loads : session.manager.loads = origin.loadsAfter past
  held : session.snapshot = origin.heldAfter past
  keeps : session.manager.KeepsRenderings

namespace Session

/-- The session after operations. -/
def after (session : Session) : List Operation → Session
  | [] => session
  | operation :: rest => (session.step operation).result.1.after rest

variable {origin : Origin} {past : List Operation} {session : Session}

theorem follows_session (origin : Origin) : origin.session.Follows origin [] where
  files := rfl
  config := rfl
  processor := rfl
  registry := rfl
  loads := rfl
  held := rfl
  keeps := fun id text found => by cases found

namespace Follows

/-- A load makes the queries that it found those of the manager. -/
theorem adopt (follows : session.Follows origin past) {operation : Operation}
    {outcome : Except StartupFailure Registry}
    (found : origin.found? (origin.filesAfter past) operation = some outcome) :
    (session.afterLoad (session.manager.adopt outcome)).1.Follows origin (operation :: past) := by
  obtain ⟨files, held⟩ := Origin.filesAfter_load past found
  cases outcome with
  | error failure =>
    exact { follows with
      files := follows.files.trans files.symm
      registry := follows.registry.trans (Origin.registryAfter_failed found).symm
      loads := follows.loads.trans (Origin.loadsAfter_failed found).symm
      held := follows.held.trans held.symm }
  | ok registry =>
    exact { follows with
      files := follows.files.trans files.symm
      registry := (Origin.registryAfter_found found).symm
      loads := (congrArg (· + 1) follows.loads).trans (Origin.loadsAfter_found found).symm
      held := follows.held.trans held.symm
      keeps := .publish registry }

/-- A load finds what the history says that it finds. -/
theorem step_load (follows : session.Follows origin past) {operation : Operation}
    {outcome : Except StartupFailure Registry}
    (found : origin.found? (origin.filesAfter past) operation = some outcome) :
    (session.step operation).result = session.afterLoad (session.manager.adopt outcome) := by
  cases operation with
  | load paths =>
    cases found
    change session.afterLoad (session.manager.load session.files paths).result = _
    rw [Manager.load_result, follows.config, follows.files, Manager.buildRegistry_result]
  | start | reload =>
    cases found
    change session.afterLoad (session.manager.start session.files).result = _
    rw [Manager.start_result follows.config, follows.files]
  | _ => cases found

/-- Each operation leaves the session as its longer history says. -/
theorem step (follows : session.Follows origin past) (operation : Operation) :
    (session.step operation).result.1.Follows origin (operation :: past) := by
  cases operation with
  | write path tree =>
    exact { follows with files := congrArg (·.write (Path.ofText path) tree) follows.files }
  | delete path => exact { follows with files := congrArg (·.delete (Path.ofText path)) follows.files }
  | change others => exact { follows with files := rfl }
  | load | start | reload =>
    rw [follows.step_load rfl]
    exact follows.adopt rfl
  | fragment id =>
    change Follows origin _ { session with manager := (session.manager.fragment id).result.1 }
    rcases Manager.fragment_manager id with same | ⟨text, written, kept⟩
    · rw [same]
      exact { follows with files := follows.files }
    · rw [kept]
      exact { follows with keeps := follows.keeps.keep written }
  | hold =>
    have held : some (Snapshot.mk session.manager.registry session.manager.loads) =
        some ⟨origin.registryAfter past, origin.loadsAfter past⟩ := by
      rw [follows.registry, follows.loads]
    exact { follows with held }
  | render | build | tokens | source | namedParameters | positionalCount | ids | order | count | held =>
    exact { follows with files := follows.files }

/-- The answer to a load tells what it found. -/
theorem loadAnswer_adopt (manager : Manager) (outcome : Except StartupFailure Registry) :
    (session.afterLoad (manager.adopt outcome)).2 = Origin.loadAnswer outcome := by
  cases outcome with
  | error failure => rfl
  | ok registry => rfl

/-- Each operation has the answer that the history says. -/
theorem answer (follows : session.Follows origin past) (operation : Operation) :
    (session.step operation).result.2 = origin.answer past operation := by
  cases operation with
  | write | delete | change => rfl
  | load | start | reload =>
    rw [follows.step_load rfl, loadAnswer_adopt]
    rfl
  | render id arguments =>
    change rendered (session.manager.render id arguments).result = _
    rw [Manager.render_result, follows.registry, follows.processor]
    rfl
  | build id named =>
    change rendered (session.manager.render id ⟨[], named⟩).result = _
    rw [Manager.render_result, follows.registry, follows.processor]
    rfl
  | fragment id =>
    change rendered (session.manager.fragment id).result.2 = _
    rw [Manager.fragment_answer follows.keeps, follows.registry, follows.processor]
    rfl
  | tokens | source | namedParameters | positionalCount | ids | order | count | hold =>
    simp only [Session.step, Origin.answer, ← follows.registry]
    rfl
  | held id =>
    simp only [Session.step, Origin.answer, ← follows.registry, ← follows.loads, ← follows.held]
    rfl

/-- An operation that fails changes nothing. -/
theorem unchanged (follows : session.Follows origin past) {operation : Operation} {failure : SessionFailure}
    (failed : (session.step operation).result.2 = .error failure) :
    (session.step operation).result.1 = session := by
  have unchanged_of_load {outcome : Except StartupFailure Registry}
      (failed : (session.afterLoad (session.manager.adopt outcome)).2 = .error failure) :
      (session.afterLoad (session.manager.adopt outcome)).1 = session := by
    cases outcome with
    | error cause => rfl
    | ok registry => cases failed
  cases operation with
  | load | start | reload =>
    rw [follows.step_load rfl] at failed ⊢
    exact unchanged_of_load failed
  | fragment id =>
    change rendered (session.manager.fragment id).result.2 = _ at failed
    change { session with manager := (session.manager.fragment id).result.1 } = session
    rcases Manager.fragment_manager id with same | ⟨text, written, -⟩
    · rw [same]
    · rw [Manager.fragment_answer follows.keeps, written] at failed
      cases failed
  | render | build => rfl
  | write | delete | change | tokens | source | namedParameters | positionalCount | ids | order | count
  | hold | held => cases failed

theorem started_iff (follows : session.Follows origin past) :
    session.manager.started = true ↔ 0 < origin.loadsAfter past := by
  rw [Manager.started, follows.loads, decide_eq_true_iff]

/-- Operations lengthen the history. -/
theorem after (follows : session.Follows origin past) (operations : List Operation) :
    (session.after operations).Follows origin (operations.reverse ++ past) := by
  induction operations generalizing session past with
  | nil => exact follows
  | cons operation rest ih =>
    rw [List.reverse_cons, List.append_assoc]
    exact ih (follows.step operation)

theorem answers (follows : session.Follows origin past) (operations : List Operation) :
    (session.run operations).result.map Prod.fst = origin.answers past operations := by
  induction operations generalizing session past with
  | nil => rfl
  | cons operation rest ih =>
    have first := follows.answer operation
    have others := ih (follows.step operation)
    exact congrArg₂ List.cons first others

/-- A load succeeds exactly when it finds queries. -/
theorem done_iff (follows : session.Follows origin past) {operation : Operation} :
    operation.isLoad = true ∧ (session.step operation).result.2 = .ok .done ↔
      ∃ registry, origin.found? (origin.filesAfter past) operation = some (.ok registry) := by
  have found_iff {outcome : Except StartupFailure Registry} :
      Origin.loadAnswer outcome = .ok .done ↔ ∃ registry, outcome = .ok registry := by
    cases outcome with
    | error failure => simp [Origin.loadAnswer]
    | ok registry => simp [Origin.loadAnswer]
  rw [follows.answer operation]
  cases operation with
  | load paths => simp [Operation.isLoad, Origin.answer, Origin.found?, found_iff]
  | start | reload => simp [Operation.isLoad, Origin.answer, Origin.found?, found_iff]
  | _ => simp [Operation.isLoad, Origin.found?]

end Follows

end Session

/-- A manager answers as if it kept nothing but its history. Every answer in a run is the one that the files
and the queries of the most recent load that succeeded determine. After any operations a fragment is what
rendering without arguments gives, an operation that fails changes nothing, and the manager has started
exactly if a load has succeeded. -/
theorem run_agrees_with_history (origin : Origin) (operations : List Operation) :
    (origin.session.run operations).result.map Prod.fst = origin.answers [] operations ∧
      let session := origin.session.after operations
      (∀ id, (session.step (.fragment id)).result.2 = (session.step (.render id .none)).result.2) ∧
      (∀ operation failure, (session.step operation).result.2 = .error failure →
        (session.step operation).result.1 = session) ∧
      (session.manager.started = true ↔ ∃ earlier operation later,
        operations = earlier ++ operation :: later ∧ operation.isLoad = true ∧
          ((origin.session.after earlier).step operation).result.2 = .ok .done) := by
  have start := Session.follows_session origin
  have follows := start.after operations
  refine ⟨start.answers operations, ?_, ?_, ?_⟩
  · intro id
    rw [follows.answer, follows.answer]
    rfl
  · intro operation failure failed
    exact follows.unchanged failed
  · rw [follows.started_iff, Origin.loadsAfter_pos, List.append_nil]
    constructor
    · rintro ⟨later, operation, earlier, registry, split, found⟩
      refine ⟨earlier.reverse, operation, later.reverse, ?_, ?_⟩
      · rw [← List.reverse_reverse operations, split]
        simp
      · have earlier_follows := start.after earlier.reverse
        rw [List.reverse_reverse, List.append_nil] at earlier_follows
        exact earlier_follows.done_iff.mpr ⟨registry, found⟩
    · rintro ⟨earlier, operation, later, rfl, done⟩
      have earlier_follows := start.after earlier
      rw [List.append_nil] at earlier_follows
      obtain ⟨registry, found⟩ := earlier_follows.done_iff.mp done
      exact ⟨later.reverse, operation, earlier.reverse, registry, by simp, found⟩

end QueryTemplates
