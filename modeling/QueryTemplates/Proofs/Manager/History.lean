import QueryTemplates.Manager.Session

/-! # What the operations of the past amount to

The answer to an operation is determined by the operations that came before it: by the files that they left
and by the queries of the most recent load that succeeded. Nothing here is kept from one operation to the
next. Histories are lists of operations, of which the latest one comes first.
-/

namespace QueryTemplates

/-- Where a history begins: a new manager among its files. -/
structure Origin where
  config : Config
  /-- the processor, if it is not the configured one -/
  processor : Option Processor
  files : FileTree

namespace Origin

variable (origin : Origin)

/-- The session before the first operation. -/
def session : Session := Session.create origin.files (Manager.create origin.config origin.processor)

/-- The processor that is in use. -/
def usedProcessor : Processor := origin.processor.getD origin.config.processor

/-- The queries in files of given paths, or why they cannot be loaded: the pattern is compiled, then the files are
loaded, then the queries are built. -/
def foundIn (files : FileTree) (paths : List Text) : Except StartupFailure Registry := do
  let placeholder ← Placeholder.compile origin.config.pattern
  let definitions ← (QueryTemplates.load files origin.config.format origin.config.policy paths).result
  (Registry.build placeholder origin.config.newLine definitions).mapError fun malformation =>
    .error (.malformed none malformation)

/-- The queries in all files at the configured location, or why they cannot be loaded. -/
def foundAtLocation (files : FileTree) : Except StartupFailure Registry :=
  match files.list origin.config.location.text with
  | .error failure => .error failure
  | .ok paths => origin.foundIn files (paths.map Path.text)

/-- What an operation finds if it is a load. -/
def found? (files : FileTree) : Operation → Option (Except StartupFailure Registry)
  | .load paths => some (origin.foundIn files paths)
  | .start | .reload => some (origin.foundAtLocation files)
  | _ => none

/-- The files after a history. -/
def filesAfter : (past : List Operation) → FileTree
  | [] => origin.files
  | .write path tree :: past => (filesAfter past).write (Path.ofText path) tree
  | .delete path :: past => (filesAfter past).delete (Path.ofText path)
  | .change files :: _ => files
  | _ :: past => filesAfter past

/-- The queries of the most recent load that succeeded, and none before the first one. -/
def registryAfter : (past : List Operation) → Registry
  | [] => .empty
  | operation :: past =>
    match origin.found? (origin.filesAfter past) operation with
    | some (.ok registry) => registry
    | _ => registryAfter past

/-- The number of loads that succeeded. -/
def loadsAfter : (past : List Operation) → Nat
  | [] => 0
  | operation :: past =>
    match origin.found? (origin.filesAfter past) operation with
    | some (.ok _) => loadsAfter past + 1
    | _ => loadsAfter past

/-- The registry that was held last. -/
def heldAfter : (past : List Operation) → Option Snapshot
  | [] => none
  | .hold :: past => some ⟨origin.registryAfter past, origin.loadsAfter past⟩
  | _ :: past => heldAfter past

variable {origin} {past : List Operation} {operation : Operation}

theorem registryAfter_found {registry : Registry}
    (found : origin.found? (origin.filesAfter past) operation = some (.ok registry)) :
    origin.registryAfter (operation :: past) = registry := by
  rw [registryAfter, found]

theorem registryAfter_failed {failure : StartupFailure}
    (failed : origin.found? (origin.filesAfter past) operation = some (.error failure)) :
    origin.registryAfter (operation :: past) = origin.registryAfter past := by
  rw [registryAfter, failed]

theorem loadsAfter_found {registry : Registry}
    (found : origin.found? (origin.filesAfter past) operation = some (.ok registry)) :
    origin.loadsAfter (operation :: past) = origin.loadsAfter past + 1 := by
  rw [loadsAfter, found]

theorem loadsAfter_failed {failure : StartupFailure}
    (failed : origin.found? (origin.filesAfter past) operation = some (.error failure)) :
    origin.loadsAfter (operation :: past) = origin.loadsAfter past := by
  rw [loadsAfter, failed]

/-- A load changes neither the files nor what is held. -/
theorem filesAfter_load (past : List Operation) {outcome : Except StartupFailure Registry}
    {files : FileTree} (found : origin.found? files operation = some outcome) :
    origin.filesAfter (operation :: past) = origin.filesAfter past ∧
      origin.heldAfter (operation :: past) = origin.heldAfter past := by
  cases operation with
  | load paths => exact ⟨rfl, rfl⟩
  | start | reload => exact ⟨rfl, rfl⟩
  | _ => cases found

/-- Some load succeeded if one of the operations of the past found queries. -/
theorem loadsAfter_pos : 0 < origin.loadsAfter past ↔ ∃ later operation earlier registry,
    past = later ++ operation :: earlier ∧
      origin.found? (origin.filesAfter earlier) operation = some (.ok registry) := by
  constructor
  · intro positive
    induction past with
    | nil => exact absurd positive (Nat.lt_irrefl 0)
    | cons last past ih =>
      rw [loadsAfter] at positive
      split at positive
      · next registry found => exact ⟨[], last, past, registry, rfl, found⟩
      · obtain ⟨later, operation, earlier, registry, rfl, found⟩ := ih positive
        exact ⟨last :: later, operation, earlier, registry, rfl, found⟩
  · rintro ⟨later, operation, earlier, registry, rfl, found⟩
    induction later with
    | nil =>
      rw [List.nil_append, loadsAfter_found found]
      exact Nat.succ_pos _
    | cons last later ih =>
      rw [List.cons_append, loadsAfter]
      split
      · exact Nat.succ_pos _
      · exact ih

variable (origin)

/-- The answer to a load that finds queries or a failure. -/
def loadAnswer : Except StartupFailure Registry → Except SessionFailure Answer
  | .ok _ => .ok .done
  | .error failure => .error (.startup failure)

/-- The answer to an operation after a history. -/
def answer (past : List Operation) (operation : Operation) : Except SessionFailure Answer :=
  let registry := origin.registryAfter past
  let rendered (id : Text) (arguments : Arguments) :=
    Session.rendered (registry.render origin.usedProcessor id arguments)
  match operation with
  | .write _ _ | .delete _ | .change _ => .ok .done
  | .load paths => loadAnswer (origin.foundIn (origin.filesAfter past) paths)
  | .start | .reload => loadAnswer (origin.foundAtLocation (origin.filesAfter past))
  | .render id arguments => rendered id arguments
  | .build id named => rendered id ⟨[], named⟩
  | .fragment id => rendered id .none
  | .tokens id => .ok (.tokens (registry.tokens? id))
  | .source id => .ok (.source ((registry.tokens? id).map toSource))
  | .namedParameters id => .ok (.names ((registry.tokens? id).map namedParameters))
  | .positionalCount id => .ok (.number ((registry.tokens? id).map positionalCount))
  | .ids => .ok (.ids registry.sortedIds)
  | .order => .ok (.ids registry.ids)
  | .count | .hold => .ok (.count registry.count)
  | .held id =>
    let snapshot := (origin.heldAfter past).getD ⟨registry, origin.loadsAfter past⟩
    .ok (.held snapshot.registry (snapshot.loads == origin.loadsAfter past)
      ((snapshot.registry.tokens? id).map toSource))

/-- The answers to operations that follow a history. -/
def answers (past : List Operation) : List Operation → List (Except SessionFailure Answer)
  | [] => []
  | operation :: rest => origin.answer past operation :: answers (operation :: past) rest

end Origin

end QueryTemplates
