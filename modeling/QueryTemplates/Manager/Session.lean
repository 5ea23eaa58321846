import QueryTemplates.Manager.Basic

/-! # Sessions

A session is a manager, the files that it loads from, and a registry that a reader may hold on to.
Operations on the manager and changes of the files follow one another in any order; each operation has an
answer, and a registry that is held stays as it is.
-/

namespace QueryTemplates

/-- What is done in a session. -/
inductive Operation
  | write (path : Text) (tree : FileTree)
  | delete (path : Text)
  /-- put other files in the place of all that are there -/
  | change (files : FileTree)
  | load (paths : List Text)
  | start
  | reload
  | render (id : Text) (arguments : Arguments)
  | build (id : Text) (named : List (Text × Value))
  | fragment (id : Text)
  | tokens (id : Text)
  | source (id : Text)
  | namedParameters (id : Text)
  | positionalCount (id : Text)
  | ids
  | order
  | count
  /-- hold on to the registry of the manager -/
  | hold
  /-- look a query up in the registry that is held, or in that of the manager if none is -/
  | held (id : Text)

/-- A registry that is held. -/
structure Snapshot where
  registry : Registry
  /-- the number of loads when it was the registry of the manager -/
  loads : Nat

/-- What an operation answers. -/
inductive Answer
  | done
  | text (text : Text)
  | tokens (tokens : Option (List Token))
  | source (text : Option Text)
  | names (names : Option (List Text))
  | number (number : Option Nat)
  | ids (ids : List Text)
  | count (count : Nat)
  /-- a registry that is held: whether it is that of the manager, and the template that was looked up -/
  | held (registry : Registry) (current : Bool) (source : Option Text)

/-- Why an operation has no answer. -/
inductive SessionFailure
  | startup (failure : StartupFailure)
  | render (failure : RenderFailure)

/-- A manager among its files. -/
structure Session where
  files : FileTree
  manager : Manager
  snapshot : Option Snapshot

namespace Session

/-- The session before its first operation. -/
def create (files : FileTree) (manager : Manager) : Session := ⟨files, manager, none⟩

/-- The session and the answer after the manager has loaded. -/
def afterLoad (session : Session) (outcome : Manager × Except StartupFailure Unit) :
    Session × Except SessionFailure Answer :=
  ({ session with manager := outcome.1 },
    match outcome.2 with
    | .ok _ => .ok .done
    | .error failure => .error (.startup failure))

/-- The answer to a rendering. -/
def rendered : Except RenderFailure Text → Except SessionFailure Answer
  | .ok text => .ok (.text text)
  | .error failure => .error (.render failure)

/-- Does one operation. -/
def step (session : Session) (operation : Operation) :
    Logged (Session × Except SessionFailure Answer) :=
  let manager := session.manager
  let same (answer : Answer) : Logged (Session × Except SessionFailure Answer) :=
    .quiet (session, .ok answer)
  match operation with
  | .write path tree =>
    .quiet ({ session with files := session.files.write (Path.ofText path) tree }, .ok .done)
  | .delete path =>
    .quiet ({ session with files := session.files.delete (Path.ofText path) }, .ok .done)
  | .change files => .quiet ({ session with files }, .ok .done)
  | .load paths => (manager.load session.files paths).map session.afterLoad
  | .start | .reload => (manager.start session.files).map session.afterLoad
  | .render id arguments => (manager.render id arguments).map fun text => (session, rendered text)
  | .build id named => (manager.build id named).map fun text => (session, rendered text)
  | .fragment id =>
    (manager.fragment id).map fun (manager, text) => ({ session with manager }, rendered text)
  | .tokens id => same (.tokens (manager.tokens? id))
  | .source id => same (.source ((manager.tokens? id).map toSource))
  | .namedParameters id => same (.names (manager.namedParameters? id))
  | .positionalCount id => same (.number (manager.positionalCount? id))
  | .ids => same (.ids manager.registry.sortedIds)
  | .order => same (.ids manager.registry.ids)
  | .count => same (.count manager.count)
  | .hold =>
    .quiet ({ session with snapshot := some ⟨manager.registry, manager.loads⟩ },
      .ok (.count manager.count))
  | .held id =>
    let snapshot := session.snapshot.getD ⟨manager.registry, manager.loads⟩
    same (.held snapshot.registry (snapshot.loads == manager.loads)
      ((snapshot.registry.tokens? id).map toSource))

/-- Does operations one after another. Each answer comes with the manager after its operation. -/
def run (session : Session) :
    List Operation → Logged (List (Except SessionFailure Answer × Manager))
  | [] => .quiet []
  | operation :: rest =>
    (session.step operation).andThen fun (later, answer) =>
      (run later rest).map ((answer, later.manager) :: ·)

end Session

end QueryTemplates
