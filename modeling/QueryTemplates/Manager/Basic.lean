import QueryTemplates.Config.Basic
import QueryTemplates.Files.Listing
import QueryTemplates.Rendering

/-! # Managers

A manager holds the queries of its last load that succeeded, and renders them. A load that fails changes
nothing. Queries without parameters are fragments: their texts are kept until the next load.
-/

namespace QueryTemplates

/-- A configured set of queries. -/
structure Manager where
  config : Config
  processor : Processor
  registry : Registry
  /-- how many loads have succeeded -/
  loads : Nat
  /-- the texts of fragments, by identifier -/
  fragments : Dictionary Text

namespace Manager

/-- A manager before its first load. Without a processor of its own it has the configured one. -/
def create (config : Config) (processor : Option Processor) : Manager :=
  ⟨config, processor.getD config.processor, .empty, 0, .empty⟩

/-- Some load has succeeded. -/
def started (manager : Manager) : Bool := decide (0 < manager.loads)

/-! ## Loading -/

/-- The report of a startup error. Other failures are not reported. -/
def failureLog : StartupFailure → List LogEntry
  | .error cause => [⟨.error, .manager, "Unable to start QueryManager: " ++ cause.message⟩]
  | _ => []

/-- The report of a load that succeeded. -/
def startedEntry (registry : Registry) : LogEntry :=
  ⟨.debug, .manager, "Started QueryManager with " ++ toString registry.count ++ " queries"⟩

/-- The report of a load from the configured location. -/
def startingEntry (config : Config) : LogEntry :=
  ⟨.debug, .manager, "Starting QueryManager from " ++ config.location.text.asString⟩

/-- The queries that files define. An unusable pattern is found first, then what is wrong with the files,
then what is wrong with a placeholder. -/
def buildRegistry (config : Config) (root : FileTree) (paths : List Text) :
    Logged (Except StartupFailure Registry) :=
  match Placeholder.compile config.pattern with
  | .error failure => .quiet (.error failure)
  | .ok placeholder =>
    (QueryTemplates.load root config.format config.policy paths).map fun
      | .error failure => .error failure
      | .ok definitions =>
        (Registry.build placeholder config.newLine definitions).mapError fun malformation =>
          .error (.malformed none malformation)

/-- The manager with new queries. -/
def publish (manager : Manager) (registry : Registry) : Manager :=
  { manager with registry, loads := manager.loads + 1, fragments := .empty }

/-- Replaces the queries by those that files define. -/
def load (manager : Manager) (root : FileTree) (paths : List Text) :
    Logged (Manager × Except StartupFailure Unit) :=
  (buildRegistry manager.config root paths).andThen fun
    | .error failure => ⟨failureLog failure, (manager, .error failure)⟩
    | .ok registry => ⟨[startedEntry registry], (manager.publish registry, .ok ())⟩

/-- Replaces the queries by those in all files at the configured location. -/
def start (manager : Manager) (root : FileTree) : Logged (Manager × Except StartupFailure Unit) :=
  Logged.after (startingEntry manager.config) <|
    match root.list manager.config.location.text with
    | .error failure => ⟨failureLog failure, (manager, .error failure)⟩
    | .ok paths => manager.load root (paths.map Path.text)

/-! ## Rendering -/

/-- The text of a query. -/
def render (manager : Manager) (id : Text) (arguments : Arguments) :
    Logged (Except RenderFailure Text) :=
  manager.registry.renderLogged manager.processor id arguments

/-- The text of a query that has named arguments only. -/
def build (manager : Manager) (id : Text) (named : List (Text × Value)) :
    Logged (Except RenderFailure Text) :=
  manager.render id ⟨[], named⟩

/-- The text of a query without arguments, which is kept for the next time. -/
def fragment (manager : Manager) (id : Text) : Logged (Manager × Except RenderFailure Text) :=
  match manager.fragments.get? id with
  | some text => .quiet (manager, .ok text)
  | none =>
    (manager.render id .none).map fun
      | .error failure => (manager, .error failure)
      | .ok text => ({ manager with fragments := manager.fragments.put id text }, .ok text)

/-! ## Queries -/

/-- The tokens of a query. -/
def tokens? (manager : Manager) (id : Text) : Option (List Token) := manager.registry.tokens? id

/-- The names of the arguments of a query. -/
def namedParameters? (manager : Manager) (id : Text) : Option (List Text) :=
  (manager.tokens? id).map namedParameters

/-- The number of positional arguments of a query. -/
def positionalCount? (manager : Manager) (id : Text) : Option Nat :=
  (manager.tokens? id).map positionalCount

/-- The number of queries. -/
def count (manager : Manager) : Nat := manager.registry.count

end Manager

end QueryTemplates
