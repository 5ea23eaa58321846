import QueryTemplates.Proofs.Definitions.Loading
import QueryTemplates.Proofs.Template.Mentions

/-! # The stages of a load

A load compiles its pattern, loads the definitions of its files, and tokenizes the bodies that are left. The
first stage that fails ends it, and the manager stays as it was. Otherwise the manager has one query for each
identifier, with the tokens of the latest body.
-/

namespace QueryTemplates

/-- The body of a definition has a malformed mention; the first one counts. -/
def MalformedBody (placeholder : Placeholder) (newLine : Text) (definition : Text × Text)
    (malformation : Malformation) : Prop :=
  FirstFailure (Mention.Malformed (some definition.1)) (Mention.inBody placeholder newLine definition.2)
    malformation

/-- What ends a load: a pattern that cannot be used, whatever the files are; then what is wrong with the files;
then the first malformed body among those that are left. -/
inductive EndsLoad (config : Config) (root : FileTree) (paths : List Text) : StartupFailure → Prop
  | pattern {failure : StartupFailure} (unusable : Placeholder.Unusable config.pattern failure) :
    EndsLoad config root paths failure
  | files {placeholder : Placeholder} {failure : StartupFailure}
    (compiled : Placeholder.compile config.pattern = .ok placeholder)
    (failed : (load root config.format config.policy paths).result = .error failure) :
    EndsLoad config root paths failure
  | body {placeholder : Placeholder} {bodies : Dictionary Text} {malformation : Malformation}
    (compiled : Placeholder.compile config.pattern = .ok placeholder)
    (loaded : (load root config.format config.policy paths).result = .ok bodies)
    (first : FirstFailure (MalformedBody placeholder config.newLine) bodies.entries malformation) :
    EndsLoad config root paths (.error (.malformed none malformation))

variable {placeholder : Placeholder} {newLine : Text} {definition : Text × Text}
  {malformation : Malformation} {failure : StartupFailure} {config : Config} {root : FileTree}
  {paths : List Text}

theorem tokenize_eq_error_iff_malformedBody :
    tokenize placeholder newLine (some definition.1) definition.2 = .error malformation ↔
      MalformedBody placeholder newLine definition malformation :=
  tokenize_eq_error_iff

theorem buildRegistry_eq_error_iff_endsLoad :
    (Manager.buildRegistry config root paths).result = .error failure ↔ EndsLoad config root paths failure := by
  simp only [Manager.buildRegistry_eq_error_iff, Registry.build_eq_error_iff,
    tokenize_eq_error_iff_malformedBody, Placeholder.compile_eq_error_iff]
  constructor
  · rintro (unusable | ⟨placeholder, compiled, failed | ⟨bodies, malformation, loaded, first, rfl⟩⟩)
    · exact .pattern unusable
    · exact .files compiled failed
    · exact .body compiled loaded first
  · intro ends
    cases ends with
    | pattern unusable => exact .inl unusable
    | files compiled failed => exact .inr ⟨_, compiled, .inl failed⟩
    | body compiled loaded first => exact .inr ⟨_, compiled, .inr ⟨_, _, loaded, first, rfl⟩⟩

/-- Once the files are loaded, a load ends only because of a malformed mention in one of the bodies. -/
theorem exists_endsLoad_iff {bodies : Dictionary Text}
    (compiled : Placeholder.compile config.pattern = .ok placeholder)
    (loaded : (load root config.format config.policy paths).result = .ok bodies) :
    (∃ failure, EndsLoad config root paths failure) ↔ ∃ definition ∈ bodies.entries,
      ∃ mention ∈ Mention.inBody placeholder config.newLine definition.2,
        ∃ malformation, mention.Malformed (some definition.1) malformation := by
  have first : (∃ failure, EndsLoad config root paths failure) ↔
      ∃ malformation, FirstFailure (MalformedBody placeholder config.newLine) bodies.entries malformation := by
    constructor
    · rintro ⟨failure, ends⟩
      -- the first two stages have passed, and there is only one pattern and one dictionary of bodies
      cases ends with
      | pattern unusable =>
        rw [Placeholder.compile_eq_error_iff.mpr unusable] at compiled
        cases compiled
      | files _ failed =>
        rw [failed] at loaded
        cases loaded
      | body again also first =>
        cases again.symm.trans compiled
        cases also.symm.trans loaded
        exact ⟨_, first⟩
    · rintro ⟨malformation, first⟩
      exact ⟨_, .body compiled loaded first⟩
  rw [first, FirstFailure.exists_iff]
  exact exists_congr fun definition => and_congr_right fun _ => FirstFailure.exists_iff

/-- A load is all or nothing. What ends it is the failure of its first stage that fails, and then the manager
is the same. It succeeds exactly if the pattern compiles, the files can be loaded and each body can be
tokenized, and then the manager has a query for each identifier, in the order of the definitions, with the
tokens of its own body. Once the files are loaded, only the latest definition of each identifier counts: the
load fails exactly if one of these has a malformed mention. -/
theorem load_in_stages (manager : Manager) (root : FileTree) (paths : List Text) :
    let config := manager.config
    let outcome := (manager.load root paths).result
    let definitions := paths.flatMap (entriesIn root config.format)
    (∀ failure, outcome.2 = .error failure ↔ EndsLoad config root paths failure) ∧
    (∀ failure, outcome.2 = .error failure → outcome.1 = manager) ∧
    (∀ after, outcome = (after, .ok ()) ↔ ∃ placeholder bodies registry,
      Placeholder.compile config.pattern = .ok placeholder ∧
        (load root config.format config.policy paths).result = .ok bodies ∧
        List.Forall₂ (Dictionary.IsChanged fun id => tokenize placeholder config.newLine (some id))
          bodies.entries registry.queries.entries ∧
        after = manager.publish registry) ∧
    ∀ placeholder bodies, Placeholder.compile config.pattern = .ok placeholder →
      (load root config.format config.policy paths).result = .ok bodies →
        bodies.keys = (definitions.map Prod.fst).eraseDups ∧
        ((∃ failure, outcome.2 = .error failure) ↔ ∃ id definition,
          latest? definitions id = some definition ∧
            ∃ mention ∈ Mention.inBody placeholder config.newLine definition.body,
              ∃ malformation, mention.Malformed (some id) malformation) := by
  intro config outcome definitions
  have ends (failure : StartupFailure) :
      outcome.2 = .error failure ↔ EndsLoad config root paths failure :=
    Manager.load_eq_error_iff.trans buildRegistry_eq_error_iff_endsLoad
  refine ⟨ends, fun failure => Manager.unchanged_of_failed_load, fun after => ⟨?_, ?_⟩, ?_⟩
  · intro done
    obtain ⟨registry, found, published⟩ := Manager.exists_registry_of_load (congrArg Prod.snd done)
    obtain ⟨placeholder, bodies, compiled, loaded, built⟩ := Manager.buildRegistry_eq_ok_iff.mp found
    have each := Dictionary.traverse_eq_ok_iff.mp (Registry.build_eq_ok_iff.mp built)
    refine ⟨placeholder, bodies, registry, compiled, loaded, each, ?_⟩
    exact (congrArg Prod.fst done).symm.trans published
  · rintro ⟨placeholder, bodies, registry, compiled, loaded, each, rfl⟩
    have built := Registry.build_eq_ok_iff.mpr (Dictionary.traverse_eq_ok_iff.mpr each)
    exact Manager.load_of_buildRegistry (Manager.buildRegistry_eq_ok_iff.mpr ⟨_, _, compiled, loaded, built⟩)
  · intro placeholder bodies compiled loaded
    obtain ⟨keys, latest⟩ := load_keeps_latest loaded
    refine ⟨keys, ?_⟩
    simp only [ends, exists_endsLoad_iff compiled loaded]
    -- an entry of the dictionary is an identifier with the body of its latest definition
    constructor
    · rintro ⟨⟨id, body⟩, member, malformed⟩
      have held := Dictionary.get?_eq_some_iff.mpr member
      rw [latest] at held
      obtain ⟨definition, last, rfl⟩ := Option.map_eq_some_iff.mp held
      exact ⟨id, definition, last, malformed⟩
    · rintro ⟨id, definition, last, malformed⟩
      have held := (latest id).trans (congrArg (Option.map Definition.body) last)
      exact ⟨(id, definition.body), Dictionary.get?_eq_some_iff.mp held, malformed⟩

/-- Three files: the second one replaces a malformed body of the first one by another, and the third one
replaces both that are left. -/
def mendedFiles : FileTree :=
  .directory [
    (['a'], .file "ID:q\n$\x7b0\x7d\nID:p\n$\x7b0\x7d".toUTF8.toList),
    (['b'], .file "ID:q\n$\x7b00\x7d".toUTF8.toList),
    (['c'], .file "ID:p\nfine\nID:q\n$\x7b1\x7d".toUTF8.toList)]

/-- A manager that lets definitions replace each other, with a pattern of its own. -/
def mendingManager (pattern : Text) : Manager :=
  .create { Config.standard with policy := .replace, pattern } none

/-- The first identifier counts, with its latest body, and a load can succeed when all malformed bodies are
replaced. A pattern without a group comes before a file that does not exist. -/
theorem load_in_stages_mendedFiles :
    ((mendingManager Placeholder.standardText).load mendedFiles [['a'], ['b']]).result =
        (mendingManager Placeholder.standardText,
          .error (.error (.malformed none (.zeroIndex (some ['q']) "$\x7b00\x7d".toList)))) ∧
      ((mendingManager Placeholder.standardText).load mendedFiles [['a'], ['b'], ['c']]).result =
        ((mendingManager Placeholder.standardText).publish ⟨.ofList [
          (['q'], [.positional .first (some "$\x7b1\x7d".toList)]),
          (['p'], [.literal "fine".toList])]⟩, .ok ()) ∧
      ((mendingManager ['x']).load mendedFiles [['z']]).result.2 =
        .error (.error (.unusablePattern ['x'] .noGroup)) := by
  refine ⟨?_, ?_, ?_⟩
  · have loaded : (load mendedFiles ⟨.standard, true⟩ .replace [['a'], ['b']]).result =
        .ok (.ofList [(['q'], "$\x7b00\x7d".toList), (['p'], "$\x7b0\x7d".toList)]) := by decide +kernel
    have first : MalformedBody .standard ['\n'] (['q'], "$\x7b00\x7d".toList)
        (.zeroIndex (some ['q']) "$\x7b00\x7d".toList) := by
      rw [← tokenize_eq_error_iff_malformedBody]
      decide +kernel
    obtain ⟨ends, unchanged, -⟩ :=
      load_in_stages (mendingManager Placeholder.standardText) mendedFiles [['a'], ['b']]
    have failed := (ends _).mpr
      (.body Placeholder.compile_standardText loaded ⟨[], _, _, rfl, first, nofun⟩)
    exact Prod.ext (unchanged _ failed) failed
  · have loaded : (load mendedFiles ⟨.standard, true⟩ .replace [['a'], ['b'], ['c']]).result =
        .ok (.ofList [(['q'], "$\x7b1\x7d".toList), (['p'], "fine".toList)]) := by decide +kernel
    refine ((load_in_stages (mendingManager Placeholder.standardText) _ _).2.2.1 _).mpr
      ⟨_, _, _, Placeholder.compile_standardText, loaded, ?_, rfl⟩
    exact .cons ⟨rfl, by decide +kernel⟩ (.cons ⟨rfl, by decide +kernel⟩ .nil)
  · refine ((load_in_stages (mendingManager ['x']) _ _).1 _).mpr (.pattern ?_)
    rw [← Placeholder.compile_eq_error_iff]
    decide +kernel

end QueryTemplates
