import QueryTemplates.Proofs.Definitions.Order

/-! # Loads as ordered merges

The definitions of several files are taken in order. Where an identifier must not be defined again, a load
gives all of them as they are. Where it may, each identifier keeps the place of its first definition and gets
the body of its latest one, and every replacement is reported. A load fails with the problem of the first file
that has one.
-/

namespace QueryTemplates

variable {root : FileTree} {format : BlockFormat} {policy : DuplicatePolicy} {path : Text}
  {paths : List Text} {pairs : List (Text × Text)} {merged : Dictionary Definition}
  {seen : List (Text × Definition)}

/-! ## Definitions that replace others -/

/-- The latest definition of an identifier. -/
def latest? (definitions : List (Text × Definition)) (id : Text) : Option Definition :=
  definitions.reverse.lookup id

/-- The reports of definitions that replace earlier ones: each tells the file of the latest earlier one, and
its own file. -/
def replacements (earlier : List (Text × Definition)) : List (Text × Definition) → List LogEntry
  | [] => []
  | (id, definition) :: rest =>
    match latest? earlier id with
    | none => replacements (earlier ++ [(id, definition)]) rest
    | some replaced =>
      replacedEntry id replaced.path definition.path ::
        replacements (earlier ++ [(id, definition)]) rest

/-- The dictionary has each identifier at the place of its first definition, with its latest one. -/
structure IsMergeOf (merged : Dictionary Definition) (definitions : List (Text × Definition)) : Prop where
  keys : merged.keys = (definitions.map Prod.fst).eraseDups
  latest : ∀ id, merged.get? id = latest? definitions id

theorem latest?_append (definitions : List (Text × Definition)) (id other : Text) (definition : Definition) :
    latest? (definitions ++ [(id, definition)]) other =
      if other = id then some definition else latest? definitions other := by
  rw [latest?, List.reverse_append, List.reverse_singleton, List.singleton_append,
    Dictionary.lookup_cons, latest?]

theorem replacements_append (earlier first second : List (Text × Definition)) :
    replacements earlier (first ++ second) =
      replacements earlier first ++ replacements (earlier ++ first) second := by
  induction first generalizing earlier with
  | nil => simp [replacements]
  | cons entry first ih =>
    obtain ⟨id, definition⟩ := entry
    have later := ih (earlier ++ [(id, definition)])
    rw [List.append_assoc, List.singleton_append] at later
    rw [List.cons_append, replacements, replacements, later]
    cases latest? earlier id with
    | none => rfl
    | some replaced => rfl

namespace IsMergeOf

theorem empty : IsMergeOf .empty [] := ⟨rfl, fun _ => rfl⟩

/-- One more definition. -/
theorem put (merges : IsMergeOf merged seen) (id : Text) (definition : Definition) :
    IsMergeOf (merged.put id definition) (seen ++ [(id, definition)]) := by
  constructor
  · rw [Dictionary.keys_put, merges.keys, List.map_append, List.eraseDups_append]
    by_cases known : id ∈ seen.map Prod.fst
    · simp [known, List.removeAll]
    · simp [known, List.removeAll, List.eraseDups_cons]
  · intro other
    rw [Dictionary.get?_put, latest?_append, merges.latest]

/-- The definitions of one more file. -/
theorem putAll (merges : IsMergeOf merged seen) (path : Text) (pairs : List (Text × Text)) :
    IsMergeOf (QueryTemplates.putAll path merged pairs) (seen ++ entriesOf path pairs) := by
  induction pairs generalizing merged seen with
  | nil =>
    rw [entriesOf, List.map_nil, List.append_nil]
    exact merges
  | cons pair rest ih =>
    have later := ih (merges.put pair.1 ⟨pair.2, path⟩)
    rw [List.append_assoc] at later
    exact later

end IsMergeOf

/-! ## One file after another -/

/-- The definitions with those of one more file. -/
def mergeFile (root : FileTree) (format : BlockFormat) (policy : DuplicatePolicy)
    (merged : Dictionary Definition) (path : Text) : Except StartupFailure (Dictionary Definition) :=
  match parse root format path with
  | .error failure => .error failure
  | .ok pairs =>
    match merge policy path merged pairs with
    | .error cause => .error (.error cause)
    | .ok onward => .ok onward.result

theorem result_mergeFiles (merged : Dictionary Definition) (paths : List Text) :
    (mergeFiles root format policy merged paths).result =
      paths.foldlM (mergeFile root format policy) merged := by
  induction paths generalizing merged with
  | nil => rfl
  | cons path rest ih =>
    rw [List.foldlM_cons, mergeFiles, mergeFile, Logged.after]
    cases parse root format path with
    | error failure => rfl
    | ok pairs =>
      dsimp only
      cases merge policy path merged pairs with
      | error cause => rfl
      | ok onward => exact ih onward.result

/-- Whatever the policy, a file that can be merged has been read, and all its definitions have been put. -/
theorem of_mergeFile_eq_ok {next : Dictionary Definition}
    (merges : mergeFile root format policy merged path = .ok next) : ∃ pairs,
      parse root format path = .ok pairs ∧ next = putAll path merged pairs := by
  rw [mergeFile] at merges
  split at merges
  · cases merges
  · next pairs parsed =>
    split at merges
    · cases merges
    · next onward done =>
      cases merges
      exact ⟨pairs, parsed, result_of_merge done⟩

/-- Whatever the policy, what files merge into are their definitions in order. -/
theorem isMergeOf_of_foldlM {all : Dictionary Definition} (merges : IsMergeOf merged seen)
    (done : paths.foldlM (mergeFile root format policy) merged = .ok all) :
    (∀ path ∈ paths, ∃ pairs, parse root format path = .ok pairs) ∧
      IsMergeOf all (seen ++ paths.flatMap (entriesIn root format)) := by
  induction paths generalizing merged seen with
  | nil =>
    cases done
    rw [List.flatMap_nil, List.append_nil]
    exact ⟨fun path member => (List.not_mem_nil member).elim, merges⟩
  | cons path rest ih =>
    rw [List.foldlM_cons] at done
    obtain ⟨next, one, done⟩ := of_bind_eq_ok done
    obtain ⟨pairs, parsed, rfl⟩ := of_mergeFile_eq_ok one
    obtain ⟨readable, all_merges⟩ := ih (merges.putAll path pairs) done
    rw [List.flatMap_cons, entriesIn_of_parse parsed, ← List.append_assoc]
    exact ⟨List.forall_mem_cons.mpr ⟨⟨pairs, parsed⟩, readable⟩, all_merges⟩

/-! ## Replacing -/

theorem merge_replace (merges : IsMergeOf merged seen) (path : Text) (pairs : List (Text × Text)) :
    merge .replace path merged pairs =
      .ok ⟨replacements seen (entriesOf path pairs), putAll path merged pairs⟩ := by
  induction pairs generalizing merged seen with
  | nil => rfl
  | cons pair rest ih =>
    obtain ⟨id, body⟩ := pair
    rw [merge, ih (merges.put id ⟨body, path⟩), merges.latest]
    simp only [entriesOf, List.map_cons, replacements, putAll]
    cases latest? seen id with
    | none => rfl
    | some earlier => rfl

/-- A report of a replacement, rather than one that a file is read. -/
def isWarning (entry : LogEntry) : Bool := entry.level == .warning

theorem replacements_warn (earlier definitions : List (Text × Definition)) :
    (replacements earlier definitions).filter isWarning = replacements earlier definitions := by
  induction definitions generalizing earlier with
  | nil => rfl
  | cons entry rest ih =>
    rw [replacements]
    split
    · exact ih _
    · rw [List.filter_cons_of_pos rfl, ih]

/-- Files that can all be read are merged, and each replacement is reported. -/
theorem mergeFiles_replace (merges : IsMergeOf merged seen)
    (readable : ∀ path ∈ paths, ∃ pairs, parse root format path = .ok pairs) : ∃ all,
      (mergeFiles root format .replace merged paths).result = .ok all ∧
        (mergeFiles root format .replace merged paths).log.filter isWarning =
          replacements seen (paths.flatMap (entriesIn root format)) := by
  induction paths generalizing merged seen with
  | nil => exact ⟨merged, rfl, rfl⟩
  | cons path rest ih =>
    obtain ⟨⟨pairs, parsed⟩, readable⟩ := List.forall_mem_cons.mp readable
    obtain ⟨all, done, reports⟩ := ih (merges.putAll path pairs) readable
    refine ⟨all, ?_, ?_⟩
    · simp only [mergeFiles, Logged.after, parsed, merge_replace merges]
      exact done
    · simp only [mergeFiles, Logged.after, parsed, merge_replace merges, Logged.andThen]
      rw [List.flatMap_cons, entriesIn_of_parse parsed, replacements_append, ← reports,
        List.filter_cons_of_neg Bool.false_ne_true, List.filter_append, replacements_warn]

/-! ## Refusing -/

/-- Where no identifier may come again, definitions fail at the first one whose identifier is there. -/
theorem merge_refuse_eq_error_iff {cause : StartupError} :
    merge .refuse path merged pairs = .error cause ↔ ∃ before id body after,
      pairs = before ++ (id, body) :: after ∧ (merged.keys ++ before.map Prod.fst).Nodup ∧
        id ∈ merged.keys ++ before.map Prod.fst ∧ cause = .duplicateId id (some path) := by
  induction pairs generalizing merged with
  | nil =>
    constructor
    · intro failed
      cases failed
    · rintro ⟨before, id, body, after, same, -⟩
      exact absurd same.symm (List.append_ne_nil_of_right_ne_nil _ (List.cons_ne_nil _ _))
  | cons pair rest ih =>
    obtain ⟨id, body⟩ := pair
    rw [merge]
    cases found : merged.get? id with
    | some earlier =>
      have known := Dictionary.mem_keys_of_get? found
      constructor
      · intro failed
        cases failed
        refine ⟨[], id, body, rest, rfl, ?_, List.mem_append_left _ known, rfl⟩
        rw [List.map_nil, List.append_nil]
        exact merged.nodup
      · rintro ⟨before, again, later, after, same, distinct, seen, rfl⟩
        cases before with
        | nil =>
          cases same
          rfl
        | cons first before =>
          cases same
          obtain ⟨-, -, apart⟩ := List.nodup_append.mp distinct
          exact absurd rfl (apart id known id (List.mem_cons_self ..))
    | none =>
      have unknown := Dictionary.get?_eq_none_iff.mp found
      have keys (before : List (Text × Text)) :
          (merged.put id ⟨body, path⟩).keys ++ before.map Prod.fst =
            merged.keys ++ ((id, body) :: before).map Prod.fst := by
        rw [Dictionary.keys_put, if_neg unknown, List.append_assoc]
        rfl
      refine ih.trans ⟨?_, ?_⟩
      · rintro ⟨before, again, later, after, rfl, distinct, seen, rfl⟩
        rw [keys] at distinct seen
        exact ⟨(id, body) :: before, again, later, after, rfl, distinct, seen, rfl⟩
      · rintro ⟨before, again, later, after, same, distinct, seen, rfl⟩
        cases before with
        | nil =>
          cases same
          rw [List.map_nil, List.append_nil] at seen
          exact absurd seen unknown
        | cons first before =>
          cases same
          rw [← keys] at distinct seen
          exact ⟨before, again, later, after, rfl, distinct, seen, rfl⟩

/-- Files whose identifiers may not come again are merged exactly if they can, one after another. -/
theorem foldlM_refuse_eq_ok {all : Dictionary Definition}
    (done : paths.foldlM (mergeFile root format .refuse) .empty = .ok all) :
    Mergeable root format .empty paths ∧ all.entries = paths.flatMap (entriesIn root format) := by
  rw [← result_mergeFiles] at done
  have mergeable := mergeable_of_mergeFiles done
  obtain ⟨again, same, entries⟩ := @Mergeable.exists_mergeFiles _ _ .refuse _ _ mergeable
  rw [done] at same
  cases same
  exact ⟨mergeable, entries⟩

theorem keys_of_foldlM_refuse {all : Dictionary Definition}
    (done : paths.foldlM (mergeFile root format .refuse) .empty = .ok all) :
    all.keys = (paths.flatMap (entriesIn root format)).map Prod.fst :=
  congrArg (List.map Prod.fst) (foldlM_refuse_eq_ok done).2

/-! ## The first problem -/

/-- What is wrong with a file, after those that come before it: it cannot be read or split, or, where no
identifier may come again, it has one that is defined already, in one of those or further up. The first such
identifier counts, so that all those up to it differ. -/
inductive Problem (root : FileTree) (format : BlockFormat) (policy : DuplicatePolicy) (earlier : List Text)
    (path : Text) : StartupFailure → Prop
  | unusable {failure : StartupFailure} (parsed : parse root format path = .error failure) :
    Problem root format policy earlier path failure
  | duplicate {before after : List (Text × Text)} {id body : Text} (refuses : policy = .refuse)
    (parsed : parse root format path = .ok (before ++ (id, body) :: after))
    (distinct : ((earlier.flatMap (entriesIn root format)).map Prod.fst ++ before.map Prod.fst).Nodup)
    (again : id ∈ (earlier.flatMap (entriesIn root format)).map Prod.fst ++ before.map Prod.fst) :
    Problem root format policy earlier path (.error (.duplicateId id (some path)))

/-- The problem of the first file that has one. -/
def FirstProblem (root : FileTree) (format : BlockFormat) (policy : DuplicatePolicy) (paths : List Text)
    (failure : StartupFailure) : Prop :=
  ∃ earlier path later, paths = earlier ++ path :: later ∧
    Problem root format policy earlier path failure ∧
    ∀ start other rest, earlier = start ++ other :: rest → ∀ cause,
      ¬ Problem root format policy start other cause

section Failing

variable {earlier : List Text} {failure : StartupFailure}

/-- After files that have been merged, a file with a problem fails with it. -/
theorem Problem.mergeFile_eq (problem : Problem root format policy earlier path failure)
    (done : earlier.foldlM (mergeFile root format policy) .empty = .ok merged) :
    mergeFile root format policy merged path = .error failure := by
  rw [mergeFile]
  cases problem with
  | unusable parsed => rw [parsed]
  | duplicate refuses parsed distinct again =>
    subst refuses
    rw [← keys_of_foldlM_refuse done] at distinct again
    rw [parsed]
    dsimp only
    rw [merge_refuse_eq_error_iff.mpr ⟨_, _, _, _, rfl, distinct, again, rfl⟩]

/-- It fails for no other reason. -/
theorem problem_of_mergeFile (failed : mergeFile root format policy merged path = .error failure)
    (done : earlier.foldlM (mergeFile root format policy) .empty = .ok merged) :
    Problem root format policy earlier path failure := by
  rw [mergeFile] at failed
  split at failed
  · next cause parsed =>
    cases failed
    exact .unusable parsed
  · next pairs parsed =>
    split at failed
    · next cause merging =>
      cases failed
      cases policy with
      | replace =>
        rw [merge_replace (isMergeOf_of_foldlM .empty done).2] at merging
        cases merging
      | refuse =>
        obtain ⟨before, id, body, after, rfl, distinct, again, rfl⟩ := merge_refuse_eq_error_iff.mp merging
        rw [keys_of_foldlM_refuse done] at distinct again
        exact .duplicate rfl parsed distinct again
    · cases failed

end Failing

/-- Files can be merged exactly if none of them has a problem. -/
theorem exists_foldlM_iff : (∃ all, paths.foldlM (mergeFile root format policy) .empty = .ok all) ↔
    ∀ start other rest, paths = start ++ other :: rest → ∀ cause,
      ¬ Problem root format policy start other cause := by
  constructor
  · rintro ⟨all, done⟩ start other rest rfl cause problem
    rw [List.foldlM_append] at done
    obtain ⟨state, reached, done⟩ := of_bind_eq_ok done
    obtain ⟨next, one, -⟩ := of_bind_eq_ok done
    rw [problem.mergeFile_eq reached] at one
    cases one
  · intro clean
    cases outcome : paths.foldlM (mergeFile root format policy) .empty with
    | ok all => exact ⟨all, rfl⟩
    | error failure =>
      obtain ⟨start, other, rest, state, same, reached, failed⟩ := foldlM_eq_error_iff.mp outcome
      exact absurd (problem_of_mergeFile failed reached) (clean start other rest same failure)

theorem foldlM_eq_error_iff_firstProblem {failure : StartupFailure} :
    paths.foldlM (mergeFile root format policy) .empty = .error failure ↔
      FirstProblem root format policy paths failure := by
  rw [foldlM_eq_error_iff]
  constructor
  · rintro ⟨earlier, path, later, state, same, reached, failed⟩
    exact ⟨earlier, path, later, same, problem_of_mergeFile failed reached,
      exists_foldlM_iff.mp ⟨state, reached⟩⟩
  · rintro ⟨earlier, path, later, same, problem, clean⟩
    obtain ⟨state, reached⟩ := exists_foldlM_iff.mpr clean
    exact ⟨earlier, path, later, state, same, reached, problem.mergeFile_eq reached⟩

/-! ## Loads -/

theorem load_eq_ok_iff {bodies : Dictionary Text} :
    (load root format policy paths).result = .ok bodies ↔ ∃ all,
      paths.foldlM (mergeFile root format policy) .empty = .ok all ∧
        all.mapValues Definition.body = bodies := by
  rw [← result_mergeFiles]
  exact map_eq_ok

/-- Whatever the policy, a load gives each identifier the place of its first definition and the body of its
latest one. -/
theorem load_keeps_latest {bodies : Dictionary Text}
    (done : (load root format policy paths).result = .ok bodies) :
    bodies.keys = ((paths.flatMap (entriesIn root format)).map Prod.fst).eraseDups ∧
      ∀ id, bodies.get? id = (latest? (paths.flatMap (entriesIn root format)) id).map Definition.body := by
  obtain ⟨all, merging, rfl⟩ := load_eq_ok_iff.mp done
  obtain ⟨-, merges⟩ := isMergeOf_of_foldlM .empty merging
  refine ⟨?_, fun id => ?_⟩
  · rw [Dictionary.keys_mapValues, merges.keys, List.nil_append]
  · rw [Dictionary.get?_mapValues, merges.latest, List.nil_append]

/-- A load fails exactly with the problem of the first file that has one. -/
theorem load_eq_error_iff {failure : StartupFailure} :
    (load root format policy paths).result = .error failure ↔
      FirstProblem root format policy paths failure := by
  rw [← foldlM_eq_error_iff_firstProblem, ← result_mergeFiles]
  exact map_eq_error

/-- A load whose identifiers must differ gives all bodies as they are. -/
theorem load_refuse {bodies : Dictionary Text}
    (done : (load root format .refuse paths).result = .ok bodies) :
    (∀ path ∈ paths, ∃ pairs, parse root format path = .ok pairs) ∧
      ((paths.flatMap (entriesIn root format)).map Prod.fst).Nodup ∧
      bodies.entries = (paths.flatMap (entriesIn root format)).map fun entry => (entry.1, entry.2.body) := by
  obtain ⟨all, merging, rfl⟩ := load_eq_ok_iff.mp done
  obtain ⟨mergeable, entries⟩ := foldlM_refuse_eq_ok merging
  refine ⟨mergeable.parsed, mergeable.distinct, ?_⟩
  rw [← entries]
  rfl

/-- A load takes the definitions of its files in order. Where no identifier may be defined again, it succeeds
exactly if all files can be read and split and all identifiers differ, and gives their bodies in order. Where
one may, it succeeds exactly if all files can be read and split; each identifier then has the place of its
first definition and the body of its latest one, and each replacement is reported, with the file of the
latest definition before it. A load fails exactly with the problem of the first file that has one. -/
theorem load_merges_in_order (root : FileTree) (format : BlockFormat) (paths : List Text) :
    let definitions := paths.flatMap (entriesIn root format)
    let readable := ∀ path ∈ paths, ∃ pairs, parse root format path = .ok pairs
    let refusing := load root format .refuse paths
    let replacing := load root format .replace paths
    ((∃ bodies, refusing.result = .ok bodies) ↔ readable ∧ (definitions.map Prod.fst).Nodup) ∧
      (∀ bodies, refusing.result = .ok bodies →
        bodies.entries = definitions.map fun entry => (entry.1, entry.2.body)) ∧
      ((∃ bodies, replacing.result = .ok bodies) ↔ readable) ∧
      (∀ bodies, replacing.result = .ok bodies →
        bodies.keys = (definitions.map Prod.fst).eraseDups ∧
        (∀ id, bodies.get? id = (latest? definitions id).map Definition.body) ∧
        replacing.log.filter isWarning = replacements [] definitions) ∧
      ∀ policy failure, (load root format policy paths).result = .error failure ↔
        FirstProblem root format policy paths failure := by
  intro definitions readable refusing replacing
  refine ⟨⟨?_, ?_⟩, ?_, ⟨?_, ?_⟩, ?_, ?_⟩
  · rintro ⟨bodies, done⟩
    obtain ⟨parsed, distinct, -⟩ := load_refuse done
    exact ⟨parsed, distinct⟩
  · rintro ⟨parsed, distinct⟩
    obtain ⟨all, merging, -⟩ := @Mergeable.exists_mergeFiles _ _ .refuse .empty _ ⟨parsed, distinct⟩
    rw [result_mergeFiles] at merging
    exact ⟨_, load_eq_ok_iff.mpr ⟨all, merging, rfl⟩⟩
  · intro bodies done
    exact (load_refuse done).2.2
  · rintro ⟨bodies, done⟩
    obtain ⟨all, merging, -⟩ := load_eq_ok_iff.mp done
    exact (isMergeOf_of_foldlM .empty merging).1
  · intro parsed
    obtain ⟨all, merging, -⟩ := mergeFiles_replace .empty parsed
    rw [result_mergeFiles] at merging
    exact ⟨_, load_eq_ok_iff.mpr ⟨all, merging, rfl⟩⟩
  · intro bodies done
    obtain ⟨all, merging, -⟩ := load_eq_ok_iff.mp done
    obtain ⟨_, -, reports⟩ := mergeFiles_replace .empty (isMergeOf_of_foldlM .empty merging).1
    obtain ⟨keys, latest⟩ := load_keeps_latest done
    exact ⟨keys, latest, reports⟩
  · intro policy failure
    exact load_eq_error_iff

/-- Two files; the second one defines a query of the first one again, and one of its own twice. -/
def repeatedFiles : FileTree :=
  .directory [
    (['a'], .file "ID:q\nfirst\nID:p\nsecond".toUTF8.toList),
    (['b'], .file "ID:r\nthird\nID:q\nfourth\nID:r\nfifth".toUTF8.toList)]

theorem load_merges_in_order_repeatedFiles :
    (∃ bodies : Dictionary Text,
      (load repeatedFiles ⟨.standard, true⟩ .replace [['a'], ['b']]).result = .ok bodies ∧
      bodies.keys = [['q'], ['p'], ['r']] ∧
      bodies.get? ['q'] = some "fourth".toList ∧
      (load repeatedFiles ⟨.standard, true⟩ .replace [['a'], ['b']]).log.filter isWarning =
        [replacedEntry ['q'] ['a'] ['b'], replacedEntry ['r'] ['b'] ['b']]) ∧
      FirstProblem repeatedFiles ⟨.standard, true⟩ .refuse [['a'], ['b']] (.error (.duplicateId ['q'] (some ['b']))) := by
  obtain ⟨-, -, succeeds, replaced, fails⟩ :=
    load_merges_in_order repeatedFiles ⟨.standard, true⟩ [['a'], ['b']]
  have first : parse repeatedFiles ⟨.standard, true⟩ ['a'] =
      .ok [(['q'], "first".toList), (['p'], "second".toList)] := by decide +kernel
  have second : parse repeatedFiles ⟨.standard, true⟩ ['b'] =
      .ok [(['r'], "third".toList), (['q'], "fourth".toList), (['r'], "fifth".toList)] := by decide +kernel
  obtain ⟨bodies, done⟩ := succeeds.mpr <| List.forall_mem_cons.mpr
    ⟨⟨_, first⟩, List.forall_mem_singleton.mpr ⟨_, second⟩⟩
  obtain ⟨keys, latest, reports⟩ := replaced bodies done
  refine ⟨⟨bodies, done, ?_, ?_, ?_⟩, ?_⟩
  · rw [keys]
    decide +kernel
  · rw [latest]
    decide +kernel
  · rw [reports]
    decide +kernel
  · rw [← fails]
    decide +kernel

end QueryTemplates
