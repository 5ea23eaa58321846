import QueryTemplates.Proofs.Definitions.Blocks
import QueryTemplates.Proofs.Definitions.Merging
import QueryTemplates.Proofs.Manager.Loading
import QueryTemplates.Proofs.Template.Standard

/-! # Where the text of a query comes from

The text of a query stands in a template file: it is the lines between the last marker line of the query
and the next marker line, without the blank lines at the two ends. From the file to the registry no
character of these lines gets lost, and no marker line is overlooked.
-/

namespace QueryTemplates

/-- The text that the template file at a path holds, with its breaks as they are. -/
def FileTree.content? (root : FileTree) (path : Text) : Option Text :=
  match root.readBytes (Path.ofText path) with
  | .error _ => none
  | .ok bytes => (Utf8.decode (dropByteOrderMark bytes)).toOption

/-- The file at a path has a marker line with the identifier. -/
def FileTree.Marks (root : FileTree) (format : BlockFormat) (path id : Text) : Prop :=
  ∃ content, root.content? path = some content ∧ ∃ line ∈ content.lines, format.id? line = some id

/-- A marker line with an identifier in one of several files, and what stands before and after it. -/
structure MarkerPlace (root : FileTree) (format : BlockFormat) (paths : List Text) (id : Text) where
  earlier : List Text
  path : Text
  later : List Text
  content : Text
  before : List Text
  marker : Text
  after : List Text
  files : paths = earlier ++ path :: later
  readable : root.content? path = some content
  lines : content.lines = before ++ marker :: after
  identified : format.id? marker = some id

namespace MarkerPlace

variable {root : FileTree} {format : BlockFormat} {paths : List Text} {id : Text}

/-- The lines strictly between the marker line and the next one or the end of the file. -/
def body (place : MarkerPlace root format paths id) : List Text := format.untilMarker place.after

/-- No marker line with the identifier comes later. -/
def IsLast (place : MarkerPlace root format paths id) : Prop :=
  (∀ line ∈ place.after, format.id? line ≠ some id) ∧ ∀ path ∈ place.later, ¬ root.Marks format path id

/-- No marker line with the identifier comes earlier. -/
def IsFirst (place : MarkerPlace root format paths id) : Prop :=
  (∀ line ∈ place.before, format.id? line ≠ some id) ∧ ∀ path ∈ place.earlier, ¬ root.Marks format path id

/-- The same place, with one more file after the others. -/
def extend (place : MarkerPlace root format paths id) (path : Text) :
    MarkerPlace root format (paths ++ [path]) id where
  earlier := place.earlier
  path := place.path
  later := place.later ++ [path]
  content := place.content
  before := place.before
  marker := place.marker
  after := place.after
  files := by rw [← List.cons_append, ← List.append_assoc, ← place.files]
  readable := place.readable
  lines := place.lines
  identified := place.identified

theorem IsLast.extend {place : MarkerPlace root format paths id} (is_last : place.IsLast) {path : Text}
    (unmarked : ¬ root.Marks format path id) : (place.extend path).IsLast := by
  refine ⟨is_last.1, ?_⟩
  intro other member
  rcases List.mem_append.mp member with old | new
  · exact is_last.2 other old
  · obtain rfl := List.mem_singleton.mp new
    exact unmarked

end MarkerPlace

variable {root : FileTree} {format : BlockFormat} {policy : DuplicatePolicy} {path : Text}

/-! ## One file -/

theorem readTemplate_eq_ok {text : Text} (done : root.readTemplate path = .ok text) :
    ∃ content, root.content? path = some content ∧ text = content.normalizeBreaks := by
  rw [FileTree.readTemplate] at done
  split at done
  · cases done
  · split at done
    · cases done
    · next bytes read =>
      split at done
      · cases done
      · next content decoded =>
        cases done
        refine ⟨content, ?_, rfl⟩
        simp only [FileTree.content?, read, decoded]
        rfl

/-- The definitions in a file are the blocks of its own lines. -/
theorem parse_eq_ok {pairs : List (Text × Text)} (parsed : parse root format path = .ok pairs) :
    ∃ content, root.content? path = some content ∧ pairs = format.pairs content.lines := by
  rw [parse] at parsed
  split at parsed
  · cases parsed
  · next text read =>
    obtain ⟨content, readable, rfl⟩ := readTemplate_eq_ok read
    have blocks := BlockFormat.split_eq_ok (mapError_eq_ok.mp parsed)
    rw [Text.lines_normalizeBreaks] at blocks
    exact ⟨content, readable, blocks⟩

theorem marks_iff {content : Text} (readable : root.content? path = some content) (id : Text) :
    root.Marks format path id ↔ id ∈ content.lines.filterMap format.id? := by
  rw [List.mem_filterMap]
  constructor
  · rintro ⟨other, same, marker⟩
    rw [readable, Option.some.injEq] at same
    exact same ▸ marker
  · intro marker
    exact ⟨content, readable, marker⟩

/-- The last definition of an identifier in a file stands at its last marker line. -/
theorem exists_place_of_pairs {content id text : Text} {earlier later : List (Text × Text)}
    (seen : List Text) (readable : root.content? path = some content)
    (blocks : format.pairs content.lines = earlier ++ (id, text) :: later)
    (last : id ∉ later.map Prod.fst) :
    ∃ place : MarkerPlace root format (seen ++ [path]) id, place.IsLast ∧
      text = bodyText place.body ∧ place.earlier = seen ∧
      earlier.map Prod.fst = place.before.filterMap format.id? := by
  obtain ⟨before, marker, after, split, identified, rfl, ids, more⟩ :=
    BlockFormat.exists_marker_of_pairs blocks
  refine ⟨⟨seen, path, [], content, before, marker, after, rfl, readable, split, identified⟩,
    ⟨?_, fun _ member => (List.not_mem_nil member).elim⟩, rfl, rfl, ids⟩
  intro line member same
  apply last
  rw [more]
  exact List.mem_filterMap.mpr ⟨line, member, same⟩

/-! ## All files -/

/-- The definitions are those of the last marker lines in the files: without such a line there is none, and
where none may come again, the last line is the only one. -/
structure Represents (root : FileTree) (format : BlockFormat) (policy : DuplicatePolicy)
    (paths : List Text) (merged : Dictionary Definition) : Prop where
  absent : ∀ id, merged.get? id = none → ∀ path ∈ paths, ¬ root.Marks format path id
  present : ∀ id definition, merged.get? id = some definition →
    ∃ place : MarkerPlace root format paths id, place.IsLast ∧ (policy = .refuse → place.IsFirst) ∧
      definition.body = bodyText place.body

namespace Represents

variable {seen : List Text} {merged : Dictionary Definition}

theorem nil : Represents root format policy [] .empty where
  absent := fun _ _ path member => (List.not_mem_nil member).elim
  present := fun id definition found => by
    rw [Dictionary.get?_empty] at found
    cases found

/-- What a file defines stands at its last marker line in this file. -/
private theorem exists_place_of_defined (represents : Represents root format policy seen merged)
    {content id : Text} (readable : root.content? path = some content)
    {done : Logged (Dictionary Definition)}
    (merges : merge policy path merged (format.pairs content.lines) = .ok done)
    (defined : id ∈ (format.pairs content.lines).map Prod.fst) :
    ∃ place : MarkerPlace root format (seen ++ [path]) id, place.IsLast ∧
      (policy = .refuse → place.IsFirst) ∧ done.result.get? id = some ⟨bodyText place.body, path⟩ := by
  obtain ⟨earlier, text, later, blocks, last⟩ := exists_last defined
  obtain ⟨place, is_last, rfl, old, before⟩ := exists_place_of_pairs seen readable blocks last
  refine ⟨place, is_last, ?_, ?_⟩
  · rintro rfl
    obtain ⟨distinct, fresh⟩ := fresh_of_merge merges
    constructor
    · intro line member same
      have again : id ∈ earlier.map Prod.fst := by
        rw [before]
        exact List.mem_filterMap.mpr ⟨line, member, same⟩
      rw [blocks, List.map_append, List.map_cons] at distinct
      exact (List.nodup_append.mp distinct).2.2 id again id (List.mem_cons_self ..) rfl
    · rw [old]
      exact represents.absent id (fresh id defined)
  · rw [result_of_merge merges, blocks]
    exact get?_putAll_of_last earlier last

/-- One more file. -/
theorem file (represents : Represents root format policy seen merged) {pairs : List (Text × Text)}
    (parsed : parse root format path = .ok pairs) {done : Logged (Dictionary Definition)}
    (merges : merge policy path merged pairs = .ok done) :
    Represents root format policy (seen ++ [path]) done.result := by
  obtain ⟨content, readable, rfl⟩ := parse_eq_ok parsed
  have marks_iff_defined (id : Text) :
      root.Marks format path id ↔ id ∈ (format.pairs content.lines).map Prod.fst := by
    rw [marks_iff readable, BlockFormat.pairs_ids]
  have get?_of_unmarked {id : Text} (unmarked : ¬ root.Marks format path id) :
      done.result.get? id = merged.get? id := by
    have undefined := mt (marks_iff_defined id).mpr unmarked
    rw [result_of_merge merges, get?_putAll_of_absent undefined]
  constructor
  · intro id missing
    have unmarked : ¬ root.Marks format path id := by
      intro marks
      obtain ⟨place, -, -, found⟩ :=
        represents.exists_place_of_defined readable merges ((marks_iff_defined id).mp marks)
      rw [missing] at found
      cases found
    rw [get?_of_unmarked unmarked] at missing
    intro other member
    rcases List.mem_append.mp member with old | new
    · exact represents.absent id missing other old
    · obtain rfl := List.mem_singleton.mp new
      exact unmarked
  · intro id definition found
    by_cases marks : root.Marks format path id
    · obtain ⟨place, is_last, is_first, own⟩ :=
        represents.exists_place_of_defined readable merges ((marks_iff_defined id).mp marks)
      rw [own] at found
      cases found
      exact ⟨place, is_last, is_first, rfl⟩
    · rw [get?_of_unmarked marks] at found
      obtain ⟨place, is_last, is_first, own⟩ := represents.present id definition found
      exact ⟨place.extend path, is_last.extend marks, is_first, own⟩

/-- All files, one after another. -/
theorem files (represents : Represents root format policy seen merged) {paths : List Text}
    {all : Dictionary Definition} (done : (mergeFiles root format policy merged paths).result = .ok all) :
    Represents root format policy (seen ++ paths) all := by
  induction paths generalizing seen merged with
  | nil =>
    cases done
    rw [List.append_nil]
    exact represents
  | cons path rest ih =>
    simp only [mergeFiles, Logged.after] at done
    split at done
    · cases done
    · next pairs parsed =>
      split at done
      · cases done
      · next onward merges =>
        have later := ih (represents.file parsed merges) done
        rw [List.append_assoc] at later
        exact later

theorem mem_keys_iff {paths : List Text} (represents : Represents root format policy paths merged)
    {id : Text} : id ∈ merged.keys ↔ ∃ path ∈ paths, root.Marks format path id := by
  constructor
  · intro member
    obtain ⟨definition, found⟩ := Dictionary.exists_of_mem_keys member
    obtain ⟨⟨earlier, path, later, content, before, marker, after, rfl, readable, lines, identified⟩, -⟩ :=
      represents.present id definition found
    refine ⟨path, ?_, content, readable, marker, ?_, identified⟩
    · exact List.mem_append_right _ (List.mem_cons_self ..)
    · rw [lines]
      exact List.mem_append_right _ (List.mem_cons_self ..)
  · rintro ⟨path, member, marks⟩
    by_contra missing
    exact represents.absent id (Dictionary.get?_eq_none_iff.mpr missing) path member marks

end Represents

theorem represents_of_load {paths : List Text} {definitions : Dictionary Text}
    (loaded : (load root format policy paths).result = .ok definitions) : ∃ all,
      Represents root format policy paths all ∧ definitions = all.mapValues Definition.body := by
  obtain ⟨all, merges, rfl⟩ := map_eq_ok.mp loaded
  exact ⟨all, Represents.nil.files merges, rfl⟩

theorem MarkerPlace.unbroken_body {paths : List Text} {id : Text}
    (place : MarkerPlace root format paths id) : ∀ line ∈ place.body, Text.Unbroken line := by
  intro line member
  have after : line ∈ place.after := (List.takeWhile_sublist _).subset member
  have inside : line ∈ place.content.lines := by
    rw [place.lines]
    exact List.mem_append_right _ (List.mem_cons_of_mem _ after)
  exact Text.unbroken_of_mem_lines inside

/-- No text is lost between the files and the registry. After a load that succeeds there is a query for each
identifier on a marker line. Its tokens make up the lines between the last marker line with its identifier
and the next marker line or the end of the file, without the blank lines at the two ends, and joined with
the configured break. Where no identifier may come again, that marker line is also the first one. -/
theorem source_of_load {manager : Manager} {paths : List Text}
    (loaded : (manager.load root paths).result.2 = .ok ()) :
    let after := (manager.load root paths).result.1
    (∀ id, id ∈ after.registry.sortedIds ↔ ∃ path ∈ paths, root.Marks manager.config.format path id) ∧
      ∀ id ∈ after.registry.sortedIds, ∃ tokens, after.tokens? id = some tokens ∧
        ∃ place : MarkerPlace root manager.config.format paths id, place.IsLast ∧
          (manager.config.policy = .refuse → place.IsFirst) ∧
          ∃ kept, TrimsTo place.body kept ∧
            toSource tokens = Text.joinWith manager.config.newLine kept := by
  obtain ⟨registry, found, published⟩ := Manager.exists_registry_of_load loaded
  obtain ⟨placeholder, definitions, -, defined, built⟩ := Manager.buildRegistry_eq_ok_iff.mp found
  obtain ⟨all, represents, rfl⟩ := represents_of_load defined
  have ids (id : Text) : id ∈ registry.sortedIds ↔ id ∈ all.keys := by
    rw [Registry.mem_sortedIds, Registry.ids_of_build built, Dictionary.keys_mapValues]
  rw [published]
  refine ⟨fun id => (ids id).trans represents.mem_keys_iff, ?_⟩
  intro id member
  obtain ⟨tokens, known⟩ := Dictionary.exists_of_mem_keys (Registry.mem_sortedIds.mp member)
  obtain ⟨body, present, tokenized⟩ := (Registry.tokens?_of_build built).mp known
  rw [Dictionary.get?_mapValues, Option.map_eq_some_iff] at present
  obtain ⟨definition, present, rfl⟩ := present
  obtain ⟨place, is_last, is_first, own⟩ := represents.present id definition present
  refine ⟨tokens, known, place, is_last, is_first, _, trimsTo_trimBlankLines place.body, ?_⟩
  rw [toSource_eq_joinWith_lines tokenized, own, joinWith_lines_bodyText place.unbroken_body]

/-- Two files with different breaks; the second one defines a query again. -/
def replacingFiles : FileTree :=
  .directory [
    (['a'], .file "--# q\r\nold\r\n--# p\r\n\r\nSELECT 1\r\n".toUTF8.toList),
    (['b'], .file " \r--#q \r\rSELECT $\x7bx\x7d\r \rFROM t\r\r".toUTF8.toList)]

/-- A manager that replaces definitions and joins lines with a break that looks like a placeholder. -/
def replacingManager : Manager :=
  .create { Config.standard with
    format := ⟨⟨"--#".toList, by decide⟩, true⟩, policy := .replace, newLine := "$\x7bn\x7d".toList } none

theorem source_of_load_replacing :
    (replacingManager.load replacingFiles [['a'], ['b']]).result.2 = .ok () ∧ ∃ tokens,
      (replacingManager.load replacingFiles [['a'], ['b']]).result.1.tokens? ['q'] = some tokens ∧
        toSource tokens = "SELECT $\x7bx\x7d$\x7bn\x7d $\x7bn\x7dFROM t".toList ∧
        ∃ place : MarkerPlace replacingFiles replacingManager.config.format [['a'], ['b']] ['q'],
          place.IsLast ∧ ∃ kept, TrimsTo place.body kept ∧
            toSource tokens = Text.joinWith replacingManager.config.newLine kept := by
  have loaded : (replacingManager.load replacingFiles [['a'], ['b']]).result.2 = .ok () := by
    decide +kernel
  have known : (replacingManager.load replacingFiles [['a'], ['b']]).result.1.tokens? ['q'] =
      some [.literal "SELECT ".toList, .named ['x'] (some "$\x7bx\x7d".toList),
        .literal "$\x7bn\x7d $\x7bn\x7dFROM t".toList] := by
    decide +kernel
  have member := Registry.mem_sortedIds.mpr (Dictionary.mem_keys_of_get? known)
  obtain ⟨tokens, found, place, is_last, -, joined⟩ := (source_of_load loaded).2 ['q'] member
  rw [known, Option.some.injEq] at found
  subst found
  exact ⟨loaded, _, known, by decide, place, is_last, joined⟩

end QueryTemplates
