import QueryTemplates.Proofs.Files.Listing
import QueryTemplates.Proofs.Text.Order

/-! # Discovering files

The files below a directory are those that entries lead to from it, at any depth. They are listed once each,
in the order of the names on the way to them: where two ways part, the lesser name comes first. So the files
below a directory stand together, where its own name would stand.
-/

namespace QueryTemplates

namespace FileTree

variable {root tree target : FileTree} {location : Text} {names place : List Text}
  {entries inner : List (Text × FileTree)}

/-- What holds of a directory as soon as it holds of its entries, and of every file, holds of every tree. -/
@[elab_as_elim]
theorem induction_on_entries {motive : FileTree → Prop} (tree : FileTree)
    (of_file : ∀ bytes, motive (.file bytes))
    (of_directory : ∀ entries, (∀ entry ∈ entries, motive entry.2) → motive (.directory entries)) :
    motive tree := by
  cases tree with
  | file bytes => exact of_file bytes
  | directory entries =>
    exact of_directory entries fun entry _present => induction_on_entries entry.2 of_file of_directory
termination_by sizeOf tree
decreasing_by
  have smaller : sizeOf entry < sizeOf entries := List.sizeOf_lt_of_mem _present
  obtain ⟨name, tree⟩ := entry
  simp only [Prod.mk.sizeOf_spec, directory.sizeOf_spec] at smaller ⊢
  omega

/-! ## What lies below a tree -/

/-- Names lead from a tree to what lies below it, from entry to entry. -/
inductive Leads : FileTree → List Text → FileTree → Prop
  | here (tree : FileTree) : Leads tree [] tree
  | through {entries : List (Text × FileTree)} {name : Text} {tree target : FileTree} {names : List Text}
      (present : (name, tree) ∈ entries) (onward : Leads tree names target) :
      Leads (.directory entries) (name :: names) target

theorem leads_file_iff {bytes : List UInt8} :
    (FileTree.file bytes).Leads names target ↔ names = [] ∧ target = .file bytes := by
  constructor
  · intro leads
    cases leads
    exact ⟨rfl, rfl⟩
  · rintro ⟨rfl, rfl⟩
    exact .here _

theorem leads_directory_iff : (directory entries).Leads names target ↔
    names = [] ∧ target = .directory entries ∨
      ∃ entry ∈ entries, ∃ rest, names = entry.1 :: rest ∧ entry.2.Leads rest target := by
  constructor
  · intro leads
    cases leads with
    | here => exact .inl ⟨rfl, rfl⟩
    | through present onward => exact .inr ⟨_, present, _, rfl, onward⟩
  · rintro (⟨rfl, rfl⟩ | ⟨entry, present, rest, rfl, onward⟩)
    · exact .here _
    · exact .through present onward

/-- No directory in the tree has two entries of one name. -/
def DistinctNames (tree : FileTree) : Prop :=
  ∀ names entries, tree.Leads names (.directory entries) → (entries.map Prod.fst).Nodup

theorem distinctNames_file (bytes : List UInt8) : DistinctNames (.file bytes) := by
  intro names entries leads
  cases leads

theorem distinctNames_directory_iff : DistinctNames (.directory entries) ↔
    (entries.map Prod.fst).Nodup ∧ ∀ entry ∈ entries, entry.2.DistinctNames := by
  constructor
  · intro distinct
    refine ⟨distinct [] entries (.here _), fun entry present names inner leads => ?_⟩
    exact distinct (entry.1 :: names) inner (.through present leads)
  · rintro ⟨own, inner⟩ names others leads
    cases leads with
    | here => exact own
    | through present onward => exact inner _ present _ _ onward

/-! ## The order of entries -/

/-- The entries of a directory in the order of their names. -/
def sortedEntries (entries : List (Text × FileTree)) : List (Text × FileTree) :=
  entries.mergeSort fun first second => first.1.precedes second.1

theorem mem_sortedEntries {entry : Text × FileTree} : entry ∈ sortedEntries entries ↔ entry ∈ entries :=
  (List.mergeSort_perm _ _).mem_iff

theorem pairwise_sortedEntries (distinct : (entries.map Prod.fst).Nodup) :
    (sortedEntries entries).Pairwise fun first second => first.1 < second.1 := by
  have names : (sortedEntries entries).map Prod.fst = (entries.map Prod.fst).mergeSort Text.precedes :=
    List.map_mergeSort fun _ _ _ _ => rfl
  rw [← List.pairwise_map (f := Prod.fst), names]
  exact Text.pairwise_lt_mergeSort distinct

private theorem namedFiles_eq_map (entries : List (Text × FileTree)) :
    namedFiles entries = entries.map fun entry => (entry.1, entry.2.files) := by
  induction entries with
  | nil => rfl
  | cons entry rest ih => rw [namedFiles, List.map_cons, ih]

private theorem namedPlaces_eq_map (entries : List (Text × FileTree)) :
    namedPlaces entries = entries.map fun entry => (entry.1, entry.2.places) := by
  induction entries with
  | nil => rfl
  | cons entry rest ih => rw [namedPlaces, List.map_cons, ih]

theorem files_directory (entries : List (Text × FileTree)) : (directory entries).files =
    (sortedEntries entries).flatMap fun entry => entry.2.files.map (entry.1 :: ·) := by
  rw [files, namedFiles_eq_map, ← List.map_mergeSort (r := fun first second => first.1.precedes second.1)]
  · exact List.flatMap_map _ _ _
  · exact fun _ _ _ _ => rfl

theorem places_directory (entries : List (Text × FileTree)) : (directory entries).places =
    (sortedEntries entries).flatMap fun entry => [entry.1] :: entry.2.places.map (entry.1 :: ·) := by
  rw [places, namedPlaces_eq_map, ← List.map_mergeSort (r := fun first second => first.1.precedes second.1)]
  · exact List.flatMap_map _ _ _
  · exact fun _ _ _ _ => rfl

/-! ## Completeness -/

/-- The files of a tree are all that names lead to, and nothing else. -/
theorem mem_files_iff : names ∈ tree.files ↔ ∃ bytes, tree.Leads names (.file bytes) := by
  induction tree using induction_on_entries generalizing names with
  | of_file bytes =>
    rw [files, List.mem_singleton]
    constructor
    · rintro rfl
      exact ⟨bytes, .here _⟩
    · rintro ⟨other, leads⟩
      cases leads
      rfl
  | of_directory entries ih =>
    simp only [files_directory, List.mem_flatMap, mem_sortedEntries, List.mem_map]
    constructor
    · rintro ⟨entry, present, inner, among, rfl⟩
      obtain ⟨bytes, leads⟩ := (ih entry present).mp among
      exact ⟨bytes, .through present leads⟩
    · rintro ⟨bytes, leads⟩
      cases leads with
      | through present onward => exact ⟨_, present, _, (ih _ present).mpr ⟨bytes, onward⟩, rfl⟩

/-- The places of a tree are all that names lead to, except for the tree itself. -/
theorem mem_places_iff : names ∈ tree.places ↔ names ≠ [] ∧ ∃ target, tree.Leads names target := by
  induction tree using induction_on_entries generalizing names with
  | of_file bytes =>
    rw [places]
    constructor
    · intro absent
      exact absurd absent List.not_mem_nil
    · rintro ⟨some_names, target, leads⟩
      cases leads
      exact absurd rfl some_names
  | of_directory entries ih =>
    simp only [places_directory, List.mem_flatMap, mem_sortedEntries, List.mem_cons, List.mem_map]
    constructor
    · rintro ⟨entry, present, rfl | ⟨inner, among, rfl⟩⟩
      · exact ⟨List.cons_ne_nil _ _, entry.2, .through present (.here _)⟩
      · obtain ⟨-, target, leads⟩ := (ih entry present).mp among
        exact ⟨List.cons_ne_nil _ _, target, .through present leads⟩
    · rintro ⟨some_names, target, leads⟩
      cases leads with
      | here => exact absurd rfl some_names
      | @through _ name tree _ inner present onward =>
        refine ⟨(name, tree), present, ?_⟩
        by_cases last : inner = []
        · exact .inl (by rw [last])
        · exact .inr ⟨inner, (ih _ present).mpr ⟨last, target, onward⟩, rfl⟩

/-! ## Order -/

/-- The files of a tree are in strictly increasing order of the names on the way to them. -/
theorem pairwise_files (distinct : tree.DistinctNames) : tree.files.Pairwise (· < ·) := by
  induction tree using induction_on_entries with
  | of_file bytes =>
    rw [files]
    exact List.pairwise_singleton _ _
  | of_directory entries ih =>
    obtain ⟨own, inner⟩ := distinctNames_directory_iff.mp distinct
    rw [files_directory, List.pairwise_flatMap]
    constructor
    · intro entry present
      have present := mem_sortedEntries.mp present
      refine List.pairwise_map.mpr ((ih entry present (inner entry present)).imp fun less => ?_)
      exact List.cons_lt_cons_iff.mpr (.inr ⟨rfl, less⟩)
    · refine (pairwise_sortedEntries own).imp fun less names among others elsewhere => ?_
      obtain ⟨_, -, rfl⟩ := List.mem_map.mp among
      obtain ⟨_, -, rfl⟩ := List.mem_map.mp elsewhere
      exact List.cons_lt_cons_iff.mpr (.inl less)

/-- There is one list in increasing order with given members. -/
theorem eq_of_increasing {first second : List (List Text)} (same : ∀ names, names ∈ first ↔ names ∈ second)
    (increasing : first.Pairwise (· < ·)) (increasing' : second.Pairwise (· < ·)) : first = second := by
  refine List.Perm.eq_of_pairwise (fun _ _ _ _ less greater => ?_) increasing increasing' ?_
  · exact absurd less (List.lt_asymm greater)
  · exact (List.perm_ext_iff_of_nodup increasing.nodup increasing'.nodup).mpr fun names => same names

/-- In a list of ways, those that go through a place stand together, where the way to the place would stand:
the ways before them are less than it, and those behind them are greater. -/
def StandTogether (place : List Text) (listed : List (List Text)) : Prop :=
  ∃ before own after, listed = before ++ own ++ after ∧ (∀ names ∈ own, place <+: names) ∧
    (∀ names ∈ before, names < place) ∧ ∀ names ∈ after, place < names ∧ ¬ place <+: names

/-- The files below a place stand together. -/
theorem standTogether_files (distinct : tree.DistinctNames) (leads : tree.Leads place target) :
    StandTogether place tree.files := by
  induction leads with
  | here tree => exact ⟨[], tree.files, [], by simp, by simp, by simp, by simp⟩
  | @through entries name tree target inner present onward ih =>
    obtain ⟨own_names, distinct⟩ := distinctNames_directory_iff.mp distinct
    obtain ⟨before, own, after, around, through, less, greater⟩ := ih (distinct _ present)
    obtain ⟨lesser, others, split⟩ := List.append_of_mem (mem_sortedEntries.mpr present)
    have sorted := pairwise_sortedEntries own_names
    rw [split, List.pairwise_append, List.pairwise_cons] at sorted
    obtain ⟨-, ⟨behind, -⟩, ahead⟩ := sorted
    let below (entry : Text × FileTree) := entry.2.files.map (entry.1 :: ·)
    refine ⟨lesser.flatMap below ++ before.map (name :: ·), own.map (name :: ·),
      after.map (name :: ·) ++ others.flatMap below, ?_, ?_, ?_, ?_⟩
    · rw [files_directory, split, List.flatMap_append, List.flatMap_cons, around]
      simp [below]
    · intro names among
      obtain ⟨inside, member, rfl⟩ := List.mem_map.mp among
      exact (List.prefix_cons_inj name).mpr (through inside member)
    · intro names among
      rcases List.mem_append.mp among with aside | among
      · obtain ⟨entry, earlier, among⟩ := List.mem_flatMap.mp aside
        obtain ⟨_, -, rfl⟩ := List.mem_map.mp among
        exact List.cons_lt_cons_iff.mpr (.inl (ahead entry earlier _ (List.mem_cons_self ..)))
      · obtain ⟨inside, earlier, rfl⟩ := List.mem_map.mp among
        exact List.cons_lt_cons_iff.mpr (.inr ⟨rfl, less inside earlier⟩)
    · intro names among
      rcases List.mem_append.mp among with among | aside
      · obtain ⟨inside, later, rfl⟩ := List.mem_map.mp among
        obtain ⟨greater, apart⟩ := greater inside later
        exact ⟨List.cons_lt_cons_iff.mpr (.inr ⟨rfl, greater⟩), fun goes =>
          apart ((List.prefix_cons_inj name).mp goes)⟩
      · obtain ⟨entry, later, among⟩ := List.mem_flatMap.mp aside
        obtain ⟨_, -, rfl⟩ := List.mem_map.mp among
        have greater : name < entry.1 := behind entry later
        refine ⟨List.cons_lt_cons_iff.mpr (.inl greater), fun goes => ?_⟩
        rw [(List.cons_prefix_cons.mp goes).1] at greater
        exact List.lt_irrefl _ greater

/-! ## Trees that are written -/

theorem distinctNames_empty : empty.DistinctNames := by
  simp [empty, distinctNames_directory_iff]

theorem DistinctNames.of_entries (distinct : tree.DistinctNames) :
    (tree.entries.map Prod.fst).Nodup ∧ ∀ entry ∈ tree.entries, entry.2.DistinctNames := by
  cases tree with
  | file bytes => simp [FileTree.entries]
  | directory entries => exact distinctNames_directory_iff.mp distinct

theorem DistinctNames.putEntry {name : Text} (distinct : tree.DistinctNames) (other : target.DistinctNames) :
    (directory (Dictionary.putEntry name target tree.entries)).DistinctNames := by
  obtain ⟨own, inner⟩ := distinct.of_entries
  refine distinctNames_directory_iff.mpr ⟨Dictionary.nodup_putEntry own, fun entry present => ?_⟩
  rcases Dictionary.mem_putEntry present with rfl | present
  · exact other
  · exact inner entry present

theorem DistinctNames.lookup {name : Text} (distinct : tree.DistinctNames)
    (found : tree.entries.lookup name = some target) : target.DistinctNames :=
  distinct.of_entries.2 _ (Dictionary.mem_of_lookup found)

/-- What is written keeps names distinct. -/
theorem distinctNames_write {written : FileTree} (distinct : root.DistinctNames)
    (own : written.DistinctNames) (path : Path) : (root.write path written).DistinctNames := by
  rw [write]
  generalize path.names = names
  induction names generalizing root with
  | nil =>
    rw [writeBelow]
    cases root with
    | file bytes => exact own
    | directory entries =>
      cases written with
      | file bytes => exact own
      | directory others => exact distinct
  | cons name rest ih =>
    rw [writeBelow]
    refine distinct.putEntry (ih ?_)
    cases found : root.entries.lookup name with
    | none => exact distinctNames_empty
    | some tree => exact distinct.lookup found

/-- What is deleted keeps names distinct. -/
theorem distinctNames_delete (distinct : root.DistinctNames) (path : Path) :
    (root.delete path).DistinctNames := by
  rw [delete]
  generalize path.names = names
  induction names generalizing root with
  | nil => exact distinct
  | cons name rest ih =>
    cases rest with
    | nil =>
      obtain ⟨own, inner⟩ := distinct.of_entries
      refine distinctNames_directory_iff.mpr ⟨own.sublist (List.filter_sublist.map _), fun entry present => ?_⟩
      exact inner entry (List.mem_of_mem_filter present)
    | cons next rest =>
      rw [deleteBelow]
      split
      · exact distinct
      · next tree found => exact distinct.putEntry (ih (distinct.lookup found))
      · exact fun absent => absurd absent (List.cons_ne_nil _ _)

/-! ## Listing a directory -/

/-- The location is a directory with these entries. It is looked for from the root, where relative paths start,
and no location holds a null character. -/
structure HasDirectory (root : FileTree) (location : Text) (entries : List (Text × FileTree)) : Prop where
  plain : '\x00' ∉ location
  found : root.find (Path.ofText location) = .ok (.directory entries)

/-- The ways to all files below a tree, once each and in increasing order, where those that go through a place
stand together. -/
structure IsListing (tree : FileTree) (listed : List (List Text)) : Prop where
  complete : ∀ names, names ∈ listed ↔ ∃ bytes, tree.Leads names (.file bytes)
  increasing : listed.Pairwise (· < ·)
  together : ∀ place target, tree.Leads place target → StandTogether place listed

theorem isListing_files (distinct : tree.DistinctNames) : IsListing tree tree.files :=
  ⟨fun _ => mem_files_iff, pairwise_files distinct, fun _ _ => standTogether_files distinct⟩

/-- A directory is listed if nothing below it has a path that is too long. -/
theorem list_eq_ok_iff (here : root.HasDirectory location entries) {paths : List Path} :
    root.list location = .ok paths ↔
      (∀ names ∈ (directory entries).places, isTooLong ((Path.ofText location).below names) = false) ∧
        paths = (directory entries).files.map (Path.ofText location).below := by
  have plain : ¬ location.contains '\x00' = true := fun present => here.plain (List.contains_iff_mem.mp present)
  simp only [list, if_neg plain, here.found]
  split
  · next long first =>
    refine iff_of_false (by simp only [reduceCtorEq, not_false_eq_true]) ?_
    rintro ⟨fits, -⟩
    obtain ⟨names, among, rfl⟩ := List.mem_map.mp (List.mem_of_find?_eq_some first)
    exact absurd (List.find?_some first) (Bool.eq_false_iff.mp (fits names among))
  · next none =>
    rw [List.find?_eq_none, List.forall_mem_map] at none
    simp only [Bool.not_eq_true] at none
    rw [Except.ok.injEq, and_iff_right none]
    exact eq_comm

theorem byteSize_lt_of_find {path : Path} (found : root.find path = .ok tree) :
    path.text.byteSize < pathLimit := by
  rw [find] at found
  split at found
  · cases found
  · next fits => exact Nat.not_le.mp fits

/-- A directory is listed exactly if all that lies below it has a path within the limit. -/
theorem exists_list_iff (here : root.HasDirectory location entries) : (∃ paths, root.list location = .ok paths) ↔
    ∀ names target, (directory entries).Leads names target →
      ((Path.ofText location).below names).text.byteSize < pathLimit := by
  simp only [list_eq_ok_iff here, exists_and_left, exists_eq, and_true, mem_places_iff, isTooLong,
    decide_eq_false_iff_not, Nat.not_le]
  constructor
  · intro fits names target leads
    by_cases own : names = []
    · subst own
      rw [Path.below, List.append_nil]
      exact byteSize_lt_of_find here.found
    · exact fits names ⟨own, target, leads⟩
  · rintro fits names ⟨-, target, leads⟩
    exact fits names target leads

/-- A directory is listed exactly if all that lies below it has a path within the limit, and then the listing
has every file below it once and nothing else, in the order of the names on the way, where the files of a
directory stand together. Nesting beyond the limit that an interpreter sets to calls is set aside, and there is
nothing but files and directories in a tree. -/
theorem list_of_directory (here : root.HasDirectory location entries)
    (distinct : (directory entries).DistinctNames) :
    ((∃ paths, root.list location = .ok paths) ↔
      ∀ names target, (directory entries).Leads names target →
        ((Path.ofText location).below names).text.byteSize < pathLimit) ∧
    ∀ paths, root.list location = .ok paths →
      ∃ listed, paths = listed.map (Path.ofText location).below ∧ IsListing (.directory entries) listed := by
  refine ⟨exists_list_iff here, fun paths listed => ?_⟩
  exact ⟨_, ((list_eq_ok_iff here).mp listed).2, isListing_files distinct⟩

/-- The files of a directory come before the file whose name goes on with a dot, though a dot is less than the
slash between the names of a path. -/
theorem list_of_directory_dotted :
    let inner := [("b".toList, FileTree.file []), ("empty".toList, .directory [])]
    let entries := [("a.txt".toList, FileTree.file []), ("a".toList, .directory inner)]
    let root := FileTree.directory [("d".toList, .directory entries)]
    root.HasDirectory "./d//".toList entries ∧ (directory entries).DistinctNames ∧
      root.list "./d//".toList =
        .ok [⟨0, ["d".toList, "a".toList, "b".toList]⟩, ⟨0, ["d".toList, "a.txt".toList]⟩] := by
  intro inner entries root
  have here : root.HasDirectory "./d//".toList entries := ⟨by decide, rfl⟩
  have distinct : (directory entries).DistinctNames := by
    simp [distinctNames_directory_iff, distinctNames_file, entries, inner]
  obtain ⟨listable, spec⟩ := list_of_directory here distinct
  have fits (names : List Text) (target : FileTree) (leads : (directory entries).Leads names target) :
      ((Path.ofText "./d//".toList).below names).text.byteSize < pathLimit := by
    simp only [leads_directory_iff, leads_file_iff, entries, inner, List.mem_cons, List.not_mem_nil, or_false,
      exists_eq_or_imp, exists_eq_left, false_and, exists_false] at leads
    rcases leads with ⟨rfl, -⟩ | ⟨_, rfl, rfl, -⟩ | ⟨_, rfl, ⟨rfl, -⟩ | ⟨_, rfl, rfl, -⟩ | ⟨_, rfl, rfl, -⟩⟩
    all_goals decide
  obtain ⟨paths, done⟩ := listable.mpr fits
  obtain ⟨listed, rfl, listing⟩ := spec paths done
  have same : listed = [["a".toList, "b".toList], ["a.txt".toList]] := by
    have members (names : List Text) :
        names ∈ listed ↔ names ∈ [["a".toList, "b".toList], ["a.txt".toList]] := by
      rw [listing.complete]
      simp [leads_directory_iff, leads_file_iff, entries, inner]
      grind
    exact eq_of_increasing members listing.increasing (by decide)
  rw [done, same]
  refine ⟨here, distinct, rfl⟩

/-- Going into a directory and back again, any number of times, leads nowhere else. -/
theorem walk_rounds {name : Text} (present : entries.lookup name = some (.directory inner))
    (plain : name ≠ Path.parentName) (short : name.byteSize ≤ nameLimit) (rounds : Nat) (rest : List Text) :
    walk [] (.directory entries) ((List.replicate rounds [name, Path.parentName]).flatten ++ rest) =
      walk [] (.directory entries) rest := by
  induction rounds with
  | zero => rfl
  | succ rounds ih =>
    rw [List.replicate_succ, List.flatten_cons, List.append_assoc, ← ih]
    simp [walk, plain, present, Nat.not_lt.mpr short]

/-- A directory whose path is within the limit is not listed where the path of a file in it is not. -/
theorem unlisted_of_long_path :
    let name : Text := List.replicate 250 'd'
    let file : Text := List.replicate 250 'f'
    let location : Text := (List.replicate 15 (name ++ "/../".toList)).flatten ++ name
    let entries := [(file, FileTree.file [])]
    let root := FileTree.directory [(name, .directory entries)]
    root.HasDirectory location entries ∧ (directory entries).DistinctNames ∧
      (directory entries).Leads [file] (.file []) ∧ ¬ ∃ paths, root.list location = .ok paths := by
  intro name file location entries root
  have short : name.byteSize ≤ nameLimit := by decide +kernel
  have found : List.lookup name [(name, directory entries)] = some (directory entries) := List.lookup_cons_self
  have path : Path.ofText location = ⟨0, (List.replicate 15 [name, Path.parentName]).flatten ++ [name]⟩ := by
    decide +kernel
  have here : root.HasDirectory location entries := by
    refine ⟨by decide +kernel, ?_⟩
    have fits : ¬ pathLimit ≤ (Path.ofText location).text.byteSize := by decide +kernel
    rw [find, if_neg fits, path, if_neg (Nat.lt_irrefl 0), walk_rounds found (by decide) short]
    simp [walk, found, Nat.not_lt.mpr short]
    decide
  have leads : (directory entries).Leads [file] (.file []) := .through (List.mem_singleton_self _) (.here _)
  refine ⟨here, by simp [distinctNames_directory_iff, distinctNames_file, entries], leads, ?_⟩
  rw [exists_list_iff here]
  intro fits
  have long : pathLimit ≤ ((Path.ofText location).below [file]).text.byteSize := by decide +kernel
  exact absurd (fits _ _ leads) (Nat.not_lt.mpr long)

end FileTree

end QueryTemplates
