import Mathlib.Data.List.Perm.Basic
import QueryTemplates.Proofs.Definitions.Merging
import QueryTemplates.Proofs.Manager.Loading
import QueryTemplates.Proofs.Text.Order

/-! # Files in another order

Where no identifier may be defined twice, the definitions of several files are those of each of them, one
after another. Whether they can be loaded then does not depend on the order of the files, nor does anything
that the manager answers, and nothing changes if definitions are allowed to replace each other.
-/

namespace QueryTemplates

/-! ## Entries in another order -/

namespace Dictionary

variable {α β ε : Type} {first second : Dictionary α}

/-- The same entries, perhaps in another order. -/
def Rearranges (first second : Dictionary α) : Prop := first.entries.Perm second.entries

theorem get?_eq_some_iff {key : Text} {value : α} :
    first.get? key = some value ↔ (key, value) ∈ first.entries := by
  obtain ⟨entries, nodup⟩ := first
  simp only [get?]
  induction entries with
  | nil => simp
  | cons entry rest ih =>
    obtain ⟨own, held⟩ := entry
    obtain ⟨fresh, nodup⟩ := List.nodup_cons.mp nodup
    rw [List.lookup_cons, List.mem_cons]
    cases same : key == own with
    | true =>
      obtain rfl := beq_iff_eq.mp same
      have absent : (key, value) ∉ rest := fun member => fresh (List.mem_map.mpr ⟨_, member, rfl⟩)
      simp [absent, eq_comm]
    | false =>
      have different : (key, value) ≠ (own, held) := fun equal =>
        (beq_eq_false_iff_ne.mp same) (congrArg Prod.fst equal)
      simp [ih nodup, different]

theorem Rearranges.get?_eq (same : first.Rearranges second) (key : Text) :
    first.get? key = second.get? key := by
  ext value
  rw [get?_eq_some_iff, get?_eq_some_iff]
  exact same.mem_iff

theorem Rearranges.size_eq (same : first.Rearranges second) : first.size = second.size :=
  same.length_eq

theorem Rearranges.sortedKeys_eq (same : first.Rearranges second) : first.sortedKeys = second.sortedKeys :=
  Text.mergeSort_eq_of_perm (same.map Prod.fst)

theorem Rearranges.mapValues (same : first.Rearranges second) (change : α → β) :
    (first.mapValues change).Rearranges (second.mapValues change) :=
  same.map _

/-- Changing the values succeeds for all orders of the entries or for none. -/
theorem Rearranges.exists_traverse (same : first.Rearranges second) {change : Text → α → Except ε β}
    {result : Dictionary β} (changed : first.traverse change = .ok result) :
    ∃ also, second.traverse change = .ok also ∧ result.Rearranges also := by
  obtain ⟨entries, each, perm⟩ := List.perm_comp_forall₂ (List.Perm.symm same) (traverse_eq_ok_iff.mp changed)
  have distinct : (entries.map Prod.fst).Nodup := (perm.map Prod.fst).nodup_iff.mpr result.nodup
  exact ⟨⟨entries, distinct⟩, traverse_eq_ok_iff.mpr each, perm.symm⟩

theorem entries_put_of_absent {dictionary : Dictionary α} {key : Text} (absent : dictionary.get? key = none)
    (value : α) : (dictionary.put key value).entries = dictionary.entries ++ [(key, value)] := by
  obtain ⟨entries, nodup⟩ := dictionary
  simp only [put]
  rw [get?_eq_none_iff] at absent
  simp only [keys] at absent
  clear nodup
  induction entries with
  | nil => rfl
  | cons entry rest ih =>
    obtain ⟨different, later⟩ := not_or.mp fun member => absent (List.mem_cons.mpr member)
    rw [putEntry, if_neg (Ne.symm different), ih later, List.cons_append]

end Dictionary

/-! ## Definitions in another order -/

variable {root : FileTree} {format : BlockFormat} {policy : DuplicatePolicy} {path : Text}
  {merged : Dictionary Definition}

/-- The definitions of one file as entries of a dictionary. -/
def entriesOf (path : Text) (pairs : List (Text × Text)) : List (Text × Definition) :=
  pairs.map fun pair => (pair.1, ⟨pair.2, path⟩)

theorem keys_entriesOf (path : Text) (pairs : List (Text × Text)) :
    (entriesOf path pairs).map Prod.fst = pairs.map Prod.fst := by
  rw [entriesOf, List.map_map]
  rfl

/-- The definitions in a file as entries of a dictionary, if it can be read. -/
def entriesIn (root : FileTree) (format : BlockFormat) (path : Text) : List (Text × Definition) :=
  match parse root format path with
  | .ok pairs => entriesOf path pairs
  | .error _ => []

theorem entriesIn_of_parse {pairs : List (Text × Text)} (parsed : parse root format path = .ok pairs) :
    entriesIn root format path = entriesOf path pairs := by
  rw [entriesIn, parsed]

/-- Definitions of new identifiers are put after those that are there, whatever the policy. -/
theorem merge_of_fresh {pairs : List (Text × Text)} (distinct : (pairs.map Prod.fst).Nodup)
    (fresh : ∀ id ∈ pairs.map Prod.fst, merged.get? id = none) : ∃ done,
      merge policy path merged pairs = .ok done ∧
        done.result.entries = merged.entries ++ entriesOf path pairs := by
  induction pairs generalizing merged with
  | nil => exact ⟨.quiet merged, rfl, (List.append_nil _).symm⟩
  | cons pair rest ih =>
    obtain ⟨id, body⟩ := pair
    obtain ⟨new, distinct⟩ := List.nodup_cons.mp distinct
    have absent : merged.get? id = none := fresh id (List.mem_cons_self ..)
    obtain ⟨done, merges, entries⟩ := @ih (merged.put id ⟨body, path⟩) distinct <| by
      intro other member
      rw [Dictionary.get?_put, if_neg (ne_of_mem_of_not_mem member new)]
      exact fresh other (List.mem_cons_of_mem _ member)
    refine ⟨done, ?_, ?_⟩
    · rw [merge, absent]
      exact merges
    · rw [entries, Dictionary.entries_put_of_absent absent, List.append_assoc]
      rfl

/-- Files that can all be read, and whose identifiers differ from each other and from those that are
there. -/
structure Mergeable (root : FileTree) (format : BlockFormat) (merged : Dictionary Definition)
    (paths : List Text) : Prop where
  parsed : ∀ path ∈ paths, ∃ pairs, parse root format path = .ok pairs
  distinct : ((merged.entries ++ paths.flatMap (entriesIn root format)).map Prod.fst).Nodup

namespace Mergeable

theorem perm {paths others : List Text} (mergeable : Mergeable root format merged paths)
    (same : paths.Perm others) : Mergeable root format merged others where
  parsed := fun path member => mergeable.parsed path (same.mem_iff.mpr member)
  distinct := (((same.flatMap_right _).append_left _).map Prod.fst).nodup mergeable.distinct

/-- The definitions of such files are put one after another, whatever the policy. -/
theorem exists_mergeFiles {paths : List Text} (mergeable : Mergeable root format merged paths) : ∃ all,
    (mergeFiles root format policy merged paths).result = .ok all ∧
      all.entries = merged.entries ++ paths.flatMap (entriesIn root format) := by
  induction paths generalizing merged with
  | nil => exact ⟨merged, rfl, (List.append_nil _).symm⟩
  | cons path rest ih =>
    obtain ⟨pairs, parsed⟩ := mergeable.parsed path (List.mem_cons_self ..)
    have distinct := mergeable.distinct
    rw [List.flatMap_cons, entriesIn_of_parse parsed, ← List.append_assoc] at distinct
    have upTo : ((merged.entries ++ entriesOf path pairs).map Prod.fst).Nodup := by
      rw [List.map_append] at distinct
      exact distinct.of_append_left
    rw [List.map_append, keys_entriesOf] at upTo
    obtain ⟨-, own, apart⟩ := List.nodup_append.mp upTo
    obtain ⟨done, merges, entries⟩ := @merge_of_fresh policy path merged pairs own <| by
      intro id member
      rw [Dictionary.get?_eq_none_iff]
      exact fun before => apart id before id member rfl
    have others : Mergeable root format done.result rest := by
      refine ⟨fun other member => mergeable.parsed other (List.mem_cons_of_mem _ member), ?_⟩
      rw [entries]
      exact distinct
    obtain ⟨all, merges_all, all_entries⟩ := ih others
    refine ⟨all, ?_, ?_⟩
    · simp only [mergeFiles, Logged.after, parsed, merges]
      exact merges_all
    · rw [all_entries, entries, List.flatMap_cons, entriesIn_of_parse parsed, List.append_assoc]

end Mergeable

/-- Where no identifier may come again, only such files can be merged. -/
theorem mergeable_of_mergeFiles {paths : List Text} {all : Dictionary Definition}
    (done : (mergeFiles root format .refuse merged paths).result = .ok all) :
    Mergeable root format merged paths := by
  induction paths generalizing merged with
  | nil =>
    refine ⟨fun path member => (List.not_mem_nil member).elim, ?_⟩
    rw [List.flatMap_nil, List.append_nil]
    exact merged.nodup
  | cons path rest ih =>
    simp only [mergeFiles, Logged.after] at done
    split at done
    · cases done
    · next pairs parsed =>
      split at done
      · cases done
      · next onward merges =>
        obtain ⟨distinct, fresh⟩ := fresh_of_merge merges
        obtain ⟨again, same, entries⟩ := @merge_of_fresh .refuse path _ _ distinct fresh
        rw [merges] at same
        cases same
        have later := ih done
        refine ⟨?_, ?_⟩
        · intro other member
          rcases List.mem_cons.mp member with rfl | member
          · exact ⟨pairs, parsed⟩
          · exact later.parsed other member
        · rw [List.flatMap_cons, entriesIn_of_parse parsed, ← List.append_assoc, ← entries]
          exact later.distinct

/-- Where no identifier may come again, files in another order can be loaded as well, also where one may
come again, and they define the same. -/
theorem exists_load_of_perm {paths others : List Text} (same : paths.Perm others)
    {definitions : Dictionary Text}
    (loaded : (load root format .refuse paths).result = .ok definitions) : ∃ also,
      (load root format policy others).result = .ok also ∧ definitions.Rearranges also := by
  obtain ⟨all, merges, rfl⟩ := map_eq_ok.mp loaded
  have mergeable := mergeable_of_mergeFiles merges
  obtain ⟨first, again, entries⟩ := @Mergeable.exists_mergeFiles _ _ .refuse _ _ mergeable
  rw [merges] at again
  cases again
  obtain ⟨second, moved, moved_entries⟩ := @Mergeable.exists_mergeFiles _ _ policy _ _ (mergeable.perm same)
  refine ⟨_, map_eq_ok.mpr ⟨second, moved, rfl⟩, ?_⟩
  have rearranges : all.Rearranges second := by
    rw [Dictionary.Rearranges, entries, moved_entries]
    exact (same.flatMap_right _).append_left _
  exact rearranges.mapValues _

/-! ## Managers -/

/-- The configuration with a policy for identifiers that are defined again. -/
def Config.withPolicy (config : Config) (policy : DuplicatePolicy) : Config := { config with policy }

namespace Manager

/-- Two managers that answer all questions about their queries in the same way. -/
structure SameAnswers (first second : Manager) : Prop where
  tokens : ∀ id, first.tokens? id = second.tokens? id
  render : ∀ id arguments, first.render id arguments = second.render id arguments
  namedParameters : ∀ id, first.namedParameters? id = second.namedParameters? id
  positionalCount : ∀ id, first.positionalCount? id = second.positionalCount? id
  count : first.count = second.count
  ids : first.registry.sortedIds = second.registry.sortedIds

theorem sameAnswers_of_rearranges {first second : Manager} (processor : first.processor = second.processor)
    (same : first.registry.queries.Rearranges second.registry.queries) : first.SameAnswers second := by
  have tokens (id : Text) : first.registry.tokens? id = second.registry.tokens? id := same.get?_eq id
  refine ⟨tokens, ?_, ?_, ?_, same.size_eq, same.sortedKeys_eq⟩
  · intro id arguments
    simp only [render, Registry.renderLogged, Registry.render, tokens id, processor]
  · intro id
    simp only [namedParameters?, tokens?, tokens id]
  · intro id
    simp only [positionalCount?, tokens?, tokens id]

/-- Where no identifier may come again, the queries of files in another order are the same ones, also where
one may come again. -/
theorem exists_buildRegistry_of_perm {config : Config} (refuses : config.policy = .refuse)
    {paths others : List Text} (same : paths.Perm others) {registry : Registry}
    (found : (buildRegistry config root paths).result = .ok registry) (policy : DuplicatePolicy) : ∃ also,
      (buildRegistry (config.withPolicy policy) root others).result = .ok also ∧
        registry.queries.Rearranges also.queries := by
  obtain ⟨placeholder, definitions, compiled, loaded, built⟩ := buildRegistry_eq_ok_iff.mp found
  rw [refuses] at loaded
  obtain ⟨others_definitions, others_loaded, rearranges⟩ :=
    @exists_load_of_perm root config.format policy _ _ same _ loaded
  obtain ⟨queries, changed, rearranges⟩ := rearranges.exists_traverse (Registry.build_eq_ok_iff.mp built)
  refine ⟨⟨queries⟩, buildRegistry_eq_ok_iff.mpr ⟨placeholder, others_definitions, compiled, others_loaded, ?_⟩,
    rearranges⟩
  exact Registry.build_eq_ok_iff.mpr changed

end Manager

/-- Under the policy that refuses a second definition, the order of the files does not matter. A new manager
can load them in one order exactly if it can in the other, and then it gives the same answers. With the
policy that lets definitions replace each other it can load them as well, in any order, and gives the same
answers again. -/
theorem load_of_perm {config : Config} (refuses : config.policy = .refuse) (processor : Option Processor)
    (root : FileTree) {paths others : List Text} (same : paths.Perm others) :
    let loaded (config : Config) (paths : List Text) :=
      ((Manager.create config processor).load root paths).result
    ((loaded config paths).2 = .ok () ↔ (loaded config others).2 = .ok ()) ∧
      ((loaded config paths).2 = .ok () →
        (loaded config paths).1.SameAnswers (loaded config others).1 ∧
        ∀ order, paths.Perm order →
          (loaded (config.withPolicy .replace) order).2 = .ok () ∧
          (loaded config paths).1.SameAnswers (loaded (config.withPolicy .replace) order).1) := by
  have rearranged {paths others : List Text} (same : paths.Perm others) (policy : DuplicatePolicy)
      (done : ((Manager.create config processor).load root paths).result.2 = .ok ()) :
      ((Manager.create (config.withPolicy policy) processor).load root others).result.2 = .ok () ∧
        Manager.SameAnswers ((Manager.create config processor).load root paths).result.1
          ((Manager.create (config.withPolicy policy) processor).load root others).result.1 := by
    obtain ⟨registry, found, published⟩ := Manager.exists_registry_of_load done
    obtain ⟨also, moved, rearranges⟩ := Manager.exists_buildRegistry_of_perm refuses same found policy
    have adopted : ((Manager.create (config.withPolicy policy) processor).load root others).result =
        (Manager.create (config.withPolicy policy) processor).adopt (.ok also) :=
      (Manager.load_result _ root others).trans (congrArg _ moved)
    rw [published, adopted]
    exact ⟨rfl, Manager.sameAnswers_of_rearranges rfl rearranges⟩
  have config_eq : config.withPolicy .refuse = config := by rw [Config.withPolicy, ← refuses]
  have refused {paths others : List Text} (same : paths.Perm others)
      (done : ((Manager.create config processor).load root paths).result.2 = .ok ()) :
      ((Manager.create config processor).load root others).result.2 = .ok () ∧
        Manager.SameAnswers ((Manager.create config processor).load root paths).result.1
          ((Manager.create config processor).load root others).result.1 := by
    have moved := rearranged same .refuse done
    rw [config_eq] at moved
    exact moved
  refine ⟨⟨fun done => (refused same done).1, fun done => (refused same.symm done).1⟩, ?_⟩
  intro done
  exact ⟨(refused same done).2, fun order any => rearranged any .replace done⟩

/-- Two files with different breaks; the queries of the second one come between those of the first one. -/
def separateFiles : FileTree :=
  .directory [
    (['a'], .file "ID:q\nSELECT $\x7b2\x7d\nID:c\n$\x7bx\x7d".toUTF8.toList),
    (['b'], .file "\r\nID: k \r\n$\x7bk\x7d, $\x7b1\x7d\r\n".toUTF8.toList)]

/-- The paths of these files. -/
def separatePaths : List Text := [['a'], ['b']]

/-- In either order the managers answer with the same three queries and their texts. -/
theorem load_of_perm_separateFiles :
    let first := ((Manager.create .standard none).load separateFiles separatePaths).result
    let second := ((Manager.create .standard none).load separateFiles separatePaths.reverse).result
    separatePaths.Perm separatePaths.reverse ∧ first.2 = .ok () ∧ second.2 = .ok () ∧
      first.1.SameAnswers second.1 ∧
      ((Manager.create (Config.standard.withPolicy .replace) none).load separateFiles
        separatePaths.reverse).result.2 = .ok () ∧
      first.1.registry.ids = [['q'], ['c'], ['k']] ∧ second.1.registry.ids = [['k'], ['q'], ['c']] ∧
      ∀ manager ∈ [first.1, second.1], [['c'], ['k'], ['q']].map (fun id => (manager.tokens? id).map toSource) =
        ["$\x7bx\x7d", "$\x7bk\x7d, $\x7b1\x7d", "SELECT $\x7b2\x7d"].map fun text => some text.toList := by
  intro first second
  have same : separatePaths.Perm separatePaths.reverse := separatePaths.reverse_perm.symm
  have done : first.2 = .ok () := by decide +kernel
  obtain ⟨either_order, answers⟩ := @load_of_perm .standard rfl none separateFiles _ _ same
  obtain ⟨unchanged, replaced⟩ := answers done
  have first_ids : first.1.registry.ids = [['q'], ['c'], ['k']] := by decide +kernel
  have second_ids : second.1.registry.ids = [['k'], ['q'], ['c']] := by decide +kernel
  refine ⟨same, done, either_order.mp done, unchanged, (replaced _ same).1, first_ids, second_ids, ?_⟩
  decide +kernel

end QueryTemplates
