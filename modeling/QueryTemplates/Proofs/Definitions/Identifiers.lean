import QueryTemplates.Proofs.Definitions.Blocks
import QueryTemplates.Proofs.Definitions.Merging
import QueryTemplates.Proofs.Manager.Refinement

/-! # Identifiers are not blank

A marker line with a blank identifier is refused, so that a manager never holds a query with one, whatever
was done with it.
-/

namespace QueryTemplates

variable {root : FileTree} {format : BlockFormat} {policy : DuplicatePolicy} {path : Text}

/-! ## Files -/

theorem BlockFormat.not_blank_of_split {text : Text} {pairs : List (Text × Text)}
    (done : format.split text = .ok pairs) {id : Text} (member : id ∈ pairs.map Prod.fst) :
    id.isBlank = false := by
  obtain ⟨splittable, rfl⟩ := split_eq_ok_iff.mp done
  rw [pairs_ids] at member
  exact splittable.named id member

theorem not_blank_of_parse {pairs : List (Text × Text)} (parsed : parse root format path = .ok pairs)
    {id : Text} (member : id ∈ pairs.map Prod.fst) : id.isBlank = false := by
  rw [parse] at parsed
  split at parsed
  · cases parsed
  · exact BlockFormat.not_blank_of_split (mapError_eq_ok.mp parsed) member

/-- Files add only identifiers that are not blank. -/
theorem not_blank_of_mergeFiles {paths : List Text} {merged all : Dictionary Definition}
    (done : (mergeFiles root format policy merged paths).result = .ok all)
    (before : ∀ id ∈ merged.keys, id.isBlank = false) : ∀ id ∈ all.keys, id.isBlank = false := by
  induction paths generalizing merged with
  | nil =>
    cases done
    exact before
  | cons path rest ih =>
    simp only [mergeFiles, Logged.after] at done
    split at done
    · cases done
    · next pairs parsed =>
      split at done
      · cases done
      · next onward merges =>
        refine ih done ?_
        intro id member
        by_cases defined : id ∈ pairs.map Prod.fst
        · exact not_blank_of_parse parsed defined
        · obtain ⟨definition, found⟩ := Dictionary.exists_of_mem_keys member
          rw [result_of_merge merges, get?_putAll_of_absent defined] at found
          exact before id (Dictionary.mem_keys_of_get? found)

/-! ## Managers -/

theorem not_blank_of_buildRegistry {config : Config} {paths : List Text} {registry : Registry}
    (found : (Manager.buildRegistry config root paths).result = .ok registry) :
    ∀ id ∈ registry.ids, id.isBlank = false := by
  obtain ⟨placeholder, definitions, -, loaded, built⟩ := Manager.buildRegistry_eq_ok_iff.mp found
  obtain ⟨all, merges, rfl⟩ := map_eq_ok.mp loaded
  rw [Registry.ids_of_build built, Dictionary.keys_mapValues]
  exact not_blank_of_mergeFiles merges fun id absent => absurd absent List.not_mem_nil

namespace Origin

variable {origin : Origin}

theorem not_blank_of_found {files : FileTree} {operation : Operation} {registry : Registry}
    (found : origin.found? files operation = some (.ok registry)) :
    ∀ id ∈ registry.ids, id.isBlank = false := by
  have loaded : ∃ paths, origin.foundIn files paths = .ok registry := by
    cases operation with
    | load paths => exact ⟨paths, Option.some.inj found⟩
    | start | reload =>
      have located := Option.some.inj found
      rw [foundAtLocation] at located
      split at located
      · cases located
      · next paths _ => exact ⟨paths.map Path.text, located⟩
    | _ => cases found
  obtain ⟨paths, loaded⟩ := loaded
  exact not_blank_of_buildRegistry ((Manager.buildRegistry_result origin files paths).trans loaded)

theorem not_blank_of_registryAfter (past : List Operation) :
    ∀ id ∈ (origin.registryAfter past).ids, id.isBlank = false := by
  induction past with
  | nil => exact fun id absent => absurd absent List.not_mem_nil
  | cons operation past ih =>
    rw [registryAfter]
    split
    · next found => exact not_blank_of_found found
    · exact ih

end Origin

/-- Whatever is done, no query that a manager lists has a blank identifier. -/
theorem not_blank_of_mem_sortedIds (origin : Origin) (operations : List Operation) :
    ∀ id ∈ (origin.session.after operations).manager.registry.sortedIds, id.isBlank = false := by
  intro id member
  have follows := (Session.follows_session origin).after operations
  rw [follows.registry] at member
  exact Origin.not_blank_of_registryAfter _ id (Registry.mem_sortedIds.mp member)

end QueryTemplates
