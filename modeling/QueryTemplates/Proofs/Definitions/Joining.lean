import QueryTemplates.Proofs.Definitions.Loading
import QueryTemplates.Proofs.Definitions.Provenance
import QueryTemplates.Proofs.Definitions.Writing
import QueryTemplates.Proofs.Text.Utf8

/-! # Files joined into one

Splitting the text of two files with a line feed between them gives the definitions of both, one after the
other: the blank lines that the second file may begin with are at the end of the last body of the first one,
where they are taken away. So it does not matter whether definitions come in several files or in one.
-/

namespace QueryTemplates

namespace BlockFormat

variable {format : BlockFormat} {first second : List Text}

/-! ## Lines one after another -/

/-- Blank lines at the end of a body are no part of it. -/
theorem bodyText_append_blank {lines trailing : List Text} (blank : ∀ line ∈ trailing, line.isBlank = true) :
    bodyText (lines ++ trailing) = bodyText lines := by
  obtain ⟨leading, after, split, around, free⟩ := trimsTo_trimBlankLines lines
  have trims : TrimsTo (lines ++ trailing) (trimBlankLines lines) := by
    refine ⟨leading, after ++ trailing, ?_, ?_, free⟩
    · rw [← List.append_assoc, ← split]
    · rw [← List.append_assoc]
      exact List.forall_mem_append.mpr ⟨around, blank⟩
  rw [bodyText, bodyText, ← trims.eq_trimBlankLines]

/-- The lines up to the first marker line are those of the first list, or all of them and those of the
second one. -/
theorem untilMarker_append (first second : List Text) :
    format.untilMarker (first ++ second) = format.untilMarker first ∨
      format.untilMarker (first ++ second) = format.untilMarker first ++ format.untilMarker second := by
  simp only [untilMarker, List.takeWhile_append]
  split
  · next whole =>
    rw [(List.takeWhile_prefix format.isPlain).eq_of_length whole]
    exact .inr rfl
  · exact .inl rfl

/-- The blocks of lines are followed by those of more lines, if no content comes before these. -/
theorem pairs_append (no_content : ∀ line ∈ format.untilMarker second, line.isBlank = true) :
    format.pairs (first ++ second) = format.pairs first ++ format.pairs second := by
  induction first with
  | nil => rfl
  | cons line rest ih =>
    cases marker : format.id? line with
    | none =>
      rw [List.cons_append, pairs, cut_cons_plain marker, pairs, cut_cons_plain marker]
      exact ih
    | some id =>
      have body : bodyText (format.untilMarker (rest ++ second)) = bodyText (format.untilMarker rest) := by
        rcases format.untilMarker_append rest second with same | more
        · rw [same]
        · rw [more, bodyText_append_blank no_content]
      rw [List.cons_append, pairs, cut_cons_marker marker, pairs, cut_cons_marker marker, List.map_cons,
        List.map_cons, List.cons_append, cut_fst, cut_fst, body]
      exact congrArg _ ih

namespace Splittable

theorem append (one : format.Splittable first) (other : format.Splittable second) :
    format.Splittable (first ++ second) := by
  constructor
  · rw [List.filterMap_append]
    exact List.forall_mem_append.mpr ⟨one.named, other.named⟩
  · rcases format.untilMarker_append first second with same | more
    · rw [same]
      exact one.no_content
    · rw [more]
      exact List.forall_mem_append.mpr ⟨one.no_content, other.no_content⟩

theorem of_append (both : format.Splittable (first ++ second)) : format.Splittable first := by
  obtain ⟨named, no_content⟩ := both
  constructor
  · rw [List.filterMap_append] at named
    exact (List.forall_mem_append.mp named).1
  · rcases format.untilMarker_append first second with same | more
    · rw [same] at no_content
      exact no_content
    · rw [more] at no_content
      exact (List.forall_mem_append.mp no_content).1

end Splittable

/-- An empty line is blank and no marker line. -/
theorem splittable_empty_line (format : BlockFormat) : format.Splittable [[]] ∧ format.pairs [[]] = [] := by
  have plain := id?_eq_none_iff.mpr format.not_isMarkerLine_nil
  refine ⟨⟨?_, ?_⟩, ?_⟩
  · rw [List.filterMap_cons_none plain]
    exact fun _ absent => absurd absent List.not_mem_nil
  · rw [← cut_fst, cut_cons_plain plain]
    exact List.forall_mem_singleton.mpr rfl
  · rw [pairs, cut_cons_plain plain]
    rfl

/-! ## Texts with a line feed between them -/

variable {before after : List (Text × Text)}

/-- Splitting two texts with a line feed between them gives the definitions of both. -/
theorem split_append {first second : Text} (one : format.split first = .ok before)
    (other : format.split second = .ok after) :
    format.split (first ++ '\n' :: second) = .ok (before ++ after) := by
  obtain ⟨splittable, rfl⟩ := split_eq_ok_iff.mp one
  obtain ⟨also, rfl⟩ := split_eq_ok_iff.mp other
  by_cases closed : first.getLast? = some '\r'
  · -- the carriage return and the line feed are one break, and the first text has an empty line less
    obtain ⟨text, rfl⟩ := List.getLast?_eq_some_iff.mp closed
    obtain ⟨alone, together⟩ := Text.lines_append_break_of_return text second
    obtain ⟨-, none⟩ := format.splittable_empty_line
    rw [alone] at splittable
    rw [split_eq_ok_iff, together, alone, pairs_append also.no_content,
      pairs_append format.splittable_empty_line.1.no_content, none, List.append_nil]
    exact ⟨splittable.of_append.append also, rfl⟩
  · rw [split_eq_ok_iff, Text.lines_append_break closed, pairs_append also.no_content]
    exact ⟨splittable.append also, rfl⟩

/-- Splitting texts that are joined with line feeds gives the definitions of all of them. -/
theorem split_joinWith {texts : List Text} {each : List (List (Text × Text))}
    (all : List.Forall₂ (fun text pairs => format.split text = .ok pairs) texts each) :
    format.split (Text.joinWith ['\n'] texts) = .ok each.flatten := by
  induction all with
  | nil =>
    obtain ⟨splittable, none⟩ := format.splittable_empty_line
    exact split_eq_ok_iff.mpr ⟨splittable, none.symm⟩
  | @cons text pairs texts each one others ih =>
    by_cases last : texts = []
    · subst last
      cases others
      rw [Text.joinWith, List.intercalate_singleton, List.flatten_singleton]
      exact one
    · rw [Text.joinWith_cons ['\n'] text last, List.append_assoc, List.flatten_cons]
      exact split_append one ih

end BlockFormat

/-! ## One definition after another -/

variable {root : FileTree} {format : BlockFormat} {policy : DuplicatePolicy} {path : Text} {paths : List Text}
  {merged : Dictionary Definition}

/-- The definitions with one more, unless its identifier is there and may not come again. -/
def define (policy : DuplicatePolicy) (merged : Dictionary Definition) (entry : Text × Definition) :
    Except StartupError (Dictionary Definition) :=
  if policy = .refuse ∧ entry.1 ∈ merged.keys then .error (.duplicateId entry.1 (some entry.2.path))
  else .ok (merged.put entry.1 entry.2)

/-- Merging the definitions of a file takes one after another. -/
theorem result_merge (path : Text) (merged : Dictionary Definition) (pairs : List (Text × Text)) :
    (merge policy path merged pairs).map Logged.result = (entriesOf path pairs).foldlM (define policy) merged := by
  induction pairs generalizing merged with
  | nil => rfl
  | cons pair rest ih =>
    obtain ⟨id, body⟩ := pair
    have later := ih (merged.put id ⟨body, path⟩)
    rw [merge, entriesOf, List.map_cons, List.foldlM_cons, define]
    cases found : merged.get? id with
    | none =>
      rw [if_neg fun known => Dictionary.get?_eq_none_iff.mp found known.2]
      exact later
    | some earlier =>
      cases policy with
      | refuse =>
        rw [if_pos ⟨rfl, Dictionary.mem_keys_of_get? found⟩]
        rfl
      | replace =>
        have allowed : ¬ (DuplicatePolicy.replace = .refuse ∧ id ∈ merged.keys) := by
          rintro ⟨refused, -⟩
          cases refused
        rw [if_neg allowed]
        refine Eq.trans ?_ later
        cases merge .replace path (merged.put id ⟨body, path⟩) rest with
        | error cause => rfl
        | ok onward => rfl

/-- So does merging files that can all be read. -/
theorem foldlM_mergeFile (readable : ∀ path ∈ paths, ∃ pairs, parse root format path = .ok pairs)
    (merged : Dictionary Definition) :
    paths.foldlM (mergeFile root format policy) merged =
      ((paths.flatMap (entriesIn root format)).foldlM (define policy) merged).mapError .error := by
  induction paths generalizing merged with
  | nil => rfl
  | cons path rest ih =>
    obtain ⟨⟨pairs, parsed⟩, readable⟩ := List.forall_mem_cons.mp readable
    rw [List.foldlM_cons, List.flatMap_cons, List.foldlM_append, entriesIn_of_parse parsed, mergeFile, parsed,
      ← result_merge]
    dsimp only
    cases merge policy path merged pairs with
    | error cause => rfl
    | ok onward => exact ih readable onward.result

theorem load_of_readable (readable : ∀ path ∈ paths, ∃ pairs, parse root format path = .ok pairs) :
    (load root format policy paths).result =
      (((paths.flatMap (entriesIn root format)).foldlM (define policy) .empty).mapError .error).map
        (Dictionary.mapValues Definition.body) := by
  rw [← foldlM_mergeFile readable, ← result_mergeFiles]
  rfl

/-! ## Definitions in another file -/

/-- The definition as one in the file at a path. -/
def movedTo (path : Text) (entry : Text × Definition) : Text × Definition := (entry.1, ⟨entry.2.body, path⟩)

/-- Both merges give the same bodies in the same order, or both fail since the same identifier is defined
again; the second one tells the given path. -/
inductive SameOutcome (path : Text) :
    Except StartupError (Dictionary Definition) → Except StartupError (Dictionary Definition) → Prop
  | merged {first second : Dictionary Definition}
    (same : first.mapValues Definition.body = second.mapValues Definition.body) :
    SameOutcome path (.ok first) (.ok second)
  | duplicate (id earlier : Text) :
    SameOutcome path (.error (.duplicateId id (some earlier))) (.error (.duplicateId id (some path)))

section Moving

variable {first second : Dictionary Definition}

/-- One more definition. -/
theorem define_movedTo (same : first.mapValues Definition.body = second.mapValues Definition.body)
    (path : Text) (entry : Text × Definition) :
    SameOutcome path (define policy first entry) (define policy second (movedTo path entry)) := by
  have keys : first.keys = second.keys := by
    rw [← Dictionary.keys_mapValues Definition.body first, same, Dictionary.keys_mapValues]
  by_cases again : policy = .refuse ∧ entry.1 ∈ first.keys
  · have also : policy = .refuse ∧ (movedTo path entry).1 ∈ second.keys := ⟨again.1, keys ▸ again.2⟩
    rw [define, define, if_pos again, if_pos also]
    exact .duplicate entry.1 entry.2.path
  · have also : ¬ (policy = .refuse ∧ (movedTo path entry).1 ∈ second.keys) :=
      fun known => again ⟨known.1, keys ▸ known.2⟩
    rw [define, define, if_neg again, if_neg also]
    refine .merged ?_
    rw [Dictionary.mapValues_put, Dictionary.mapValues_put, same]
    rfl

/-- All definitions, one after another. -/
theorem foldlM_define_movedTo (same : first.mapValues Definition.body = second.mapValues Definition.body)
    (path : Text) (entries : List (Text × Definition)) :
    SameOutcome path (entries.foldlM (define policy) first)
      ((entries.map (movedTo path)).foldlM (define policy) second) := by
  induction entries generalizing first second with
  | nil => exact .merged same
  | cons entry rest ih =>
    have step := @define_movedTo policy _ _ same path entry
    rw [List.map_cons, List.foldlM_cons, List.foldlM_cons]
    generalize define policy first entry = one at step ⊢
    generalize define policy second (movedTo path entry) = other at step ⊢
    cases step with
    | merged same => exact ih same
    | duplicate id earlier => exact .duplicate id earlier

end Moving

/-! ## Several files or one -/

/-- The text is what a template file is read as, and can be split. -/
def HoldsDefinitions (root : FileTree) (format : BlockFormat) (path text : Text) : Prop :=
  root.readTemplate path = .ok text ∧ ∃ pairs, format.split text = .ok pairs

theorem parse_of_split {text : Text} {pairs : List (Text × Text)} (read : root.readTemplate path = .ok text)
    (split : format.split text = .ok pairs) : parse root format path = .ok pairs := by
  simp only [parse, read, split]
  rfl

theorem exists_definitions {texts : List Text} (files : List.Forall₂ (HoldsDefinitions root format) paths texts)
    (joined : Text) : ∃ each,
      List.Forall₂ (fun text pairs => format.split text = .ok pairs) texts each ∧
        (∀ path ∈ paths, ∃ pairs, parse root format path = .ok pairs) ∧
        entriesOf joined each.flatten = (paths.flatMap (entriesIn root format)).map (movedTo joined) := by
  induction files with
  | nil => exact ⟨[], .nil, fun _ absent => absurd absent List.not_mem_nil, rfl⟩
  | @cons path text paths texts file _ ih =>
    obtain ⟨read, pairs, split⟩ := file
    obtain ⟨each, all, readable, entries⟩ := ih
    have parsed := parse_of_split read split
    refine ⟨pairs :: each, .cons split all, List.forall_mem_cons.mpr ⟨⟨pairs, parsed⟩, readable⟩, ?_⟩
    rw [List.flatMap_cons, List.map_append, ← entries, entriesIn_of_parse parsed, List.flatten_cons, entriesOf,
      entriesOf, entriesOf, List.map_append, List.map_map]
    rfl

/-- Any text without carriage returns is what some template file is read as. -/
theorem exists_template {text : Text} (no_return : '\r' ∉ text) :
    ∃ (root : FileTree) (path : Text), root.readTemplate path = .ok text := by
  have bytes (content : List UInt8) :
      (FileTree.directory [(['t'], .file content)]).readBytes (Path.ofText ['t']) = .ok content := rfl
  have decoded : Utf8.decode (dropByteOrderMark (0xEF :: 0xBB :: 0xBF :: Utf8.encode text)) = .ok text :=
    Utf8.decode_encode text
  have breaks : text.normalizeBreaks = text := Text.joinWith_lines_of_no_return no_return
  refine ⟨.directory [(['t'], .file (0xEF :: 0xBB :: 0xBF :: Utf8.encode text))], ['t'], ?_⟩
  rw [FileTree.readTemplate, if_neg (by decide), bytes]
  simp only [decoded, breaks]

theorem no_return_of_files {texts : List Text} (files : List.Forall₂ (HoldsDefinitions root format) paths texts) :
    '\r' ∉ Text.joinWith ['\n'] texts := by
  intro member
  rcases Text.mem_joinWith member with feed | ⟨text, among, inside⟩
  · exact absurd feed (by decide)
  · obtain ⟨path, -, read, -⟩ := exists_of_mem_right files among
    obtain ⟨content, -, rfl⟩ := readTemplate_eq_ok read
    exact content.no_return_normalizeBreaks inside

/-- Several files or one with all their definitions make no difference. Splitting two texts with a line feed
between them gives the definitions of the first one and then those of the second one, if both can be split.
Files that can be split can be joined into one, and however this is done, loading them in order and loading
the one give the same bodies in the same order, or fail since the same identifier is defined again. -/
theorem load_of_joined_files (format : BlockFormat) :
    (∀ first second before after, format.split first = .ok before → format.split second = .ok after →
        format.split (first ++ '\n' :: second) = .ok (before ++ after)) ∧
      ∀ (root : FileTree) (policy : DuplicatePolicy) (paths texts : List Text),
        List.Forall₂ (HoldsDefinitions root format) paths texts →
        (∃ (other : FileTree) (joined : Text), other.readTemplate joined = .ok (Text.joinWith ['\n'] texts)) ∧
        ∀ (other : FileTree) (joined : Text), other.readTemplate joined = .ok (Text.joinWith ['\n'] texts) →
          let separate := (load root format policy paths).result
          let together := (load other format policy [joined]).result
          (∃ bodies, separate = .ok bodies ∧ together = .ok bodies) ∨
            ∃ id path, separate = .error (.error (.duplicateId id (some path))) ∧
              together = .error (.error (.duplicateId id (some joined))) := by
  refine ⟨fun first second before after => BlockFormat.split_append, fun root policy paths texts files => ?_⟩
  refine ⟨exists_template (no_return_of_files files), fun other joined read => ?_⟩
  obtain ⟨each, all, readable, entries⟩ := exists_definitions files joined
  have parsed := parse_of_split read (BlockFormat.split_joinWith all)
  have outcome := @foldlM_define_movedTo policy .empty .empty rfl joined (paths.flatMap (entriesIn root format))
  rw [load_of_readable readable, load_of_readable (List.forall_mem_singleton.mpr ⟨_, parsed⟩),
    List.flatMap_singleton, entriesIn_of_parse parsed, entries]
  generalize (paths.flatMap (entriesIn root format)).foldlM (define policy) .empty = one at outcome ⊢
  generalize ((paths.flatMap (entriesIn root format)).map (movedTo joined)).foldlM (define policy) .empty = also
    at outcome ⊢
  cases outcome with
  | merged same => exact .inl ⟨_, rfl, congrArg Except.ok same.symm⟩
  | duplicate id earlier => exact .inr ⟨id, earlier, rfl, rfl⟩

/-- One file with the definitions of two, which are joined with a line feed. -/
def joinedFile : FileTree :=
  .directory [
    (['c'], .file "ID:q\nfirst\nID:p\nsecond\nID:r\nthird\nID:q\nfourth\nID:r\nfifth".toUTF8.toList)]

/-- A text that ends with a carriage return, and one that begins with blank lines; and two files with queries
that are defined again. -/
theorem load_of_joined_files_repeated :
    (BlockFormat.mk .standard false).split "ID:q\n1\r\n\n \t\nID:p\n2\n".toList =
        .ok [(['q'], ['1']), (['p'], ['2'])] ∧
      (∃ bodies, (load repeatedFiles ⟨.standard, true⟩ .replace [['a'], ['b']]).result = .ok bodies ∧
        (load joinedFile ⟨.standard, true⟩ .replace [['c']]).result = .ok bodies) ∧
      (load repeatedFiles ⟨.standard, true⟩ .refuse [['a'], ['b']]).result =
        .error (.error (.duplicateId ['q'] (some ['b']))) ∧
      (load joinedFile ⟨.standard, true⟩ .refuse [['c']]).result =
        .error (.error (.duplicateId ['q'] (some ['c']))) := by
  have files : List.Forall₂ (HoldsDefinitions repeatedFiles ⟨.standard, true⟩) [['a'], ['b']]
      ["ID:q\nfirst\nID:p\nsecond".toList, "ID:r\nthird\nID:q\nfourth\nID:r\nfifth".toList] :=
    .cons ⟨by decide +kernel, [(['q'], "first".toList), (['p'], "second".toList)], by decide +kernel⟩
      (.cons ⟨by decide +kernel, [(['r'], "third".toList), (['q'], "fourth".toList), (['r'], "fifth".toList)],
        by decide +kernel⟩ .nil)
  have read : joinedFile.readTemplate ['c'] = .ok (Text.joinWith ['\n']
      ["ID:q\nfirst\nID:p\nsecond".toList, "ID:r\nthird\nID:q\nfourth\nID:r\nfifth".toList]) := by
    decide +kernel
  have succeeds : (load repeatedFiles ⟨.standard, true⟩ .replace [['a'], ['b']]).result.isOk = true := by
    decide +kernel
  have refused : (load repeatedFiles ⟨.standard, true⟩ .refuse [['a'], ['b']]).result =
      .error (.error (.duplicateId ['q'] (some ['b']))) := by
    decide +kernel
  refine ⟨?_, ?_, refused, ?_⟩
  · exact (load_of_joined_files ⟨.standard, false⟩).1 "ID:q\n1\r".toList "\n \t\nID:p\n2\n".toList
      [(['q'], ['1'])] [(['p'], ['2'])] (by decide) (by decide)
  · rcases ((load_of_joined_files ⟨.standard, true⟩).2 repeatedFiles .replace _ _ files).2 joinedFile ['c'] read
      with done | ⟨id, path, failed, -⟩
    · exact done
    · rw [failed] at succeeds
      cases succeeds
  · rcases ((load_of_joined_files ⟨.standard, true⟩).2 repeatedFiles .refuse _ _ files).2 joinedFile ['c'] read
      with ⟨bodies, done, -⟩ | ⟨id, path, failed, also⟩
    · cases refused.symm.trans done
    · cases refused.symm.trans failed
      exact also

end QueryTemplates
