import QueryTemplates.Manager.Basic
import QueryTemplates.Proofs.Files.LineStyle
import QueryTemplates.Proofs.Number.Numeral

/-! # Loads and the breaks of files

How the lines of a template file end makes no difference. A text is split into the same definitions, or refused
for the same line, whether its lines end in line feeds, in carriage returns, or in both; and a load from files
with other breaks has the same result and reports the same.
-/

namespace QueryTemplates

variable {root other : FileTree}

/-- Splitting depends on the lines alone. -/
theorem BlockFormat.split_of_same_lines (format : BlockFormat) {first second : Text}
    (same : first.lines = second.lines) : format.split first = format.split second := by
  rw [split, split, same]

theorem mergeFiles_of_same_texts (same : ∀ path, root.readTemplate path = other.readTemplate path)
    (format : BlockFormat) (policy : DuplicatePolicy) (merged : Dictionary Definition) (paths : List Text) :
    mergeFiles root format policy merged paths = mergeFiles other format policy merged paths := by
  induction paths generalizing merged with
  | nil => rfl
  | cons path rest ih => simp only [mergeFiles, parse, same, ih]

/-- The queries of files depend only on what these are read as. -/
theorem Manager.buildRegistry_of_same_texts (same : ∀ path, root.readTemplate path = other.readTemplate path)
    (config : Config) (paths : List Text) :
    buildRegistry config root paths = buildRegistry config other paths := by
  simp only [buildRegistry, QueryTemplates.load, mergeFiles_of_same_texts same]

/-- The breaks of template files make no difference. A text without carriage returns is split into the same
definitions, or refused for the same reason and line, when all its line feeds are written as breaks of another
kind. From trees whose files are the same up to breaks, whatever break each file has, a load builds the same
queries or has the same failure, with the same reports, and so does a start from the configured location. -/
theorem load_of_other_breaks :
    (∀ (format : BlockFormat) (text newLine : Text), '\r' ∉ text → newLine ∈ Text.lineBreaks →
        format.split (replaceEach '\n' newLine text) = format.split text) ∧
      ∀ root other, FileTree.Alike SameUpToBreaks root other →
        (∀ config paths, Manager.buildRegistry config root paths = Manager.buildRegistry config other paths) ∧
          ∀ manager : Manager, (∀ paths, manager.load root paths = manager.load other paths) ∧
            manager.start root = manager.start other := by
  refine ⟨fun format text newLine no_return ends => ?_, fun root other alike => ?_⟩
  · exact format.split_of_same_lines (Text.lines_replaceEach ends no_return)
  · have same (path : Text) : root.readTemplate path = other.readTemplate path :=
      alike.readTemplate_eq (fun _ _ => SameUpToBreaks.textOf_eq) path
    have built := Manager.buildRegistry_of_same_texts same
    have loaded (manager : Manager) (paths : List Text) : manager.load root paths = manager.load other paths := by
      rw [Manager.load, Manager.load, built]
    refine ⟨built, fun manager => ⟨loaded manager, ?_⟩⟩
    simp only [Manager.start, alike.list_eq, loaded]

/-- Two files whose lines end with line feeds. -/
def lineFeedFiles : FileTree :=
  .directory [(['t'], .directory [
    (['b'], .file "ID:q\n\nfirst $\x7ba\x7d\n\n$\x7b1\x7d\n\nID:p\n2".toUTF8.toList),
    (['a'], .file "\n\nID: r \n\n".toUTF8.toList)])]

/-- The same files, where both characters end the lines of one, and carriage returns those of the other. -/
def mixedStyleFiles : FileTree :=
  .directory [(['t'], .directory [
    (['b'], .file "ID:q\r\n\r\nfirst $\x7ba\x7d\r\n\r\n$\x7b1\x7d\r\n\r\nID:p\r\n2".toUTF8.toList),
    (['a'], .file "\r\rID: r \r\r".toUTF8.toList)])]

/-- A manager of the files in one directory. -/
def directoryManager : Manager := .create { Config.standard with location := Path.ofText ['t'] } none

/-- Breaks of two kinds in one directory; a blank line within a body, identifiers that are not trimmed, and the
number of a refused line. -/
theorem load_of_other_breaks_mixedStyles :
    (BlockFormat.mk .standard false).split "\r\nID:a \r\n\r\n1\r\n\r\n2\r\n\r\nID:b".toList =
        .ok [("a ".toList, "1\n\n2".toList), (['b'], [])] ∧
      (BlockFormat.mk .standard true).split "\rID:a\r\r\rID: \r".toList = .error (.blankId 5) ∧
      lineFeedFiles.Alike SameUpToBreaks mixedStyleFiles ∧
      directoryManager.start lineFeedFiles = directoryManager.start mixedStyleFiles ∧
      (directoryManager.load mixedStyleFiles ["t/a".toList, "t/b".toList]).result.1.tokens? ['q'] =
        some [.literal "first ".toList, .named ['a'] (some "$\x7ba\x7d".toList), .literal "\n\n".toList,
          .positional .first (some "$\x7b1\x7d".toList)] := by
  have alike : lineFeedFiles.Alike SameUpToBreaks mixedStyleFiles := by
    have both : SameUpToBreaks "ID:q\n\nfirst $\x7ba\x7d\n\n$\x7b1\x7d\n\nID:p\n2".toUTF8.toList
        "ID:q\r\n\r\nfirst $\x7ba\x7d\r\n\r\n$\x7b1\x7d\r\n\r\nID:p\r\n2".toUTF8.toList :=
      .of_lineFeeds (show ['\r', '\n'] ∈ Text.lineBreaks by decide) (by decide +kernel) (by decide +kernel)
    have returns : SameUpToBreaks "\n\nID: r \n\n".toUTF8.toList "\r\rID: r \r\r".toUTF8.toList :=
      .of_lineFeeds (show ['\r'] ∈ Text.lineBreaks by decide) (by decide +kernel) (by decide +kernel)
    exact .directory (.cons (.directory (.cons (.file both) (.cons (.file returns) .nil))) .nil)
  obtain ⟨splits, loads⟩ := load_of_other_breaks
  obtain ⟨loaded, started⟩ := (loads _ _ alike).2 directoryManager
  refine ⟨?_, ?_, alike, started, ?_⟩
  · exact (splits ⟨.standard, false⟩ "\nID:a \n\n1\n\n2\n\nID:b".toList ['\r', '\n'] (by decide) (by decide)).trans
      (by decide)
  · exact (splits ⟨.standard, true⟩ "\nID:a\n\n\nID: \n".toList ['\r'] (by decide) (by decide)).trans (by decide)
  · rw [← loaded]
    decide +kernel

end QueryTemplates
