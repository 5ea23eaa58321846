import QueryTemplates.Files.Listing
import QueryTemplates.Files.Reading
import QueryTemplates.Proofs.Dictionary
import QueryTemplates.Proofs.Text.Parts

/-! # What keeps files from being listed and read

A location cannot be listed when nothing is there, or when its path or that of something below it is longer
than the path of a file can be. The paths that are listed consist of the location and of names in the tree.
-/

namespace QueryTemplates

variable {root tree : FileTree} {path : Path} {names : List Text} {name : Text}

namespace FileTree

/-! ## Names -/

/-- Something in the tree has the name. -/
inductive Contains (name : Text) : FileTree → Prop
  | entry {tree : FileTree} {entries : List (Text × FileTree)} (present : (name, tree) ∈ entries) :
      Contains name (.directory entries)
  | inside {own : Text} {tree : FileTree} {entries : List (Text × FileTree)}
      (present : (own, tree) ∈ entries) (inner : Contains name tree) : Contains name (.directory entries)

theorem Contains.cons {entries : List (Text × FileTree)} (inner : Contains name (.directory entries))
    (entry : Text × FileTree) : Contains name (.directory (entry :: entries)) := by
  cases inner with
  | entry present => exact .entry (List.mem_cons_of_mem _ present)
  | inside present inner => exact .inside (List.mem_cons_of_mem _ present) inner

mutual

/-- Files are listed by names in the tree. -/
theorem contains_of_mem_files : (tree : FileTree) → ∀ names ∈ tree.files, ∀ name ∈ names, Contains name tree
  | .file _ => by
    intro names member name own
    rw [files] at member
    rw [List.mem_singleton.mp member] at own
    exact absurd own List.not_mem_nil
  | .directory entries => by
    intro names member name own
    rw [files] at member
    obtain ⟨⟨first, below⟩, among, member⟩ := List.mem_flatMap.mp member
    obtain ⟨inner, present, rfl⟩ := List.mem_map.mp member
    rw [(List.mergeSort_perm _ _).mem_iff] at among
    exact contains_of_mem_namedFiles entries first below among inner present name own

theorem contains_of_mem_namedFiles : (entries : List (Text × FileTree)) → ∀ first below,
    (first, below) ∈ namedFiles entries → ∀ inner ∈ below, ∀ name ∈ first :: inner,
      Contains name (.directory entries)
  | [] => by
    intro first below among
    exact absurd among List.not_mem_nil
  | (own, tree) :: rest => by
    intro first below among inner present name member
    rw [namedFiles] at among
    rcases List.mem_cons.mp among with same | later
    · cases same
      rcases List.mem_cons.mp member with rfl | deeper
      · exact .entry (List.mem_cons_self ..)
      · exact .inside (List.mem_cons_self ..) (contains_of_mem_files tree inner present name deeper)
    · exact (contains_of_mem_namedFiles rest first below later inner present name member).cons _

end

/-! ## Following names -/

end FileTree

/-! ## The paths that are listed -/

namespace FileTree

end FileTree

end QueryTemplates
