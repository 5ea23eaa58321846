import Mathlib.Data.List.Forall2
import QueryTemplates.Files.Listing
import QueryTemplates.Files.Reading
import QueryTemplates.Proofs.Dictionary

/-! # Trees that are alike

Two trees are alike if they differ only in the bytes of their files. A path then leads to a file in both of
them, or to a directory, or it cannot be followed for the same reason. So they are listed alike, and if the
bytes of each file are read as the same text, it makes no difference which of the trees a file is read from.
-/

namespace QueryTemplates

/-- What a file with these bytes is read as, or the fault that they are not decoded for. -/
def textOf (bytes : List UInt8) : Except Utf8.Fault Text :=
  match Utf8.decode (dropByteOrderMark bytes) with
  | .ok text => .ok text.normalizeBreaks
  | .error failure => .error failure.fault

namespace FileTree

variable {related : List UInt8 → List UInt8 → Prop} {root other : FileTree}

mutual

/-- The trees have the same directories and files, and the bytes of each two files are related. -/
inductive Alike (related : List UInt8 → List UInt8 → Prop) : FileTree → FileTree → Prop
  | file {bytes others : List UInt8} (same : related bytes others) : Alike related (.file bytes) (.file others)
  | directory {entries others : List (Text × FileTree)} (each : AlikeEntries related entries others) :
      Alike related (.directory entries) (.directory others)

/-- The entries have the same names, and their trees are alike. -/
inductive AlikeEntries (related : List UInt8 → List UInt8 → Prop) :
    List (Text × FileTree) → List (Text × FileTree) → Prop
  | nil : AlikeEntries related [] []
  | cons {name : Text} {tree other : FileTree} {entries others : List (Text × FileTree)}
      (first : Alike related tree other) (rest : AlikeEntries related entries others) :
      AlikeEntries related ((name, tree) :: entries) ((name, other) :: others)

end

/-! ## Listing -/

mutual

/-- Trees that are alike have the same files and the same places. -/
theorem Alike.same_places {tree other : FileTree} :
    Alike related tree other → tree.files = other.files ∧ tree.places = other.places
  | .file _ => by simp only [files, places, and_self]
  | .directory each => by
    have same := AlikeEntries.same_places each
    simp only [files, places, same, and_self]

theorem AlikeEntries.same_places {entries others : List (Text × FileTree)} :
    AlikeEntries related entries others →
      namedFiles entries = namedFiles others ∧ namedPlaces entries = namedPlaces others
  | .nil => ⟨rfl, rfl⟩
  | .cons first rest => by
    have own := Alike.same_places first
    have later := AlikeEntries.same_places rest
    simp only [namedFiles, namedPlaces, own, later, and_self]

end

/-! ## Following names -/

/-- Results that are alike: two trees that are, or the same fault. -/
inductive AlikeResults (related : List UInt8 → List UInt8 → Prop) :
    Except ReadFault FileTree → Except ReadFault FileTree → Prop
  | found {tree other : FileTree} (alike : Alike related tree other) : AlikeResults related (.ok tree) (.ok other)
  | fault (fault : ReadFault) : AlikeResults related (.error fault) (.error fault)

theorem AlikeEntries.lookup (name : Text) {entries others : List (Text × FileTree)} :
    AlikeEntries related entries others →
      (entries.lookup name = none ∧ others.lookup name = none) ∨
        ∃ tree other, entries.lookup name = some tree ∧ others.lookup name = some other ∧
          Alike related tree other
  | .nil => .inl ⟨rfl, rfl⟩
  | @AlikeEntries.cons _ own tree other _ _ first rest => by
    simp only [Dictionary.lookup_cons]
    by_cases same : name = own
    · simp only [if_pos same]
      exact .inr ⟨tree, other, rfl, rfl, first⟩
    · simp only [if_neg same]
      exact AlikeEntries.lookup name rest

theorem Alike.walk {here other : FileTree} {above others : List FileTree} (alike : Alike related here other)
    (parents : List.Forall₂ (Alike related) above others) (names : List Text) :
    AlikeResults related (FileTree.walk above here names) (FileTree.walk others other names) := by
  -- the directories above are alike as well, for a name can lead back to them
  induction names generalizing here other above others with
  | nil => exact .found alike
  | cons name rest ih =>
    cases alike with
    | file => exact .fault .notDirectory
    | directory each =>
      simp only [FileTree.walk]
      split
      · cases parents with
        | nil => exact .fault .notFound
        | cons parent further => exact ih parent further
      · split
        · exact .fault .nameTooLong
        · rcases each.lookup name with ⟨absent, missing⟩ | ⟨tree, other, found, also, inner⟩
          · rw [absent, missing]
            exact .fault .notFound
          · rw [found, also]
            exact ih inner (.cons (.directory each) parents)

theorem Alike.find (alike : Alike related root other) (path : Path) :
    AlikeResults related (root.find path) (other.find path) := by
  rw [FileTree.find, FileTree.find]
  split
  · exact .fault .nameTooLong
  · split
    · exact .fault .notFound
    · exact alike.walk .nil path.names

theorem Alike.list_eq (alike : Alike related root other) (location : Text) :
    root.list location = other.list location := by
  have found := alike.find (Path.ofText location)
  simp only [list]
  generalize root.find (Path.ofText location) = one at found ⊢
  generalize other.find (Path.ofText location) = also at found ⊢
  cases found with
  | fault => rfl
  | found inner =>
    obtain ⟨files, places⟩ := inner.same_places
    simp only [files, places]

/-! ## Reading -/

theorem readTemplate_eq (root : FileTree) (path : Text) :
    root.readTemplate path =
      if path.contains '\x00' then .error .nullInPath
      else match root.readBytes (Path.ofText path) with
        | .error fault => .error (.error (.unreadable path fault))
        | .ok bytes => (textOf bytes).mapError fun fault => .error (.unreadable path (.notText fault.reason)) := by
  rw [readTemplate]
  split
  · rfl
  · cases root.readBytes (Path.ofText path) with
    | error fault => rfl
    | ok bytes =>
      simp only [textOf]
      cases Utf8.decode (dropByteOrderMark bytes) with
      | error failure => rfl
      | ok text => rfl

theorem Alike.readBytes (alike : Alike related root other) (path : Path) :
    (∃ fault, root.readBytes path = .error fault ∧ other.readBytes path = .error fault) ∨
      ∃ bytes others, root.readBytes path = .ok bytes ∧ other.readBytes path = .ok others ∧
        related bytes others := by
  have found := alike.find path
  rw [FileTree.readBytes, FileTree.readBytes]
  generalize root.find path = one at found ⊢
  generalize other.find path = also at found ⊢
  cases found with
  | fault fault => exact .inl ⟨fault, rfl, rfl⟩
  | found inner =>
    cases inner with
    | directory => exact .inl ⟨.isDirectory, rfl, rfl⟩
    | file same => exact .inr ⟨_, _, rfl, rfl, same⟩

/-- A file is read alike from both trees. -/
theorem Alike.readTemplate_eq (alike : Alike related root other)
    (same : ∀ bytes others, related bytes others → textOf bytes = textOf others) (path : Text) :
    root.readTemplate path = other.readTemplate path := by
  rw [FileTree.readTemplate_eq, FileTree.readTemplate_eq]
  rcases alike.readBytes (Path.ofText path) with ⟨fault, one, also⟩ | ⟨bytes, others, one, also, alikeBytes⟩
  · rw [one, also]
  · rw [one, also]
    simp only [same bytes others alikeBytes]

end FileTree

end QueryTemplates
