import SchemaLowering.FileTree.SchemaFile
import SchemaLowering.Proofs.FileFaults

/-!
Writing a schema, whichever way it is done: nothing happens, or the directories above the target are
made and nothing else, or they are made and the target holds the text. The temporary file is never
among what is left. A failure concerns the one file only, unless its path cannot be asked for or too
many directories are missing.
-/

namespace SchemaLowering

namespace FileTree

variable {tree after : FileTree} {location : Location} {path : Path} {text : String}

/-- A path that can be asked for, with a directory that can be made. -/
structure Writable (tree : FileTree) (path : Path) : Prop where
  clean : hasNull path.text = false
  shallow : ¬ tree.isTooDeep path.parent

/-- The ways in which writing a schema can end. -/
inductive WriteOutcome (tree : FileTree) (path : Path) (text : String) :
    FileTree × Except Failure Unit → Prop where
  | refused {failure : Failure} (contained : tree.Writable path → failure.isContained = true) :
      WriteOutcome tree path text (tree, .error failure)
  | unfinished {failure : Failure} (contained : tree.Writable path → failure.isContained = true) :
      WriteOutcome tree path text ((tree.makeDirectories path.parent).1, .error failure)
  | stored {middle : FileTree} {directory location : Location}
      (made : tree.makeDirectories path.parent = (middle, .ok directory))
      (located : middle.locate path = .ok location)
      (vacant : middle.find? location ≠ some .directory) :
      WriteOutcome tree path text (middle.put location (.file (.text text)), .ok ())

theorem writeFile_eq_ok {content : Content} :
    tree.writeFile path content = .ok after ↔
      ∃ location, tree.locate path = .ok location ∧ tree.find? location ≠ some .directory ∧
        after = tree.put location (.file content) := by
  unfold writeFile
  cases tree.locate path with
  | error fault => simp
  | ok location =>
    rcases found : tree.find? location with _ | _ | old
    · simp [found, eq_comm]
    · simp [found]
    · simp [found, eq_comm]

theorem moveFile_eq_ok {source : Location} {content : Content}
    (moved : tree.moveFile source content path = .ok after) :
    ∃ location, tree.locate path = .ok location ∧ tree.find? location ≠ some .directory ∧
      after = (tree.erase source).put location (.file content) := by
  unfold moveFile at moved
  split at moved
  · cases moved
  cases located : tree.locate path with
  | error fault => simp [located] at moved
  | ok location =>
    refine ⟨location, rfl, ?_⟩
    rcases found : tree.find? location with _ | _ | old
    · simp only [located, found, Except.ok.injEq] at moved
      exact ⟨by simp, moved.symm⟩
    · simp [located, found] at moved
    · simp only [located, found, Except.ok.injEq] at moved
      exact ⟨by simp, moved.symm⟩

theorem contained_of_makeDirectories {middle : FileTree} {error : FileError}
    (writable : tree.Writable path)
    (failed : tree.makeDirectories path.parent = (middle, .error error)) :
    (Failure.file error).isContained = true :=
  reported_of_makeDirectories (Path.hasNull_parent writable.clean) writable.shallow (by rw [failed])

theorem writeOutcome_direct (tree : FileTree) (path : Path) (text : String) (validate : Bool) :
    WriteOutcome tree path text (tree.writeDirect path text validate) := by
  unfold writeDirect
  cases checked : checkIf validate text with
  | error failure => exact .refused fun _ => contained_of_checkIf checked
  | ok done =>
    cases made : tree.makeDirectories path.parent with
    | mk middle result =>
      have middleEq : middle = (tree.makeDirectories path.parent).1 := by rw [made]
      cases result with
      | error error =>
        rw [middleEq]
        exact .unfinished fun writable => contained_of_makeDirectories writable made
      | ok directory =>
        simp only
        cases written : middle.writeFile path (.text text) with
        | error error =>
          rw [middleEq]
          exact .unfinished fun writable => reported_of_writeFile writable.clean written
        | ok after =>
          obtain ⟨location, located, vacant, rfl⟩ := writeFile_eq_ok.mp written
          exact .stored made located vacant

/-- A tree with a further file has the same directories. -/
theorem directory_put_file_iff {other : Location} {content : Content}
    (missing : tree.find? location = none) :
    (tree.put location (.file content)).find? other = some .directory ↔
      tree.find? other = some .directory := by
  rw [find?_put (ne_nil_of_missing missing)]
  by_cases same : other = location
  · simp [same, missing]
  · rw [if_neg same]

/-- A file that is moved from where nothing was leaves no trace there. The path leads to the same
place with and without it, because it is no directory. -/
theorem moveFile_put_eq_ok {temporary : Location} {content : Content}
    (fresh : tree.find? temporary = none)
    (moved : (tree.put temporary (.file content)).moveFile temporary content path = .ok after) :
    ∃ location, tree.locate path = .ok location ∧ tree.find? location ≠ some .directory ∧
      after = tree.put location (.file content) := by
  obtain ⟨location, located, vacant, rfl⟩ := moveFile_eq_ok moved
  obtain ⟨clean, short, followed⟩ := locate_eq_ok.mp located
  refine ⟨location, locate_eq_ok.mpr ⟨clean, short, ?_⟩, ?_, by rw [erase_put fresh]⟩
  · exact follow_of_directories (directory_put_file_iff fresh).mp followed
  · intro found
    exact vacant ((directory_put_file_iff fresh).mpr found)

theorem writeOutcome_atomic (tree : FileTree) (path : Path) (text : String) (validate : Bool) :
    WriteOutcome tree path text (tree.writeAtomic path text validate) := by
  unfold writeAtomic
  cases made : tree.makeDirectories path.parent with
  | mk middle result =>
    have middleEq : middle = (tree.makeDirectories path.parent).1 := by rw [made]
    cases result with
    | error error =>
      rw [middleEq]
      exact .unfinished fun writable => contained_of_makeDirectories writable made
    | ok directory =>
      simp only
      cases refused : middle.temporaryFault? path with
      | some fault =>
        rw [middleEq]
        exact .unfinished fun writable => reported_of_temporaryFault? writable.clean refused
      | none =>
        have fresh := middle.find?_freshName directory path.name
        generalize directory ++ [middle.freshName path.name] = temporary at fresh
        simp only
        cases checked : checkIf validate text with
        | error failure =>
          rw [erase_put fresh, middleEq]
          exact .unfinished fun _ => contained_of_checkIf checked
        | ok done =>
          simp only
          cases moved : (middle.put temporary (.file (.text text))).moveFile temporary (.text text)
              path with
          | error error =>
            rw [erase_put fresh, middleEq]
            exact .unfinished fun writable => reported_of_moveFile writable.clean moved
          | ok after =>
            obtain ⟨location, located, vacant, rfl⟩ := moveFile_put_eq_ok fresh moved
            exact .stored made located vacant

theorem writeOutcome_schema (tree : FileTree) (output : OutputOptions) (path : Path)
    (text : String) : WriteOutcome tree path text (tree.writeSchema output path text) := by
  unfold writeSchema writeNew
  simp only
  split
  · split
    · exact writeOutcome_atomic tree path text _
    · cases refused : tree.refuseExisting path with
      | error failure =>
        exact .refused fun writable => contained_of_refuseExisting writable.clean refused
      | ok vacant => exact writeOutcome_atomic tree path text _
  · split
    · exact writeOutcome_direct tree path text _
    · cases refused : tree.refuseExisting path with
      | error failure =>
        exact .refused fun writable => contained_of_refuseExisting writable.clean refused
      | ok vacant => exact writeOutcome_direct tree path text _

theorem refuseExisting_eq_ok : tree.refuseExisting path = .ok () ↔ tree.holds path = .ok false := by
  unfold refuseExisting
  rcases tree.holds path with error | _ | _
  · simp
  · simp
  · simp

/-- A schema that must not overwrite anything is written only where nothing is. -/
theorem holds_of_writeSchema {output : OutputOptions} (keeps : output.mode.isForce = false)
    (written : (tree.writeSchema output path text).2 = .ok ()) : tree.holds path = .ok false := by
  rw [← refuseExisting_eq_ok]
  unfold writeSchema writeNew at written
  simp only [keeps] at written
  cases refused : tree.refuseExisting path with
  | ok vacant => rfl
  | error failure =>
    simp only [refused] at written
    split at written
    · simp at written
    · simp at written

/-- A write that fails adds directories above its target at most. -/
theorem WriteOutcome.adds {failure : Failure}
    (outcome : WriteOutcome tree path text (after, .error failure)) :
    AddsDirectories (tree.onTheWay path.parent) tree after := by
  cases outcome with
  | refused contained => exact .refl _ _
  | unfinished contained => exact makeDirectories_adds tree path.parent

/-- A write that fails where its path can be written concerns that path only. -/
theorem WriteOutcome.contained {failure : Failure} (writable : tree.Writable path)
    (outcome : WriteOutcome tree path text (after, .error failure)) :
    failure.isContained = true := by
  cases outcome with
  | refused contained => exact contained writable
  | unfinished contained => exact contained writable

/-- A write that fails changes nothing when the directory of its target is there. -/
theorem WriteOutcome.unchanged {failure : Failure}
    (outcome : WriteOutcome tree path text (after, .error failure))
    (there : tree.entryAt path.parent = .ok .directory) : after = tree := by
  cases outcome with
  | refused contained => rfl
  | unfinished contained => exact makeDirectories_of_directory there

theorem WriteOutcome.rooted_of_error (rooted : tree.Rooted) {failure : Failure}
    (outcome : WriteOutcome tree path text (after, .error failure)) : after.Rooted := by
  cases outcome with
  | refused contained => exact rooted
  | unfinished contained => exact makeDirectories_rooted rooted path.parent

/-- What holds when a text has been stored at the location that a path leads to. -/
structure Stored (tree : FileTree) (path : Path) (text : String) (location : Location)
    (after : FileTree) : Prop where
  located : after.locate path = .ok location
  content : after.find? location = some (.file (.text text))
  /-- All other files are as they were. -/
  others : ∀ {other content}, other ≠ location →
    (after.find? other = some (.file content) ↔ tree.find? other = some (.file content))
  keeps : tree.Keeps after
  rooted : after.Rooted
  /-- The path led to the same location before, if anything was there. -/
  before : ".." ∉ path.parts → ∀ {entry}, tree.find? location = some entry →
    tree.entryAt path = .ok entry

theorem WriteOutcome.stored_of_ok (rooted : tree.Rooted)
    (outcome : WriteOutcome tree path text (after, .ok ())) :
    ∃ location, Stored tree path text location after := by
  cases outcome with
  | stored made located vacant =>
    rename_i middle directory location
    have adds := makeDirectories_adds tree path.parent
    have middleRooted := makeDirectories_rooted rooted path.parent
    rw [made] at adds middleRooted
    have known := ne_nil_of_find?_ne vacant
    have kept : middle.Keeps (middle.put location (.file (.text text))) := keeps_put vacant
    refine ⟨location, ?_⟩
    constructor
    · exact kept.locate located
    · rw [find?_put known, if_pos rfl]
    · intro other content different
      rw [find?_put known, if_neg different]
      exact adds.file_iff
    · exact adds.keeps.trans kept
    · exact middleRooted.put vacant (middleRooted.dropLast_of_locate located) _
    · intro noDots entry found
      obtain ⟨clean, short, followed⟩ := locate_eq_ok.mp located
      rw [start_congr adds.working] at followed
      have earlier := rooted.follow_of_find? noDots followed vacant found
      exact entryAt_eq_ok.mpr ⟨location, locate_eq_ok.mpr ⟨clean, short, earlier⟩, found⟩

/-- A text that is stored where a path without double dots led to nothing is stored where nothing
was. -/
theorem Stored.missing (stored : Stored tree path text location after) (noDots : ".." ∉ path.parts)
    (vacant : tree.holds path = .ok false) : tree.find? location = none := by
  cases found : tree.find? location with
  | none => rfl
  | some entry =>
    have occupied := holds_of_entryAt (stored.before noDots found)
    rw [occupied] at vacant
    cases vacant

end FileTree

end SchemaLowering
