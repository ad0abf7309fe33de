import SchemaLowering.FileTree.Pattern
import SchemaLowering.FileTree.SchemaFile
import SchemaLowering.Proofs.FileTrees
import SchemaLowering.Proofs.WrittenTexts

/-!
Which faults file operations end with. Those that the file system itself reports have a number; the
others come from a path with the character that no name can have, or from too many missing
directories.
-/

namespace SchemaLowering

/-- The file system itself reports a fault. -/
def FileFault.Reported (fault : FileFault) : Prop :=
  fault.code?.isSome = true

theorem Text.mem_intercalate_of_mem {separator text : String} {texts : List String} {c : Char}
    (member : text ∈ texts) (inText : c ∈ text.toList) :
    c ∈ (separator.intercalate texts).toList := by
  induction texts with
  | nil => cases member
  | cons first rest ih =>
    by_cases alone : rest = []
    · subst alone
      obtain rfl := List.mem_singleton.mp member
      simpa using inText
    rw [String.intercalate_cons_of_ne_nil alone, String.toList_append, String.toList_append,
      List.mem_append, List.mem_append]
    rcases List.mem_cons.mp member with rfl | member
    · exact .inl (.inl inText)
    · exact .inr (ih member)

/-- The directory of a path has no character that the path has not. -/
theorem Path.hasNull_parent {path : Path} (clean : hasNull path.text = false) :
    hasNull path.parent.text = false := by
  rw [← Bool.not_eq_true] at clean ⊢
  intro null
  refine clean ?_
  simp only [hasNull, List.contains_iff_mem] at null ⊢
  unfold Path.text at null ⊢
  by_cases bare : path.parent.root = "" ∧ path.parent.parts = []
  · rw [if_pos bare] at null
    simp at null
  rw [if_neg bare, String.toList_append, List.mem_append] at null
  have long : ¬ (path.root = "" ∧ path.parts = []) := by
    rintro ⟨rootless, empty⟩
    exact bare ⟨rootless, by simp [parent, empty]⟩
  rw [if_neg long, String.toList_append, List.mem_append]
  rcases null with inRoot | inParts
  · exact .inl inRoot
  rcases Text.mem_intercalate inParts with slash | ⟨part, member, inPart⟩
  · simp at slash
  · exact .inr (Text.mem_intercalate_of_mem (List.dropLast_subset _ member) inPart)

namespace FileTree

variable {tree after : FileTree} {location : Location} {path : Path} {fault : FileFault}
  {error : FileError}

theorem fault_of_follow {parts : List String} (failed : tree.follow location parts = .error fault) :
    fault = .missing ∨ fault = .notDirectory ∨ fault = .tooLong := by
  induction parts generalizing location with
  | nil => cases failed
  | cons part rest ih =>
    rw [follow] at failed
    split at failed
    · cases failed
      exact .inl rfl
    · cases failed
      exact .inr (.inl rfl)
    split at failed
    · cases failed
      exact .inr (.inr rfl)
    · exact ih failed

theorem fault_of_locate (failed : tree.locate path = .error fault) :
    fault = .nullByte ∨ fault = .missing ∨ fault = .notDirectory ∨ fault = .tooLong := by
  unfold locate at failed
  split at failed
  · cases failed
    exact .inl rfl
  split at failed
  · cases failed
    exact .inr (.inr (.inr rfl))
  · exact .inr (fault_of_follow failed)

theorem reported_of_follow {parts : List String}
    (failed : tree.follow location parts = .error fault) : fault.Reported := by
  rcases fault_of_follow failed with rfl | rfl | rfl
  · rfl
  · rfl
  · rfl

theorem reported_of_locate (clean : hasNull path.text = false)
    (failed : tree.locate path = .error fault) : fault.Reported := by
  unfold locate at failed
  rw [clean] at failed
  cases long : isLongPath path.text with
  | true =>
    simp only [long] at failed
    cases failed
    rfl
  | false =>
    simp only [long] at failed
    exact reported_of_follow failed

theorem reported_of_entryIn (failed : tree.entryIn location = .error fault) : fault.Reported := by
  unfold entryIn at failed
  split at failed
  · cases failed
  · cases failed
    rfl

theorem reported_of_entryAt (clean : hasNull path.text = false)
    (failed : tree.entryAt path = .error fault) : fault.Reported := by
  unfold entryAt at failed
  cases located : tree.locate path with
  | error other =>
    rw [located] at failed
    cases failed
    exact reported_of_locate clean located
  | ok location =>
    rw [located] at failed
    exact reported_of_entryIn failed

theorem reported_of_holds (clean : hasNull path.text = false)
    (failed : tree.holds path = .error error) : error.fault.Reported := by
  unfold holds probe at failed
  cases found : tree.entryAt path with
  | ok entry => simp [found, Except.map] at failed
  | error fault =>
    have reported := reported_of_entryAt clean found
    cases fault with
    | missing | notDirectory | nullByte => simp [found, Except.map] at failed
    | _ =>
      simp only [found, Except.map] at failed
      cases failed
      exact reported

theorem reported_of_makeAlong {root : String} {passed parts : List String}
    (failed : (tree.makeAlong root location passed parts).2 = .error error) :
    error.fault.Reported := by
  fun_induction makeAlong tree root location passed parts with
  | case1 => cases failed
  | case2 =>
    cases failed
    rfl
  | case3 tree location passed part rest path next short found ih => exact ih failed
  | case4 =>
    cases failed
    rfl
  | case5 tree location passed part rest path next short missing ih => exact ih failed

/-- Whether more directories are missing on the way along a path than can be made at a time. -/
def isTooDeep (tree : FileTree) (path : Path) : Prop :=
  depthLimit < tree.missingLevels (tree.start path) path.parts

theorem reported_of_makeDirectories (clean : hasNull path.text = false)
    (shallow : ¬ tree.isTooDeep path) (failed : (tree.makeDirectories path).2 = .error error) :
    error.fault.Reported := by
  unfold makeDirectories at failed
  cases located : tree.locate path with
  | error fault =>
    have reported := reported_of_locate clean located
    cases fault with
    | missing =>
      unfold isTooDeep at shallow
      simp only [located, if_neg shallow] at failed
      exact reported_of_makeAlong failed
    | _ =>
      simp only [located] at failed
      cases failed
      exact reported
  | ok location =>
    simp only [located] at failed
    rcases found : tree.find? location with _ | _ | content
    · simp [found] at failed
    · simp [found] at failed
    · simp only [found] at failed
      cases failed
      rfl

theorem reported_of_writeFile {content : Content} (clean : hasNull path.text = false)
    (failed : tree.writeFile path content = .error error) : error.fault.Reported := by
  unfold writeFile at failed
  cases located : tree.locate path with
  | error fault =>
    simp only [located] at failed
    cases failed
    exact reported_of_locate clean located
  | ok location =>
    rcases found : tree.find? location with _ | _ | old
    · simp [located, found] at failed
    · simp only [located, found] at failed
      cases failed
      rfl
    · simp [located, found] at failed

theorem reported_of_moveFile {source : Location} {content : Content}
    (clean : hasNull path.text = false)
    (failed : tree.moveFile source content path = .error error) : error.fault.Reported := by
  unfold moveFile at failed
  split at failed
  · cases failed
    rfl
  cases located : tree.locate path with
  | error fault =>
    simp only [located] at failed
    cases failed
    exact reported_of_locate clean located
  | ok location =>
    rcases found : tree.find? location with _ | _ | old
    · simp [located, found] at failed
    · simp only [located, found] at failed
      cases failed
      rfl
    · simp [located, found] at failed

theorem reported_of_temporaryFault? (clean : hasNull path.text = false)
    (found : tree.temporaryFault? path = some fault) : fault.Reported := by
  unfold temporaryFault? at found
  rw [clean] at found
  simp only [Bool.false_eq_true, if_false] at found
  split at found
  · cases found
    rfl
  split at found
  · cases found
    rfl
  · cases found

theorem contained_of_checkIf {validate : Bool} {text : String} {failure : Failure}
    (failed : checkIf validate text = .error failure) : failure.isContained = true := by
  unfold checkIf at failed
  cases validate with
  | false => simp at failed
  | true =>
    cases checked : Validation.check text with
    | ok done => simp [checked, Except.mapError] at failed
    | error found =>
      simp only [checked, Except.mapError] at failed
      cases failed
      rfl

theorem contained_of_refuseExisting {failure : Failure} (clean : hasNull path.text = false)
    (refused : tree.refuseExisting path = .error failure) : failure.isContained = true := by
  unfold refuseExisting at refused
  rcases held : tree.holds path with error | _ | _
  · simp only [held] at refused
    cases refused
    exact reported_of_holds clean held
  · simp [held] at refused
  · simp only [held] at refused
    cases refused
    rfl

theorem reported_of_locateText {text : String} (clean : hasNull text = false)
    (failed : tree.locateText text = .error fault) : fault.Reported := by
  unfold locateText at failed
  split at failed
  · cases failed
    rfl
  rw [clean] at failed
  simp only [Bool.false_eq_true, if_false] at failed
  split at failed
  · cases failed
    rfl
  · exact reported_of_follow failed

theorem reported_of_readFile {text : String} (clean : hasNull text = false)
    (failed : tree.readFile text = .error error) : error.fault.Reported := by
  unfold readFile entryAtText at failed
  cases located : tree.locateText text with
  | error fault =>
    rw [located] at failed
    cases failed
    exact reported_of_locateText clean located
  | ok location =>
    rw [located] at failed
    simp only [bind, Except.bind] at failed
    rcases found : tree.entryIn location with fault | _ | content
    · simp only [found] at failed
      cases failed
      exact reported_of_entryIn found
    · simp only [found] at failed
      cases failed
      rfl
    · simp [found] at failed

/-- The text of a path that leads to a file can be asked for. -/
theorem hasNull_of_isFile (found : tree.isFile path = .ok true) : hasNull path.text = false := by
  cases clean : hasNull path.text with
  | false => rfl
  | true =>
    have unlocated : tree.locate path = .error .nullByte := by simp [locate, clean]
    simp [isFile, probe, entryAt, unlocated, bind, Except.bind, Except.map] at found

theorem hasNull_of_filesAmong {paths files : List Path}
    (chosen : tree.filesAmong paths = .ok files) : ∀ file ∈ files, hasNull file.text = false := by
  induction paths generalizing files with
  | nil =>
    cases chosen
    simp
  | cons path rest ih =>
    obtain ⟨kept, isFile, chosen⟩ := Traversal.bind_eq_ok.mp chosen
    obtain ⟨others, chosenRest, chosen⟩ := Traversal.bind_eq_ok.mp chosen
    have ofRest := ih chosenRest
    cases kept with
    | false =>
      cases chosen
      exact ofRest
    | true =>
      cases chosen
      exact List.forall_mem_cons.mpr ⟨hasNull_of_isFile isFile, ofRest⟩

theorem hasNull_of_discover {pattern : String} {files : List Path}
    (discovered : tree.discover pattern = .ok files) :
    ∀ file ∈ files, hasNull file.text = false := by
  unfold discover at discovered
  cases found : Pattern.fault? pattern with
  | some fault => simp [found] at discovered
  | none =>
    simp only [found] at discovered
    exact hasNull_of_filesAmong discovered

end FileTree

end SchemaLowering
