import SchemaLowering.Proofs.SchemaFiles

/-!
Writing through a temporary file and writing in place do the same. They succeed on the same paths,
apart from those that leave no room for the longer name of the temporary file, and leave the same
tree; and neither changes a file when it fails. Trees have no links, through which only a write in
place would go, and texts have no halves of characters, at which a write in place would stop too
late.
-/

namespace SchemaLowering

namespace FileTree

/-- A path beside whose end a temporary file can be named, by the absolute text it has. -/
structure HasRoomBeside (tree : FileTree) (path : Path) : Prop where
  name : path.name.utf8ByteSize + temporaryBytes ≤ nameLimit
  text : (tree.absoluteText path).utf8ByteSize + temporaryBytes ≤ pathLimit

variable {tree middle after : FileTree} {location last : Location} {path : Path} {text : String}
  {validate : Bool}

/-! Where a path ends. -/

/-- A path is followed to a directory, and from there one component further. -/
theorem follow_concat_eq_ok {before : List String} {part : String} :
    tree.follow location (before ++ [part]) = .ok last ↔
      ∃ above, tree.follow location before = .ok above ∧ tree.find? above = some .directory ∧
        isLongName part = false ∧ last = stepInto above part := by
  induction before generalizing location with
  | nil =>
    rw [List.nil_append, follow_cons_eq_ok]
    constructor
    · rintro ⟨there, short, ended⟩
      cases ended
      exact ⟨location, rfl, there, short, rfl⟩
    · rintro ⟨above, same, there, short, rfl⟩
      cases same
      exact ⟨there, short, rfl⟩
  | cons first rest ih =>
    rw [List.cons_append, follow_cons_eq_ok, ih]
    constructor
    · rintro ⟨there, short, above, followed, ended⟩
      exact ⟨above, follow_cons_eq_ok.mpr ⟨there, short, followed⟩, ended⟩
    · rintro ⟨above, followed, ended⟩
      obtain ⟨there, short, followed⟩ := follow_cons_eq_ok.mp followed
      exact ⟨there, short, above, followed, ended⟩

/-- All that is met on the way to a directory is a directory. -/
theorem directory_of_mem_visits {parts : List String}
    (followed : tree.follow location parts = .ok last) (there : tree.find? last = some .directory) :
    ∀ place ∈ visits location parts, tree.find? place = some .directory := by
  induction parts generalizing location with
  | nil =>
    cases followed
    simpa [visits] using there
  | cons part rest ih =>
    obtain ⟨here, _, onwards⟩ := follow_cons_eq_ok.mp followed
    exact List.forall_mem_cons.mpr ⟨here, ih onwards⟩

/-- A path that leads to no directory has a last component, and the components before it lead to a
directory. -/
theorem Rooted.above_of_locate (rooted : tree.Rooted) (located : tree.locate path = .ok location)
    (vacant : tree.find? location ≠ some .directory) :
    ∃ before part above, path.parts = before ++ [part] ∧
      tree.follow (tree.start path) before = .ok above ∧ tree.find? above = some .directory ∧
      location = stepInto above part := by
  obtain ⟨_, _, followed⟩ := locate_eq_ok.mp located
  rcases List.eq_nil_or_concat' path.parts with none | ⟨before, part, split⟩
  · rw [none] at followed
    cases followed
    exact absurd (rooted.start path) vacant
  · rw [split] at followed
    obtain ⟨above, toParent, there, _, ended⟩ := follow_concat_eq_ok.mp followed
    exact ⟨before, part, above, split, toParent, there, ended⟩

/-- A path that leads to no directory ends with a name to which a file can be moved. A component
that stays or goes up would lead to a directory. -/
theorem Rooted.name_of_locate (rooted : tree.Rooted) (located : tree.locate path = .ok location)
    (vacant : tree.find? location ≠ some .directory) : path.name ≠ "" ∧ path.name ≠ ".." := by
  obtain ⟨before, part, above, split, _, there, rfl⟩ := rooted.above_of_locate located vacant
  have name : path.name = part := by simp [Path.name, split]
  rw [name]
  constructor
  · rintro rfl
    exact vacant there
  · rintro rfl
    exact vacant (rooted.parents there)

theorem Rooted.parents_of_locate (rooted : tree.Rooted) (located : tree.locate path = .ok location)
    (vacant : tree.find? location ≠ some .directory) :
    ∀ place ∈ tree.onTheWay path.parent, tree.find? place = some .directory := by
  obtain ⟨before, part, above, split, toParent, there, _⟩ := rooted.above_of_locate located vacant
  have parent : path.parent.parts = before := by simp [Path.parent, split]
  have start : tree.start path.parent = tree.start path := rfl
  rw [onTheWay, parent, start]
  exact directory_of_mem_visits toParent there

/-! The two ways of writing. -/

/-- A path that leads to a place for a file once the directories above it have been made. -/
structure Target (tree : FileTree) (path : Path) (middle : FileTree) (location : Location) :
    Prop where
  made : ∃ directory, tree.makeDirectories path.parent = (middle, .ok directory)
  located : middle.locate path = .ok location
  vacant : middle.find? location ≠ some .directory

theorem Target.adds (target : Target tree path middle location) :
    AddsDirectories (tree.onTheWay path.parent) tree middle := by
  obtain ⟨directory, made⟩ := target.made
  have adds := makeDirectories_adds tree path.parent
  rwa [made] at adds

theorem Target.rooted (target : Target tree path middle location) (rooted : tree.Rooted) :
    middle.Rooted := by
  obtain ⟨directory, made⟩ := target.made
  have middleRooted := makeDirectories_rooted rooted path.parent
  rwa [made] at middleRooted

theorem Target.clean (target : Target tree path middle location) : hasNull path.text = false :=
  (locate_eq_ok.mp target.located).1

theorem WriteOutcome.target {result : FileTree × Except Failure Unit}
    (outcome : WriteOutcome tree path text result) (written : result.2 = .ok ()) :
    ∃ middle location, Target tree path middle location := by
  cases outcome with
  | refused => cases written
  | unfinished => cases written
  | stored made located vacant => exact ⟨_, _, ⟨_, made⟩, located, vacant⟩

theorem WriteOutcome.adds_of_failed {result : FileTree × Except Failure Unit} {failure : Failure}
    (outcome : WriteOutcome tree path text result) (failed : result.2 = .error failure) :
    AddsDirectories (tree.onTheWay path.parent) tree result.1 := by
  obtain ⟨after, ended⟩ := result
  cases failed
  exact outcome.adds

theorem Target.writeDirect (target : Target tree path middle location)
    (checked : checkIf validate text = .ok ()) :
    tree.writeDirect path text validate = (middle.put location (.file (.text text)), .ok ()) := by
  obtain ⟨directory, made⟩ := target.made
  have written : middle.writeFile path (.text text)
      = .ok (middle.put location (.file (.text text))) :=
    writeFile_eq_ok.mpr ⟨location, target.located, target.vacant, rfl⟩
  simp only [FileTree.writeDirect, checked, made, written]

theorem checkIf_of_writeDirect (written : (tree.writeDirect path text validate).2 = .ok ()) :
    checkIf validate text = .ok () := by
  unfold writeDirect at written
  cases checked : checkIf validate text with
  | error failure => simp [checked] at written
  | ok done => rfl

/-- A file that is moved from where nothing was gets to where its path led without it. -/
theorem moveFile_put {temporary : Location} {content : Content}
    (fresh : tree.find? temporary = none) (named : path.name ≠ "" ∧ path.name ≠ "..")
    (located : tree.locate path = .ok location)
    (vacant : tree.find? location ≠ some .directory) :
    (tree.put temporary (.file content)).moveFile temporary content path
      = .ok (tree.put location (.file content)) := by
  have stillLocated : (tree.put temporary (.file content)).locate path = .ok location :=
    (keeps_put (not_directory_of_missing fresh)).locate located
  have stillVacant : (tree.put temporary (.file content)).find? location ≠ some .directory :=
    (directory_put_file_iff fresh).not.mpr vacant
  rw [moveFile, if_neg (not_or.mpr named), stillLocated]
  rcases found : (tree.put temporary (.file content)).find? location with _ | _ | old
  · simp only [found, erase_put fresh]
  · exact absurd found stillVacant
  · simp only [found, erase_put fresh]

theorem temporaryFault?_of_room (clean : hasNull path.text = false)
    (room : tree.HasRoomBeside path) : tree.temporaryFault? path = none := by
  rw [temporaryFault?, if_neg (by simp [clean]), if_neg (Nat.not_lt_of_le room.name),
    if_neg (Nat.not_lt_of_le room.text)]

theorem temporaryFault?_of_no_room (clean : hasNull path.text = false)
    (noRoom : ¬ tree.HasRoomBeside path) : tree.temporaryFault? path = some .tooLong := by
  rw [temporaryFault?, if_neg (by simp [clean])]
  split
  · rfl
  · rename_i name
    exact if_pos (Nat.lt_of_not_le fun text => noRoom ⟨Nat.le_of_not_lt name, text⟩)

/-- Making directories gives no room and takes none. -/
theorem Target.hasRoomBeside_iff (target : Target tree path middle location) :
    middle.HasRoomBeside path ↔ tree.HasRoomBeside path := by
  have sameText : middle.absoluteText path = tree.absoluteText path := by
    rw [absoluteText, absoluteText, start_congr target.adds.working]
  constructor
  · rintro ⟨name, text⟩
    exact ⟨name, sameText ▸ text⟩
  · rintro ⟨name, text⟩
    exact ⟨name, sameText.symm ▸ text⟩

theorem Target.writeAtomic (target : Target tree path middle location) (rooted : tree.Rooted)
    (room : tree.HasRoomBeside path) (checked : checkIf validate text = .ok ()) :
    tree.writeAtomic path text validate = (middle.put location (.file (.text text)), .ok ()) := by
  obtain ⟨directory, made⟩ := target.made
  have fresh := middle.find?_freshName directory path.name
  have named := (target.rooted rooted).name_of_locate target.located target.vacant
  have nameable := temporaryFault?_of_room target.clean (target.hasRoomBeside_iff.mpr room)
  simp only [FileTree.writeAtomic, made, nameable, checked,
    moveFile_put fresh named target.located target.vacant]

/-- Without room for a temporary file nothing is written. -/
theorem Target.writeAtomic_of_no_room (target : Target tree path middle location)
    (noRoom : ¬ tree.HasRoomBeside path) (text : String) (validate : Bool) :
    tree.writeAtomic path text validate = (middle, .error (.file ⟨.tooLong, path.text⟩)) := by
  obtain ⟨directory, made⟩ := target.made
  have nameless :=
    temporaryFault?_of_no_room target.clean (target.hasRoomBeside_iff.not.mpr noRoom)
  simp only [FileTree.writeAtomic, made, nameless]

theorem checkIf_of_writeAtomic (written : (tree.writeAtomic path text validate).2 = .ok ()) :
    checkIf validate text = .ok () := by
  unfold writeAtomic at written
  cases checked : checkIf validate text with
  | ok done => rfl
  | error failure =>
    simp only [checked] at written
    split at written
    · cases written
    · split at written
      · cases written
      · cases written

/-- A write through a temporary file that succeeds has room for it and does what a write in place
does. -/
theorem writeDirect_of_writeAtomic (rooted : tree.Rooted)
    (written : (tree.writeAtomic path text validate).2 = .ok ()) :
    tree.HasRoomBeside path ∧
      tree.writeAtomic path text validate = tree.writeDirect path text validate := by
  have checked := checkIf_of_writeAtomic written
  obtain ⟨middle, location, target⟩ := (writeOutcome_atomic tree path text validate).target written
  have room : tree.HasRoomBeside path := by
    by_contra noRoom
    rw [target.writeAtomic_of_no_room noRoom] at written
    cases written
  exact ⟨room, (target.writeAtomic rooted room checked).trans (target.writeDirect checked).symm⟩

/-- A later state of a tree in which a path leads to a text. All else is as it was, except that the
directories above the path are there. -/
structure Delivered (tree : FileTree) (path : Path) (text : String) (after : FileTree) : Prop where
  working : after.workingDirectory = tree.workingDirectory
  parents : ∀ place ∈ tree.onTheWay path.parent, after.find? place = some .directory
  target : ∃ location, after.locate path = .ok location ∧
    after.find? location = some (.file (.text text)) ∧ tree.find? location ≠ some .directory ∧
    ∀ other ≠ location, after.find? other = tree.find? other ∨
      tree.find? other = none ∧ other ∈ tree.onTheWay path.parent

theorem Target.delivered (target : Target tree path middle location) (rooted : tree.Rooted)
    (text : String) : Delivered tree path text (middle.put location (.file (.text text))) := by
  have adds := target.adds
  have known := ne_nil_of_find?_ne target.vacant
  have kept : middle.Keeps (middle.put location (.file (.text text))) := keeps_put target.vacant
  have above := (target.rooted rooted).parents_of_locate target.located target.vacant
  have sameWay : middle.onTheWay path.parent = tree.onTheWay path.parent := by
    rw [onTheWay, onTheWay, start_congr adds.working]
  rw [sameWay] at above
  constructor
  · exact adds.working
  · intro place onWay
    exact kept.directories (above place onWay)
  · refine ⟨location, kept.locate target.located, ?_, ?_, ?_⟩
    · rw [find?_put known, if_pos rfl]
    · intro directory
      exact target.vacant (adds.of_find? directory)
    · intro other different
      rw [find?_put known, if_neg different]
      rcases adds.found other with same | ⟨missing, _, onWay⟩
      · exact .inl same
      · exact .inr ⟨missing, onWay⟩

/-- Writing through a temporary file succeeds when writing in place does and there is room for the
name of the temporary file. Both then leave the same tree, in which the path leads to the text. A
write that fails makes directories above the path at most. -/
theorem writes_agree (rooted : tree.Rooted) (path : Path) (text : String) (validate : Bool) :
    let atomic := tree.writeAtomic path text validate
    let direct := tree.writeDirect path text validate
    (atomic.2 = .ok () ↔ direct.2 = .ok () ∧ tree.HasRoomBeside path) ∧
    (atomic.2 = .ok () → atomic.1 = direct.1) ∧
    (direct.2 = .ok () → Delivered tree path text direct.1) ∧
    (direct.2 = .ok () → ¬ tree.HasRoomBeside path →
      atomic.2 = .error (.file ⟨.tooLong, path.text⟩)) ∧
    (∀ failure, atomic.2 = .error failure →
      AddsDirectories (tree.onTheWay path.parent) tree atomic.1) ∧
    (∀ failure, direct.2 = .error failure →
      AddsDirectories (tree.onTheWay path.parent) tree direct.1) := by
  refine ⟨⟨?_, ?_⟩, ?_, ?_, ?_, ?_, ?_⟩
  · intro written
    obtain ⟨room, same⟩ := writeDirect_of_writeAtomic rooted written
    exact ⟨same ▸ written, room⟩
  · rintro ⟨written, room⟩
    obtain ⟨_, _, target⟩ := (writeOutcome_direct tree path text validate).target written
    rw [target.writeAtomic rooted room (checkIf_of_writeDirect written)]
  · intro written
    rw [(writeDirect_of_writeAtomic rooted written).2]
  · intro written
    obtain ⟨_, _, target⟩ := (writeOutcome_direct tree path text validate).target written
    rw [target.writeDirect (checkIf_of_writeDirect written)]
    exact target.delivered rooted text
  · intro written noRoom
    obtain ⟨_, _, target⟩ := (writeOutcome_direct tree path text validate).target written
    rw [target.writeAtomic_of_no_room noRoom]
  · intro failure failed
    exact (writeOutcome_atomic tree path text validate).adds_of_failed failed
  · intro failure failed
    exact (writeOutcome_direct tree path text validate).adds_of_failed failed

/-- The path to a file in a directory that an empty tree does not have. -/
def nestedTarget : Path := ⟨"", ["out", "schema"]⟩

theorem writeDirect_nestedTarget :
    (writeDirect ⟨[], []⟩ nestedTarget "scalar A\n" true).2.toOption = some () := by
  decide +kernel

theorem hasRoomBeside_nestedTarget : HasRoomBeside ⟨[], []⟩ nestedTarget :=
  ⟨by decide +kernel, by decide +kernel⟩

theorem writes_agree_nestedTarget :
    let atomic := writeAtomic ⟨[], []⟩ nestedTarget "scalar A\n" true
    let direct := writeDirect ⟨[], []⟩ nestedTarget "scalar A\n" true
    atomic.2 = .ok () ∧ atomic.1 = direct.1 ∧
      Delivered ⟨[], []⟩ nestedTarget "scalar A\n" direct.1 := by
  have written := Traversal.eq_ok_of_toOption writeDirect_nestedTarget
  obtain ⟨success, same, delivered, _⟩ :=
    writes_agree rooted_empty nestedTarget "scalar A\n" true
  have both := success.mpr ⟨written, hasRoomBeside_nestedTarget⟩
  exact ⟨both, same both, delivered written⟩

/-- The path to a file whose name leaves no room for the name of a temporary file. -/
def longTarget : Path := ⟨"", [String.ofList (List.replicate 242 'n')]⟩

theorem text_longTarget : longTarget.text = String.ofList (List.replicate 242 'n') := by
  decide +kernel

theorem target_longTarget : Target ⟨[], []⟩ longTarget ⟨[], []⟩ [longTarget.name] where
  made := ⟨[], rfl⟩
  located := by
    refine locate_eq_ok.mpr ⟨?_, by decide +kernel, follow_cons_eq_ok.mpr ⟨find?_nil _, ?_, ?_⟩⟩
    · rw [text_longTarget, hasNull, String.toList_ofList]
      decide
    · decide +kernel
    · decide +kernel
  vacant := by decide +kernel

theorem not_hasRoomBeside_longTarget : ¬ HasRoomBeside ⟨[], []⟩ longTarget := by
  intro room
  exact absurd room.name (by decide +kernel)

/-- A file whose own name is short enough, and that of its temporary file too long, can be written
in place only. -/
theorem long_name_written_in_place_only :
    Rooted ⟨[], []⟩ ∧ (writeDirect ⟨[], []⟩ longTarget "scalar A\n" true).2 = .ok () ∧
      ¬ (writeAtomic ⟨[], []⟩ longTarget "scalar A\n" true).2 = .ok () := by
  have checked : checkIf true "scalar A\n" = .ok () :=
    Traversal.eq_ok_of_toOption (by decide +kernel)
  refine ⟨rooted_empty, ?_, ?_⟩
  · rw [target_longTarget.writeDirect checked]
  · rw [target_longTarget.writeAtomic_of_no_room not_hasRoomBeside_longTarget]
    intro written
    cases written

end FileTree

end SchemaLowering
