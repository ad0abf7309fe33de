import SchemaLowering.FileTree.Basic
import Mathlib.Data.List.Induction

/-!
Trees of files as they change. A lookup after an entry is set or erased, what stays when only
directories are added, and where paths lead from one state of a tree to a later one.
-/

namespace SchemaLowering

namespace FileTree

variable {tree before after : FileTree} {location other : Location} {entry : FileEntry}

theorem lookup_setEntry (entries : List (Location × FileEntry)) :
    (setEntry location entry entries).lookup other
      = if other = location then some entry else entries.lookup other := by
  induction entries with
  | nil =>
    rw [setEntry, List.lookup_cons]
    by_cases same : other = location
    · simp [same]
    · simp [same, beq_eq_false_iff_ne.mpr same]
  | cons head rest ih =>
    obtain ⟨first, old⟩ := head
    unfold setEntry
    by_cases here : first = location
    · subst here
      rw [if_pos rfl, List.lookup_cons, List.lookup_cons]
      by_cases same : other = first
      · simp [same]
      · simp [same, beq_eq_false_iff_ne.mpr same]
    · rw [if_neg here, List.lookup_cons, List.lookup_cons, ih]
      by_cases same : other = first
      · simp [same, here]
      · simp [beq_eq_false_iff_ne.mpr same]

theorem find?_put (known : location ≠ []) :
    (tree.put location entry).find? other
      = if other = location then some entry else tree.find? other := by
  unfold find? put
  by_cases top : other = []
  · subst top
    simp [known.symm]
  · rw [if_neg top, if_neg top]
    exact lookup_setEntry tree.entries

@[simp] theorem find?_nil (tree : FileTree) : tree.find? [] = some .directory := by
  simp [find?]

theorem ne_nil_of_find?_ne (missing : tree.find? location ≠ some .directory) : location ≠ [] := by
  rintro rfl
  exact missing (find?_nil tree)

theorem not_directory_of_missing (missing : tree.find? location = none) :
    tree.find? location ≠ some .directory := by
  simp [missing]

theorem ne_nil_of_missing (missing : tree.find? location = none) : location ≠ [] :=
  ne_nil_of_find?_ne (not_directory_of_missing missing)

@[simp] theorem put_workingDirectory (tree : FileTree) (location : Location) (entry : FileEntry) :
    (tree.put location entry).workingDirectory = tree.workingDirectory := rfl

theorem not_mem_of_find?_eq_none (missing : tree.find? location = none) :
    ∀ item ∈ tree.entries, item.1 ≠ location := by
  intro item member same
  rw [find?, if_neg (ne_nil_of_missing missing), List.lookup_eq_none_iff] at missing
  have different := missing item member
  rw [bne_iff_ne] at different
  exact different same.symm

theorem filter_setEntry {entries : List (Location × FileEntry)}
    (missing : ∀ item ∈ entries, item.1 ≠ location) :
    (setEntry location entry entries).filter (·.1 ≠ location) = entries := by
  induction entries with
  | nil => simp [setEntry]
  | cons head rest ih =>
    obtain ⟨absent, absentRest⟩ := List.forall_mem_cons.mp missing
    have kept := ih absentRest
    simp only [setEntry, if_neg absent]
    rw [List.filter_cons_of_pos (by simpa using absent), kept]

/-- An entry that is put where nothing was and erased again leaves no trace. -/
theorem erase_put (missing : tree.find? location = none) :
    (tree.put location entry).erase location = tree := by
  unfold erase put
  rw [filter_setEntry (not_mem_of_find?_eq_none missing)]

theorem le_foldl_max (lengths : List Nat) (start : Nat) :
    start ≤ lengths.foldl max start ∧ ∀ length ∈ lengths, length ≤ lengths.foldl max start := by
  induction lengths generalizing start with
  | nil => simp
  | cons first rest ih =>
    obtain ⟨atLeast, each⟩ := ih (max start first)
    refine ⟨by simp only [List.foldl_cons]; omega, List.forall_mem_cons.mpr ⟨?_, each⟩⟩
    simp only [List.foldl_cons]
    omega

/-- No file has a fresh name, because it is longer than all names. -/
theorem find?_freshName (tree : FileTree) (directory : Location) (name : String) :
    tree.find? (directory ++ [tree.freshName name]) = none := by
  rw [find?, if_neg (by simp), List.lookup_eq_none_iff]
  rintro ⟨location, entry⟩ member
  rw [bne_iff_ne]
  intro (same : directory ++ [tree.freshName name] = location)
  have short : (location.getLast?.getD "").length ≤ tree.longestName :=
    (le_foldl_max _ 0).2 _ (List.mem_map.mpr ⟨(location, entry), member, rfl⟩)
  rw [← same] at short
  have dot : ".".length = 1 := rfl
  simp [freshName, String.length_append] at short
  omega

/-! Later states of a tree. -/

/-- A tree in which the working directory exists and everything stands in a directory. -/
structure Rooted (tree : FileTree) : Prop where
  working : tree.find? tree.workingDirectory = some .directory
  parents : ∀ {location entry}, tree.find? location = some entry →
    tree.find? location.dropLast = some .directory

/-- A later state that has every directory and every file, maybe with other content. -/
structure Keeps (before after : FileTree) : Prop where
  working : after.workingDirectory = before.workingDirectory
  directories : ∀ {location}, before.find? location = some .directory →
    after.find? location = some .directory
  files : ∀ {location content}, before.find? location = some (.file content) →
    ∃ newer, after.find? location = some (.file newer)

/-- A later state that has the same and, at some of the given places, new directories. -/
structure AddsDirectories (places : List Location) (before after : FileTree) : Prop where
  working : after.workingDirectory = before.workingDirectory
  found : ∀ location, after.find? location = before.find? location ∨
    before.find? location = none ∧ after.find? location = some .directory ∧ location ∈ places

theorem Keeps.refl (tree : FileTree) : tree.Keeps tree :=
  ⟨rfl, id, fun found => ⟨_, found⟩⟩

theorem Keeps.trans {middle : FileTree} (first : before.Keeps middle)
    (second : middle.Keeps after) : before.Keeps after where
  working := second.working.trans first.working
  directories found := second.directories (first.directories found)
  files found := by
    obtain ⟨newer, later⟩ := first.files found
    exact second.files later

theorem AddsDirectories.refl (places : List Location) (tree : FileTree) :
    AddsDirectories places tree tree :=
  ⟨rfl, fun _ => .inl rfl⟩

theorem AddsDirectories.of_find? {places : List Location}
    (adds : AddsDirectories places before after) (found : before.find? location = some entry) :
    after.find? location = some entry := by
  rcases adds.found location with same | ⟨missing, _⟩
  · rw [same, found]
  · rw [missing] at found
    cases found

theorem AddsDirectories.keeps {places : List Location}
    (adds : AddsDirectories places before after) : before.Keeps after :=
  ⟨adds.working, adds.of_find?, fun found => ⟨_, adds.of_find? found⟩⟩

/-- Directories that are added leave every file as it is and bring no new one. -/
theorem AddsDirectories.file_iff {places : List Location}
    (adds : AddsDirectories places before after) {content : Content} :
    after.find? location = some (.file content) ↔ before.find? location = some (.file content) := by
  constructor
  · intro found
    rcases adds.found location with same | ⟨_, made, _⟩
    · rw [← same, found]
    · rw [made] at found
      cases found
  · exact adds.of_find?

theorem AddsDirectories.trans {middle : FileTree} {places : List Location}
    (first : AddsDirectories places before middle) (second : AddsDirectories places middle after) :
    AddsDirectories places before after where
  working := second.working.trans first.working
  found location := by
    rcases second.found location with same | ⟨missing, made, place⟩
    · rw [same]
      exact first.found location
    · rcases first.found location with same | ⟨_, made', _⟩
      · exact .inr ⟨same ▸ missing, made, place⟩
      · rw [made'] at missing
        cases missing

theorem AddsDirectories.mono {places more : List Location} (wider : places ⊆ more)
    (adds : AddsDirectories places before after) : AddsDirectories more before after where
  working := adds.working
  found location := by
    rcases adds.found location with same | ⟨missing, made, place⟩
    · exact .inl same
    · exact .inr ⟨missing, made, wider place⟩

theorem addsDirectories_put (missing : tree.find? location = none) :
    AddsDirectories [location] tree (tree.put location .directory) where
  working := rfl
  found other := by
    rw [find?_put (ne_nil_of_missing missing)]
    by_cases same : other = location
    · subst same
      exact .inr ⟨missing, by simp, by simp⟩
    · exact .inl (if_neg same)

/-- A file that takes the place of no directory. -/
theorem keeps_put {content : Content} (vacant : tree.find? location ≠ some .directory) :
    tree.Keeps (tree.put location (.file content)) where
  working := rfl
  directories {other} found := by
    have different : other ≠ location := by
      rintro rfl
      exact vacant found
    rw [find?_put (ne_nil_of_find?_ne vacant), if_neg different, found]
  files {other} old found := by
    rw [find?_put (ne_nil_of_find?_ne vacant)]
    split
    · exact ⟨content, rfl⟩
    · exact ⟨old, found⟩

/-- Above everything that exists are directories. -/
theorem Rooted.directory_of_prefix (rooted : tree.Rooted) {part : String} {rest : List String}
    (found : tree.find? (location ++ part :: rest) = some entry) :
    tree.find? location = some .directory := by
  induction rest using List.reverseRecOn generalizing entry with
  | nil => simpa using rooted.parents found
  | append_singleton rest last ih =>
    have above := rooted.parents found
    rw [← List.cons_append, ← List.append_assoc, List.dropLast_concat] at above
    exact ih above

/-- An entry may be put in a directory, in place of nothing or of a file. -/
theorem Rooted.put (rooted : tree.Rooted) (vacant : tree.find? location ≠ some .directory)
    (above : tree.find? location.dropLast = some .directory) (entry : FileEntry) :
    (tree.put location entry).Rooted where
  working := by
    have different : tree.workingDirectory ≠ location := by
      rintro same
      exact vacant (same ▸ rooted.working)
    rw [find?_put (ne_nil_of_find?_ne vacant), put_workingDirectory, if_neg different,
      rooted.working]
  parents {other old} found := by
    have known := ne_nil_of_find?_ne vacant
    rw [find?_put known] at found ⊢
    have inDirectory : tree.find? other.dropLast = some .directory := by
      by_cases same : other = location
      · rw [same, above]
      · rw [if_neg same] at found
        exact rooted.parents found
    rw [if_neg ?_, inDirectory]
    intro same
    exact vacant (same ▸ inDirectory)

theorem rooted_empty : Rooted ⟨[], []⟩ where
  working := find?_nil _
  parents {location entry} found := by
    by_cases top : location = []
    · rw [top]
      exact find?_nil _
    · simp [find?, top] at found

/-! Following paths. -/

/-- Where components lead, whatever is there. -/
def destination (location : Location) (parts : List String) : Location :=
  parts.foldl stepInto location

/-- The locations that are met along components. -/
def visits (location : Location) : List String → List Location
  | [] => [location]
  | part :: rest => location :: visits (stepInto location part) rest

/-- The locations on the way along a path, with its end. -/
def onTheWay (tree : FileTree) (path : Path) : List Location :=
  visits (tree.start path) path.parts

theorem mem_visits_start (location : Location) (parts : List String) :
    location ∈ visits location parts := by
  cases parts with
  | nil => simp [visits]
  | cons part rest => simp [visits]

theorem mem_visits_destination (location : Location) (parts : List String) :
    destination location parts ∈ visits location parts := by
  induction parts generalizing location with
  | nil => simp [visits, destination]
  | cons part rest ih => exact List.mem_cons_of_mem _ (ih (stepInto location part))

theorem follow_cons_eq_ok {part : String} {rest : List String} {last : Location} :
    tree.follow location (part :: rest) = .ok last ↔
      tree.find? location = some .directory ∧ isLongName part = false ∧
        tree.follow (stepInto location part) rest = .ok last := by
  rw [follow]
  rcases tree.find? location with _ | _ | content
  · simp
  · cases isLongName part with
    | true => simp
    | false => simp
  · simp

theorem eq_destination_of_follow {parts : List String} {last : Location}
    (followed : tree.follow location parts = .ok last) : last = destination location parts := by
  induction parts generalizing location with
  | nil =>
    cases followed
    rfl
  | cons part rest ih => exact ih (follow_cons_eq_ok.mp followed).2.2

/-- A path that can be followed can be followed as long as its directories stay. -/
theorem follow_of_directories
    (kept : ∀ {location}, before.find? location = some .directory →
      after.find? location = some .directory)
    {parts : List String} {last : Location} (followed : before.follow location parts = .ok last) :
    after.follow location parts = .ok last := by
  induction parts generalizing location with
  | nil => exact followed
  | cons part rest ih =>
    obtain ⟨there, short, onwards⟩ := follow_cons_eq_ok.mp followed
    exact follow_cons_eq_ok.mpr ⟨kept there, short, ih onwards⟩

theorem locate_eq_ok {path : Path} :
    tree.locate path = .ok location ↔
      hasNull path.text = false ∧ isLongPath path.text = false ∧
        tree.follow (tree.start path) path.parts = .ok location := by
  unfold locate
  cases hasNull path.text with
  | true => simp
  | false =>
    cases isLongPath path.text with
    | true => simp
    | false => simp

theorem start_congr (working : after.workingDirectory = before.workingDirectory) (path : Path) :
    after.start path = before.start path := by
  unfold start
  rw [working]

theorem Rooted.start (rooted : tree.Rooted) (path : Path) :
    tree.find? (tree.start path) = some .directory := by
  unfold FileTree.start
  split
  · exact find?_nil tree
  · exact rooted.working

theorem Keeps.locate (keeps : before.Keeps after) {path : Path}
    (located : before.locate path = .ok location) : after.locate path = .ok location := by
  obtain ⟨clean, short, followed⟩ := locate_eq_ok.mp located
  refine locate_eq_ok.mpr ⟨clean, short, ?_⟩
  rw [start_congr keeps.working]
  exact follow_of_directories keeps.directories followed

theorem entryAt_eq_ok {path : Path} :
    tree.entryAt path = .ok entry ↔
      ∃ location, tree.locate path = .ok location ∧ tree.find? location = some entry := by
  unfold entryAt
  cases tree.locate path with
  | error fault => simp [bind, Except.bind]
  | ok location =>
    cases found : tree.find? location with
    | none => simp [bind, Except.bind, entryIn, found]
    | some known => simp [bind, Except.bind, entryIn, found]

theorem holds_of_entryAt {path : Path} (found : tree.entryAt path = .ok entry) :
    tree.holds path = .ok true := by
  simp [holds, probe, found, Except.map]

theorem prefix_destination {parts : List String} (noDots : ".." ∉ parts) :
    location <+: destination location parts := by
  induction parts generalizing location with
  | nil => exact List.prefix_refl location
  | cons part rest ih =>
    obtain ⟨noDot, noDots⟩ := not_or.mp (List.mem_cons.not.mp noDots)
    have further : location <+: stepInto location part := by
      unfold stepInto
      split
      · exact List.prefix_refl location
      · rw [if_neg (Ne.symm noDot)]
        exact List.prefix_append location [part]
    exact further.trans (ih noDots)

/-- A path without double dots that leads to something in a later state leads there in any earlier
state that has something there. -/
theorem Rooted.follow_of_find? (rooted : before.Rooted) {parts : List String} {last : Location}
    (noDots : ".." ∉ parts) (followed : after.follow location parts = .ok last)
    (vacant : after.find? last ≠ some .directory) (found : before.find? last = some entry) :
    before.follow location parts = .ok last := by
  induction parts generalizing location with
  | nil => exact followed
  | cons part rest ih =>
    obtain ⟨there, short, onwards⟩ := follow_cons_eq_ok.mp followed
    obtain ⟨noDot, noDots⟩ := not_or.mp (List.mem_cons.not.mp noDots)
    refine follow_cons_eq_ok.mpr ⟨?_, short, ih noDots onwards⟩
    -- What is left on the way is a directory later on, so it is not the end of the way.
    have onTheWay : location <+: last := by
      rw [eq_destination_of_follow followed]
      exact prefix_destination (List.mem_cons.not.mpr (not_or.mpr ⟨noDot, noDots⟩))
    obtain ⟨rest, rfl⟩ := onTheWay
    cases rest with
    | nil => exact absurd (by simpa using there) vacant
    | cons next rest => exact rooted.directory_of_prefix found

/-- What is one component further on stands in a directory. -/
theorem Rooted.dropLast_stepInto (rooted : tree.Rooted)
    (there : tree.find? location = some .directory) (part : String) :
    tree.find? (stepInto location part).dropLast = some .directory := by
  have above := rooted.parents there
  unfold stepInto
  split
  · exact above
  split
  · exact rooted.parents above
  · rw [List.dropLast_concat]
    exact there

theorem Rooted.dropLast_of_follow (rooted : tree.Rooted) {parts : List String} {last : Location}
    (above : tree.find? location.dropLast = some .directory)
    (followed : tree.follow location parts = .ok last) :
    tree.find? last.dropLast = some .directory := by
  induction parts generalizing location with
  | nil =>
    cases followed
    exact above
  | cons part rest ih =>
    obtain ⟨there, short, onwards⟩ := follow_cons_eq_ok.mp followed
    exact ih (rooted.dropLast_stepInto there part) onwards

/-- What a path leads to stands in a directory, even if nothing is there. -/
theorem Rooted.dropLast_of_locate (rooted : tree.Rooted) {path : Path}
    (located : tree.locate path = .ok location) :
    tree.find? location.dropLast = some .directory :=
  rooted.dropLast_of_follow (rooted.parents (rooted.start path)) (locate_eq_ok.mp located).2.2

/-! Making directories. -/

theorem makeAlong_adds (tree : FileTree) (root : String) (location : Location)
    (passed parts : List String) :
    AddsDirectories (visits location parts) tree
      (tree.makeAlong root location passed parts).1 := by
  fun_induction makeAlong tree root location passed parts with
  | case1 => exact .refl _ _
  | case2 => exact .refl _ _
  | case3 tree location passed part rest path next short found ih =>
    exact ih.mono (List.subset_cons_self _ _)
  | case4 => exact .refl _ _
  | case5 tree location passed part rest path next short missing ih =>
    refine ((addsDirectories_put missing).mono ?_).trans (ih.mono (List.subset_cons_self _ _))
    intro place isNext
    rw [List.mem_singleton.mp isNext]
    exact List.mem_cons_of_mem _ (mem_visits_start next rest)

theorem makeAlong_rooted {root : String} {passed parts : List String} (rooted : tree.Rooted)
    (there : tree.find? location = some .directory) :
    (tree.makeAlong root location passed parts).1.Rooted := by
  fun_induction makeAlong tree root location passed parts with
  | case1 => exact rooted
  | case2 => exact rooted
  | case3 tree location passed part rest path next short found ih => exact ih rooted found
  | case4 => exact rooted
  | case5 tree location passed part rest path next short missing ih =>
    have above := rooted.dropLast_stepInto there part
    exact ih (rooted.put (not_directory_of_missing missing) above .directory)
      (by simp [find?_put (ne_nil_of_missing missing)])

/-- Making a directory adds it and directories on the way to it, and nothing else. -/
theorem makeDirectories_adds (tree : FileTree) (path : Path) :
    AddsDirectories (tree.onTheWay path) tree (tree.makeDirectories path).1 := by
  unfold makeDirectories
  cases located : tree.locate path with
  | error fault =>
    cases fault with
    | missing =>
      simp only
      split
      · exact .refl _ _
      · exact makeAlong_adds tree path.root (tree.start path) [] path.parts
    | _ => exact .refl _ _
  | ok location =>
    simp only
    cases found : tree.find? location with
    | none =>
      refine (addsDirectories_put found).mono ?_
      intro place isLocation
      rw [List.mem_singleton.mp isLocation,
        eq_destination_of_follow (locate_eq_ok.mp located).2.2]
      exact mem_visits_destination _ _
    | some entry =>
      cases entry with
      | directory => exact .refl _ _
      | file content => exact .refl _ _

theorem makeDirectories_rooted (rooted : tree.Rooted) (path : Path) :
    (tree.makeDirectories path).1.Rooted := by
  unfold makeDirectories
  cases located : tree.locate path with
  | error fault =>
    cases fault with
    | missing =>
      simp only
      split
      · exact rooted
      · exact makeAlong_rooted rooted (rooted.start path)
    | _ => exact rooted
  | ok location =>
    simp only
    cases found : tree.find? location with
    | none =>
      exact rooted.put (not_directory_of_missing found) (rooted.dropLast_of_locate located) _
    | some entry =>
      cases entry with
      | directory => exact rooted
      | file content => exact rooted

/-- A directory that is there is not made again. -/
theorem makeDirectories_of_directory {path : Path} (there : tree.entryAt path = .ok .directory) :
    (tree.makeDirectories path).1 = tree := by
  obtain ⟨location, located, found⟩ := entryAt_eq_ok.mp there
  simp [makeDirectories, located, found]

end FileTree

end SchemaLowering
