import SchemaLowering.Proofs.BatchRuns
import SchemaLowering.Proofs.NestedShapes

/-!
What can stop a run: files that cannot be looked for, a document that cannot be searched, and what
goes beyond the means of the machine that the program runs on. Recursions are held against a depth
for which there is always room, and texts against the mark of a character that was lost in reading.
-/

namespace SchemaLowering

/-- A depth of recursion for which there is always room. How much more there is depends on the
program that starts a run; `depthLimit` and `Json.nestingLimit` are what is left for a run that is
started at the top. -/
def ampleDepth : Nat := 200

/-- What stands for a character of which one half is missing. No file can hold the half, so a schema
that it gets into cannot be written. -/
def lostMark : Char := Char.ofNat 0xFFFD

namespace Json

mutual

/-- How many lists and objects of a document lie inside each other at most. -/
def depth : Json → Nat
  | .arr items => itemsDepth items + 1
  | .obj members => membersDepth members + 1
  | _ => 0

def itemsDepth : List Json → Nat
  | [] => 0
  | item :: rest => max item.depth (itemsDepth rest)

def membersDepth : List (String × Json) → Nat
  | [] => 0
  | (_, value) :: rest => max value.depth (membersDepth rest)

end

mutual

/-- The texts in a document, keys included. -/
def texts : Json → List String
  | .str text => [text]
  | .arr items => itemsTexts items
  | .obj members => membersTexts members
  | _ => []

def itemsTexts : List Json → List String
  | [] => []
  | item :: rest => item.texts ++ itemsTexts rest

def membersTexts : List (String × Json) → List String
  | [] => []
  | (key, value) :: rest => key :: value.texts ++ membersTexts rest

end

end Json

/-- A shape of the graph has an expression that is nested too deeply for the depth that is always
there, or without end. -/
def Graph.NestsDeeply (options : Options) (graph : Graph) : Prop :=
  ∃ origin, ∃ node ∈ graph.entries.map (·.2) ++ graph.interior,
    Expression.lowerWithin (Context.ofGraph options graph) ampleDepth origin node = .error .endless

namespace FileTree

variable {tree : FileTree} {location : Location} {path : Path} {fault : FileFault}
  {pattern : String}

/-! Looking for files. -/

/-- What can keep a pattern from being matched. -/
inductive SearchHazard (tree : FileTree) (pattern : String) : Prop where
  /-- The directory where the matching starts cannot be asked for. -/
  | nullByte (parts : (Pattern.split pattern).2 ≠ [])
      (null : hasNull (Pattern.split pattern).1 = true)
  | manyParts (deep : ampleDepth < (Pattern.split pattern).2.length)
  /-- All directories are gone through, and they may be too deep. -/
  | deepTree {entry : Location × FileEntry} (all : "**" ∈ (Pattern.split pattern).2)
      (isEntry : entry ∈ tree.entries) (deep : ampleDepth < entry.1.length)
  /-- A match is too long for a path. -/
  | longMatch {text : String} (matched : text ∈ Pattern.matchTexts tree pattern)
      (long : tree.locate (Path.ofText text) = .error .tooLong)

/-- Whether a path leads to a file has an answer unless the path is too long. -/
theorem exists_isFile (short : tree.locate path ≠ .error .tooLong) :
    ∃ answer, tree.isFile path = .ok answer := by
  unfold isFile probe entryAt
  cases located : tree.locate path with
  | error fault =>
    rcases fault_of_locate located with rfl | rfl | rfl | rfl
    · exact ⟨_, rfl⟩
    · exact ⟨_, rfl⟩
    · exact ⟨_, rfl⟩
    · exact absurd located short
  | ok location =>
    simp only [entryIn, bind, Except.bind]
    cases tree.find? location with
    | none => exact ⟨_, rfl⟩
    | some entry => exact ⟨_, rfl⟩

theorem exists_filesAmong {paths : List Path}
    (short : ∀ path ∈ paths, tree.locate path ≠ .error .tooLong) :
    ∃ files, tree.filesAmong paths = .ok files := by
  induction paths with
  | nil => exact ⟨[], rfl⟩
  | cons path rest ih =>
    obtain ⟨shortFirst, shortRest⟩ := List.forall_mem_cons.mp short
    obtain ⟨kept, isFile⟩ := exists_isFile shortFirst
    obtain ⟨others, chosen⟩ := ih shortRest
    exact ⟨if kept then path :: others else others, by rw [filesAmong, isFile, chosen]; rfl⟩

theorem fault?_of_safe (safe : ¬ SearchHazard tree pattern) : Pattern.fault? pattern = none := by
  have few : ¬ depthLimit < (Pattern.split pattern).2.length := by
    intro many
    exact safe (.manyParts (Nat.lt_trans (by decide) many))
  have clean : ¬ ((Pattern.split pattern).2 ≠ [] ∧ hasNull (Pattern.split pattern).1 = true) := by
    rintro ⟨parts, null⟩
    exact safe (.nullByte parts null)
  unfold Pattern.fault?
  generalize Pattern.split pattern = halves at few clean
  simp only [if_neg few, if_neg clean]

/-- Without a hazard a pattern is matched. -/
theorem exists_discovered (safe : ¬ SearchHazard tree pattern) :
    ∃ sources, tree.discover pattern = .ok sources := by
  rw [discover, fault?_of_safe safe]
  refine exists_filesAmong ?_
  intro path isMatch
  obtain ⟨text, sorted, rfl⟩ := List.mem_map.mp isMatch
  exact fun long => safe (.longMatch (Text.mem_sortBy.mp sorted) long)

/-- A path that can be asked for, with few missing directories above it, can be written. -/
theorem writable_of_ample (clean : hasNull path.text = false)
    (near : ¬ ampleDepth < tree.missingLevels (tree.start path.parent) path.parent.parts) :
    tree.Writable path where
  clean := clean
  shallow := by
    intro deep
    exact near (Nat.lt_trans (by decide) deep)

end FileTree

namespace Batch

variable {job : Job} {directory source : Path} {tree : FileTree}

/-! Looking for something to declare. -/

/-- The kind that an entry of a document gives, if it is a shape at all. -/
def kindOf : Json → Json
  | .obj members => Json.field members "type"
  | _ => .null

/-- A shape that is looked at has a list or an object for its kind: none before it has one too, or
is declarable. -/
def MisusesKind (values : List Json) : Prop :=
  ∃ earlier value later, values = earlier ++ value :: later ∧ (kindOf value).isScalar = false ∧
    ∀ other ∈ earlier, (kindOf other).isScalar = true ∧
      ∀ kind ∈ declarableKinds, kindOf other ≠ .str kind

theorem misusesKind_cons {value : Json} {rest : List Json} :
    MisusesKind (value :: rest) ↔
      (kindOf value).isScalar = false ∨
        (kindOf value).isScalar = true ∧ (∀ kind ∈ declarableKinds, kindOf value ≠ .str kind) ∧
          MisusesKind rest := by
  constructor
  · rintro ⟨earlier, found, later, split, compound, before⟩
    cases earlier with
    | nil =>
      cases split
      exact .inl compound
    | cons first others =>
      cases split
      obtain ⟨⟨scalar, undeclarable⟩, before⟩ := List.forall_mem_cons.mp before
      exact .inr ⟨scalar, undeclarable, others, found, later, rfl, compound, before⟩
  · rintro (compound | ⟨scalar, undeclarable, earlier, found, later, rfl, compound, before⟩)
    · exact ⟨[], value, rest, rfl, compound, by simp⟩
    · exact ⟨value :: earlier, found, later, rfl, compound,
        List.forall_mem_cons.mpr ⟨⟨scalar, undeclarable⟩, before⟩⟩

/-- The search goes on behind an entry that is no declarable shape. -/
theorem misusesKind_cons_iff {value : Json} {rest : List Json}
    (scalar : (kindOf value).isScalar = true)
    (undeclarable : ∀ kind ∈ declarableKinds, kindOf value ≠ .str kind) :
    MisusesKind (value :: rest) ↔ MisusesKind rest := by
  rw [misusesKind_cons, scalar]
  constructor
  · rintro (impossible | ⟨_, _, misused⟩)
    · cases impossible
    · exact misused
  · intro misused
    exact .inr ⟨rfl, undeclarable, misused⟩

theorem hasDeclarable_eq_error_iff {values : List Json} :
    (∃ misuse, hasDeclarable values = .error misuse) ↔ MisusesKind values := by
  fun_induction hasDeclarable values with
  | case1 => simp [MisusesKind]
  | case2 members rest items found => simp [misusesKind_cons, kindOf, found, Json.isScalar]
  | case3 members rest inner found => simp [misusesKind_cons, kindOf, found, Json.isScalar]
  | case4 members rest kind found declarable =>
    rw [misusesKind_cons]
    simp only [kindOf, found, Json.isScalar]
    simpa using fun undeclarable => absurd rfl (undeclarable kind declarable)
  | case5 members rest kind found undeclarable ih =>
    rw [ih, misusesKind_cons_iff (by simp [kindOf, found, Json.isScalar])]
    rintro other member same
    rw [kindOf, found] at same
    cases same
    exact undeclarable member
  | case6 members rest notList notObject notText ih =>
    rw [ih, misusesKind_cons_iff]
    · cases found : Json.field members "type" with
      | arr items => exact absurd found (notList items)
      | obj inner => exact absurd found (notObject inner)
      | _ => simp [kindOf, found, Json.isScalar]
    · intro kind _ same
      exact notText kind same
  | case7 value rest notObject ih =>
    have shapeless : kindOf value = .null := by
      cases value with
      | obj members => exact absurd rfl (notObject members)
      | _ => rfl
    rw [ih, misusesKind_cons_iff]
    · simp [shapeless, Json.isScalar]
    · intro kind _ same
      rw [shapeless] at same
      cases same

/-- A file in which the search for something to declare goes wrong. -/
inductive Undetectable (tree : FileTree) (source : Path) : Prop where
  /-- The document is beyond the limits of the reader. -/
  | unreadable {content : Content} {text : String} {refusal : Json.Unreadable}
      (found : tree.readFile source.text = .ok content) (read : content.read = .ok text)
      (refused : Json.parse text = .error refusal) (beyond : ∀ error, refusal ≠ .malformed error)
  | kind {members : Json.Members} (read : readDocument tree source.text = .ok (.obj members))
      (misused : MisusesKind (members.map (·.2)))

theorem readDocument_eq_error {failure : Failure}
    (failed : readDocument tree source.text = .error failure) :
    (∃ error, tree.readFile source.text = .error error ∧ failure = .file error) ∨
      (∃ content error, tree.readFile source.text = .ok content ∧ content.read = .error error ∧
        failure = .decode error) ∨
      ∃ content text refusal, tree.readFile source.text = .ok content ∧
        content.read = .ok text ∧ Json.parse text = .error refusal ∧
        failure = .document refusal := by
  unfold readDocument at failed
  cases found : tree.readFile source.text with
  | error error =>
    rw [found] at failed
    cases failed
    exact .inl ⟨error, rfl, rfl⟩
  | ok content =>
    rw [found] at failed
    cases read : content.read with
    | error error =>
      simp only [Except.mapError, read, bind, Except.bind] at failed
      cases failed
      exact .inr (.inl ⟨content, error, rfl, read, rfl⟩)
    | ok text =>
      simp only [Except.mapError, read, bind, Except.bind] at failed
      cases parsed : Json.parse text with
      | ok document => simp [parsed] at failed
      | error refusal =>
        simp only [parsed] at failed
        cases failed
        exact .inr (.inr ⟨content, text, refusal, rfl, read, parsed, rfl⟩)

/-- The search in a file goes wrong exactly when the file is undetectable. -/
theorem detect_eq_error_iff (clean : hasNull source.text = false) :
    (∃ failure, (detect tree source.text).2 = .error failure) ↔ Undetectable tree source := by
  constructor
  · rintro ⟨failure, failed⟩
    unfold detect at failed
    cases read : readDocument tree source.text with
    | error own =>
      simp only [read] at failed
      split at failed
      · cases failed
      · next isDocument =>
        rcases readDocument_eq_error read with ⟨error, found, rfl⟩ |
          ⟨content, error, _, _, rfl⟩ | ⟨content, text, refusal, found, readText, refused, rfl⟩
        · exact absurd (FileTree.reported_of_readFile clean found) isDocument
        · exact absurd rfl isDocument
        · refine .unreadable found readText refused ?_
          rintro error rfl
          exact isDocument rfl
    | ok document =>
      cases document with
      | obj members =>
        simp only [read] at failed
        refine .kind read (hasDeclarable_eq_error_iff.mp ?_)
        cases searched : hasDeclarable (members.map (·.2)) with
        | error misuse => exact ⟨misuse, rfl⟩
        | ok found => simp [searched, Except.mapError] at failed
      | _ => simp [read] at failed
  · rintro (⟨found, readText, refused, beyond⟩ | ⟨read, misused⟩)
    · rename_i content text refusal
      have read : readDocument tree source.text = .error (.document refusal) := by
        simp [readDocument, found, readText, refused, Except.mapError, bind, Except.bind]
      refine ⟨.document refusal, ?_⟩
      unfold detect
      cases refusal with
      | malformed error => exact absurd rfl (beyond error)
      | _ => simp [read, Failure.isNoDocument]
    · obtain ⟨misuse, searched⟩ := hasDeclarable_eq_error_iff.mpr misused
      exact ⟨.misuse misuse, by simp [detect, read, searched, Except.mapError]⟩

theorem exists_document_of_detect (detected : (detect tree source.text).2 = .ok true) :
    ∃ document, readDocument tree source.text = .ok document := by
  unfold detect at detected
  cases read : readDocument tree source.text with
  | ok document => exact ⟨document, rfl⟩
  | error failure =>
    simp only [read] at detected
    split at detected
    · cases detected
    · cases detected

/-! Units that stop a batch. -/

/-- What can make a unit stop the batch. -/
inductive Hazard (job : Job) (directory : Path) (tree : FileTree) (source : Path) : Prop where
  | detection (undetectable : Undetectable tree source)
  | deepDocument {document : Json} (read : readDocument tree source.text = .ok document)
      (deep : ampleDepth < document.depth)
  | lostText {document : Json} {text : String}
      (read : readDocument tree source.text = .ok document) (inDocument : text ∈ document.texts)
      (lost : lostMark ∈ text.toList)
  /-- A shape is written in terms of itself. -/
  | endless {graph : Graph} (detected : (detect tree source.text).2 = .ok true)
      (loaded : loadGraph tree source = .ok graph)
      (lowered : graph.schema job.options = .error .endless)
  | deepShape {graph : Graph} (detected : (detect tree source.text).2 = .ok true)
      (loaded : loadGraph tree source = .ok graph) (deep : graph.NestsDeeply job.options)
  /-- The comment before the schema cannot be made, for a reason of its own. -/
  | header {header : FileTree → Except FileError String} {error : FileError}
      (detected : (detect tree source.text).2 = .ok true) (given : job.header = some header)
      (wanted : job.options.comment.isTrue = true) (failed : header tree = .error error)
      (unreported : ¬ error.fault.Reported)
  /-- There is a text for a path that cannot be asked for. -/
  | nullOutput {text : String} (detected : (detect tree source.text).2 = .ok true)
      (renders : Renders job tree source text)
      (null : hasNull (outputPath job.options source directory).text = true)
  /-- There is a text, and above its path are many missing directories. -/
  | deepOutput {text : String} (detected : (detect tree source.text).2 = .ok true)
      (renders : Renders job tree source text)
      (deep : let above := (outputPath job.options source directory).parent
        ampleDepth < tree.missingLevels (tree.start above) above.parts)

/-- Without a hazard an output for which there is a text can be written. -/
theorem writable_of_safe {text : String} (safe : ¬ Hazard job directory tree source)
    (detected : (detect tree source.text).2 = .ok true) (renders : Renders job tree source text) :
    tree.Writable (outputPath job.options source directory) := by
  refine FileTree.writable_of_ample ?_ ?_
  · rw [← Bool.not_eq_true]
    exact fun null => safe (.nullOutput detected renders null)
  · exact fun deep => safe (.deepOutput detected renders deep)

end Batch

end SchemaLowering
