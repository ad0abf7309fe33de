import SchemaLowering.Batch
import SchemaLowering.Proofs.SchemaFiles
import SchemaLowering.Proofs.Traversal

/-!
Batches, unit by unit. What a unit does to the files depends on its result: a generated one stores
the text of its source and leaves the other files alone, any other leaves all files alone. A run
that returns is a course of units, each of which begins with the files that the one before has left.
-/

namespace SchemaLowering

namespace Batch

variable {job : Job} {directory source output : Path} {tree after : FileTree} {result : UnitResult}
  {results : List UnitResult} {text : String}

theorem loadGraph_eq_ok {graph : Graph} :
    loadGraph tree source = .ok graph ↔
      ∃ document, readDocument tree source.text = .ok document ∧
        Graph.ofJson document = .ok graph := by
  unfold loadGraph
  split
  · next document read => simp [read, Traversal.mapError_eq_ok]
  · next error read => simp [read]
  · next failure notMalformed read => simp [read]

/-- The texts that a source is rendered as: the schema of the graph in its file, behind the comment
where one is wanted. -/
inductive Renders (job : Job) (tree : FileTree) (source : Path) : String → Prop where
  | plain {document : Json} {graph : Graph} {schema : String}
      (read : readDocument tree source.text = .ok document)
      (loaded : Graph.ofJson document = .ok graph)
      (lowered : graph.schema job.options = .ok schema)
      (uncommented : job.header = none ∨ job.options.comment.isTrue = false) :
      Renders job tree source schema
  | commented {document : Json} {graph : Graph} {schema line : String}
      {header : FileTree → Except FileError String}
      (read : readDocument tree source.text = .ok document)
      (loaded : Graph.ofJson document = .ok graph)
      (lowered : graph.schema job.options = .ok schema)
      (given : job.header = some header) (wanted : job.options.comment.isTrue = true)
      (made : header tree = .ok line) :
      Renders job tree source (line ++ "\n" ++ schema)

theorem withHeader_eq_ok {schema : String} :
    withHeader job tree schema = .ok text ↔
      (job.header = none ∨ job.options.comment.isTrue = false) ∧ schema = text ∨
        ∃ header line, job.header = some header ∧ job.options.comment.isTrue = true ∧
          header tree = .ok line ∧ line ++ "\n" ++ schema = text := by
  unfold withHeader
  cases job.header with
  | none => simp
  | some header =>
    cases job.options.comment.isTrue with
    | false => simp
    | true => simp [Traversal.map_eq_ok]

theorem render_of_schema {graph : Graph} {schema : String}
    (loaded : loadGraph tree source = .ok graph)
    (lowered : graph.schema job.options = .ok schema) :
    (render job tree source).2 = (withHeader job tree schema).mapError .file := by
  unfold Graph.schema at lowered
  unfold render
  cases failed : (graph.emit job.options).failure with
  | some error => simp [failed] at lowered
  | none =>
    simp only [failed, Except.ok.injEq] at lowered
    simp only [loaded, failed, lowered]

theorem schema_of_render (rendered : (render job tree source).2 = .ok text) :
    ∃ graph schema, loadGraph tree source = .ok graph ∧
      graph.schema job.options = .ok schema := by
  unfold render at rendered
  cases loaded : loadGraph tree source with
  | error failure => simp [loaded] at rendered
  | ok graph =>
    simp only [loaded] at rendered
    cases failed : (graph.emit job.options).failure with
    | some error => simp [failed] at rendered
    | none =>
      exact ⟨graph, String.join (graph.emit job.options).pieces, rfl, by
        simp only [Graph.schema, failed]⟩

theorem render_eq_ok_iff :
    (render job tree source).2 = .ok text ↔ Renders job tree source text := by
  constructor
  · intro rendered
    obtain ⟨graph, schema, loaded, lowered⟩ := schema_of_render rendered
    obtain ⟨document, read, ofDocument⟩ := loadGraph_eq_ok.mp loaded
    rw [render_of_schema loaded lowered, Traversal.mapError_eq_ok, withHeader_eq_ok] at rendered
    rcases rendered with ⟨uncommented, rfl⟩ | ⟨header, line, given, wanted, made, rfl⟩
    · exact .plain read ofDocument lowered uncommented
    · exact .commented read ofDocument lowered given wanted made
  · rintro (⟨read, ofDocument, lowered, uncommented⟩ |
      ⟨read, ofDocument, lowered, given, wanted, made⟩)
    · rw [render_of_schema (loadGraph_eq_ok.mpr ⟨_, read, ofDocument⟩) lowered,
        Traversal.mapError_eq_ok, withHeader_eq_ok]
      exact .inl ⟨uncommented, rfl⟩
    · rw [render_of_schema (loadGraph_eq_ok.mpr ⟨_, read, ofDocument⟩) lowered,
        Traversal.mapError_eq_ok, withHeader_eq_ok]
      exact .inr ⟨_, _, given, wanted, made, rfl⟩

/-- The ways in which a unit can end, with the files after it: with a result, or with a failure that
stops the batch. -/
inductive UnitOutcome (job : Job) (directory : Path) (tree : FileTree) (source : Path) :
    FileTree → Except Failure UnitResult → Prop where
  | undetected {failure : Failure} (detected : (detect tree source.text).2 = .error failure) :
      UnitOutcome job directory tree source tree (.error failure)
  | skipped (detected : (detect tree source.text).2 = .ok false) :
      UnitOutcome job directory tree source tree (.ok ⟨source, .skipped⟩)
  | unrendered {failure : Failure} (detected : (detect tree source.text).2 = .ok true)
      (rendered : (render job tree source).2 = .error failure)
      (contained : failure.isContained = true) :
      UnitOutcome job directory tree source tree
        (.ok ⟨source, .failed (outputPath job.options source directory) failure⟩)
  | stoppedRendering {failure : Failure} (detected : (detect tree source.text).2 = .ok true)
      (rendered : (render job tree source).2 = .error failure)
      (escapes : failure.isContained = false) :
      UnitOutcome job directory tree source tree (.error failure)
  | unwritten {text : String} {after : FileTree} {failure : Failure}
      (detected : (detect tree source.text).2 = .ok true)
      (rendered : (render job tree source).2 = .ok text)
      (written : store job tree (outputPath job.options source directory) text
        = (after, .error failure))
      (contained : failure.isContained = true) :
      UnitOutcome job directory tree source after
        (.ok ⟨source, .failed (outputPath job.options source directory) failure⟩)
  | stoppedWriting {text : String} {after : FileTree} {failure : Failure}
      (detected : (detect tree source.text).2 = .ok true)
      (rendered : (render job tree source).2 = .ok text)
      (written : store job tree (outputPath job.options source directory) text
        = (after, .error failure))
      (escapes : failure.isContained = false) :
      UnitOutcome job directory tree source after (.error failure)
  | generated {text : String} {after : FileTree}
      (detected : (detect tree source.text).2 = .ok true)
      (rendered : (render job tree source).2 = .ok text)
      (written : store job tree (outputPath job.options source directory) text = (after, .ok ())) :
      UnitOutcome job directory tree source after
        (.ok ⟨source, .generated (outputPath job.options source directory)⟩)

theorem unitOutcome_runUnit (job : Job) (directory : Path) (tree : FileTree) (source : Path) :
    UnitOutcome job directory tree source (runUnit job directory tree source).tree
      (runUnit job directory tree source).result := by
  unfold runUnit
  rcases detected : detect tree source.text with ⟨log, failure | _ | _⟩
  · exact .undetected (by rw [detected])
  · exact .skipped (by rw [detected])
  · have present : (detect tree source.text).2 = .ok true := by rw [detected]
    simp only
    rcases rendered : render job tree source with ⟨lines, failure | text⟩
    · have unrendered : (render job tree source).2 = .error failure := by rw [rendered]
      have produced : produce job tree source (outputPath job.options source directory)
          = ⟨tree, lines, .error failure⟩ := by simp only [produce, rendered]
      cases contained : failure.isContained with
      | true =>
        simp only [produced, contained, if_true]
        exact .unrendered present unrendered contained
      | false =>
        simp only [produced, contained]
        exact .stoppedRendering present unrendered contained
    · have renders : (render job tree source).2 = .ok text := by rw [rendered]
      rcases written : store job tree (outputPath job.options source directory) text
        with ⟨after, ending⟩
      have produced : produce job tree source (outputPath job.options source directory)
          = ⟨after, lines, ending⟩ := by simp only [produce, rendered, written]
      cases ending with
      | ok done =>
        simp only [produced]
        exact .generated present renders written
      | error failure =>
        cases contained : failure.isContained with
        | true =>
          simp only [produced, contained, if_true]
          exact .unwritten present renders written contained
        | false =>
          simp only [produced, contained]
          exact .stoppedWriting present renders written contained

/-- A text that was stored, or was not for another reason than the options, was written as they
say. -/
theorem writeOutcome_of_store {written : Except Failure Unit}
    (stored : store job tree output text = (after, written))
    (usable : ∀ misuse, written ≠ .error (.misuse misuse)) :
    tree.WriteOutcome output text (after, written) := by
  unfold store at stored
  cases ofJob : job.options.outputOptions with
  | error misuse =>
    simp only [ofJob] at stored
    cases stored
    exact absurd rfl (usable misuse)
  | ok options =>
    simp only [ofJob] at stored
    exact stored ▸ FileTree.writeOutcome_schema tree options output text

theorem ne_misuse_of_contained {failure : Failure} (contained : failure.isContained = true) :
    ∀ misuse, (.error failure : Except Failure Unit) ≠ .error (.misuse misuse) := by
  rintro misuse same
  cases same
  cases contained

theorem UnitOutcome.source_eq (outcome : UnitOutcome job directory tree source after (.ok result)) :
    result.source = source := by
  cases outcome with
  | skipped | unrendered | unwritten | generated => rfl

/-- The options want no file to be overwritten. -/
def Job.Refuses (job : Job) : Prop :=
  ∃ options, job.options.outputOptions = .ok options ∧ options.mode.isForce = false

/-- What a unit has done that stored the schema of its source. -/
structure Generates (job : Job) (tree : FileTree) (source output : Path) (text : String)
    (location : Location) (after : FileTree) : Prop where
  renders : Renders job tree source text
  stored : tree.Stored output text location after
  /-- Nothing was overwritten, unless the options want it. -/
  vacant : job.Refuses → tree.holds output = .ok false

theorem UnitOutcome.generates (rooted : tree.Rooted)
    (outcome : UnitOutcome job directory tree source after (.ok result))
    (generated : result.status = .generated output) :
    ∃ text location, Generates job tree source output text location after := by
  cases outcome with
  | skipped | unrendered | unwritten => cases generated
  | generated detected rendered written =>
    obtain rfl := UnitStatus.generated.inj generated
    obtain ⟨location, stored⟩ := (writeOutcome_of_store written (by simp)).stored_of_ok rooted
    refine ⟨_, location, render_eq_ok_iff.mp rendered, stored, ?_⟩
    rintro ⟨options, ofJob, refuses⟩
    simp only [store, ofJob] at written
    exact FileTree.holds_of_writeSchema refuses (by rw [written])

/-- A unit that generates nothing adds directories on the way to its output at most. -/
theorem UnitOutcome.adds (outcome : UnitOutcome job directory tree source after (.ok result))
    (idle : result.isGenerated = false) :
    FileTree.AddsDirectories
      (tree.onTheWay (outputPath job.options source directory).parent) tree after := by
  cases outcome with
  | skipped | unrendered => exact .refl _ _
  | unwritten detected rendered written contained =>
    exact (writeOutcome_of_store written (ne_misuse_of_contained contained)).adds
  | generated => cases idle

theorem UnitOutcome.rooted (rooted : tree.Rooted)
    (outcome : UnitOutcome job directory tree source after (.ok result)) : after.Rooted := by
  cases outcome with
  | skipped | unrendered => exact rooted
  | unwritten detected rendered written contained =>
    exact (writeOutcome_of_store written (ne_misuse_of_contained contained)).rooted_of_error rooted
  | generated detected rendered written =>
    obtain ⟨location, stored⟩ := (writeOutcome_of_store written (by simp)).stored_of_ok rooted
    exact stored.rooted

theorem UnitResult.isGenerated_eq_false_or (result : UnitResult) :
    result.isGenerated = false ∨ ∃ output, result.status = .generated output := by
  unfold UnitResult.isGenerated
  cases result.status with
  | generated output => exact .inr ⟨output, rfl⟩
  | skipped | failed => exact .inl rfl

theorem UnitOutcome.keeps (rooted : tree.Rooted)
    (outcome : UnitOutcome job directory tree source after (.ok result)) : tree.Keeps after := by
  rcases result.isGenerated_eq_false_or with idle | ⟨output, generated⟩
  · exact (outcome.adds idle).keeps
  · obtain ⟨text, location, generates⟩ := outcome.generates rooted generated
    exact generates.stored.keeps

/-- A unit ends in the one way that its outcome says. -/
theorem runUnit_of_outcome {ending : Except Failure UnitResult}
    (outcome : UnitOutcome job directory tree source after ending) :
    (runUnit job directory tree source).tree = after ∧
      (runUnit job directory tree source).result = ending := by
  have found := unitOutcome_runUnit job directory tree source
  generalize (runUnit job directory tree source).tree = reached at found
  generalize (runUnit job directory tree source).result = ended at found
  cases outcome with
  | undetected | skipped | unrendered | stoppedRendering | unwritten | stoppedWriting | generated =>
    cases found <;> simp_all

theorem outcome_of_runUnit (finished : (runUnit job directory tree source).result = .ok result) :
    UnitOutcome job directory tree source (runUnit job directory tree source).tree (.ok result) :=
  finished ▸ unitOutcome_runUnit job directory tree source

/-! Whole runs. -/

/-- A run of units that all have results, from the files before it to the files after it. -/
inductive Course (job : Job) (directory : Path) :
    FileTree → List UnitResult → FileTree → Prop where
  | done {tree : FileTree} : Course job directory tree [] tree
  | next {tree after : FileTree} {result : UnitResult} {rest : List UnitResult}
      (finished : (runUnit job directory tree result.source).result = .ok result)
      (onwards : Course job directory (runUnit job directory tree result.source).tree rest after) :
      Course job directory tree (result :: rest) after

/-- The files when the unit after the given results begins. -/
def moment (job : Job) (directory : Path) (tree : FileTree) (earlier : List UnitResult) :
    FileTree :=
  (runUnits job directory tree (earlier.map (·.source))).tree

theorem runUnits_cons {rest : List Path}
    (finished : (runUnit job directory tree source).result = .ok result) :
    (runUnits job directory tree (source :: rest)).tree
        = (runUnits job directory (runUnit job directory tree source).tree rest).tree ∧
      (runUnits job directory tree (source :: rest)).result
        = (runUnits job directory (runUnit job directory tree source).tree rest).result.map
            (result :: ·) := by
  simp only [runUnits, finished]
  exact ⟨trivial, trivial⟩

theorem course_of_runUnits {sources : List Path}
    (returned : (runUnits job directory tree sources).result = .ok results) :
    results.map (·.source) = sources ∧
      Course job directory tree results (runUnits job directory tree sources).tree := by
  induction sources generalizing tree results with
  | nil =>
    cases returned
    exact ⟨rfl, .done⟩
  | cons source rest ih =>
    cases finished : (runUnit job directory tree source).result with
    | error failure => simp [runUnits, finished] at returned
    | ok result =>
      rw [(runUnits_cons finished).2] at returned
      rw [(runUnits_cons finished).1]
      obtain ⟨others, returnedRest, rfl⟩ := Traversal.map_eq_ok.mp returned
      obtain ⟨sameSources, course⟩ := ih returnedRest
      obtain rfl := (outcome_of_runUnit finished).source_eq
      exact ⟨by rw [List.map_cons, sameSources], .next finished course⟩

theorem Course.runUnits (course : Course job directory tree results after) :
    (runUnits job directory tree (results.map (·.source))).result = .ok results ∧
      moment job directory tree results = after := by
  unfold moment
  induction course with
  | done => exact ⟨rfl, rfl⟩
  | next finished onwards ih =>
    obtain ⟨returned, ends⟩ := ih
    rw [List.map_cons, (runUnits_cons finished).1, (runUnits_cons finished).2, returned]
    exact ⟨rfl, ends⟩

theorem Course.step {middle : FileTree}
    (outcome : UnitOutcome job directory tree result.source middle (.ok result))
    (onwards : Course job directory middle results after) :
    Course job directory tree (result :: results) after := by
  obtain ⟨rfl, finished⟩ := runUnit_of_outcome outcome
  exact .next finished onwards

theorem Course.append {middle : FileTree} {earlier later : List UnitResult}
    (first : Course job directory tree earlier middle)
    (second : Course job directory middle later after) :
    Course job directory tree (earlier ++ later) after := by
  induction first with
  | done => exact second
  | next finished onwards ih => exact .next finished (ih second)

/-- Every result of a run is that of a unit that began with the files of its moment. -/
theorem Course.turn {earlier later : List UnitResult}
    (course : Course job directory tree (earlier ++ result :: later) after) :
    Course job directory tree earlier (moment job directory tree earlier) ∧
      (runUnit job directory (moment job directory tree earlier) result.source).result
        = .ok result ∧
      Course job directory
        (runUnit job directory (moment job directory tree earlier) result.source).tree later
        after := by
  suffices ∃ middle, Course job directory tree earlier middle ∧
      (runUnit job directory middle result.source).result = .ok result ∧
      Course job directory (runUnit job directory middle result.source).tree later after by
    obtain ⟨middle, first, finished, onwards⟩ := this
    rw [first.runUnits.2]
    exact ⟨first, finished, onwards⟩
  induction earlier generalizing tree with
  | nil =>
    cases course with
    | next finished onwards => exact ⟨tree, .done, finished, onwards⟩
  | cons head rest ih =>
    cases course with
    | next begun continued =>
      obtain ⟨middle, first, finished, onwards⟩ := ih continued
      exact ⟨middle, .next begun first, finished, onwards⟩

theorem Course.rooted (rooted : tree.Rooted) (course : Course job directory tree results after) :
    after.Rooted := by
  induction course with
  | done => exact rooted
  | next finished onwards ih => exact ih ((outcome_of_runUnit finished).rooted rooted)

theorem Course.keeps (rooted : tree.Rooted) (course : Course job directory tree results after) :
    tree.Keeps after := by
  induction course with
  | done => exact .refl _
  | next finished onwards ih =>
    have outcome := outcome_of_runUnit finished
    exact (outcome.keeps rooted).trans (ih (outcome.rooted rooted))

/-- A result says that its schema is where a path leads. -/
def UnitResult.GeneratedAt (result : UnitResult) (tree : FileTree) (location : Location) : Prop :=
  ∃ output, result.status = .generated output ∧ tree.locate output = .ok location

/-- Every file after a run was there before it, with the same content, or is the output of one of
the units. -/
theorem Course.origin (rooted : tree.Rooted) (course : Course job directory tree results after)
    {location : Location} {content : Content}
    (found : after.find? location = some (.file content)) :
    tree.find? location = some (.file content) ∨
      ∃ result ∈ results, result.GeneratedAt after location := by
  induction course with
  | done => exact .inl found
  | @next tree after result rest finished onwards ih =>
    have outcome := outcome_of_runUnit finished
    have rootedNext := outcome.rooted rooted
    rcases ih rootedNext found with there | ⟨other, member, generated⟩
    · rcases result.isGenerated_eq_false_or with idle | ⟨output, generated⟩
      · exact .inl ((outcome.adds idle).file_iff.mp there)
      · obtain ⟨text, stored, generates⟩ := outcome.generates rooted generated
        by_cases same : location = stored
        · subst same
          have located := (onwards.keeps rootedNext).locate generates.stored.located
          exact .inr ⟨result, List.mem_cons_self, output, generated, located⟩
        · exact .inl ((generates.stored.others same).mp there)
    · exact .inr ⟨other, List.mem_cons_of_mem _ member, generated⟩

/-- A unit whose output is at a location after the run has stored its text there. -/
theorem exists_generates (rooted : tree.Rooted)
    (finished : (runUnit job directory tree source).result = .ok result)
    (onwards : Course job directory (runUnit job directory tree source).tree results after)
    (generated : result.status = .generated output) :
    ∃ text location, Generates job tree source output text location
        (runUnit job directory tree source).tree ∧
      after.locate output = .ok location := by
  have outcome := outcome_of_runUnit finished
  obtain ⟨text, location, generates⟩ := outcome.generates rooted generated
  have kept := onwards.keeps (outcome.rooted rooted)
  exact ⟨text, location, generates, kept.locate generates.stored.located⟩

/-- Every output of the results has a path without double dots. -/
def PlainOutputs (results : List UnitResult) : Prop :=
  ∀ result ∈ results, ∀ output, result.status = .generated output → ".." ∉ output.parts

theorem Generates.missing {location : Location}
    (generates : Generates job tree source output text location after) (refuses : job.Refuses)
    (noDots : ".." ∉ output.parts) : tree.find? location = none :=
  generates.stored.missing noDots (generates.vacant refuses)

/-- A run that refuses to overwrite changes no file. -/
theorem Course.file_kept (rooted : tree.Rooted) (refuses : job.Refuses)
    (plain : PlainOutputs results) (course : Course job directory tree results after)
    {location : Location} {content : Content}
    (found : tree.find? location = some (.file content)) :
    after.find? location = some (.file content) := by
  induction course with
  | done => exact found
  | @next tree after result rest finished onwards ih =>
    obtain ⟨plainFirst, plainRest⟩ := List.forall_mem_cons.mp plain
    have outcome := outcome_of_runUnit finished
    refine ih (outcome.rooted rooted) plainRest ?_
    rcases result.isGenerated_eq_false_or with idle | ⟨output, generated⟩
    · exact (outcome.adds idle).file_iff.mpr found
    · obtain ⟨text, stored, generates⟩ := outcome.generates rooted generated
      have different : location ≠ stored := by
        rintro rfl
        rw [generates.missing refuses (plainFirst output generated)] at found
        cases found
      exact (generates.stored.others different).mpr found

/-- Two results are not both generated at one location. -/
def OutputsDiffer (tree : FileTree) (first second : UnitResult) : Prop :=
  ∀ output other, first.status = .generated output → second.status = .generated other →
    tree.locate output ≠ tree.locate other

/-- No unit of a run that refuses to overwrite has its output where an earlier one has. -/
theorem Course.outputs_differ (rooted : tree.Rooted) (refuses : job.Refuses)
    (plain : PlainOutputs results) (course : Course job directory tree results after) :
    results.Pairwise (OutputsDiffer after) := by
  induction course with
  | done => exact .nil
  | @next tree after result rest finished onwards ih =>
    obtain ⟨plainFirst, plainRest⟩ := List.forall_mem_cons.mp plain
    have rootedNext := (outcome_of_runUnit finished).rooted rooted
    refine .cons ?_ (ih rootedNext plainRest)
    intro other member output otherOutput generated alsoGenerated same
    obtain ⟨text, place, generates, atPlace⟩ := exists_generates rooted finished onwards generated
    obtain ⟨earlier, later, rfl⟩ := List.append_of_mem member
    obtain ⟨first, finishedOther, last⟩ := onwards.turn
    obtain ⟨otherText, otherPlace, otherGenerates, atOther⟩ :=
      exists_generates (first.rooted rootedNext) finishedOther last alsoGenerated
    -- The common place holds a file when the later unit begins.
    obtain rfl : place = otherPlace := Except.ok.inj (atPlace.symm.trans (same.trans atOther))
    obtain ⟨content, found⟩ := (first.keeps rootedNext).files generates.stored.content
    rw [otherGenerates.missing refuses (plainRest other member otherOutput alsoGenerated)] at found
    cases found

theorem run_eq_ok {pattern : String} :
    (run job tree pattern directory).result = .ok results ↔
      ∃ sources, tree.discover pattern = .ok sources ∧
        (runUnits job directory tree sources).result = .ok results := by
  unfold run
  cases tree.discover pattern with
  | error error => simp
  | ok sources =>
    cases returned : (runUnits job directory tree sources).result with
    | error failure => simp [returned]
    | ok found => simp [returned]

theorem run_tree {pattern : String} {sources : List Path}
    (discovered : tree.discover pattern = .ok sources) :
    (run job tree pattern directory).tree = (runUnits job directory tree sources).tree := by
  unfold run
  simp only [discovered]
  cases (runUnits job directory tree sources).result with
  | error failure => rfl
  | ok results => rfl

/-- A run that returns is a course with one unit for each of the files that were found. -/
theorem course_of_run {pattern : String}
    (returned : (run job tree pattern directory).result = .ok results) :
    tree.discover pattern = .ok (results.map (·.source)) ∧
      Course job directory tree results (run job tree pattern directory).tree := by
  obtain ⟨sources, discovered, finished⟩ := run_eq_ok.mp returned
  obtain ⟨rfl, course⟩ := course_of_runUnits finished
  rw [run_tree discovered]
  exact ⟨discovered, course⟩

theorem run_of_course {pattern : String}
    (discovered : tree.discover pattern = .ok (results.map (·.source)))
    (course : Course job directory tree results after) :
    (run job tree pattern directory).result = .ok results ∧
      (run job tree pattern directory).tree = after := by
  obtain ⟨returned, ends⟩ := course.runUnits
  exact ⟨run_eq_ok.mpr ⟨_, discovered, returned⟩, (run_tree discovered).trans ends⟩

/-! Two files of one name in two directories. -/

/-- The document of a graph with one scalar. -/
def scalarDocument (symbol : String) : Json :=
  .obj [(symbol, .obj [("type", .str "alias"), ("target", .obj [("type", .str "string")])])]

def scalarGraph (symbol : String) : Graph :=
  ⟨[(symbol, .alias (.primitive .string) none)]⟩

def isScalarDocument (symbol : String) : Except Failure Json → Bool
  | .ok (.obj
      [(name, .obj [("type", .str "alias"), ("target", .obj [("type", .str "string")])])]) =>
    name = symbol
  | _ => false

theorem eq_scalarDocument {symbol : String} {read : Except Failure Json}
    (scalar : isScalarDocument symbol read = true) : read = .ok (scalarDocument symbol) := by
  unfold isScalarDocument at scalar
  split at scalar
  · rw [of_decide_eq_true scalar, scalarDocument]
  · cases scalar

theorem ofJson_scalarDocument (symbol : String) :
    Graph.ofJson (scalarDocument symbol) = .ok (scalarGraph symbol) := by
  simp [Graph.ofJson, scalarDocument, scalarGraph, Loading.readEntries, Loading.readNode,
    Json.field, Json.field?, List.lookup_cons, NodeForm.ofJson?, Loading.readDocumentation, bind,
    Except.bind, pure, Except.pure]

theorem detect_scalar {symbol : String}
    (read : isScalarDocument symbol (readDocument tree source.text) = true) :
    (detect tree source.text).2 = .ok true := by
  simp [detect, eq_scalarDocument read, scalarDocument, hasDeclarable, Json.field, Json.field?,
    declarableKinds, Except.mapError]

theorem renders_scalar {symbol : String} (plain : job.header = none)
    (read : isScalarDocument symbol (readDocument tree source.text) = true)
    (lowered : (scalarGraph symbol).schema job.options = .ok text) :
    Renders job tree source text :=
  .plain (eq_scalarDocument read) (ofJson_scalarDocument symbol) lowered (.inl plain)

theorem outcome_scalar {symbol : String}
    (plain : job.header = none) (here : outputPath job.options source directory = output)
    (read : isScalarDocument symbol (readDocument tree source.text) = true)
    (lowered : (scalarGraph symbol).schema job.options = .ok text)
    (written : store job tree output text = (after, .ok ())) :
    UnitOutcome job directory tree source after (.ok ⟨source, .generated output⟩) := by
  subst here
  exact .generated (detect_scalar read) (render_eq_ok_iff.mpr (renders_scalar plain read lowered))
    written

def firstTwin : Path := ⟨"", ["a", "x.json"]⟩

def secondTwin : Path := ⟨"", ["b", "x.json"]⟩

/-- Where the schemas of both go. -/
def twinOutput : Path := ⟨"", ["out", "x.graphql"]⟩

def twins : FileTree :=
  ((((⟨[], []⟩ : FileTree).put ["a"] .directory).put ["a", "x.json"] (.file (.text
    "\x7b\"A\": \x7b\"type\": \"alias\", \"target\": \x7b\"type\": \"string\"\x7d\x7d\x7d"))).put
    ["b"] .directory).put ["b", "x.json"] (.file (.text
    "\x7b\"B\": \x7b\"type\": \"alias\", \"target\": \x7b\"type\": \"string\"\x7d\x7d\x7d"))

theorem rooted_twins : twins.Rooted := by
  refine .put (.put (.put (.put FileTree.rooted_empty ?_ ?_ _) ?_ ?_ _) ?_ ?_ _) ?_ ?_ _
  all_goals simp [FileTree.find?, FileTree.put, FileTree.setEntry, List.lookup_cons]

/-- The two files and a schema. -/
def twinsWith (schema : String) : FileTree :=
  (twins.put ["out"] .directory).put ["out", "x.graphql"] (.file (.text schema))

def careful : Job := ⟨{}, none⟩

def forced : Job := ⟨{ output := .options { mode := .force } }, none⟩

/-- What the steps of a run over the two files give. -/
structure TwinSteps (job : Job) : Prop where
  plain : job.header = none
  discovered : twins.discover "*/x.json" = .ok [firstTwin, secondTwin]
  firstOutput : outputPath job.options firstTwin ⟨"", ["out"]⟩ = twinOutput
  secondOutput : outputPath job.options secondTwin ⟨"", ["out"]⟩ = twinOutput
  readFirst : isScalarDocument "A" (readDocument twins firstTwin.text) = true
  readSecond :
    isScalarDocument "B" (readDocument (twinsWith "\nscalar A\n\n") secondTwin.text) = true
  loweredFirst : (scalarGraph "A").schema job.options = .ok "\nscalar A\n\n"
  loweredSecond : (scalarGraph "B").schema job.options = .ok "\nscalar B\n\n"
  storedFirst : (store job twins twinOutput "\nscalar A\n\n").1 = twinsWith "\nscalar A\n\n"
  finishedFirst : (store job twins twinOutput "\nscalar A\n\n").2.toOption = some ()

theorem twinSteps {job : Job} (sample : job = careful ∨ job = forced) : TwinSteps job := by
  have plain : job.header = none := by
    rcases sample with rfl | rfl
    · rfl
    · rfl
  refine ⟨plain, ?_, ?_, ?_, ?_, ?_, ?_, ?_, ?_, ?_⟩
  all_goals
    rcases sample with rfl | rfl
    all_goals decide +kernel

theorem TwinSteps.first (steps : TwinSteps job) :
    UnitOutcome job ⟨"", ["out"]⟩ twins firstTwin (twinsWith "\nscalar A\n\n")
      (.ok ⟨firstTwin, .generated twinOutput⟩) :=
  outcome_scalar steps.plain steps.firstOutput steps.readFirst steps.loweredFirst
    (Prod.ext steps.storedFirst (Traversal.eq_ok_of_toOption steps.finishedFirst))

theorem outcome_second_forced :
    UnitOutcome forced ⟨"", ["out"]⟩ (twinsWith "\nscalar A\n\n") secondTwin
      (twinsWith "\nscalar B\n\n") (.ok ⟨secondTwin, .generated twinOutput⟩) := by
  have steps := twinSteps (.inr rfl)
  exact outcome_scalar rfl steps.secondOutput steps.readSecond steps.loweredSecond
    (Prod.ext (by decide +kernel) (Traversal.eq_ok_of_toOption (by decide +kernel)))

theorem outcome_second_careful :
    UnitOutcome careful ⟨"", ["out"]⟩ (twinsWith "\nscalar A\n\n") secondTwin
      (twinsWith "\nscalar A\n\n")
      (.ok ⟨secondTwin, .failed twinOutput (.outputExists "out/x.graphql")⟩) := by
  have steps := twinSteps (.inl rfl)
  have there : (twinsWith "\nscalar A\n\n").holds twinOutput = .ok true := by decide +kernel
  have refused : store careful (twinsWith "\nscalar A\n\n") twinOutput "\nscalar B\n\n"
      = (twinsWith "\nscalar A\n\n", .error (.outputExists "out/x.graphql")) := by
    simp only [store, careful, Options.outputOptions, FileTree.writeSchema, FileTree.writeNew,
      FileTree.refuseExisting, OutputMode.isForce, Json.isTrue, there]
    rfl
  rw [← steps.secondOutput] at refused ⊢
  exact .unwritten (detect_scalar steps.readSecond)
    (render_eq_ok_iff.mpr (renders_scalar rfl steps.readSecond steps.loweredSecond)) refused rfl

def carefulResults : List UnitResult :=
  [⟨firstTwin, .generated twinOutput⟩,
    ⟨secondTwin, .failed twinOutput (.outputExists "out/x.graphql")⟩]

def forcedResults : List UnitResult :=
  [⟨firstTwin, .generated twinOutput⟩, ⟨secondTwin, .generated twinOutput⟩]

theorem run_careful_twins :
    (run careful twins "*/x.json" ⟨"", ["out"]⟩).result = .ok carefulResults ∧
      (run careful twins "*/x.json" ⟨"", ["out"]⟩).tree = twinsWith "\nscalar A\n\n" := by
  have steps := twinSteps (.inl rfl)
  exact run_of_course steps.discovered (.step steps.first (.step outcome_second_careful .done))

theorem plainOutputs_careful : PlainOutputs carefulResults := by
  intro result member output generated
  rcases List.mem_cons.mp member with rfl | member
  · obtain rfl := UnitStatus.generated.inj generated
    simp [twinOutput]
  · obtain rfl := List.mem_singleton.mp member
    cases generated

theorem refuses_careful : careful.Refuses :=
  ⟨_, rfl, rfl⟩

end Batch

end SchemaLowering
