import SchemaLowering.Proofs.FailureReports
import SchemaLowering.Proofs.RunHazards

/-!
What a unit can do to the others. With options of the right kinds a run comes to its end unless a
hazard gets in its way, when the files are looked for or when a unit has its turn. A unit that is
skipped or fails leaves the files to the others as they are.
-/

namespace SchemaLowering

theorem Options.WellTyped.outputOptions {options : Options} (wellTyped : options.WellTyped) :
    ∃ output, options.outputOptions = .ok output := by
  obtain ⟨mode, validate, atomic, _, isOutput⟩ := wellTyped.output
  rw [Options.outputOptions, isOutput]
  exact ⟨_, rfl⟩

namespace Batch

variable {job : Job} {directory source : Path} {tree after : FileTree} {pattern : String}
  {result : UnitResult} {results : List UnitResult}

/-! Units that stop a batch. -/

theorem render_eq_error {failure : Failure} (failed : (render job tree source).2 = .error failure) :
    loadGraph tree source = .error failure ∨
      (∃ graph error, loadGraph tree source = .ok graph ∧
        graph.schema job.options = .error error ∧ failure = .lowering error) ∨
      ∃ header error, job.header = some header ∧ job.options.comment.isTrue = true ∧
        header tree = .error error ∧ failure = .file error := by
  unfold render at failed
  cases loaded : loadGraph tree source with
  | error own =>
    simp only [loaded] at failed
    cases failed
    exact .inl rfl
  | ok graph =>
    simp only [loaded] at failed
    cases lowered : (graph.emit job.options).failure with
    | some error =>
      simp only [lowered] at failed
      cases failed
      exact .inr (.inl ⟨graph, error, rfl, by simp only [Graph.schema, lowered], rfl⟩)
    | none =>
      simp only [lowered, withHeader] at failed
      cases given : job.header with
      | none => simp [given, Except.mapError] at failed
      | some header =>
        simp only [given] at failed
        cases wanted : job.options.comment.isTrue with
        | false => simp [wanted, Except.mapError] at failed
        | true =>
          cases made : header tree with
          | ok line => simp [wanted, made, Except.map, Except.mapError] at failed
          | error error =>
            simp only [wanted, made, if_true, Except.map, Except.mapError] at failed
            cases failed
            exact .inr (.inr ⟨header, error, rfl, rfl, made, rfl⟩)

/-- A document that can be read fails to be a graph by itself only. -/
theorem contained_of_loadGraph {document : Json} {failure : Failure}
    (read : readDocument tree source.text = .ok document)
    (failed : loadGraph tree source = .error failure) : failure.isContained = true := by
  unfold loadGraph at failed
  simp only [read] at failed
  cases loaded : Graph.ofJson document with
  | ok graph => simp [loaded, Except.mapError] at failed
  | error error =>
    simp only [loaded, Except.mapError] at failed
    cases failed
    rfl

theorem contained_of_lowering {graph : Graph} {error : LoweringError}
    (wellTyped : job.options.WellTyped) (failed : graph.schema job.options = .error error)
    (finite : error ≠ .endless) : (Failure.lowering error).isContained = true := by
  cases error with
  | misuse found => exact absurd wellTyped (Graph.holdsOf_schema failed)
  | endless => exact absurd rfl finite
  | _ => rfl

theorem contained_of_render {failure : Failure} (wellTyped : job.options.WellTyped)
    (safe : ¬ Hazard job directory tree source)
    (detected : (detect tree source.text).2 = .ok true)
    (failed : (render job tree source).2 = .error failure) : failure.isContained = true := by
  obtain ⟨document, read⟩ := exists_document_of_detect detected
  rcases render_eq_error failed with unloaded | ⟨graph, error, loaded, unlowered, rfl⟩ |
    ⟨header, error, given, wanted, unmade, rfl⟩
  · exact contained_of_loadGraph read unloaded
  · refine contained_of_lowering wellTyped unlowered ?_
    rintro rfl
    exact safe (.endless detected loaded unlowered)
  · by_contra unreported
    exact safe (.header detected given wanted unmade unreported)

theorem contained_of_store {text : String} {failure : Failure} (wellTyped : job.options.WellTyped)
    (safe : ¬ Hazard job directory tree source)
    (detected : (detect tree source.text).2 = .ok true)
    (rendered : (render job tree source).2 = .ok text)
    (failed : store job tree (outputPath job.options source directory) text
      = (after, .error failure)) : failure.isContained = true := by
  obtain ⟨output, ofJob⟩ := wellTyped.outputOptions
  have outcome := tree.writeOutcome_schema output (outputPath job.options source directory) text
  simp only [store, ofJob] at failed
  rw [failed] at outcome
  exact outcome.contained (writable_of_safe safe detected (render_eq_ok_iff.mp rendered))

/-- A unit out of which nothing can stop the batch has a result. -/
theorem exists_result_of_safe (wellTyped : job.options.WellTyped)
    (clean : hasNull source.text = false) (safe : ¬ Hazard job directory tree source) :
    ∃ result, (runUnit job directory tree source).result = .ok result := by
  cases finished : (runUnit job directory tree source).result with
  | ok result => exact ⟨result, rfl⟩
  | error failure =>
    have outcome := unitOutcome_runUnit job directory tree source
    rw [finished] at outcome
    generalize (runUnit job directory tree source).tree = reached at outcome
    cases outcome with
    | undetected detected =>
      exact absurd (.detection ((detect_eq_error_iff clean).mp ⟨failure, detected⟩)) safe
    | stoppedRendering detected rendered escapes =>
      rw [contained_of_render wellTyped safe detected rendered] at escapes
      cases escapes
    | stoppedWriting detected rendered written escapes =>
      rw [contained_of_store wellTyped safe detected rendered written] at escapes
      cases escapes

/-- A batch out of which no unit can stop it returns. -/
theorem exists_results_of_safe {sources : List Path} (wellTyped : job.options.WellTyped)
    (clean : ∀ source ∈ sources, hasNull source.text = false)
    (safe : ∀ earlier source later, sources = earlier ++ source :: later →
      ¬ Hazard job directory (runUnits job directory tree earlier).tree source) :
    ∃ results, (runUnits job directory tree sources).result = .ok results := by
  induction sources generalizing tree with
  | nil => exact ⟨[], rfl⟩
  | cons source rest ih =>
    obtain ⟨cleanFirst, cleanRest⟩ := List.forall_mem_cons.mp clean
    have safeFirst : ¬ Hazard job directory tree source := safe [] source rest rfl
    obtain ⟨result, finished⟩ := exists_result_of_safe wellTyped cleanFirst safeFirst
    have safeRest : ∀ earlier other later, rest = earlier ++ other :: later →
        ¬ Hazard job directory (runUnits job directory
          (runUnit job directory tree source).tree earlier).tree other := by
      rintro earlier other later rfl
      rw [← (runUnits_cons finished).1]
      exact safe (source :: earlier) other later rfl
    obtain ⟨others, returned⟩ := ih cleanRest safeRest
    exact ⟨result :: others, by rw [(runUnits_cons finished).2, returned]; rfl⟩

theorem UnitOutcome.detected (outcome : UnitOutcome job directory tree source after (.ok result)) :
    ∃ found, (detect tree source.text).2 = .ok found := by
  cases outcome with
  | skipped detected | unrendered detected | unwritten detected | generated detected =>
    exact ⟨_, detected⟩

/-- A batch with a file that cannot be searched when its turn comes does not return. -/
theorem not_undetectable_of_returned {earlier later : List Path}
    (clean : hasNull source.text = false)
    (returned : (runUnits job directory tree (earlier ++ source :: later)).result = .ok results) :
    ¬ Undetectable (runUnits job directory tree earlier).tree source := by
  obtain ⟨sameSources, course⟩ := course_of_runUnits returned
  obtain ⟨before, behind, rfl, rfl, ofRest⟩ := List.map_eq_append_iff.mp sameSources
  obtain ⟨own, after, rfl, rfl, _⟩ := List.map_eq_cons_iff.mp ofRest
  obtain ⟨_, finished, _⟩ := course.turn
  intro undetectable
  obtain ⟨failure, failed⟩ := (detect_eq_error_iff clean).mpr undetectable
  obtain ⟨found, detected⟩ := (outcome_of_runUnit finished).detected
  rw [moment, failed] at detected
  cases detected

/-- A unit without a schema leaves the files exactly as they are, unless it is the writing that
fails and its directory had to be made. -/
theorem UnitOutcome.unchanged (outcome : UnitOutcome job directory tree source after (.ok result))
    (idle : result.isGenerated = false)
    (early : result.status = .skipped ∨
      (∃ failure, (render job tree source).2 = .error failure) ∨
      tree.entryAt (outputPath job.options source directory).parent = .ok .directory) :
    after = tree := by
  cases outcome with
  | skipped | unrendered => rfl
  | generated => cases idle
  | unwritten detected rendered written contained =>
    rcases early with skipped | ⟨failure, failed⟩ | there
    · cases skipped
    · rw [rendered] at failed
      cases failed
    · exact (writeOutcome_of_store written (ne_misuse_of_contained contained)).unchanged there

theorem not_nestsDeeply_scalarGraph (symbol : String) (options : Options) :
    ¬ (scalarGraph symbol).NestsDeeply options := by
  rintro ⟨origin, node, isNode, deep⟩
  have two : node = .alias (.primitive .string) none ∨ node = .primitive .string := by
    simpa [scalarGraph, Graph.interior, Node.interior, Node.parts, Node.shapes_eq] using isNode
  rcases two with rfl | rfl
  · cases deep
  · cases deep

theorem not_hazard_scalar {symbol schema : String} {output : Path} (plain : job.header = none)
    (clean : hasNull source.text = false)
    (read : isScalarDocument symbol (readDocument tree source.text) = true)
    (whole : ∀ text ∈ (scalarDocument symbol).texts, lostMark ∉ text.toList)
    (lowered : (scalarGraph symbol).schema job.options = .ok schema)
    (here : outputPath job.options source directory = output)
    (outputClean : hasNull output.text = false)
    (near : ¬ ampleDepth < tree.missingLevels (tree.start output.parent) output.parent.parts) :
    ¬ Hazard job directory tree source := by
  subst here
  have isScalar := eq_scalarDocument read
  have scalar := loadGraph_eq_ok.mpr ⟨_, isScalar, ofJson_scalarDocument symbol⟩
  intro hazard
  cases hazard with
  | detection undetectable =>
    obtain ⟨failure, failed⟩ := (detect_eq_error_iff clean).mpr undetectable
    rw [detect_scalar read] at failed
    cases failed
  | deepDocument found deep =>
    obtain rfl := Except.ok.inj (isScalar.symm.trans found)
    simp [scalarDocument, Json.depth, Json.membersDepth, ampleDepth] at deep
  | lostText found inDocument lost =>
    obtain rfl := Except.ok.inj (isScalar.symm.trans found)
    exact whole _ inDocument lost
  | endless detected loaded endless =>
    obtain rfl := Except.ok.inj (scalar.symm.trans loaded)
    rw [lowered] at endless
    cases endless
  | deepShape detected loaded deep =>
    obtain rfl := Except.ok.inj (scalar.symm.trans loaded)
    exact not_nestsDeeply_scalarGraph symbol job.options deep
  | header detected given wanted failed unreported =>
    rw [plain] at given
    cases given
  | nullOutput detected renders null =>
    rw [outputClean] at null
    cases null
  | deepOutput detected renders deep => exact near deep

theorem moment_second_twin :
    moment careful ⟨"", ["out"]⟩ twins [⟨firstTwin, .generated twinOutput⟩]
      = twinsWith "\nscalar A\n\n" :=
  (Course.step (twinSteps (.inl rfl)).first .done).runUnits.2

theorem not_hazard_twins {earlier later : List Path}
    (split : [firstTwin, secondTwin] = earlier ++ source :: later) :
    ¬ Hazard careful ⟨"", ["out"]⟩ (runUnits careful ⟨"", ["out"]⟩ twins earlier).tree source := by
  have steps := twinSteps (.inl rfl)
  have clean : hasNull twinOutput.text = false ∧ hasNull firstTwin.text = false ∧
      hasNull secondTwin.text = false := by
    decide +kernel
  have whole : (∀ text ∈ (scalarDocument "A").texts, lostMark ∉ text.toList) ∧
      ∀ text ∈ (scalarDocument "B").texts, lostMark ∉ text.toList := by
    decide +kernel
  have near : ∀ tree ∈ [twins, twinsWith "\nscalar A\n\n"], ¬ ampleDepth <
      tree.missingLevels (tree.start twinOutput.parent) twinOutput.parent.parts := by
    decide +kernel
  rcases earlier with _ | ⟨first, _ | ⟨second, rest⟩⟩
  · cases split
    exact not_hazard_scalar rfl clean.2.1 steps.readFirst whole.1 steps.loweredFirst
      steps.firstOutput clean.1 (near twins (by simp))
  · cases split
    have begun := moment_second_twin
    rw [moment, List.map_singleton] at begun
    rw [begun]
    exact not_hazard_scalar rfl clean.2.2 steps.readSecond whole.2 steps.loweredSecond
      steps.secondOutput clean.1 (near _ (by simp))
  · simp at split

theorem not_searchHazard_twins : ¬ twins.SearchHazard "*/x.json" := by
  have parts : (Pattern.split "*/x.json").2 = ["*", "x.json"] ∧
      hasNull (Pattern.split "*/x.json").1 = false := by
    decide +kernel
  have short : ∀ text ∈ Pattern.matchTexts twins "*/x.json",
      (twins.locate (Path.ofText text)).toOption.isSome = true := by
    decide +kernel
  intro hazard
  cases hazard with
  | nullByte _ null =>
    rw [parts.2] at null
    cases null
  | manyParts deep => simp [parts.1, ampleDepth] at deep
  | deepTree all => simp [parts.1] at all
  | longMatch matched long =>
    have located := short _ matched
    rw [long] at located
    cases located

/-- Units and their batch. With options of the right kinds a pattern is matched unless there is a
hazard for that, and a batch whose pattern is not matched fails for that reason. Once the files are
known, the batch returns unless a unit meets a hazard, and never does if a file cannot be searched;
one that returns has a result for each file, in their order. A unit without a schema adds
directories on the way to its output at most, and if it adds none, then the others do the same
without it. -/
theorem units_isolated (wellTyped : job.options.WellTyped) (tree : FileTree) (pattern : String)
    (directory : Path) :
    (¬ tree.SearchHazard pattern → ∃ sources, tree.discover pattern = .ok sources) ∧
    (∀ error, tree.discover pattern = .error error →
      (run job tree pattern directory).result = .error (.file error)) ∧
    ∀ sources, tree.discover pattern = .ok sources →
      ((∀ earlier source later, sources = earlier ++ source :: later →
          ¬ Hazard job directory (runUnits job directory tree earlier).tree source) →
        ∃ results, (run job tree pattern directory).result = .ok results) ∧
      (∀ earlier source later, sources = earlier ++ source :: later →
        Undetectable (runUnits job directory tree earlier).tree source →
          ∀ results, (run job tree pattern directory).result ≠ .ok results) ∧
      ∀ results, (run job tree pattern directory).result = .ok results →
        results.map (·.source) = sources ∧
        ∀ earlier result later, results = earlier ++ result :: later → result.isGenerated = false →
          let before := moment job directory tree earlier
          let output := outputPath job.options result.source directory
          FileTree.AddsDirectories (before.onTheWay output.parent) before
            (runUnit job directory before result.source).tree ∧
          (result.status = .skipped ∨
              (∃ failure, (render job before result.source).2 = .error failure) ∨
              before.entryAt output.parent = .ok .directory →
            (runUnits job directory tree ((earlier ++ later).map (·.source))).result
                = .ok (earlier ++ later) ∧
              (runUnits job directory tree ((earlier ++ later).map (·.source))).tree
                = (run job tree pattern directory).tree) := by
  refine ⟨FileTree.exists_discovered, ?_, ?_⟩
  · intro error failed
    simp only [run, failed]
  intro sources discovered
  have clean := FileTree.hasNull_of_discover discovered
  refine ⟨?_, ?_, ?_⟩
  · intro safe
    obtain ⟨results, returned⟩ := exists_results_of_safe wellTyped clean safe
    exact ⟨results, run_eq_ok.mpr ⟨sources, discovered, returned⟩⟩
  · rintro earlier source later rfl undetectable results returned
    obtain ⟨others, rediscovered, finished⟩ := run_eq_ok.mp returned
    obtain rfl := Except.ok.inj (discovered.symm.trans rediscovered)
    exact not_undetectable_of_returned (clean source (by simp)) finished undetectable
  · intro results returned
    obtain ⟨rediscovered, course⟩ := course_of_run returned
    refine ⟨Except.ok.inj (rediscovered.symm.trans discovered), ?_⟩
    rintro earlier result later rfl idle before output
    obtain ⟨first, finished, onwards⟩ := course.turn
    have outcome := outcome_of_runUnit finished
    refine ⟨outcome.adds idle, ?_⟩
    intro early
    rw [outcome.unchanged idle early] at onwards
    exact (first.append onwards).runUnits

theorem units_isolated_twins :
    (∃ results, (run careful twins "*/x.json" ⟨"", ["out"]⟩).result = .ok results ∧
      results.map (·.source) = [firstTwin, secondTwin]) ∧
      (runUnits careful ⟨"", ["out"]⟩ twins [firstTwin]).tree
        = (run careful twins "*/x.json" ⟨"", ["out"]⟩).tree := by
  have steps := twinSteps (.inl rfl)
  obtain ⟨found, _, isolated⟩ :=
    @units_isolated careful Options.wellTyped_default twins "*/x.json" ⟨"", ["out"]⟩
  obtain ⟨sources, discovered⟩ := found not_searchHazard_twins
  obtain rfl := Except.ok.inj (steps.discovered.symm.trans discovered)
  obtain ⟨returns, _, isolated⟩ := isolated _ discovered
  constructor
  · obtain ⟨results, returned⟩ := returns fun _ _ _ => not_hazard_twins
    exact ⟨results, returned, (isolated results returned).1⟩
  · have there : (moment careful ⟨"", ["out"]⟩ twins [⟨firstTwin, .generated twinOutput⟩]).entryAt
        (outputPath careful.options secondTwin ⟨"", ["out"]⟩).parent = .ok .directory := by
      rw [moment_second_twin, steps.secondOutput]
      decide +kernel
    obtain ⟨_, alone⟩ := (isolated carefulResults run_careful_twins.1).2
      [⟨firstTwin, .generated twinOutput⟩] _ [] rfl rfl
    exact (alone (.inr (.inr there))).2

/-- A file whose shape has a list for its kind takes the next file with it. -/
def listKind : FileTree :=
  ((⟨[], []⟩ : FileTree).put ["a.json"] (.file (.text
    "\x7b\"A\": \x7b\"type\": []\x7d\x7d"))).put ["b.json"] (.file (.text
    "\x7b\"B\": \x7b\"type\": \"alias\", \"target\": \x7b\"type\": \"string\"\x7d\x7d\x7d"))

theorem list_kind_stops_run :
    careful.options.WellTyped ∧
      listKind.discover "*.json" = .ok [⟨"", ["a.json"]⟩, ⟨"", ["b.json"]⟩] ∧
      (run careful listKind "*.json" ⟨"", ["out"]⟩).result.isOk = false :=
  ⟨Options.wellTyped_default, by decide +kernel⟩

end Batch

end SchemaLowering
