import SchemaLowering.Proofs.BatchRuns

/-!
The files of a whole run. All that is new or different after a run that returns is the output of a
unit, and holds the text of the last unit that had its output there. Where nothing is overwritten,
that is the only one, and what was there before is as it was. Trees have no links, so two paths that
lead to one file lead to one location.
-/

namespace SchemaLowering

namespace Batch

variable {job : Job} {directory : Path} {tree : FileTree} {pattern : String}
  {results : List UnitResult}

/-- The files of a run that returns. What is new or different is where the output of a generated
result leads, and no file vanishes; a unit that is skipped or fails leaves every file alone, its
temporary one included; and where nothing is to be overwritten, no old file changes and no two
generated results lead to one location. In a tree with links this would be said of the locations
that remain when all links are followed. -/
theorem run_files_framed (rooted : tree.Rooted)
    (returned : (run job tree pattern directory).result = .ok results) :
    let after := (run job tree pattern directory).tree
    (∀ location content, after.find? location = some (.file content) →
      tree.find? location = some (.file content) ∨
        ∃ result ∈ results, result.GeneratedAt after location) ∧
    (∀ location content, tree.find? location = some (.file content) →
      ∃ newer, after.find? location = some (.file newer)) ∧
    (∀ earlier result later, results = earlier ++ result :: later → result.isGenerated = false →
      let before := moment job directory tree earlier
      ∀ location content,
        (runUnit job directory before result.source).tree.find? location = some (.file content) ↔
          before.find? location = some (.file content)) ∧
    (job.Refuses → PlainOutputs results →
      (∀ location content, tree.find? location = some (.file content) →
        after.find? location = some (.file content)) ∧
      results.Pairwise (OutputsDiffer after)) := by
  intro after
  obtain ⟨_, course⟩ := course_of_run returned
  refine ⟨?_, ?_, ?_, ?_⟩
  · intro location content found
    exact course.origin rooted found
  · intro location content found
    exact (course.keeps rooted).files found
  · intro earlier result later split idle before location content
    rw [split] at course
    obtain ⟨_, finished, _⟩ := course.turn
    exact ((outcome_of_runUnit finished).adds idle).file_iff
  · intro refuses plain
    refine ⟨?_, course.outputs_differ rooted refuses plain⟩
    intro location content found
    exact course.file_kept rooted refuses plain found

theorem run_files_framed_twins :
    let after := (run careful twins "*/x.json" ⟨"", ["out"]⟩).tree
    (run careful twins "*/x.json" ⟨"", ["out"]⟩).result = .ok carefulResults ∧
      carefulResults.Pairwise (OutputsDiffer after) ∧
      ∀ location content, after.find? location = some (.file content) →
        twins.find? location = some (.file content) ∨
          ∃ result ∈ carefulResults, result.GeneratedAt after location := by
  obtain ⟨returned, _⟩ := run_careful_twins
  obtain ⟨origin, _, _, refusing⟩ := run_files_framed rooted_twins returned
  exact ⟨returned, (refusing refuses_careful plainOutputs_careful).2, origin⟩

/-- The output of a generated result holds the text of its source after the run, as rendered when
its turn came, unless a later result has its output there too. In a run that overwrites nothing
there is no such later result. Trees have no links: outputs are compared by their locations. -/
theorem generated_output_holds (rooted : tree.Rooted)
    (returned : (run job tree pattern directory).result = .ok results)
    {earlier later : List UnitResult} {source output : Path}
    (split : results = earlier ++ ⟨source, .generated output⟩ :: later) :
    let after := (run job tree pattern directory).tree
    ∃ text location, Renders job (moment job directory tree earlier) source text ∧
      after.locate output = .ok location ∧
      ((∀ result ∈ later, ¬ result.GeneratedAt after location) →
        after.entryAt output = .ok (.file (.text text))) ∧
      (job.Refuses → PlainOutputs results →
        after.entryAt output = .ok (.file (.text text))) := by
  intro after
  obtain ⟨_, course⟩ := course_of_run returned
  have whole := course
  rw [split] at course
  obtain ⟨first, finished, onwards⟩ := course.turn
  have rootedThen := first.rooted rooted
  obtain ⟨text, location, generates, located⟩ := exists_generates rootedThen finished onwards rfl
  have rootedNext := (outcome_of_runUnit finished).rooted rootedThen
  have kept : (∀ result ∈ later, ¬ result.GeneratedAt after location) →
      after.entryAt output = .ok (.file (.text text)) := by
    intro alone
    obtain ⟨newer, found⟩ := (onwards.keeps rootedNext).files generates.stored.content
    rcases onwards.origin rootedNext found with there | ⟨result, member, generated⟩
    · have content := generates.stored.content
      rw [there] at content
      cases content
      exact FileTree.entryAt_eq_ok.mpr ⟨location, located, found⟩
    · exact absurd generated (alone result member)
  refine ⟨text, location, generates.renders, located, kept, ?_⟩
  intro refuses plain
  refine kept ?_
  rintro result member ⟨other, generated, locatedToo⟩
  have apart := whole.outputs_differ rooted refuses plain
  rw [split, List.pairwise_append] at apart
  have differs := (List.pairwise_cons.mp apart.2.1).1 result member output other rfl generated
  exact differs (located.trans locatedToo.symm)

theorem generated_output_holds_twins :
    ∃ text, Renders careful twins firstTwin text ∧
      (run careful twins "*/x.json" ⟨"", ["out"]⟩).tree.entryAt twinOutput
        = .ok (.file (.text text)) := by
  obtain ⟨returned, _⟩ := run_careful_twins
  have split : carefulResults = [] ++ ⟨firstTwin, .generated twinOutput⟩
      :: carefulResults.tail := rfl
  obtain ⟨text, _, renders, _, _, holds⟩ := generated_output_holds rooted_twins returned split
  exact ⟨text, renders, holds refuses_careful plainOutputs_careful⟩

/-- Where files are overwritten, the output of the first of two files with one name is lost. -/
theorem forced_output_overwritten :
    (run forced twins "*/x.json" ⟨"", ["out"]⟩).result = .ok forcedResults ∧
      Renders forced twins firstTwin "\nscalar A\n\n" ∧
      (run forced twins "*/x.json" ⟨"", ["out"]⟩).tree.entryAt twinOutput
        = .ok (.file (.text "\nscalar B\n\n")) := by
  have steps := twinSteps (.inr rfl)
  have course : Course forced ⟨"", ["out"]⟩ twins forcedResults (twinsWith "\nscalar B\n\n") :=
    .step steps.first (.step outcome_second_forced .done)
  obtain ⟨returned, ends⟩ := run_of_course steps.discovered course
  refine ⟨returned, renders_scalar rfl steps.readFirst steps.loweredFirst, ?_⟩
  rw [ends]
  decide +kernel

end Batch

end SchemaLowering
