import SchemaLowering.Proofs.BatchIsolation
import SchemaLowering.Proofs.DocumentGrammar
import SchemaLowering.Proofs.UnionMembers

/-!
Files that a batch passes over. The look at a file before it is loaded asks for one symbol of a
declarable kind. In a document that has a schema every symbol is of such a kind, since only aliases
are left out of a schema and only aliases, interfaces and enums can be written; so nothing that has
a schema is passed over, except for the empty document.
-/

namespace SchemaLowering

/-- The word of a form is the only value that names it. -/
theorem NodeForm.eq_word_of_ofJson? {value : Json} {form : NodeForm}
    (named : ofJson? value = some form) : value = .str form.word := by
  cases value with
  | str word =>
    rw [ofJson?_str] at named
    have same := List.find?_some named
    rw [beq_iff_eq.mp same]
  | _ => cases named

namespace Loading

open Traversal

/-- A shape is read from an object whose `type` is the word for its kind. -/
theorem type_of_readNode {place : Place} {value : Json} {node : Node}
    (read : readNode place value = .ok node) :
    ∃ members, value = .obj members ∧ Json.field members "type" = .str node.kind := by
  cases value with
  | obj members =>
    refine ⟨members, rfl, ?_⟩
    rw [readNode] at read
    cases named : NodeForm.ofJson? (Json.field members "type") with
    | none => simp [named] at read
    | some form =>
      rw [NodeForm.eq_word_of_ofJson? named]
      simp only [named] at read
      cases form with
      | primitive kind =>
        cases read
        rfl
      | literal | reference | enum =>
        obtain ⟨_, _, read⟩ := bind_eq_ok.mp read
        cases read
        rfl
      | array | union | «alias» | object =>
        obtain ⟨_, _, read⟩ := bind_eq_ok.mp read
        obtain ⟨_, _, read⟩ := bind_eq_ok.mp read
        cases read
        rfl
      | interface =>
        obtain ⟨_, _, read⟩ := bind_eq_ok.mp read
        obtain ⟨_, _, read⟩ := bind_eq_ok.mp read
        obtain ⟨_, _, read⟩ := bind_eq_ok.mp read
        obtain ⟨_, _, read⟩ := bind_eq_ok.mp read
        cases read
        rfl
      | property | method =>
        obtain ⟨_, _, read⟩ := bind_eq_ok.mp read
        cases read
        rfl
  | _ =>
    rw [readNode] at read
    · cases read
    · rintro _ ⟨⟩

/-- Every symbol of a document is an entry of its graph, with the shape that is read for it. -/
theorem exists_entry_of_readEntries {members : List (String × Json)}
    {entries : List (String × Node)} (read : readEntries members = .ok entries)
    {member : String × Json} (isMember : member ∈ members) :
    ∃ node, (member.1, node) ∈ entries ∧ readNode [.key member.1] member.2 = .ok node := by
  induction members generalizing entries with
  | nil => cases isMember
  | cons first rest ih =>
    obtain ⟨node, readFirst, read⟩ := bind_eq_ok.mp read
    obtain ⟨others, readRest, read⟩ := bind_eq_ok.mp read
    cases read
    rcases List.mem_cons.mp isMember with rfl | isMember
    · exact ⟨node, List.mem_cons_self, readFirst⟩
    · obtain ⟨node, isEntry, readNode⟩ := ih readRest isMember
      exact ⟨node, List.mem_cons_of_mem _ isEntry, readNode⟩

end Loading

namespace Batch

variable {job : Job} {directory source : Path} {tree : FileTree} {members : Json.Members}
  {graph : Graph} {options : Options} {schema : String}

/-- Every symbol of a document that has a schema is of a declarable kind. -/
theorem kind_declarable (loaded : Graph.ofJson (.obj members) = .ok graph)
    (lowered : graph.schema options = .ok schema) {member : String × Json}
    (isMember : member ∈ members) : ∃ kind ∈ declarableKinds, kindOf member.2 = .str kind := by
  obtain ⟨entries, read, same⟩ := Traversal.bind_eq_ok.mp loaded
  cases same
  obtain ⟨groups, writes, _⟩ := Graph.schema_eq_ok_iff.mp lowered
  obtain ⟨node, isEntry, readNode⟩ := Loading.exists_entry_of_readEntries read isMember
  obtain ⟨fields, isObject, typed⟩ := Loading.type_of_readNode readNode
  refine ⟨node.kind, ?_, by rw [isObject, kindOf, typed]⟩
  rcases writes.entry_declarable isEntry with
    ⟨target, documentation, rfl⟩ | ⟨declaration, rfl⟩ | ⟨values, rfl⟩
  all_goals simp [declarableKinds, Node.kind]

/-- The search ends at a symbol of a declarable kind. -/
theorem hasDeclarable_cons {value : Json} {rest : List Json} {kind : String}
    (typed : kindOf value = .str kind) (declarable : kind ∈ declarableKinds) :
    hasDeclarable (value :: rest) = .ok true := by
  cases value with
  | obj members =>
    have typed : Json.field members "type" = .str kind := typed
    simp only [hasDeclarable, typed, declarable, if_true]
  | _ => cases typed

/-- A document that has a schema is found in its file, at its first symbol. -/
theorem detect_of_schema {file : String} (read : readDocument tree file = .ok (.obj members))
    (filled : members ≠ []) (loaded : Graph.ofJson (.obj members) = .ok graph)
    (lowered : graph.schema options = .ok schema) : detect tree file = ([], .ok true) := by
  cases members with
  | nil => exact absurd rfl filled
  | cons first rest =>
    obtain ⟨kind, declarable, typed⟩ := kind_declarable loaded lowered List.mem_cons_self
    simp only [detect, read, List.map_cons, hasDeclarable_cons typed declarable, Except.mapError]

/-- A file that holds no document with symbols. -/
inductive HoldsNothing (tree : FileTree) (source : Path) : Prop where
  | unreadable {error : FileError} (failed : tree.readFile source.text = .error error)
      (reported : error.fault.code?.isSome = true)
  | undecodable {content : Content} {error : Text.DecodeError}
      (found : tree.readFile source.text = .ok content) (failed : content.read = .error error)
  | malformed {content : Content} {text : String} {error : Json.SyntaxError}
      (found : tree.readFile source.text = .ok content) (read : content.read = .ok text)
      (failed : Json.parse text = .error (.malformed error))
  | notObject {document : Json} (read : readDocument tree source.text = .ok document)
      (other : ∀ members, document ≠ .obj members)
  | empty (read : readDocument tree source.text = .ok (.obj []))

/-- A file with symbols, for which no batch renders a schema. -/
def Unrenderable (tree : FileTree) (source : Path) : Prop :=
  ∃ members, readDocument tree source.text = .ok (.obj members) ∧ members ≠ [] ∧
    ∀ job, ∃ failure, (render job tree source).2 = .error failure

theorem detect_of_holdsNothing (nothing : HoldsNothing tree source) :
    (detect tree source.text).2 = .ok false := by
  cases nothing with
  | @unreadable error failed reported =>
    have read : readDocument tree source.text = .error (.file error) := by
      simp [readDocument, failed, Except.mapError, bind, Except.bind]
    simp [detect, read, Failure.isNoDocument, reported]
  | @undecodable content error found failed =>
    have read : readDocument tree source.text = .error (.decode error) := by
      simp [readDocument, found, failed, Except.mapError, bind, Except.bind]
    simp [detect, read, Failure.isNoDocument]
  | @malformed content text error found readText failed =>
    have read : readDocument tree source.text = .error (.document (.malformed error)) := by
      simp [readDocument, found, readText, failed, Except.mapError, bind, Except.bind]
    simp [detect, read, Failure.isNoDocument]
  | @notObject document read other =>
    cases document with
    | obj members => exact absurd rfl (other members)
    | _ => simp [detect, read]
  | empty read => simp [detect, read, hasDeclarable, Except.mapError]

/-- What a failure to read a file means for the look at it. -/
theorem holdsNothing_of_failure {failure : Failure}
    (failed : readDocument tree source.text = .error failure)
    (missed : (detect tree source.text).2 = .ok false) : HoldsNothing tree source := by
  have noDocument : failure.isNoDocument = true := by
    cases known : failure.isNoDocument with
    | true => rfl
    | false => simp [detect, failed, known] at missed
  rcases readDocument_eq_error failed with ⟨error, unread, rfl⟩ |
    ⟨content, error, found, undecoded, rfl⟩ | ⟨content, text, refusal, found, read, refused, rfl⟩
  · exact .unreadable unread noDocument
  · exact .undecodable found undecoded
  · cases refusal with
    | malformed error => exact .malformed found read refused
    | _ => cases noDocument

/-- A file in which nothing is found holds nothing, or nothing that could be rendered. -/
theorem unrenderable_of_detect (missed : (detect tree source.text).2 = .ok false) :
    HoldsNothing tree source ∨ Unrenderable tree source := by
  cases read : readDocument tree source.text with
  | error failure => exact .inl (holdsNothing_of_failure read missed)
  | ok document =>
    by_cases isObject : ∃ members, document = .obj members
    · obtain ⟨members, rfl⟩ := isObject
      by_cases filled : members = []
      · subst filled
        exact .inl (.empty read)
      -- What some batch renders would have been found.
      refine .inr ⟨members, read, filled, fun job => ?_⟩
      cases rendered : (render job tree source).2 with
      | error failure => exact ⟨failure, rfl⟩
      | ok text =>
        obtain ⟨graph, schema, loaded, lowered⟩ := schema_of_render rendered
        obtain ⟨document, sameRead, loaded⟩ := loadGraph_eq_ok.mp loaded
        cases read.symm.trans sameRead
        rw [detect_of_schema read filled loaded lowered] at missed
        cases missed
    · exact .inl (.notObject read fun members same => isObject ⟨members, same⟩)

theorem UnitOutcome.missed {after : FileTree} {result : UnitResult}
    (outcome : UnitOutcome job directory tree source after (.ok result))
    (skipped : result.status = .skipped) : (detect tree source.text).2 = .ok false := by
  cases outcome with
  | skipped missed => exact missed
  | unrendered | unwritten | generated => cases skipped

/-- No file with a schema is passed over: the look at a document with symbols finds it if there are
options under which it has a schema. So a unit is skipped only if its file holds nothing, or nothing
that can be rendered; and a file that holds nothing is always skipped. -/
theorem renderable_not_skipped :
    (∀ tree file members graph options schema,
      readDocument tree file = .ok (.obj members) → members ≠ [] →
      Graph.ofJson (.obj members) = .ok graph → graph.schema options = .ok schema →
      detect tree file = ([], .ok true)) ∧
    (∀ job directory tree source result,
      (runUnit job directory tree source).result = .ok result → result.status = .skipped →
      HoldsNothing tree source ∨ Unrenderable tree source) ∧
    ∀ job directory tree source, HoldsNothing tree source →
      (runUnit job directory tree source).result = .ok ⟨source, .skipped⟩ := by
  refine ⟨?_, ?_, ?_⟩
  · intro tree file members graph options schema read filled loaded lowered
    exact detect_of_schema read filled loaded lowered
  · intro job directory tree source result finished skipped
    exact unrenderable_of_detect ((outcome_of_runUnit finished).missed skipped)
  · intro job directory tree source nothing
    exact (runUnit_of_outcome (.skipped (detect_of_holdsNothing nothing))).2

/-- A file with a symbol that is of no declarable kind. -/
def loneText : FileTree :=
  (⟨[], []⟩ : FileTree).put ["t.json"] (.file (.text "\x7b\"T\": \x7b\"type\": \"string\"\x7d\x7d"))

theorem renderable_not_skipped_twins :
    detect twins firstTwin.text = ([], .ok true) ∧
      (runUnit careful ⟨"", ["out"]⟩ loneText ⟨"", ["t.json"]⟩).result
        = .ok ⟨⟨"", ["t.json"]⟩, .skipped⟩ ∧
      (HoldsNothing loneText ⟨"", ["t.json"]⟩ ∨ Unrenderable loneText ⟨"", ["t.json"]⟩) := by
  obtain ⟨found, skippedOnly, _⟩ := renderable_not_skipped
  have steps := twinSteps (.inl rfl)
  have missed : (detect loneText (Path.text ⟨"", ["t.json"]⟩)).2 = .ok false :=
    Traversal.eq_ok_of_toOption (by decide +kernel)
  have skipped := (runUnit_of_outcome (.skipped missed) : _ ∧
    (runUnit careful ⟨"", ["out"]⟩ loneText ⟨"", ["t.json"]⟩).result = _).2
  refine ⟨?_, skipped, skippedOnly _ _ _ _ _ skipped rfl⟩
  exact found _ _ _ _ _ _ (eq_scalarDocument steps.readFirst) (by simp)
    (ofJson_scalarDocument "A") steps.loweredFirst

end Batch

end SchemaLowering
