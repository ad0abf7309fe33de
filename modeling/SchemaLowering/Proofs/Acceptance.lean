import SchemaLowering.Proofs.Framing
import SchemaLowering.Sdl.Validation

/-!
Schemas pass the checks that are made before they are written. The first block of a declared symbol
begins with a word that begins a definition, and every block opens as many braces as it closes, so
only a schema without any declaration is refused.
-/

namespace SchemaLowering

namespace Text

/-- A text with as many opening as closing braces. -/
def Balanced (text : String) : Prop :=
  text.toList.count '\x7b' = text.toList.count '\x7d'

theorem balanced_of_lacks {text : String} (opening : Lacks '\x7b' text)
    (closing : Lacks '\x7d' text) : Balanced text := by
  rw [Balanced, List.count_eq_zero.mpr opening, List.count_eq_zero.mpr closing]

theorem Balanced.append {first second : String} (balancedFirst : Balanced first)
    (balancedSecond : Balanced second) : Balanced (first ++ second) := by
  unfold Balanced at *
  rw [String.toList_append, List.count_append, List.count_append]
  omega

theorem balanced_join {texts : List String} (each : ∀ text ∈ texts, Balanced text) :
    Balanced (String.join texts) := by
  induction texts with
  | nil => rfl
  | cons text texts ih =>
    obtain ⟨own, others⟩ := List.forall_mem_cons.mp each
    rw [String.join_cons]
    exact own.append (ih others)

/-- A frame adds one brace of each kind. -/
theorem balanced_framed {header : String} {lines : List String} (balancedHeader : Balanced header)
    (each : ∀ line ∈ lines, Balanced line) : Balanced (framed header lines) := by
  have body : Balanced (String.join (lines.map fun line => "  " ++ line ++ "\n")) := by
    apply balanced_join
    intro text isText
    obtain ⟨line, isLine, rfl⟩ := List.mem_map.mp isText
    have indentation : Balanced "  " := rfl
    have lineBreak : Balanced "\n" := rfl
    exact (indentation.append (each line isLine)).append lineBreak
  have opened : (" \x7b\n".toList.count '\x7b', " \x7b\n".toList.count '\x7d') = (1, 0) := by decide
  have closed : ("\x7d".toList.count '\x7b', "\x7d".toList.count '\x7d') = (0, 1) := by decide
  unfold Balanced at *
  simp only [framed, String.toList_append, List.count_append]
  simp only [Prod.mk.injEq] at opened closed
  omega

end Text

namespace Block

theorem balanced_render {block : Block} (opening : block.Lacks '\x7b')
    (closing : block.Lacks '\x7d') : Text.Balanced block.render := by
  cases block with
  | scalar name =>
    have keyword : Text.Balanced "scalar " := rfl
    exact keyword.append (Text.balanced_of_lacks opening closing)
  | union name members =>
    have keyword : Text.Balanced "union " := rfl
    have equals : Text.Balanced " = " := rfl
    have names : Text.Balanced (" | ".intercalate members) :=
      Text.balanced_of_lacks (Text.lacks_intercalate (by decide) opening.2)
        (Text.lacks_intercalate (by decide) closing.2)
    have own := Text.balanced_of_lacks opening.1 closing.1
    exact ((keyword.append own).append equals).append names
  | braced header body =>
    apply Text.balanced_framed (Text.balanced_of_lacks opening.1 closing.1)
    intro text isText
    obtain ⟨line, isLine, rfl⟩ := List.mem_map.mp isText
    exact Text.balanced_of_lacks (opening.2 line isLine) (closing.2 line isLine)

/-- A block that begins with a word that begins a definition, and with a blank after it. -/
def IsDefinition (block : Block) : Prop :=
  ∃ word ∈ Validation.definitionWords, ∃ rest, block.render = word ++ " " ++ rest

theorem isDefinition_declaration (keyword : Keyword) (name decoration : String)
    (body : List Line) : (braced (.declaration keyword name decoration) body).IsDefinition := by
  have known : keyword.text ∈ Validation.definitionWords := by cases keyword <;> decide
  refine ⟨keyword.text, known, ?_⟩
  simp only [render, framed, Header.text, String.append_assoc]
  exact ⟨_, rfl⟩

theorem isDefinition_schema (body : List Line) : (braced .schema body).IsDefinition := by
  refine ⟨"schema", by decide, ?_⟩
  have opened : " \x7b\n" = " " ++ "\x7b\n" := rfl
  simp only [render, framed, Header.text, opened, String.append_assoc]
  exact ⟨_, rfl⟩

end Block

namespace Emission

variable {ctx : Context}

theorem isDefinition_ownHeader (declaration : Interface) (symbol : String) (body : List Line) :
    (Block.braced (ownHeader ctx declaration symbol) body).IsDefinition := by
  unfold ownHeader
  split
  · exact Block.isDefinition_schema body
  split
  · exact Block.isDefinition_declaration _ _ _ body
  split
  · exact Block.isDefinition_declaration _ _ _ body
  · exact Block.isDefinition_declaration _ _ _ body

theorem isDefinition_union (name : String) (members : List String) :
    (Block.union name members).IsDefinition := by
  refine ⟨"union", by decide, ?_⟩
  have keyword : "union " = "union" ++ " " := rfl
  simp only [Block.render, keyword, String.append_assoc]
  exact ⟨_, rfl⟩

/-- The first block of a declared symbol is a definition. -/
theorem isDefinition_of_group {entry : String × Node} {blocks : List Block}
    (written : group ctx entry = .ok blocks) :
    ∃ first others, blocks = first :: others ∧ first.IsDefinition := by
  obtain ⟨symbol, node⟩ := entry
  obtain ⟨after, declares⟩ := declares_of_group written
  cases declares with
  | scalar kind documentation =>
    exact ⟨_, _, rfl, "scalar", by decide, ctx.name symbol, rfl⟩
  | synonym other documentation => exact ⟨_, _, rfl, isDefinition_union _ _⟩
  | union documentation declares =>
    refine ⟨_, _, rfl, ?_⟩
    cases declares with
    | texts | enums => exact Block.isDefinition_declaration _ _ _ _
    | interfaces leading found => exact isDefinition_union _ _
  | enum values => exact ⟨_, _, rfl, Block.isDefinition_declaration _ _ _ _⟩
  | interface shown rendered attached => exact ⟨_, _, rfl, isDefinition_ownHeader _ _ _⟩

end Emission

namespace Validation

theorem beginsDefinition_append {word : String} (known : word ∈ definitionWords) (rest : String) :
    beginsDefinition (word ++ " " ++ rest).toList = true := by
  rw [beginsDefinition, List.any_eq_true]
  refine ⟨word, known, ?_⟩
  have blank : Text.isWord ' ' = false := by decide +kernel
  simp [beginsWith, blank]

theorem hasDefinition_of_begins {line : List Char} (begins : beginsDefinition line = true) :
    hasDefinition true line = true := by
  cases line with
  | nil => simpa [hasDefinition] using begins
  | cons c rest => simp [hasDefinition, begins]

theorem check_eq_ok_iff {text : String} :
    check text = .ok () ↔ hasDefinition true text.toList = true ∧ Text.Balanced text := by
  unfold check Text.Balanced
  by_cases defined : hasDefinition true text.toList
  · simp [defined]
  · simp [defined]

end Validation

namespace Graph

variable {groups : List (List Block)}

theorem balanced_textOf (filled : ∀ blocks ∈ groups, blocks ≠ [])
    (opening : ∀ block ∈ groups.flatten, block.Lacks '\x7b')
    (closing : ∀ block ∈ groups.flatten, block.Lacks '\x7d') : Text.Balanced (textOf groups) := by
  have lineBreak : Text.Balanced "\n" := rfl
  have blankLine : Text.Balanced "\n\n" := rfl
  rw [textOf_eq_append filled]
  apply lineBreak.append (Text.balanced_join _)
  intro text isText
  obtain ⟨block, isBlock, rfl⟩ := List.mem_map.mp isText
  exact (block.balanced_render (opening block isBlock) (closing block isBlock)).append blankLine

theorem hasDefinition_textOf (filled : ∀ blocks ∈ groups, blocks ≠ []) {first : Block}
    {others : List Block} (flattened : groups.flatten = first :: others)
    (definition : first.IsDefinition) :
    Validation.hasDefinition true (textOf groups).toList = true := by
  obtain ⟨word, known, rest, rendered⟩ := definition
  have starts : (textOf groups).toList = '\n' :: (word ++ " " ++ (rest ++ "\n\n"
      ++ String.join (others.map (·.render ++ "\n\n")))).toList := by
    rw [textOf_eq_append filled, flattened, List.map_cons, String.join_cons, rendered]
    simp
  have begins := Validation.beginsDefinition_append known
    (rest ++ "\n\n" ++ String.join (others.map (·.render ++ "\n\n")))
  rw [starts, Validation.hasDefinition, decide_eq_true rfl,
    Validation.hasDefinition_of_begins begins, Bool.or_true]

/-- Schemas from texts without braces are refused only if they are empty: the checks accept such a
schema if and only if some symbol is declared. -/
theorem schema_accepted_iff {options : Options} {graph : Graph} {text : String}
    (opening : graph.Avoids options '\x7b') (closing : graph.Avoids options '\x7d')
    (finished : graph.schema options = .ok text) :
    ∃ ctx tables, Context.prepare options graph = .ok (ctx, tables) ∧
      (Validation.check text = .ok () ↔ ctx.emitted ≠ []) := by
  obtain ⟨groups, writes, rfl⟩ := schema_eq_ok_iff.mp finished
  refine ⟨_, _, writes.prepare, ?_⟩
  have same := (Traversal.mapM_eq_ok.mp writes.written).length_eq
  rw [← List.length_pos_iff, same, List.length_pos_iff, Validation.check_eq_ok_iff]
  have definitions : ∀ blocks ∈ groups, ∃ first others,
      blocks = first :: others ∧ first.IsDefinition := by
    intro blocks isGroup
    obtain ⟨entry, _, written⟩ := Traversal.exists_of_mem_results writes.written isGroup
    exact Emission.isDefinition_of_group written
  have filled : ∀ blocks ∈ groups, blocks ≠ [] := by
    intro blocks isGroup
    obtain ⟨first, others, rfl, _⟩ := definitions blocks isGroup
    exact List.cons_ne_nil first others
  cases groups with
  | nil =>
    have nothing : Validation.hasDefinition true (textOf []).toList = false := by decide
    simp [nothing]
  | cons blocks rest =>
    obtain ⟨first, others, rfl, definition⟩ := definitions blocks List.mem_cons_self
    refine iff_of_true ⟨?_, ?_⟩ (List.cons_ne_nil _ _)
    · exact hasDefinition_textOf filled List.flatten_cons definition
    · exact balanced_textOf filled (writes.lacks (by decide) opening)
        (writes.lacks (by decide) closing)

/-- A graph of an alias that is no declaration of its own. -/
def keyOnly : Graph :=
  ⟨[("Key", .alias (.primitive .string) (some [⟨"graphql", "ID"⟩]))]⟩

theorem schema_accepted_iff_gallery :
    (gallery.Avoids {} '\x7b' ∧ gallery.Avoids {} '\x7d' ∧
      ∃ text, gallery.schema {} = .ok text ∧ Validation.check text = .ok ()) ∧
    (keyOnly.Avoids {} '\x7b' ∧ keyOnly.Avoids {} '\x7d' ∧
      ∃ text, keyOnly.schema {} = .ok text ∧ Validation.check text ≠ .ok ()) := by
  constructor
  · have opening : gallery.Avoids {} '\x7b' := by decide
    have closing : gallery.Avoids {} '\x7d' := by decide
    obtain ⟨groups, writes⟩ := emit_failure_eq_none_iff.mp emit_gallery
    have finished := writes.schema
    obtain ⟨ctx, tables, prepared, accepted⟩ := schema_accepted_iff opening closing finished
    rw [writes.prepare] at prepared
    cases prepared
    exact ⟨opening, closing, _, finished, accepted.mpr (by decide)⟩
  · have opening : keyOnly.Avoids {} '\x7b' := by decide
    have closing : keyOnly.Avoids {} '\x7d' := by decide
    have finished : keyOnly.schema {} = .ok "\n" := by decide
    obtain ⟨ctx, tables, prepared, accepted⟩ := schema_accepted_iff opening closing finished
    have none : Context.prepare {} keyOnly = .ok (Context.ofGraph {} keyOnly, {}) := rfl
    rw [none] at prepared
    cases prepared
    exact ⟨opening, closing, _, finished, mt accepted.mp (by decide)⟩

end Graph

end SchemaLowering
