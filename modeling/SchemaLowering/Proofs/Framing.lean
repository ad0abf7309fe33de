import SchemaLowering.Proofs.WrittenBlocks

/-!
The layout of a schema can be undone. Split at blank lines, a schema gives back the blocks of its
declared symbols; split at line breaks, a block gives back its header and its indented body. Neither
splitting is misled, since no part of a block holds a line break and no line after the first one is
empty.
-/

namespace SchemaLowering

namespace Text

/-- The pieces of a list of characters between blank lines, which are looked for from the left. -/
def paragraphChars : List Char → List (List Char)
  | [] => [[]]
  | '\n' :: '\n' :: rest => [] :: paragraphChars rest
  | c :: rest => (paragraphChars rest).modifyHead (c :: ·)

/-- The pieces of a text between blank lines. -/
def paragraphs (text : String) : List String :=
  (paragraphChars text.toList).map String.ofList

/-- The lines of a text. -/
def lines (text : String) : List String :=
  (text.toList.splitOn '\n').map String.ofList

/-- What stands before the first line break. -/
def firstLine (text : String) : String :=
  (lines text).headD ""

theorem paragraphChars_cons {c : Char} {rest : List Char}
    (inside : c ≠ '\n' ∨ ∀ d ∈ rest.head?, d ≠ '\n') :
    paragraphChars (c :: rest) = (paragraphChars rest).modifyHead (c :: ·) := by
  rw [paragraphChars]
  rintro others rfl rfl
  simp at inside

/-- Characters that are no line breaks continue a piece. -/
theorem paragraphChars_append {line : List Char} (unbroken : '\n' ∉ line) (rest : List Char) :
    paragraphChars (line ++ rest) = (paragraphChars rest).modifyHead (line ++ ·) := by
  induction line with
  | nil =>
    rw [List.nil_append]
    cases paragraphChars rest with
    | nil => rfl
    | cons first others => rfl
  | cons c line ih =>
    obtain ⟨different, unbroken⟩ := List.ne_and_not_mem_of_not_mem_cons unbroken
    rw [List.cons_append, paragraphChars_cons (.inl different.symm), ih unbroken,
      List.modifyHead_modifyHead]
    rfl

/-- Lines of which only the first can be empty form one piece. -/
theorem paragraphChars_intercalate {first : List Char} {others : List (List Char)}
    (unbroken : ∀ line ∈ first :: others, '\n' ∉ line) (filled : ∀ line ∈ others, line ≠ [])
    (rest : List Char) :
    paragraphChars (['\n'].intercalate (first :: others) ++ '\n' :: '\n' :: rest)
      = ['\n'].intercalate (first :: others) :: paragraphChars rest := by
  induction others generalizing first with
  | nil =>
    rw [List.intercalate_singleton, paragraphChars_append (unbroken first List.mem_cons_self)]
    simp [paragraphChars]
  | cons second others ih =>
    obtain ⟨own, unbroken⟩ := List.forall_mem_cons.mp unbroken
    obtain ⟨filledSecond, filled⟩ := List.forall_mem_cons.mp filled
    have tail := ih unbroken filled
    -- The break before the second line is not followed by another one, as that line is not empty.
    have starts : ∀ d ∈ (['\n'].intercalate (second :: others) ++ '\n' :: '\n' :: rest).head?,
        d ≠ '\n' := by
      cases second with
      | nil => exact absurd rfl filledSecond
      | cons c line =>
        intro d isHead
        have same : c = d := by
          cases others with
          | nil => simpa using isHead
          | cons third others => simpa [List.intercalate_cons_cons] using isHead
        rintro rfl
        exact unbroken _ List.mem_cons_self (same ▸ List.mem_cons_self)
    rw [List.intercalate_cons_cons, List.append_assoc, List.append_assoc, paragraphChars_append own,
      List.singleton_append, paragraphChars_cons (.inr starts), tail]
    simp

/-- The lines of a text that stand between line breaks are read back. -/
theorem lines_intercalate {parts : List String} (nonempty : parts ≠ [])
    (unbroken : ∀ line ∈ parts, Lacks '\n' line) : lines ("\n".intercalate parts) = parts := by
  have split : (['\n'].intercalate (parts.map String.toList)).splitOn '\n'
      = parts.map String.toList := by
    apply List.splitOn_intercalate
    · intro line isLine
      obtain ⟨part, isPart, rfl⟩ := List.mem_map.mp isLine
      exact unbroken part isPart
    · simpa using nonempty
  rw [lines, String.toList_intercalate]
  change List.map String.ofList ((['\n'].intercalate _).splitOn '\n') = parts
  rw [split, List.map_map]
  simp

/-- A text whose lines after the first are not empty is one piece before a blank line. -/
theorem paragraphs_intercalate {first : String} {others : List String}
    (unbroken : ∀ line ∈ first :: others, Lacks '\n' line) (filled : ∀ line ∈ others, line ≠ "")
    (rest : String) :
    paragraphs ("\n".intercalate (first :: others) ++ "\n\n" ++ rest)
      = "\n".intercalate (first :: others) :: paragraphs rest := by
  have unbrokenChars : ∀ line ∈ first.toList :: others.map String.toList, '\n' ∉ line := by
    simpa [Lacks] using unbroken
  have filledChars : ∀ line ∈ others.map String.toList, line ≠ [] := by simpa using filled
  have split := paragraphChars_intercalate unbrokenChars filledChars rest.toList
  have characters : ("\n".intercalate (first :: others) ++ "\n\n" ++ rest).toList
      = ['\n'].intercalate (first.toList :: others.map String.toList)
        ++ '\n' :: '\n' :: rest.toList := by
    simp [String.toList_intercalate]
  rw [paragraphs, characters, split, List.map_cons, ← paragraphs]
  congr 1
  rw [← String.toList_inj, String.toList_ofList, String.toList_intercalate]
  rfl

theorem intercalate_concat (separator : String) (texts : List String) (last : String) :
    separator.intercalate (texts ++ [last]) = String.join (texts.map (· ++ separator)) ++ last := by
  induction texts with
  | nil => simp
  | cons text texts ih =>
    rw [List.cons_append, String.intercalate_cons_of_ne_nil (by simp), ih, List.map_cons,
      String.join_cons]
    simp only [String.append_assoc]

end Text

/-- The lines of a block: one line alone, or a header with an indented body in braces. -/
inductive IsLayout : List String → Prop where
  | line (text : String) : IsLayout [text]
  | framed (header : String) (body : List String) :
      IsLayout ((header ++ " \x7b") :: (body.map ("  " ++ ·) ++ ["\x7d"]))

namespace Block

/-- What a block writes on its first line. -/
def opening : Block → String
  | .braced header _ => header.text ++ " \x7b"
  | block => block.render

/-- What a block writes on its other lines. -/
def remainder : Block → List String
  | .braced _ body => (body.map Line.text).map ("  " ++ ·) ++ ["\x7d"]
  | _ => []

theorem render_eq_intercalate (block : Block) :
    block.render = "\n".intercalate (block.opening :: block.remainder) := by
  cases block with
  | scalar name => simp [opening, remainder]
  | union name members => simp [opening, remainder]
  | braced header body =>
    have opened : header.text ++ " \x7b" ++ "\n" = header.text ++ " \x7b\n" := by
      rw [String.append_assoc]
      rfl
    rw [opening, remainder, ← List.cons_append, Text.intercalate_concat, List.map_cons,
      String.join_cons, opened, List.map_map]
    rfl

theorem isLayout (block : Block) : IsLayout (block.opening :: block.remainder) := by
  cases block with
  | scalar name => exact .line _
  | union name members => exact .line _
  | braced header body => exact .framed header.text (body.map Line.text)

theorem remainder_filled (block : Block) : ∀ line ∈ block.remainder, line ≠ "" := by
  cases block with
  | scalar name => exact nofun
  | union name members => exact nofun
  | braced header body =>
    refine List.forall_mem_append.mpr ⟨?_, by decide⟩
    intro line isLine
    obtain ⟨text, _, rfl⟩ := List.mem_map.mp isLine
    simp

theorem unbroken {block : Block} (lacks : block.Lacks '\n') :
    ∀ line ∈ block.opening :: block.remainder, Text.Lacks '\n' line := by
  cases block with
  | scalar name => exact List.forall_mem_singleton.mpr (Text.lacks_append.mpr ⟨by decide, lacks⟩)
  | union name members =>
    refine List.forall_mem_singleton.mpr (Text.lacks_append.mpr ⟨?_, ?_⟩)
    · rw [Text.lacks_append, Text.lacks_append]
      exact ⟨⟨by decide, lacks.1⟩, by decide⟩
    · exact Text.lacks_intercalate (by decide) lacks.2
  | braced header body =>
    refine List.forall_mem_cons.mpr ⟨Text.lacks_append.mpr ⟨lacks.1, by decide⟩, ?_⟩
    refine List.forall_mem_append.mpr ⟨?_, by decide⟩
    intro line isLine
    obtain ⟨text, isText, rfl⟩ := List.mem_map.mp isLine
    obtain ⟨own, isOwn, rfl⟩ := List.mem_map.mp isText
    exact Text.lacks_append.mpr ⟨by decide, lacks.2 own isOwn⟩

/-- A block without further line breaks is read back line by line. -/
theorem lines_render {block : Block} (lacks : block.Lacks '\n') :
    Text.lines block.render = block.opening :: block.remainder := by
  rw [render_eq_intercalate, Text.lines_intercalate (List.cons_ne_nil _ _) (unbroken lacks)]

theorem firstLine_render {block : Block} (lacks : block.Lacks '\n') :
    Text.firstLine block.render = block.opening := by
  rw [Text.firstLine, lines_render lacks, List.headD_cons]

/-- A block without further line breaks ends at the blank line after it. -/
theorem paragraphs_render {block : Block} (lacks : block.Lacks '\n') (rest : String) :
    Text.paragraphs (block.render ++ "\n\n" ++ rest) = block.render :: Text.paragraphs rest := by
  rw [render_eq_intercalate]
  exact Text.paragraphs_intercalate (unbroken lacks) block.remainder_filled rest

end Block

namespace Emission

variable {ctx : Context} {entry : String × Node} {blocks : List Block}

/-- The texts before the braces of the declarations that are derived from a type, in order. -/
def derivedHeaders (name : String) : List String :=
  ["type " ++ name ++ "BatchPayload", "input " ++ name ++ "CreateInput",
   "input " ++ name ++ "CreateManyInput", "input " ++ name ++ "CreateOneInput",
   "enum " ++ name ++ "OrderByInput", "input " ++ name ++ "UpdateInput",
   "input " ++ name ++ "UpdateManyInput", "input " ++ name ++ "UpdateManyMutationInput",
   "input " ++ name ++ "UpdateOneInput", "input " ++ name ++ "WhereInput",
   "input " ++ name ++ "WhereUniqueInput", "extend type Query", "extend type Mutation"]

/-- Whether a shape is an interface that is written with a fragment. -/
def hasFragment : Node → Bool
  | .interface declaration =>
    !Mark.has declaration.marks .schema && !Mark.has declaration.marks .input
      && !declaration.concrete && Mark.has declaration.marks .fragment
  | _ => false

/-- How many blocks a declared symbol has. -/
def blockCount (options : Options) (entry : String × Node) : Nat :=
  if showsDerived options entry then 14 else if hasFragment entry.2 then 2 else 1

/-- The blocks of a declared symbol in their number, and under their headers where the symbol has
derived declarations. -/
structure Grouped (ctx : Context) (entry : String × Node) (blocks : List Block) : Prop where
  count : blocks.length = blockCount ctx.options entry
  derived : showsDerived ctx.options entry → ∃ decoration,
    blocks.map (Text.firstLine ·.render)
      = (("type " ++ ctx.name entry.1 ++ decoration) :: derivedHeaders (ctx.name entry.1)).map
          (· ++ " \x7b")

theorem ne_nil_of_group (written : group ctx entry = .ok blocks) : blocks ≠ [] := by
  obtain ⟨symbol, node⟩ := entry
  obtain ⟨after, declares⟩ := declares_of_group written
  cases declares with
  | _ => exact List.cons_ne_nil _ _

/-- Each block of a group is followed by a blank line. -/
theorem groupText_eq_join (nonempty : blocks ≠ []) :
    groupText blocks = String.join (blocks.map (·.render ++ "\n\n")) := by
  obtain ⟨before, last, rfl⟩ := (List.eq_nil_or_concat' blocks).resolve_left nonempty
  rw [groupText, Block.renderAll, List.map_append, List.map_singleton, Text.intercalate_concat,
    List.map_map, List.map_append, String.join_append, String.append_assoc]
  simp [Function.comp_def]

theorem length_fragmentBlocks (declaration : Interface) (members : List Member) :
    (fragmentBlocks declaration members).length
      = if hasFragment (.interface declaration) then 1 else 0 := by
  rw [fragmentBlocks, hasFragment]
  by_cases schema : Mark.has declaration.marks .schema
  · simp [schema]
  by_cases input : Mark.has declaration.marks .input
  · simp [schema, input]
  by_cases concrete : declaration.concrete
  · simp [schema, input, concrete]
  cases first : Mark.first? declaration.marks .fragment with
  | none =>
    have absent : Mark.has declaration.marks .fragment = false := by rw [Mark.has, first]; rfl
    simp [schema, input, concrete, absent]
  | some fragment =>
    have present : Mark.has declaration.marks .fragment = true := by rw [Mark.has, first]; rfl
    simp [schema, input, concrete, present]

theorem map_header (name : String) :
    Crud.Artifact.all.map (fun artifact => (artifact.header name).text) = derivedHeaders name := by
  simp [Crud.Artifact.all, Crud.Artifact.header, derivedHeaders, Header.text, ← String.toList_inj,
    Crud.derivedName, Keyword.text, InputRole.ending, RootType.text]

theorem map_opening_of_generate {tables : Tables} {origin : Option String}
    {declaration : Interface} {name : String} {artifacts : List Block}
    (generated : Crud.generate ctx tables origin declaration name = .ok artifacts) :
    artifacts.map Block.opening = (derivedHeaders name).map (· ++ " \x7b") := by
  obtain ⟨fields, _, written⟩ := Traversal.bind_eq_ok.mp generated
  rw [← map_header, List.map_map]
  apply Traversal.map_results written
  intro artifact _ block ofArtifact
  obtain ⟨body, rfl⟩ := Crud.Artifact.block_eq_braced ofArtifact
  rfl

theorem grouped_of_hidden (single : showsDerived ctx.options entry = false)
    (count : blocks.length = if hasFragment entry.2 then 2 else 1) : Grouped ctx entry blocks where
  count := by rw [count, blockCount, single, if_neg Bool.false_ne_true]
  derived shows := by rw [single] at shows; cases shows

theorem grouped_of_group (lacks : ∀ block ∈ blocks, block.Lacks '\n')
    (written : group ctx entry = .ok blocks) : Grouped ctx entry blocks := by
  obtain ⟨symbol, node⟩ := entry
  obtain ⟨after, declares⟩ := declares_of_group written
  cases declares with
  | @interface declaration members body derived shown rendered attached =>
    have wanted := derivedBlocks_eq_ok attached
    split at wanted
    · next shows =>
      have objectType := isObjectType_of_derives (Bool.and_eq_true_iff.mp shows).2
      rw [fragmentBlocks_of_isObjectType objectType, List.append_nil] at lacks ⊢
      constructor
      · rw [List.length_cons, Crud.length_of_generate wanted, blockCount, shows, if_pos rfl]
      · intro _
        refine ⟨typeDecoration declaration.marks, ?_⟩
        rw [List.map_congr_left fun block isBlock => Block.firstLine_render (lacks block isBlock),
          List.map_cons, List.map_cons, map_opening_of_generate wanted,
          ownHeader_of_isObjectType ctx objectType]
        rfl
    · next hides =>
      subst wanted
      apply grouped_of_hidden (Bool.eq_false_iff.mpr hides)
      rw [List.nil_append, List.length_cons, length_fragmentBlocks]
      split
      · rfl
      · rfl
  | _ => exact grouped_of_hidden (by simp [showsDerived, derives]) rfl

end Emission

namespace Graph

/-- The text of groups after the first line break is made of blocks with a blank line after each. -/
theorem textOf_eq_append {groups : List (List Block)} (filled : ∀ blocks ∈ groups, blocks ≠ []) :
    textOf groups = "\n" ++ String.join (groups.flatten.map (·.render ++ "\n\n")) := by
  rw [textOf, String.join_cons]
  congr 1
  induction groups with
  | nil => rfl
  | cons blocks groups ih =>
    obtain ⟨nonempty, filled⟩ := List.forall_mem_cons.mp filled
    rw [List.map_cons, String.join_cons, ih filled, Emission.groupText_eq_join nonempty,
      List.flatten_cons, List.map_append, String.join_append]

/-- Blocks with a blank line after each are read back, with an empty piece after the last one. -/
theorem paragraphs_join {blocks : List Block} (lacks : ∀ block ∈ blocks, block.Lacks '\n') :
    Text.paragraphs (String.join (blocks.map (·.render ++ "\n\n")))
      = blocks.map Block.render ++ [""] := by
  induction blocks with
  | nil => rfl
  | cons block blocks ih =>
    obtain ⟨own, others⟩ := List.forall_mem_cons.mp lacks
    rw [List.map_cons, String.join_cons, Block.paragraphs_render own, ih others]
    rfl

/-- The layout of a schema can be undone. Where no text that is written as it is holds a line break,
a schema is a line break and then a text that, split at blank lines, gives back the blocks of the
declared symbols in the order of the graph, and an empty piece. A symbol has one block, two if it is
an interface with a fragment, and fourteen under fixed headers if it has derived declarations; and
each block is a line alone, or a header and an indented body in braces. -/
theorem schema_read_back {options : Options} {graph : Graph} {text : String}
    (avoids : graph.Avoids options '\n') (finished : graph.schema options = .ok text) :
    ∃ ctx tables rest, Context.prepare options graph = .ok (ctx, tables) ∧
      ctx.emitted.Sublist graph.entries ∧ text = "\n" ++ rest ∧
      let groups := (Emission.declareAll ctx tables ctx.emitted).groups
      Text.paragraphs rest = groups.flatten.map Block.render ++ [""] ∧
      List.Forall₂ (Emission.Grouped ctx) ctx.emitted groups ∧
      ∀ block ∈ groups.flatten, IsLayout (Text.lines block.render) := by
  obtain ⟨groups, writes, rfl⟩ := schema_eq_ok_iff.mp finished
  have lacks := writes.lacks (by decide) avoids
  have filled : ∀ blocks ∈ groups, blocks ≠ [] := by
    intro blocks isGroup
    obtain ⟨entry, _, written⟩ := Traversal.exists_of_mem_results writes.written isGroup
    exact Emission.ne_nil_of_group written
  have outcome := Emission.declareAll_of_group_ok (fun _ member => member) writes.written
  refine ⟨_, _, _, writes.prepare, List.filter_sublist, textOf_eq_append filled, ?_⟩
  rw [outcome]
  refine ⟨paragraphs_join lacks, ?_, ?_⟩
  · have known : ∀ entry ∈ (Context.ofGraph options graph).emitted, entry ∈ graph.entries :=
      fun entry emitted => (Context.mem_ofGraph_emitted.mp emitted).1
    have each := (List.forall₂_and_left _ _).mpr ⟨known, Traversal.mapM_eq_ok.mp writes.written⟩
    exact each.imp fun entry blocks ⟨isEntry, written⟩ =>
      Emission.grouped_of_group (Emission.lacks_group (by decide) avoids isEntry written) written
  · intro block isBlock
    rw [Block.lines_render (lacks block isBlock)]
    exact block.isLayout

/-- An enum with an empty value, an interface with a fragment, a type without fields of its own, and
a type under a reserved name. -/
def gallery : Graph :=
  ⟨[("Mood", .enum ["", "HAPPY"]),
    ("Named", .interface ⟨[.property ⟨"name", some (.primitive .string), false, none⟩], [], false,
      some [⟨"graphql", "fragment NamedParts on Named"⟩]⟩),
    ("Photo", .interface ⟨[], ["Named"], true, some [⟨"graphql", "key id"⟩]⟩),
    ("query", .interface ⟨[], [], true, none⟩)]⟩

theorem emit_gallery : (gallery.emit {}).failure = none := by decide +kernel

theorem schema_read_back_gallery :
    gallery.Avoids {} '\n' ∧ ∃ ctx tables text rest,
      Context.prepare {} gallery = .ok (ctx, tables) ∧ gallery.schema {} = .ok text ∧
      text = "\n" ++ rest ∧
      Text.paragraphs rest
        = (Emission.declareAll ctx tables ctx.emitted).groups.flatten.map Block.render ++ [""] ∧
      (Emission.declareAll ctx tables ctx.emitted).groups.map List.length = [1, 2, 14, 1] := by
  have avoids : gallery.Avoids {} '\n' := by decide
  obtain ⟨groups, writes⟩ := emit_failure_eq_none_iff.mp emit_gallery
  have finished := writes.schema
  obtain ⟨ctx, tables, rest, prepared, _, same, split, _⟩ := schema_read_back avoids finished
  have known := writes.prepare
  rw [known] at prepared
  cases prepared
  exact ⟨avoids, _, _, _, _, known, finished, same, split, by decide +kernel⟩

end Graph

end SchemaLowering
