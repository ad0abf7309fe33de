import SchemaLowering.Proofs.CollapsedAliases

/-!
Names of names. The name of a symbol is the identifier of what the symbol stands for, and it may
coincide with a symbol that stands for something else. Two kinds of coincidence exist, and without
them the name of a name is that name: a text that is not renamed may be written like a symbol that
is, and the scalar of identifiers may be a symbol that is renamed.
-/

namespace SchemaLowering

/-- A word without underscores is the identifier of no other text. -/
theorem Text.eq_of_identifier_eq {text word : String} (plain : '_' ∉ word.toList)
    (same : identifier text = word) : text = word := by
  have unchanged : ∀ c ∈ text.toList, nameChar c = c := by
    intro c member
    have kept : nameChar c ∈ word.toList := by
      rw [← same, identifier, String.toList_ofList]
      exact List.mem_map_of_mem member
    unfold nameChar at kept ⊢
    split
    · rfl
    · next foreign =>
      rw [if_neg foreign] at kept
      exact absurd kept plain
  rw [← same, identifier, List.map_congr_left unchanged, List.map_id', String.ofList_toList]

namespace Context

/-- A text that is not renamed and is written like a symbol. -/
def WrittenLike (ctx : Context) (text symbol : String) : Prop :=
  text ∉ ctx.renamedSymbols ∧ Text.identifier text = symbol

variable {ctx : Context} {tables : Tables} {graph : Graph} {symbol target : String}

theorem name_of_not_renamed (kept : symbol ∉ ctx.renamedSymbols) :
    ctx.name symbol = Text.identifier symbol := by
  have missing : ctx.renames.lookup symbol = none := by
    rw [List.lookup_eq_none_iff]
    intro rename isRename
    rw [bne_iff_ne]
    rintro rfl
    exact kept (mem_renamedSymbols.mpr ⟨rename.2, isRename⟩)
  rw [name, missing, Option.getD_none]

/-- A name is an identifier already, so that only another renaming changes it. -/
theorem identifier_name (ctx : Context) (text : String) :
    Text.identifier (ctx.name text) = ctx.name text :=
  Text.identifier_identifier _

namespace Sorts

theorem name_of_renamed (sorts : ctx.Sorts tables graph) (distinct : graph.symbols.Nodup)
    (renamed : (symbol, target) ∈ ctx.renames) : ctx.name symbol = Text.identifier target := by
  have once : ctx.renamedSymbols.Nodup := sorts.renamed_order.nodup distinct
  have found := (Symbols.lookup_eq_some_iff once).mpr renamed
  rw [name, found, Option.getD_some]

/-- A symbol is renamed to the scalar of identifiers or to a symbol that keeps its name. -/
theorem target_of_renamed (sorts : ctx.Sorts tables graph)
    (renamed : (symbol, target) ∈ ctx.renames) :
    target = "ID" ∨ target ∉ ctx.renamedSymbols := by
  obtain ⟨node, _, stands⟩ := (sorts.renamed_iff symbol target).mp renamed
  cases stands with
  | reference found basic => exact .inr (sorts.final target _ found basic)
  | identifier => exact .inl rfl

/-- The name of a name is that name, unless it is a symbol that stands for something else. -/
theorem name_name_iff (sorts : ctx.Sorts tables graph) (distinct : graph.symbols.Nodup)
    (text : String) :
    ctx.name (ctx.name text) = ctx.name text ↔
      ∀ target, (ctx.name text, target) ∈ ctx.renames →
        Text.identifier target = ctx.name text := by
  constructor
  · intro idempotent target renamed
    rw [← sorts.name_of_renamed distinct renamed, idempotent]
  · intro agrees
    by_cases isRenamed : ctx.name text ∈ ctx.renamedSymbols
    · obtain ⟨target, renamed⟩ := mem_renamedSymbols.mp isRenamed
      rw [sorts.name_of_renamed distinct renamed, agrees target renamed]
    · rw [name_of_not_renamed isRenamed, identifier_name]

/-- Every name has one of two origins: a text that is not renamed is written like it, or it is the
scalar of identifiers, and some symbol stands for that. -/
theorem origin_of_name (sorts : ctx.Sorts tables graph) (distinct : graph.symbols.Nodup)
    (text : String) :
    (∃ source, ctx.WrittenLike source (ctx.name text)) ∨
      ctx.name text = "ID" ∧ (text, "ID") ∈ ctx.renames := by
  by_cases isRenamed : text ∈ ctx.renamedSymbols
  · obtain ⟨target, renamed⟩ := mem_renamedSymbols.mp isRenamed
    have named := sorts.name_of_renamed distinct renamed
    rcases sorts.target_of_renamed renamed with rfl | kept
    · exact .inr ⟨named.trans (by decide), renamed⟩
    · exact .inl ⟨target, kept, named.symm⟩
  · exact .inl ⟨text, isRenamed, (name_of_not_renamed isRenamed).symm⟩

end Sorts

/-- In a pass that begins, the name of a name is that name, unless it is a symbol that stands for
something written otherwise. This holds of all texts exactly when no renamed symbol is written like
a text that is not renamed, its new name being written otherwise, and when the scalar of identifiers
is not renamed while a symbol stands for it. -/
theorem name_idempotent_iff {options : Options} {graph : Graph} {ctx : Context} {tables : Tables}
    (distinct : graph.symbols.Nodup) (prepared : prepare options graph = .ok (ctx, tables)) :
    (∀ text, ctx.name (ctx.name text) = ctx.name text ↔
      ∀ target, (ctx.name text, target) ∈ ctx.renames →
        Text.identifier target = ctx.name text) ∧
    ((∀ text, ctx.name (ctx.name text) = ctx.name text) ↔
      (∀ symbol target, (symbol, target) ∈ ctx.renames →
        (∃ text, ctx.WrittenLike text symbol) → Text.identifier target = symbol) ∧
      ∀ symbol target, (symbol, "ID") ∈ ctx.renames → ("ID", target) ∈ ctx.renames →
        target = "ID") := by
  obtain ⟨_, rfl, rfl⟩ := prepare_eq_ok_iff.mp prepared
  have sorts := sorts_ofGraph options distinct
  have pointwise := sorts.name_name_iff distinct
  refine ⟨pointwise, ?_, ?_⟩
  · intro idempotent
    constructor
    · rintro symbol target renamed ⟨text, kept, rfl⟩
      have named := name_of_not_renamed kept
      rw [← named] at renamed ⊢
      exact (pointwise text).mp (idempotent text) target renamed
    · intro symbol target toScalar renamed
      have named : (ofGraph options graph).name symbol = "ID" :=
        (sorts.name_of_renamed distinct toScalar).trans (by decide)
      rw [← named] at renamed
      have same := (pointwise symbol).mp (idempotent symbol) target renamed
      exact Text.eq_of_identifier_eq (by decide) (same.trans named)
  · rintro ⟨spelled, scalar⟩ text
    refine (pointwise text).mpr fun target renamed => ?_
    rcases sorts.origin_of_name distinct text with written | ⟨named, toScalar⟩
    · exact spelled _ target renamed written
    · rw [named] at renamed ⊢
      rw [scalar text target toScalar renamed]
      decide

/-- Symbols with a dot, of which one is an alias of the other. -/
def dotted : Graph :=
  ⟨[("my.Role", .enum ["ADMIN"]), ("my_Role", .alias (.reference "my.Role") none),
    ("Key", .alias (.primitive .string) (some [⟨"graphql", "ID"⟩]))]⟩

theorem name_idempotent_iff_dotted :
    ∃ ctx tables, dotted.symbols.Nodup ∧ prepare {} dotted = .ok (ctx, tables) ∧
      ctx.renames = [("my_Role", "my.Role"), ("Key", "ID")] ∧
      ∀ text, ctx.name (ctx.name text) = ctx.name text := by
  have distinct : dotted.symbols.Nodup := by decide
  have prepared : prepare {} dotted
      = .ok (ofGraph {} dotted, (ofGraph {} dotted).declaredTables) := rfl
  have renames : (ofGraph {} dotted).renames = [("my_Role", "my.Role"), ("Key", "ID")] := by decide
  refine ⟨_, _, distinct, prepared, renames, (name_idempotent_iff distinct prepared).2.mpr ⟨?_, ?_⟩⟩
  · rintro symbol target renamed ⟨text, kept, written⟩
    simp only [renames, List.mem_cons, Prod.mk.injEq, List.not_mem_nil, or_false] at renamed
    rcases renamed with ⟨rfl, rfl⟩ | ⟨rfl, rfl⟩
    · decide
    · -- no other text is written like this one, and it is renamed
      rw [Text.eq_of_identifier_eq (by decide) written] at kept
      exact absurd (by decide) kept
  · intro symbol target _ renamed
    simp [renames] at renamed

/-- An identifier whose symbol is written like a symbol with a dot. -/
def dottedKey : Graph :=
  ⟨[("my_Key", .alias (.primitive .string) (some [⟨"graphql", "ID"⟩]))]⟩

/-- An identifier, and an alias that has the name of the scalar of identifiers. -/
def shadowedKey : Graph :=
  ⟨[("Text", .primitive .string), ("ID", .alias (.reference "Text") none),
    ("Key", .alias (.primitive .string) (some [⟨"graphql", "ID"⟩]))]⟩

/-- The name of a name may be another one, by either coincidence. -/
theorem names_renamed_again :
    (∃ ctx tables, prepare {} dottedKey = .ok (ctx, tables) ∧
      ctx.name "my.Key" = "my_Key" ∧ ctx.name "my_Key" = "ID") ∧
    ∃ ctx tables, prepare {} shadowedKey = .ok (ctx, tables) ∧
      ctx.name "Key" = "ID" ∧ ctx.name "ID" = "Text" :=
  ⟨⟨ofGraph {} dottedKey, (ofGraph {} dottedKey).declaredTables, rfl, by decide, by decide⟩,
    ⟨ofGraph {} shadowedKey, (ofGraph {} shadowedKey).declaredTables, rfl, by decide, by decide⟩⟩

end Context

end SchemaLowering
