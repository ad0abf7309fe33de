import SchemaLowering.Proofs.RegisteredNames

/-!
How a pass sorts the symbols of a graph before it writes anything. An alias of an enum or a
primitive shape stands for the symbol of that shape, an alias that is marked as an identifier stands
for the scalar of identifiers, and every other symbol is declared. The sorting fails at the first
alias of a symbol that the graph misses.
-/

namespace SchemaLowering

namespace TagKind

theorem mem_all (kind : TagKind) : kind ∈ all := by
  cases kind with
  | _ => decide

/-- No word of a kind begins with the word of another kind. -/
theorem words_apart : ∀ first ∈ all, ∀ second ∈ all,
    first.word.toList <+: second.word.toList → first = second := by
  decide

/-- A remark starts with the word of one kind at most. -/
theorem eq_of_starts {first second : TagKind} {description : String}
    (startsFirst : first.starts description = true)
    (startsSecond : second.starts description = true) : first = second := by
  rw [starts, List.isPrefixOf_iff_prefix] at startsFirst startsSecond
  rcases List.prefix_or_prefix_of_prefix startsFirst startsSecond with shorter | shorter
  · exact words_apart first (mem_all first) second (mem_all second) shorter
  · exact (words_apart second (mem_all second) first (mem_all first) shorter).symm

/-- The kind of a remark does not depend on the order in which the words are tried. -/
theorem ofDescription?_eq_some_iff {description : String} {kind : TagKind} :
    ofDescription? description = some kind ↔ kind.starts description = true := by
  constructor
  · exact List.find?_some
  · intro starts
    cases found : ofDescription? description with
    | none => exact absurd starts (List.find?_eq_none.mp found kind (mem_all kind))
    | some other =>
      have startsOther := List.find?_some found
      exact congrArg some (eq_of_starts startsOther starts)

end TagKind

/-- A documentation block has a mark of a kind when a remark under the title starts with its
word. -/
theorem Mark.has_ofDocumentation_iff {documentation : Option Documentation} {title : String}
    {kind : TagKind} :
    has (ofDocumentation documentation title) kind = true ↔
      ∃ tag ∈ documentation.getD [], tag.title = title ∧ kind.starts tag.description = true := by
  simp only [has, first?, ofDocumentation, List.find?_isSome, List.mem_filterMap, ofTag?,
    decide_eq_true_eq]
  constructor
  · rintro ⟨mark, ⟨tag, isTag, recognised⟩, rfl⟩
    split at recognised
    · next titled =>
      obtain ⟨found, ofDescription, rfl⟩ := Option.map_eq_some_iff.mp recognised
      exact ⟨tag, isTag, titled, TagKind.ofDescription?_eq_some_iff.mp ofDescription⟩
    · cases recognised
  · rintro ⟨tag, isTag, titled, starts⟩
    refine ⟨⟨kind, tag.description⟩, ⟨tag, isTag, ?_⟩, rfl⟩
    rw [if_pos titled, TagKind.ofDescription?_eq_some_iff.mpr starts, Option.map_some]

namespace Collapse

/-- The shapes that an alias of their symbol only renames. -/
def isBasic (node : Node) : Bool :=
  node.isPrimitive || node.isEnum

/-- An alias of a symbol that the graph misses. -/
def Dangles (graph : Graph) (target : String) (node : Node) : Prop :=
  graph.find? target = none ∧ ∃ documentation, node = .alias (.reference target) documentation

/-- A remark that marks an alias as an identifier. -/
def MarksIdentifier (tag : DocTag) : Prop :=
  tag.title = "graphql" ∧ "ID".toList <+: tag.description.toList

/-- The name that an alias merely stands for. A reference to an enum or a primitive shape goes
before the mark of an identifier. -/
inductive StandsFor (graph : Graph) : Node → String → Prop where
  | reference {symbol : String} {node : Node} {documentation : Option Documentation}
      (found : graph.find? symbol = some node) (basic : isBasic node = true) :
      StandsFor graph (.alias (.reference symbol) documentation) symbol
  | identifier {target : Node} {documentation : Option Documentation}
      (otherwise : ∀ symbol, target = .reference symbol →
        ∃ node, graph.find? symbol = some node ∧ isBasic node = false)
      (marked : ∃ tag ∈ documentation.getD [], MarksIdentifier tag) :
      StandsFor graph (.alias target documentation) "ID"

variable {graph : Graph} {node : Node} {name : String}

theorem marked_iff {documentation : Option Documentation} :
    Mark.has (Mark.ofDocumentation documentation) .identifier = true ↔
      ∃ tag ∈ documentation.getD [], MarksIdentifier tag := by
  simp only [Mark.has_ofDocumentation_iff, TagKind.starts, List.isPrefixOf_iff_prefix]
  rfl

/-- An alias of a symbol of the graph stands for it or for what its mark says. -/
theorem target?_of_found {symbol : String} (documentation : Option Documentation)
    (found : graph.find? symbol = some node) :
    target? graph (.alias (.reference symbol) documentation) =
      .ok (if isBasic node then some symbol
        else if Mark.has (Mark.ofDocumentation documentation) .identifier then
          some identifierScalar
        else none) := by
  simp only [target?, Graph.resolve_eq_ok.mpr found, bind, Except.bind]
  rw [← isBasic]
  by_cases basic : isBasic node = true
  · rw [if_pos basic, if_pos basic]
    rfl
  · rw [if_neg basic, if_neg basic]
    rfl

theorem target?_eq_error_iff {error : LoweringError} :
    target? graph node = .error error ↔
      ∃ target, error = .unresolved target ∧ Dangles graph target node := by
  constructor
  · intro failed
    cases node with
    | «alias» target documentation =>
      cases target with
      | reference symbol =>
        cases found : graph.find? symbol with
        | none =>
          simp only [target?, Graph.resolve, found, bind, Except.bind, Except.error.injEq] at failed
          exact ⟨symbol, failed.symm, found, documentation, rfl⟩
        | some node =>
          rw [target?_of_found documentation found] at failed
          cases failed
      | _ => cases failed
    | _ => cases failed
  · rintro ⟨target, rfl, missing, documentation, rfl⟩
    simp only [target?, Graph.resolve, missing, bind, Except.bind]

/-- Looking for the name that a shape stands for ends unless it is an alias of a missing symbol. -/
theorem exists_target?_iff :
    (∃ target, target? graph node = .ok target) ↔ ∀ target, ¬ Dangles graph target node := by
  cases outcome : target? graph node with
  | error error =>
    obtain ⟨target, rfl, dangles⟩ := target?_eq_error_iff.mp outcome
    simp only [reduceCtorEq, exists_false, false_iff, not_forall, not_not]
    exact ⟨target, dangles⟩
  | ok found =>
    simp only [Except.ok.injEq, exists_eq', true_iff]
    intro target dangles
    rw [target?_eq_error_iff.mpr ⟨target, rfl, dangles⟩] at outcome
    cases outcome

/-- Looking for the name that a shape stands for finds the one that it stands for. -/
theorem target?_eq_some_iff :
    target? graph node = .ok (some name) ↔ StandsFor graph node name := by
  constructor
  · intro collapsed
    cases node with
    | «alias» target documentation =>
      cases target with
      | reference symbol =>
        cases found : graph.find? symbol with
        | none => simp [target?, Graph.resolve, found, bind, Except.bind] at collapsed
        | some node =>
          rw [target?_of_found documentation found, Except.ok.injEq] at collapsed
          split at collapsed
          · next basic =>
            cases collapsed
            exact .reference found basic
          · next notBasic =>
            split at collapsed
            · next marked =>
              cases collapsed
              refine .identifier ?_ (marked_iff.mp marked)
              intro other same
              cases same
              exact ⟨node, found, Bool.not_eq_true _ ▸ notBasic⟩
            · cases collapsed
      | _ =>
        simp only [target?, pure, Except.pure, Except.ok.injEq] at collapsed
        split at collapsed
        · next marked =>
          cases collapsed
          exact .identifier (fun _ impossible => by cases impossible) (marked_iff.mp marked)
        · cases collapsed
    | _ => cases collapsed
  · intro stands
    cases stands with
    | reference found basic => rw [target?_of_found _ found, if_pos basic]
    | @identifier target documentation otherwise marked =>
      have has := marked_iff.mpr marked
      cases target with
      | reference symbol =>
        obtain ⟨node, found, notBasic⟩ := otherwise symbol rfl
        rw [target?_of_found documentation found, if_neg (by simp [notBasic]), if_pos has]
        rfl
      | _ =>
        simp only [target?, has, if_true]
        rfl

theorem renamed?_eq_some_iff : renamed? graph node = some name ↔ StandsFor graph node name := by
  rw [← target?_eq_some_iff, renamed?]
  cases target? graph node with
  | error error => simp [Except.toOption]
  | ok target => simp [Except.toOption]

theorem StandsFor.not_basic (stands : StandsFor graph node name) : isBasic node = false := by
  cases stands with
  | reference | identifier => rfl

end Collapse

namespace Graph

/-- The symbol that the first alias of a missing symbol refers to. -/
def FirstDangling (graph : Graph) (target : String) : Prop :=
  ∃ before entry after, graph.entries = before ++ entry :: after ∧
    (∀ earlier ∈ before, ∀ other, ¬ Collapse.Dangles graph other earlier.2) ∧
    Collapse.Dangles graph target entry.2

end Graph

namespace Context

open Collapse

/-- The symbols that stand for another name, in order. -/
def renamedSymbols (ctx : Context) : List String :=
  ctx.renames.map Prod.fst

/-- The symbols that are declared, in order. -/
def declaredSymbols (ctx : Context) : List String :=
  ctx.emitted.map Prod.fst

theorem mem_renamedSymbols {ctx : Context} {symbol : String} :
    symbol ∈ ctx.renamedSymbols ↔ ∃ name, (symbol, name) ∈ ctx.renames := by
  simp [renamedSymbols]

/-- How the symbols of a graph are sorted. -/
structure Sorts (ctx : Context) (tables : Tables) (graph : Graph) : Prop where
  /-- Every symbol is renamed or declared. -/
  covered : ∀ symbol, symbol ∈ graph.symbols ↔
    symbol ∈ ctx.renamedSymbols ∨ symbol ∈ ctx.declaredSymbols
  /-- No symbol is both. -/
  apart : ctx.renamedSymbols.Disjoint ctx.declaredSymbols
  /-- Declared symbols keep their shapes and their order. -/
  emitted : ctx.emitted.Sublist graph.entries
  renamed_order : ctx.renamedSymbols.Sublist graph.symbols
  renamed_iff : ∀ symbol name, (symbol, name) ∈ ctx.renames ↔
    ∃ node, (symbol, node) ∈ graph.entries ∧ StandsFor graph node name
  /-- What an alias of an enum or a primitive shape stands for is not renamed in turn. -/
  final : ∀ symbol node, graph.find? symbol = some node → isBasic node = true →
    symbol ∉ ctx.renamedSymbols
  /-- The tables hold names of declared symbols, in the order of their first occurrences. -/
  enums : tables.enums = (ctx.namesWhere (declaresEnum graph)).eraseDups
  scalars : tables.scalars = (ctx.namesWhere declaresScalar).eraseDups
  distinct : tables.WellFormed

variable {options : Options} {graph : Graph}

theorem mem_ofGraph_renames {symbol name : String} :
    (symbol, name) ∈ (ofGraph options graph).renames ↔
      ∃ node, (symbol, node) ∈ graph.entries ∧ StandsFor graph node name := by
  simp only [ofGraph, List.mem_filterMap, renaming?, Option.map_eq_some_iff, Prod.mk.injEq,
    renamed?_eq_some_iff]
  constructor
  · rintro ⟨⟨_, node⟩, isEntry, _, stands, rfl, rfl⟩
    exact ⟨node, isEntry, stands⟩
  · rintro ⟨node, isEntry, stands⟩
    exact ⟨(symbol, node), isEntry, name, stands, rfl, rfl⟩

theorem mem_ofGraph_renamedSymbols {symbol : String} :
    symbol ∈ (ofGraph options graph).renamedSymbols ↔
      ∃ node name, (symbol, node) ∈ graph.entries ∧ StandsFor graph node name := by
  simp only [mem_renamedSymbols, mem_ofGraph_renames]
  exact exists_comm

theorem ofGraph_renamedSymbols (options : Options) (graph : Graph) :
    (ofGraph options graph).renamedSymbols
      = (graph.entries.filter fun entry => (renamed? graph entry.2).isSome).map Prod.fst := by
  simp only [renamedSymbols, ofGraph]
  induction graph.entries with
  | nil => rfl
  | cons entry rest ih =>
    rw [List.filterMap_cons, List.filter_cons, renaming?]
    cases renamed? graph entry.2 with
    | none => simpa using ih
    | some name => simpa using ih

/-- The symbols of a graph are sorted as their shapes say. -/
theorem sorts_ofGraph (options : Options) (distinct : graph.symbols.Nodup) :
    (ofGraph options graph).Sorts (ofGraph options graph).declaredTables graph where
  covered := by
    intro symbol
    simp only [mem_ofGraph_renamedSymbols, declaredSymbols, List.mem_map, mem_ofGraph_emitted,
      Graph.symbols]
    constructor
    · rintro ⟨⟨_, node⟩, isEntry, rfl⟩
      cases renamed : renamed? graph node with
      | none => exact .inr ⟨_, ⟨isEntry, renamed⟩, rfl⟩
      | some name => exact .inl ⟨node, name, isEntry, renamed?_eq_some_iff.mp renamed⟩
    · rintro (⟨node, name, isEntry, _⟩ | ⟨entry, ⟨isEntry, _⟩, rfl⟩)
      · exact ⟨_, isEntry, rfl⟩
      · exact ⟨_, isEntry, rfl⟩
  apart := by
    intro symbol isRenamed isDeclared
    obtain ⟨node, name, isEntry, stands⟩ := mem_ofGraph_renamedSymbols.mp isRenamed
    obtain ⟨⟨_, other⟩, emitted, rfl⟩ := List.mem_map.mp isDeclared
    obtain ⟨isOther, kept⟩ := mem_ofGraph_emitted.mp emitted
    -- distinct symbols have one shape each
    have same := (Graph.find?_eq_some_iff distinct).mpr isEntry
    rw [(Graph.find?_eq_some_iff distinct).mpr isOther] at same
    cases same
    rw [renamed?_eq_some_iff.mpr stands] at kept
    cases kept
  emitted := List.filter_sublist
  renamed_order := by
    rw [ofGraph_renamedSymbols]
    exact List.filter_sublist.map Prod.fst
  renamed_iff := fun _ _ => mem_ofGraph_renames
  final := by
    intro symbol node found basic isRenamed
    obtain ⟨other, name, isEntry, stands⟩ := mem_ofGraph_renamedSymbols.mp isRenamed
    rw [(Graph.find?_eq_some_iff distinct).mpr isEntry] at found
    cases found
    rw [stands.not_basic] at basic
    cases basic
  enums := declaredTables_enums _
  scalars := declaredTables_scalars _
  distinct := Tables.wellFormed_declaredTables _

theorem prepare_eq_error_iff {error : LoweringError} :
    prepare options graph = .error error ↔
      ∃ target, error = .unresolved target ∧ graph.FirstDangling target := by
  have failed : prepare options graph = .error error ↔
      (Collapse.run graph graph.entries).failure = some error := by
    rw [prepare_eq]
    cases (Collapse.run graph graph.entries).failure with
    | none => simp
    | some other => simp
  rw [failed, run_failure_eq_some_iff]
  simp only [exists_target?_iff, target?_eq_error_iff]
  constructor
  · rintro ⟨before, entry, after, split, earlier, target, rfl, dangles⟩
    exact ⟨target, rfl, before, entry, after, split, earlier, dangles⟩
  · rintro ⟨target, rfl, before, entry, after, split, earlier, dangles⟩
    exact ⟨before, entry, after, split, earlier, target, rfl, dangles⟩

/-- A pass over a graph begins unless an alias refers to a symbol that the graph misses, and then it
fails with the first such symbol. A pass that begins has sorted the symbols: each one is either
declared, with its shape and in its place, or it is renamed, which happens to aliases that merely
stand for another name and to no other symbol. -/
theorem prepare_sorts_symbols (options : Options) {graph : Graph}
    (distinct : graph.symbols.Nodup) :
    ((∃ error, prepare options graph = .error error) ↔
      ∃ entry ∈ graph.entries, ∃ target, Dangles graph target entry.2) ∧
    (∀ error, prepare options graph = .error error ↔
      ∃ target, error = .unresolved target ∧ graph.FirstDangling target) ∧
    ∀ ctx tables, prepare options graph = .ok (ctx, tables) →
      ctx.graph = graph ∧ ctx.options = options ∧ ctx.Sorts tables graph := by
  refine ⟨⟨?_, ?_⟩, fun error => prepare_eq_error_iff, ?_⟩
  · rintro ⟨error, failed⟩
    obtain ⟨target, _, before, entry, after, split, _, dangles⟩ := prepare_eq_error_iff.mp failed
    have isEntry : entry ∈ graph.entries := by simp [split]
    exact ⟨entry, isEntry, target, dangles⟩
  · rintro ⟨entry, isEntry, target, dangles⟩
    cases prepared : prepare options graph with
    | error error => exact ⟨error, rfl⟩
    | ok begun =>
      obtain ⟨collapsed, found⟩ := (prepare_eq_ok_iff.mp prepared).1 entry isEntry
      rw [target?_eq_error_iff.mpr ⟨target, rfl, dangles⟩] at found
      cases found
  · intro ctx tables prepared
    obtain ⟨_, rfl, rfl⟩ := prepare_eq_ok_iff.mp prepared
    exact ⟨rfl, rfl, sorts_ofGraph options distinct⟩

/-- Aliases that stand before and behind what they refer to, with and without the mark of an
identifier. -/
def badges : Graph :=
  ⟨[("Rank", .alias (.reference "Role") (some [⟨"graphql", "ID"⟩])),
    ("Role", .enum ["ADMIN", "USER"]),
    ("Badge", .interface ⟨[], [], true, none⟩),
    ("BadgeId", .alias (.reference "Badge") (some [⟨"note", "ID"⟩, ⟨"graphql", "ID of a badge"⟩])),
    ("Label", .alias (.reference "Text") none),
    ("Text", .primitive .string),
    ("Holder", .alias (.reference "Badge") none),
    ("Size", .alias (.union [.literal "S", .literal "L"]) none),
    ("Cursor", .alias (.primitive .number) (some [⟨"note", "ID"⟩]))]⟩

/-- Aliases of missing symbols. -/
def lostBadges : Graph :=
  ⟨[("Role", .enum ["ADMIN"]), ("Rank", .alias (.reference "Role") none),
    ("Label", .alias (.reference "Text") (some [⟨"graphql", "ID"⟩])),
    ("Holder", .alias (.reference "Badge") none)]⟩

theorem prepare_sorts_symbols_badges :
    (∃ ctx tables, badges.symbols.Nodup ∧ prepare {} badges = .ok (ctx, tables) ∧
      ctx.renames = [("Rank", "Role"), ("BadgeId", "ID"), ("Label", "Text")] ∧
      ctx.declaredSymbols = ["Role", "Badge", "Text", "Holder", "Size", "Cursor"] ∧
      tables = ⟨["Role", "Size"], ["Cursor"]⟩ ∧ ctx.Sorts tables badges) ∧
    lostBadges.symbols.Nodup ∧ lostBadges.FirstDangling "Text" ∧
      prepare {} lostBadges = .error (.unresolved "Text") := by
  have prepared : prepare {} badges
      = .ok (ofGraph {} badges, (ofGraph {} badges).declaredTables) := rfl
  have distinct : badges.symbols.Nodup := by decide
  obtain ⟨_, _, sorts⟩ := (prepare_sorts_symbols {} distinct).2.2 _ _ prepared
  refine ⟨⟨_, _, distinct, prepared, by decide, by decide, by decide, sorts⟩, by decide, ?_⟩
  have dangling : lostBadges.FirstDangling "Text" := by
    refine ⟨lostBadges.entries.take 2, _, _, rfl, ?_, rfl, _, rfl⟩
    rintro ⟨symbol, _⟩ isEarlier other ⟨missing, documentation, rfl⟩
    obtain ⟨_, rfl, _⟩ : symbol = "Rank" ∧ other = "Role" ∧ documentation = none := by
      simpa [lostBadges] using isEarlier
    cases missing
  exact ⟨dangling, ((prepare_sorts_symbols {} (by decide)).2.1 _).mpr ⟨_, rfl, dangling⟩⟩

end Context

end SchemaLowering
