import SchemaLowering.Proofs.DerivedClauses
import SchemaLowering.Proofs.DerivedDeclarations

/-!
What the unions of a schema consist of. A union that is declared as one has only interfaces. An
alias of a single symbol is a union as well, and its member is an interface unless the symbol is
itself an alias: enums have become other names before, and no other shape can be declared.
-/

namespace SchemaLowering

/-- The names on the right of a union. -/
def Block.unionMembers : Block → List String
  | .union _ members => members
  | _ => []

namespace Context

/-- The names under which interfaces of the graph are written. -/
def NamesInterface (ctx : Context) (name : String) : Prop :=
  ∃ symbol declaration,
    ctx.graph.find? symbol = some (.interface declaration) ∧ name = ctx.name symbol

/-- The aliases of the graph that a declared alias refers to. -/
def ReferredAlias (ctx : Context) (target : String) : Prop :=
  ∃ symbol documentation inner own,
    (symbol, .alias (.reference target) documentation) ∈ ctx.emitted ∧
      ctx.graph.find? target = some (.alias inner own)

end Context

namespace Emission

variable {ctx : Context} {tables : Tables} {symbol name : String} {block : Block}

/-- A union that is declared as one consists of interfaces. -/
theorem namesInterface_of_union {types : List Node} {result : Block × Tables}
    (declares : Union.Declares ctx tables symbol types result)
    (named : name ∈ result.1.unionMembers) : ctx.NamesInterface name := by
  cases declares with
  | texts | enums => cases named
  | interfaces leading found =>
    obtain ⟨each, rfl⟩ := Union.interfaceNames_eq_ok found
    obtain ⟨target, isTarget, rfl⟩ := List.mem_map.mp named
    obtain ⟨declaration, known⟩ := each target isTarget
    exact ⟨target, declaration, known, rfl⟩

theorem unionMembers_of_derivedBlocks {origin : Option String} {declaration : Interface}
    {derived : List Block}
    (attached : derivedBlocks ctx tables origin declaration symbol = .ok derived)
    (isBlock : block ∈ derived) : block.unionMembers = [] := by
  have wanted := derivedBlocks_eq_ok attached
  split at wanted
  · obtain ⟨fields, _, written⟩ := Traversal.bind_eq_ok.mp wanted
    obtain ⟨artifact, _, ofArtifact⟩ := Traversal.exists_of_mem_results written isBlock
    obtain ⟨body, rfl⟩ := Crud.Artifact.block_eq_braced ofArtifact
    rfl
  · subst wanted
    cases isBlock

theorem unionMembers_of_fragmentBlocks {declaration : Interface} {members : List Member}
    (isBlock : block ∈ fragmentBlocks declaration members) : block.unionMembers = [] := by
  unfold fragmentBlocks at isBlock
  split at isBlock
  · cases isBlock
  · split at isBlock
    · cases List.mem_singleton.mp isBlock
      rfl
    · cases isBlock

/-- A member of a union is an interface, or what a declared alias refers to. -/
theorem namesInterface_or_synonym {entry : String × Node} {blocks : List Block}
    (written : group ctx entry = .ok blocks) (isBlock : block ∈ blocks)
    (named : name ∈ block.unionMembers) :
    ctx.NamesInterface name ∨
      ∃ target documentation, entry.2 = .alias (.reference target) documentation ∧
        name = ctx.name target := by
  obtain ⟨symbol, node⟩ := entry
  obtain ⟨after, declares⟩ := declares_of_group written
  cases declares with
  | scalar | enum =>
    cases List.mem_singleton.mp isBlock
    cases named
  | synonym target documentation =>
    cases List.mem_singleton.mp isBlock
    exact .inr ⟨target, documentation, rfl, List.mem_singleton.mp named⟩
  | union documentation declares =>
    cases List.mem_singleton.mp isBlock
    exact .inl (namesInterface_of_union declares named)
  | interface shown rendered attached =>
    rcases List.mem_cons.mp isBlock with rfl | isBlock
    · cases named
    rcases List.mem_append.mp isBlock with isDerived | isFragment
    · rw [unionMembers_of_derivedBlocks attached isDerived] at named
      cases named
    · rw [unionMembers_of_fragmentBlocks isFragment] at named
      cases named

/-- An alias of a single symbol is written as a union of that symbol. -/
theorem unionMembers_of_synonym {target : String} {documentation : Option Documentation}
    {blocks : List Block}
    (written : group ctx (symbol, .alias (.reference target) documentation) = .ok blocks) :
    ∃ block ∈ blocks, block.unionMembers = [ctx.name target] := by
  obtain ⟨after, declares⟩ := declares_of_group written
  cases declares with
  | synonym => exact ⟨_, List.mem_singleton_self _, rfl⟩

/-- Only aliases, interfaces and enums have a declaration. -/
theorem declarable_of_group {entry : String × Node} {blocks : List Block}
    (written : group ctx entry = .ok blocks) :
    (∃ target documentation, entry.2 = .alias target documentation) ∨
      (∃ declaration, entry.2 = .interface declaration) ∨ ∃ values, entry.2 = .enum values := by
  obtain ⟨symbol, node⟩ := entry
  obtain ⟨after, declares⟩ := declares_of_group written
  cases declares with
  | scalar | synonym | union => exact .inl ⟨_, _, rfl⟩
  | interface => exact .inr (.inl ⟨_, rfl⟩)
  | enum => exact .inr (.inr ⟨_, rfl⟩)

end Emission

namespace Graph

variable {options : Options} {graph : Graph} {groups : List (List Block)}

/-- A symbol that is no alias is declared, so a schema has it only as an interface or an enum. -/
theorem Writes.entry_declarable {symbol : String} {node : Node}
    (writes : graph.Writes options groups) (isEntry : (symbol, node) ∈ graph.entries) :
    (∃ target documentation, node = .alias target documentation) ∨
      (∃ declaration, node = .interface declaration) ∨ ∃ values, node = .enum values := by
  cases renamed : Collapse.renamed? graph node with
  | none =>
    have emitted : (symbol, node) ∈ (Context.ofGraph options graph).emitted :=
      Context.mem_ofGraph_emitted.mpr ⟨isEntry, renamed⟩
    obtain ⟨blocks, _, written⟩ := Traversal.exists_result_of_mem writes.written emitted
    exact Emission.declarable_of_group written
  | some name =>
    cases node with
    | «alias» target documentation => exact .inl ⟨target, documentation, rfl⟩
    | _ => cases renamed

theorem Writes.declarable {symbol : String} {node : Node} (writes : graph.Writes options groups)
    (found : graph.find? symbol = some node) :
    (∃ target documentation, node = .alias target documentation) ∨
      (∃ declaration, node = .interface declaration) ∨ ∃ values, node = .enum values :=
  writes.entry_declarable (mem_entries_of_find? found)

/-- A declared alias of a single symbol refers to an interface or to another alias. -/
theorem Writes.synonym {symbol target : String} {documentation : Option Documentation}
    (writes : graph.Writes options groups)
    (emitted : (symbol, .alias (.reference target) documentation)
      ∈ (Context.ofGraph options graph).emitted) :
    (∃ declaration, graph.find? target = some (.interface declaration)) ∨
      ∃ inner own, graph.find? target = some (.alias inner own) := by
  obtain ⟨isEntry, kept⟩ := Context.mem_ofGraph_emitted.mp emitted
  obtain ⟨collapsed, found⟩ := writes.begins _ isEntry
  obtain ⟨node, resolved, chosen⟩ := Traversal.bind_eq_ok.mp found
  have known := resolve_eq_ok.mp resolved
  rcases writes.declarable known with ⟨inner, own, rfl⟩ | ⟨declaration, rfl⟩ | ⟨values, rfl⟩
  · exact .inr ⟨inner, own, known⟩
  · exact .inl ⟨declaration, known⟩
  · -- an alias of an enum is only another name, and is not declared
    cases chosen
    rw [Collapse.renamed?_of_target? found] at kept
    cases kept

/-- The names on the right of the unions of a schema are names of interfaces, apart from those of
aliases that a declared alias refers to. So all of them name interfaces if and only if each alias
that a declared alias refers to has the name of an interface. -/
theorem union_members_name_interfaces_iff {text : String}
    (finished : graph.schema options = .ok text) :
    ∃ ctx tables, Context.prepare options graph = .ok (ctx, tables) ∧
      let blocks := (Emission.declareAll ctx tables ctx.emitted).groups.flatten
      text = textOf (Emission.declareAll ctx tables ctx.emitted).groups ∧
      (∀ block ∈ blocks, ∀ name ∈ block.unionMembers,
        ctx.NamesInterface name ∨ ∃ target, ctx.ReferredAlias target ∧ name = ctx.name target) ∧
      ((∀ block ∈ blocks, ∀ name ∈ block.unionMembers, ctx.NamesInterface name) ↔
        ∀ target, ctx.ReferredAlias target → ctx.NamesInterface (ctx.name target)) := by
  obtain ⟨groups, writes, rfl⟩ := schema_eq_ok_iff.mp finished
  have outcome := Emission.declareAll_of_group_ok (fun _ member => member) writes.written
  refine ⟨_, _, writes.prepare, ?_⟩
  rw [outcome]
  have each : ∀ block ∈ groups.flatten, ∀ name ∈ block.unionMembers,
      (Context.ofGraph options graph).NamesInterface name ∨
        ∃ target, (Context.ofGraph options graph).ReferredAlias target ∧
          name = (Context.ofGraph options graph).name target := by
    intro block isBlock name named
    obtain ⟨blocks, isGroup, isBlock⟩ := List.mem_flatten.mp isBlock
    obtain ⟨⟨symbol, node⟩, emitted, written⟩ :=
      Traversal.exists_of_mem_results writes.written isGroup
    rcases Emission.namesInterface_or_synonym written isBlock named with
      isName | ⟨target, documentation, rfl, rfl⟩
    · exact .inl isName
    rcases writes.synonym emitted with ⟨declaration, known⟩ | ⟨inner, own, known⟩
    · exact .inl ⟨target, declaration, known, rfl⟩
    · exact .inr ⟨target, ⟨symbol, documentation, inner, own, emitted, known⟩, rfl⟩
  refine ⟨rfl, each, ?_, ?_⟩
  · rintro all target ⟨symbol, documentation, inner, own, emitted, known⟩
    obtain ⟨blocks, isGroup, written⟩ := Traversal.exists_result_of_mem writes.written emitted
    obtain ⟨block, isBlock, members⟩ := Emission.unionMembers_of_synonym written
    apply all block (List.mem_flatten.mpr ⟨blocks, isGroup, isBlock⟩)
    rw [members]
    exact List.mem_singleton_self _
  · intro aliases block isBlock name named
    rcases each block isBlock name named with isName | ⟨target, referred, rfl⟩
    · exact isName
    · exact aliases target referred

/-- Animals, a union of them, and another name for one of them. -/
def pets : Graph :=
  ⟨[("Cat", .interface ⟨[], [], false, none⟩),
    ("my.Dog", .interface ⟨[], [], true, none⟩),
    ("Pet", .alias (.union [.reference "Cat", .reference "my.Dog"]) none),
    ("Kitten", .alias (.reference "Cat") none)]⟩

theorem union_members_name_interfaces_iff_pets :
    ∃ text ctx tables, pets.schema {} = .ok text ∧ Context.prepare {} pets = .ok (ctx, tables) ∧
      let blocks := (Emission.declareAll ctx tables ctx.emitted).groups.flatten
      blocks.flatMap Block.unionMembers = ["Cat", "my_Dog", "Cat"] ∧
      ∀ block ∈ blocks, ∀ name ∈ block.unionMembers, ctx.NamesInterface name := by
  have finishes : (pets.emit {}).failure = none := by decide +kernel
  obtain ⟨groups, writes⟩ := emit_failure_eq_none_iff.mp finishes
  obtain ⟨ctx, tables, prepared, _, _, all⟩ := union_members_name_interfaces_iff writes.schema
  have same := writes.prepare
  rw [same] at prepared
  cases prepared
  refine ⟨_, _, _, writes.schema, same, by decide +kernel, all.mpr ?_⟩
  rintro target ⟨symbol, documentation, inner, own, emitted, known⟩
  have isEntry := (Context.mem_ofGraph_emitted.mp emitted).1
  obtain ⟨_, rfl, _⟩ : symbol = "Kitten" ∧ target = "Cat" ∧ documentation = none := by
    simpa [pets] using isEntry
  cases known

/-- A scalar, and another name for it. -/
def tokens : Graph :=
  ⟨[("Cursor", .alias (.primitive .string) none), ("Token", .alias (.reference "Cursor") none)]⟩

/-- An alias of a scalar is written as a union, whose member is no interface. -/
theorem scalar_in_union :
    tokens.schema {} = .ok "\nscalar Cursor\n\nunion Token = Cursor\n\n" ∧
      ∀ symbol declaration, tokens.find? symbol ≠ some (.interface declaration) := by
  refine ⟨by decide +kernel, ?_⟩
  intro symbol declaration found
  have isEntry := mem_entries_of_find? found
  simp [tokens] at isEntry

end Graph

end SchemaLowering
