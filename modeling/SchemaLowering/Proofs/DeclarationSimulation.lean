import SchemaLowering.Proofs.Declaration
import SchemaLowering.Proofs.FieldShapes
import SchemaLowering.Proofs.LoweringSimulation

/-!
Two contexts that do not tell a symbol from its new spelling, with the same names registered, write
the same blocks for a declaration and for the respelled declaration, or fail alike.
-/

namespace SchemaLowering

/-- Tables that hold the same names, in whatever order. -/
structure Tables.SameNames (tables others : Tables) : Prop where
  enums : ∀ name, name ∈ others.enums ↔ name ∈ tables.enums
  scalars : ∀ name, name ∈ others.scalars ↔ name ∈ tables.scalars

namespace Tables

variable {tables others : Tables}

theorem SameNames.isEnum (same : tables.SameNames others) (name : String) :
    others.isEnum name = tables.isEnum name := by
  simp only [Tables.isEnum, same.enums name]

theorem SameNames.isScalar (same : tables.SameNames others) (name : String) :
    others.isScalar name = tables.isScalar name := by
  simp only [Tables.isScalar, same.scalars name]

end Tables

/-- The shape behind the aliases of a respelled shape is respelled, as a field type or not. -/
theorem Node.respell_unaliased (spell : String → String) (inField : Bool) (node : Node) :
    ∃ inner, (node.respell spell inField).unaliased = node.unaliased.respell spell inner := by
  fun_induction Node.unaliased node generalizing inField with
  | case1 target documentation ih => exact ih false
  | case2 node notAlias =>
    refine ⟨inField, ?_⟩
    cases node with
    | «alias» target documentation => exact absurd rfl (notAlias target documentation)
    | _ => rfl

namespace Crud

variable {spell : String → String} {ctx other : Context} {tables others : Tables}

theorem classify_respell (respells : ctx.Respells spell other) (same : tables.SameNames others)
    (inField : Bool) (node : Node) (expression : String) :
    FieldShape.classify other others (node.respell spell inField) expression
      = FieldShape.classify ctx tables node expression := by
  simp only [FieldShape.classify, same.isEnum, same.isScalar]
  cases node with
  | array elements =>
    cases elements with
    | nil => rfl
    | cons first rest =>
      cases first with
      | reference target =>
        simp only [Node.respell, respellNodes, Expression.name_respell respells]
      | _ => rfl
  | _ => rfl

theorem ofNode_respell (respells : ctx.Respells spell other) (same : tables.SameNames others)
    (inField : Bool) (type : Node) :
    FieldShape.ofNode other others (type.respell spell inField)
      = FieldShape.ofNode ctx tables type := by
  obtain ⟨inner, plain⟩ := type.respell_unaliased spell inField
  unfold FieldShape.ofNode Expression.lower
  rw [plain, Expression.lowerNamed_respell respells,
    funext (classify_respell respells same inner _)]

theorem ofOptional_respell (respells : ctx.Respells spell other) (same : tables.SameNames others)
    (inField : Bool) (type : Option Node) :
    FieldShape.ofOptional other others (type.map (Node.respell spell inField))
      = FieldShape.ofOptional ctx tables type := by
  cases type with
  | none => rfl
  | some type =>
    rw [Option.map_some, FieldShape.ofOptional, FieldShape.ofOptional, ofNode_respell respells same]

/-- The field with its type respelled. -/
def TypeField.respell (spell : String → String) (field : TypeField) : TypeField :=
  { field with type := field.type.map (Node.respell spell true) }

theorem ofMember?_respell (member : Member) :
    TypeField.ofMember? (member.respell spell true)
      = (TypeField.ofMember? member).map (TypeField.respell spell) := by
  cases member with
  | property declaration =>
    simp [Member.respell, TypeField.ofMember?, TypeField.respell]
  | method declaration =>
    simp only [Member.respell, TypeField.ofMember?, Method.respell_parameters, List.isEmpty_map,
      Method.respell_name, Method.respell_returns, Method.respell_optional]
    split
    · rfl
    · rfl

theorem fields_respell (respells : ctx.Respells spell other) (origin : Option String)
    (declaration : Interface) :
    fields other origin (declaration.respell spell)
      = (fields ctx origin declaration).map (List.map (TypeField.respell spell)) := by
  unfold fields
  rw [Inheritance.shownMembers_respell respells]
  cases Inheritance.shownMembers ctx origin declaration with
  | error error => rfl
  | ok members =>
    have kept : (members.map (Member.respell spell true)).filterMap TypeField.ofMember?
        = (members.filterMap TypeField.ofMember?).map (TypeField.respell spell) := by
      rw [List.filterMap_map, List.map_filterMap]
      congr 1
      funext member
      exact ofMember?_respell member
    simp only [Except.map, bind, Except.bind, pure, Except.pure, kept]

/-- A rule that looks only at the name of a field and whether it is optional gives the same
input. -/
theorem inputBy_respell (respells : ctx.Respells spell other) (same : tables.SameNames others)
    {rule : TypeField → FieldShape → Option Field}
    (blind : ∀ field, rule (field.respell spell) = rule field) (role : InputRole)
    (fields : List TypeField) (name : String) :
    inputBy other others rule role (fields.map (TypeField.respell spell)) name
      = inputBy ctx tables rule role fields name := by
  have clauses : clausesBy other others rule (fields.map (TypeField.respell spell))
      = clausesBy ctx tables rule fields := by
    rw [clausesBy, clausesBy, List.mapM_map]
    congr 1
    apply Traversal.mapM_congr
    intro field _
    simp only [Function.comp_apply, clauseBy, blind]
    rw [TypeField.respell, ofOptional_respell respells same]
  simp only [inputBy, clauses, filledBody, respells.placeholder]

theorem filterClauses_respell (respells : ctx.Respells spell other)
    (same : tables.SameNames others) (type : Option Node) (name : String) :
    filterClauses other others name (type.map (Node.respell spell true))
      = filterClauses ctx tables name type := by
  have filters : FieldShape.filterClauses other.options name
      = FieldShape.filterClauses ctx.options name := by
    funext shape
    unfold FieldShape.filterClauses Options.isDateScalar
    rw [respells.dateScalars]
  rw [filterClauses_eq, filterClauses_eq]
  unfold filtersOf
  rw [ofOptional_respell respells same, filters]

/-- Every derived declaration of a type is the same after respelling its fields. -/
theorem block_respell (respells : ctx.Respells spell other) (same : tables.SameNames others)
    (fields : List TypeField) (name : String) (artifact : Artifact) :
    artifact.block other others (fields.map (TypeField.respell spell)) name
      = artifact.block ctx tables fields name := by
  cases artifact with
  | createInput =>
    simp only [Artifact.block, createInput_eq]
    exact inputBy_respell respells same (fun _ => rfl) _ fields name
  | orderByInput =>
    have names : (fields.map (TypeField.respell spell)).flatMap (orderings ·.name)
        = fields.flatMap (orderings ·.name) := by
      rw [List.flatMap_map]
      rfl
    unfold Artifact.block orderByInput
    rw [respells.placeholder, List.isEmpty_map, names]
  | updateInput =>
    simp only [Artifact.block, updateInput_eq]
    exact inputBy_respell respells same (fun _ => rfl) _ fields name
  | updateManyMutationInput =>
    simp only [Artifact.block, updateManyMutationInput_eq]
    exact inputBy_respell respells same (fun _ => rfl) _ fields name
  | whereInput =>
    simp only [Artifact.block, whereInput]
    rw [List.mapM_map]
    congr 1
    apply Traversal.mapM_congr
    intro field _
    exact filterClauses_respell respells same field.type field.name
  | _ => simp only [Artifact.block]

theorem generate_respell (respells : ctx.Respells spell other) (same : tables.SameNames others)
    (origin : Option String) (declaration : Interface) (name : String) :
    generate other others origin (declaration.respell spell) name
      = generate ctx tables origin declaration name := by
  unfold generate
  rw [fields_respell respells, Traversal.map_bind]
  apply bind_congr
  intro fields
  exact Traversal.mapM_congr fun artifact _ => block_respell respells same fields name artifact

end Crud

theorem Graph.Respells.resolve {spell : String → String} {graph other : Graph}
    (respells : graph.Respells spell other) (symbol : String) :
    other.resolve symbol = (graph.resolve symbol).map (Node.respell spell false) := by
  unfold Graph.resolve
  rw [respells]
  cases graph.find? symbol with
  | none => rfl
  | some node => rfl

namespace Union

theorem literals?_respell (spell : String → String) (types : List Node) :
    literals? (types.map (Node.respell spell false)) = literals? types := by
  induction types with
  | nil => rfl
  | cons node rest ih =>
    cases node with
    | literal value => rw [List.map_cons, Node.respell, literals?, ih, literals?]
    | _ => rfl

theorem references_respell (spell : String → String) (types : List Node) :
    references (types.map (Node.respell spell false)) = references types := by
  induction types with
  | nil => rfl
  | cons node rest ih =>
    cases node with
    | reference target =>
      rw [List.map_cons, Node.respell, references, ih, references]
      rfl
    | member declaration =>
      cases declaration with
      | property declaration => rfl
      | method declaration => rfl
    | _ => rfl

variable {spell : String → String}

theorem enumValues_respell {graph other : Graph} (respells : graph.Respells spell other)
    (targets : List String) : enumValues other targets = enumValues graph targets := by
  induction targets with
  | nil => rfl
  | cons target rest ih =>
    rw [enumValues, enumValues, respells.resolve]
    cases graph.resolve target with
    | error error => rfl
    | ok node =>
      cases node with
      | enum values => simp only [Except.map, Node.respell, ih]
      | member declaration =>
        cases declaration with
        | property declaration => rfl
        | method declaration => rfl
      | _ => rfl

theorem interfaceNames_respell {ctx other : Context} (respells : ctx.Respells spell other)
    (targets : List String) : interfaceNames other targets = interfaceNames ctx targets := by
  induction targets with
  | nil => rfl
  | cons target rest ih =>
    rw [interfaceNames, interfaceNames, respells.graph.resolve]
    cases ctx.graph.resolve target with
    | error error => rfl
    | ok node =>
      cases node with
      | interface declaration =>
        simp only [Except.map, Node.respell, bind, Except.bind, ih, respells.name]
      | member declaration =>
        cases declaration with
        | property declaration => rfl
        | method declaration => rfl
      | _ => rfl

/-- A union, whose members are no field types, has the same block. -/
theorem declare_respell {ctx other : Context} (respells : ctx.Respells spell other)
    (tables others : Tables) (types : List Node) (name : String) :
    (declare other others (types.map (Node.respell spell false)) name).map Prod.fst
      = (declare ctx tables types name).map Prod.fst := by
  cases types with
  | nil => rfl
  | cons node rest =>
    have texts := literals?_respell spell (node :: rest)
    have symbols := references_respell spell (node :: rest)
    rw [List.map_cons] at texts symbols ⊢
    simp only [declare, texts, symbols]
    cases literals? (node :: rest) with
    | some values =>
      simp only [Except.map, declareEnum, respells.name]
    | none =>
      cases (references (node :: rest)).mapError LoweringError.union with
      | error error => rfl
      | ok targets =>
        cases targets with
        | nil => rfl
        | cons first others =>
          simp only [bind, Except.bind, respells.graph.resolve]
          cases ctx.graph.resolve first with
          | error error => rfl
          | ok leading =>
            cases leading with
            | enum values =>
              simp only [Except.map, Node.respell, enumValues_respell respells.graph]
              cases enumValues ctx.graph (first :: others) with
              | error error => rfl
              | ok values => simp only [pure, Except.pure, declareEnum, respells.name]
            | interface declaration =>
              simp only [Except.map, Node.respell, interfaceNames_respell respells]
              cases interfaceNames ctx (first :: others) with
              | error error => rfl
              | ok names => simp only [pure, Except.pure, respells.name]
            | member declaration =>
              cases declaration with
              | property declaration => rfl
              | method declaration => rfl
            | _ => rfl

end Union

theorem Interface.respell_marks (spell : String → String) (declaration : Interface) :
    (declaration.respell spell).marks = declaration.marks := by
  rw [Interface.marks, Interface.respell_documentation, Interface.marks]

namespace Emission

variable {spell : String → String} {ctx other : Context} {tables others : Tables}

theorem argumentText_respell (respells : ctx.Respells spell other) (argument : Node) :
    argumentText other (argument.respell spell false) = argumentText ctx argument := by
  have inPlace := Expression.lowerNamed_respell respells none false argument
  cases argument with
  | reference target =>
    simp only [Node.respell, Bool.false_eq_true, if_false, argumentText, bind, Except.bind,
      respells.graph.resolve]
    cases ctx.graph.resolve target with
    | error error => rfl
    | ok node => exact Expression.lowerNamed_respell respells (some target) false node
  | _ => exact inPlace

theorem memberField_respell (respells : ctx.Respells spell other) (member : Member) :
    memberField other (member.respell spell true) = memberField ctx member := by
  have decoration : memberDecoration (member.respell spell true) = memberDecoration member := by
    rw [memberDecoration, memberDecoration, Member.respell_documentation]
  have name := member.respell_name spell true
  cases member with
  | property declaration =>
    rw [Member.respell] at decoration name ⊢
    simp only [memberField, decoration, name, Property.respell_signature,
      Expression.lowerOptional_respell respells, Property.respell_optional]
  | method declaration =>
    rw [Member.respell] at decoration name ⊢
    simp only [memberField, decoration, name, Method.respell_parameters, Method.respell_name,
      Method.respell_returns, Expression.lowerOptional_respell respells]
    cases declaration.parameters with
    | nil => rfl
    | cons parameter rest =>
      cases rest with
      | nil => simp only [List.map_cons, List.map_nil, argumentText_respell respells]
      | cons second rest => simp only [List.map_cons, List.length_cons, List.length_map]

theorem interfaceBody_respell (respells : ctx.Respells spell other) (members : List Member) :
    interfaceBody other (members.map (Member.respell spell true)) = interfaceBody ctx members := by
  unfold interfaceBody
  rw [List.mapM_map]
  congr 1
  exact Traversal.mapM_congr fun member _ => memberField_respell respells member

theorem fragmentBlocks_respell (declaration : Interface) (members : List Member) :
    fragmentBlocks (declaration.respell spell) (members.map (Member.respell spell true))
      = fragmentBlocks declaration members := by
  unfold fragmentBlocks
  rw [Interface.respell_marks, Interface.respell_concrete, List.map_map]
  simp only [Function.comp_def, Member.respell_name]

theorem derivedBlocks_respell (respells : ctx.Respells spell other)
    (same : tables.SameNames others) (origin : Option String) (declaration : Interface)
    {symbol : String}
    (wanted : wantsCrud other.options symbol = wantsCrud ctx.options symbol) :
    derivedBlocks other others origin (declaration.respell spell) symbol
      = derivedBlocks ctx tables origin declaration symbol := by
  unfold derivedBlocks isObjectType
  rw [Interface.respell_marks, Interface.respell_concrete, wanted, respells.name,
    Crud.generate_respell respells same]

theorem ownHeader_respell (respells : ctx.Respells spell other) (declaration : Interface)
    (symbol : String) :
    ownHeader other (declaration.respell spell) symbol = ownHeader ctx declaration symbol := by
  unfold ownHeader
  rw [Interface.respell_marks, Interface.respell_concrete, respells.name]

theorem interfaceBlocks_respell (respells : ctx.Respells spell other)
    (same : tables.SameNames others) (origin : Option String) (declaration : Interface)
    {symbol : String}
    (wanted : wantsCrud other.options symbol = wantsCrud ctx.options symbol) :
    interfaceBlocks other others origin (declaration.respell spell) symbol
      = interfaceBlocks ctx tables origin declaration symbol := by
  rw [interfaceBlocks_eq, interfaceBlocks_eq, Inheritance.shownMembers_respell respells,
    Traversal.map_bind]
  apply bind_congr
  intro members
  rw [interfaceBody_respell respells, derivedBlocks_respell respells same origin _ wanted,
    fragmentBlocks_respell, ownHeader_respell respells]

theorem aliasBlocks_union (ctx : Context) (tables : Tables) (types : List Node) (symbol : String) :
    (aliasBlocks ctx tables (.union types) symbol).map Prod.fst
      = ((Union.declare ctx tables types symbol).map Prod.fst).map ([·]) := by
  simp only [aliasBlocks]
  cases Union.declare ctx tables types symbol with
  | error error => rfl
  | ok result => rfl

/-- A respelled declaration is written as the same blocks, or fails alike, if interfaces are. -/
theorem declarationBlocks_respell (respells : ctx.Respells spell other) {origin : Option String}
    {node : Node} {symbol : String}
    (interfaces : ∀ declaration, node = .interface declaration →
      interfaceBlocks other others origin (declaration.respell spell) symbol
        = interfaceBlocks ctx tables origin declaration symbol) :
    (declarationBlocks other others origin (node.respell spell false) symbol).map Prod.fst
      = (declarationBlocks ctx tables origin node symbol).map Prod.fst := by
  cases node with
  | «alias» target documentation =>
    simp only [Node.respell, declarationBlocks]
    cases target with
    | primitive kind => simp only [Node.respell, aliasBlocks, Except.map, respells.name]
    | reference target =>
      simp only [Node.respell, aliasBlocks, Except.map, respells.name, Bool.false_eq_true, if_false]
    | union types =>
      rw [Node.respell, respellNodes_eq_map, aliasBlocks_union, aliasBlocks_union,
        Union.declare_respell respells tables]
    | member declaration =>
      cases declaration with
      | property declaration => rfl
      | method declaration => rfl
    | _ => rfl
  | interface declaration =>
    simp only [Node.respell, declarationBlocks, interfaces declaration rfl]
    cases interfaceBlocks ctx tables origin declaration symbol with
    | error error => rfl
    | ok blocks => rfl
  | enum values =>
    simp only [Node.respell, declarationBlocks, Union.declareEnum, Except.map, respells.name]
  | member declaration =>
    cases declaration with
    | property declaration => rfl
    | method declaration => rfl
  | _ => rfl

end Emission

end SchemaLowering
