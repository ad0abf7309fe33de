import SchemaLowering.Emission
import SchemaLowering.Proofs.Traversal

/-!
The blocks of one declaration, taken apart: the block of the declaration itself and the blocks
attached to it, which only interfaces have.
-/

namespace SchemaLowering

namespace Block

def isEnum : Block → Bool
  | .braced (.declaration .enum _ _) _ => true
  | _ => false

def isScalar : Block → Bool
  | .scalar _ => true
  | _ => false

end Block

namespace Graph

theorem resolve_eq_ok {graph : Graph} {symbol : String} {node : Node} :
    graph.resolve symbol = .ok node ↔ graph.find? symbol = some node := by
  unfold resolve
  cases graph.find? symbol with
  | none => simp
  | some found => simp

end Graph

namespace Union

theorem literals?_isSome (types : List Node) :
    (literals? types).isSome = types.all (·.isLiteral) := by
  fun_induction literals? types with
  | case1 => rfl
  | case2 value rest ih => simpa [Node.isLiteral] using ih
  | case3 types notEmpty notLiteral =>
    cases types with
    | nil => exact absurd rfl notEmpty
    | cons node rest =>
      cases node with
      | literal value => exact absurd rfl (notLiteral value rest)
      | _ => rfl

theorem eq_map_of_references {types : List Node} {targets : List String}
    (found : references types = .ok targets) : types = targets.map .reference := by
  fun_induction references types generalizing targets with
  | case1 =>
    cases found
    rfl
  | case2 target rest ih =>
    obtain ⟨others, foundRest, same⟩ := Traversal.bind_eq_ok.mp found
    cases same
    rw [List.map_cons, ← ih foundRest]
  | case3 node rest notReference => cases found

theorem mem_of_literals? {types : List Node} {values : List String} {value : String}
    (found : literals? types = some values) (member : value ∈ values) : .literal value ∈ types := by
  fun_induction literals? types generalizing values with
  | case1 =>
    cases found
    cases member
  | case2 own rest ih =>
    obtain ⟨others, foundRest, rfl⟩ := Option.map_eq_some_iff.mp found
    rcases List.mem_cons.mp member with rfl | member
    · exact List.mem_cons_self
    · exact List.mem_cons_of_mem _ (ih foundRest member)
  | case3 => cases found

/-- A union of enums consists of enums of the graph and has only their values. -/
theorem enumValues_eq_ok {graph : Graph} {targets values : List String}
    (found : enumValues graph targets = .ok values) :
    (∀ target ∈ targets, ∃ own, graph.find? target = some (.enum own)) ∧
      ∀ value ∈ values, ∃ target own, graph.find? target = some (.enum own) ∧ value ∈ own := by
  induction targets generalizing values with
  | nil =>
    cases found
    exact ⟨nofun, nofun⟩
  | cons target rest ih =>
    obtain ⟨node, resolved, found⟩ := Traversal.bind_eq_ok.mp found
    cases node with
    | enum own =>
      obtain ⟨others, foundRest, same⟩ := Traversal.bind_eq_ok.mp found
      cases same
      have known := Graph.resolve_eq_ok.mp resolved
      obtain ⟨each, valuesOfRest⟩ := ih foundRest
      exact ⟨List.forall_mem_cons.mpr ⟨⟨own, known⟩, each⟩,
        List.forall_mem_append.mpr ⟨fun value isValue => ⟨target, own, known, isValue⟩,
          valuesOfRest⟩⟩
    | _ => cases found

/-- A union of interfaces consists of interfaces of the graph and has their names. -/
theorem interfaceNames_eq_ok {ctx : Context} {targets names : List String}
    (found : interfaceNames ctx targets = .ok names) :
    (∀ target ∈ targets, ∃ own, ctx.graph.find? target = some (.interface own)) ∧
      names = targets.map ctx.name := by
  induction targets generalizing names with
  | nil =>
    cases found
    exact ⟨nofun, rfl⟩
  | cons target rest ih =>
    obtain ⟨node, resolved, found⟩ := Traversal.bind_eq_ok.mp found
    cases node with
    | interface own =>
      obtain ⟨others, foundRest, same⟩ := Traversal.bind_eq_ok.mp found
      cases same
      obtain ⟨each, rfl⟩ := ih foundRest
      exact ⟨List.forall_mem_cons.mpr ⟨⟨own, Graph.resolve_eq_ok.mp resolved⟩, each⟩, rfl⟩
    | _ => cases found

/-- The ways in which a union has a declaration: as an enum of texts, as an enum of the values of
enums, or as a union of interfaces. -/
inductive Declares (ctx : Context) (tables : Tables) (name : String) :
    List Node → Block × Tables → Prop where
  | texts {types : List Node} {values : List String} (nonempty : types ≠ [])
      (found : literals? types = some values) :
      Declares ctx tables name types (declareEnum ctx tables name values.eraseDups)
  | enums {first : String} {rest values own : List String}
      (leading : ctx.graph.find? first = some (.enum own))
      (found : enumValues ctx.graph (first :: rest) = .ok values) :
      Declares ctx tables name ((first :: rest).map .reference)
        (declareEnum ctx tables name values.eraseDups)
  | interfaces {first : String} {rest names : List String} {own : Interface}
      (leading : ctx.graph.find? first = some (.interface own))
      (found : interfaceNames ctx (first :: rest) = .ok names) :
      Declares ctx tables name ((first :: rest).map .reference)
        (.union (ctx.name name) names, tables)

theorem declares_of_declare {ctx : Context} {tables : Tables} {types : List Node} {name : String}
    {result : Block × Tables} (declared : declare ctx tables types name = .ok result) :
    Declares ctx tables name types result := by
  unfold declare at declared
  cases types with
  | nil => cases declared
  | cons node others =>
    cases texts : literals? (node :: others) with
    | some values =>
      simp only [texts, Except.ok.injEq] at declared
      subst declared
      exact .texts (by simp) texts
    | none =>
      simp only [texts] at declared
      obtain ⟨targets, referred, declared⟩ := Traversal.bind_eq_ok.mp declared
      rw [eq_map_of_references (Traversal.mapError_eq_ok.mp referred)]
      cases targets with
      | nil => cases declared
      | cons first rest =>
        obtain ⟨leading, resolved, declared⟩ := Traversal.bind_eq_ok.mp declared
        have known := Graph.resolve_eq_ok.mp resolved
        cases leading with
        | enum own =>
          obtain ⟨values, found, same⟩ := Traversal.bind_eq_ok.mp declared
          cases same
          exact .enums known found
        | interface own =>
          obtain ⟨names, found, same⟩ := Traversal.bind_eq_ok.mp declared
          cases same
          exact .interfaces known found
        | _ => cases declared

end Union

/-- The marks of an interface. -/
def Interface.marks (declaration : Interface) : List Mark :=
  Mark.ofDocumentation declaration.documentation

namespace Emission

/-- A method has at most one parameter, which is written between parentheses. -/
theorem memberField_method {ctx : Context} {declaration : Method} {field : Field}
    (rendered : memberField ctx (.method declaration) = .ok field) :
    ∃ arguments type, Expression.lowerOptional ctx declaration.returns = .ok type ∧
      field = { name := Text.identifier declaration.name, arguments, type := .plain type,
                decoration := memberDecoration (.method declaration) } ∧
      ((declaration.parameters = [] ∧ arguments = none) ∨
        ∃ name argument text, declaration.parameters = [(name, argument)] ∧
          argumentText ctx argument = .ok text ∧ arguments = some text) := by
  rcases parameters : declaration.parameters with _ | ⟨⟨name, argument⟩, _ | ⟨second, others⟩⟩
  · rw [memberField, parameters] at rendered
    obtain ⟨arguments, missing, rendered⟩ := Traversal.bind_eq_ok.mp rendered
    obtain ⟨type, lowered, same⟩ := Traversal.bind_eq_ok.mp rendered
    cases missing
    cases same
    exact ⟨none, type, lowered, rfl, .inl ⟨rfl, rfl⟩⟩
  · rw [memberField, parameters] at rendered
    obtain ⟨text, written, rendered⟩ := Traversal.bind_eq_ok.mp rendered
    obtain ⟨arguments, given, rendered⟩ := Traversal.bind_eq_ok.mp rendered
    obtain ⟨type, lowered, same⟩ := Traversal.bind_eq_ok.mp rendered
    cases given
    cases same
    exact ⟨some text, type, lowered, rfl, .inr ⟨name, argument, text, rfl, written, rfl⟩⟩
  · rw [memberField, parameters] at rendered
    cases rendered

/-- What stands between the braces of an interface. -/
def interfaceBody (ctx : Context) (members : List Member) : Except LoweringError (List Line) := do
  let fields ← members.mapM (memberField ctx)
  return fields.map Line.field

/-- What stands before the braces of an interface. -/
def ownHeader (ctx : Context) (declaration : Interface) (symbol : String) : Header :=
  if Mark.has declaration.marks .schema then .schema
  else if Mark.has declaration.marks .input then .declaration .input (ctx.name symbol) ""
  else if declaration.concrete then
    .declaration .type (ctx.name symbol) (typeDecoration declaration.marks)
  else .declaration .interface (ctx.name symbol) ""

/-- Whether an interface is written as a type: it is concrete, and neither the root of the schema
nor an input. -/
def isObjectType (declaration : Interface) : Bool :=
  !Mark.has declaration.marks .schema && !Mark.has declaration.marks .input && declaration.concrete

/-- The fragment of an interface that is neither concrete nor a root or an input. -/
def fragmentBlocks (declaration : Interface) (members : List Member) : List Block :=
  if Mark.has declaration.marks .schema || Mark.has declaration.marks .input
      || declaration.concrete then []
  else match Mark.first? declaration.marks .fragment with
    | some fragment => [.braced (.fragment fragment.text) (members.map (.word ·.name))]
    | none => []

/-- The declarations derived from an interface that is written as a type, where they are wanted. -/
def derivedBlocks (ctx : Context) (tables : Tables) (origin : Option String)
    (declaration : Interface) (symbol : String) : Except LoweringError (List Block) := do
  if isObjectType declaration then
    if ← wantsCrud ctx.options symbol then
      Crud.generate ctx tables origin declaration (ctx.name symbol)
    else return []
  else return []

/-- An interface is written as its own block, then its derived declarations or its fragment. -/
theorem interfaceBlocks_eq (ctx : Context) (tables : Tables) (origin : Option String)
    (declaration : Interface) (symbol : String) :
    interfaceBlocks ctx tables origin declaration symbol = do
      let members ← Inheritance.shownMembers ctx origin declaration
      let body ← interfaceBody ctx members
      let derived ← derivedBlocks ctx tables origin declaration symbol
      return .braced (ownHeader ctx declaration symbol) body
        :: (derived ++ fragmentBlocks declaration members) := by
  unfold interfaceBlocks interfaceBody derivedBlocks ownHeader fragmentBlocks isObjectType
  cases Inheritance.shownMembers ctx origin declaration with
  | error error => rfl
  | ok members =>
    simp only [bind, Except.bind, pure, Except.pure]
    cases members.mapM (memberField ctx) with
    | error error => rfl
    | ok fields =>
      rw [← Interface.marks]
      by_cases schema : Mark.has declaration.marks .schema
      · simp [schema]
      by_cases input : Mark.has declaration.marks .input
      · simp [schema, input, Block.declare]
      by_cases concrete : declaration.concrete
      · cases wantsCrud ctx.options symbol with
        | error error => simp [schema, input, concrete]
        | ok wanted =>
          cases wanted with
          | false => simp [schema, input, concrete]
          | true =>
            cases Crud.generate ctx tables origin declaration (ctx.name symbol) with
            | error error => simp [schema, input, concrete]
            | ok derived => simp [schema, input, concrete]
      · cases Mark.first? declaration.marks .fragment with
        | none => simp [schema, input, concrete, Block.declare]
        | some fragment => simp [schema, input, concrete, Block.declare]

/-- The ways in which a shape is declared under a symbol, with what is written and the names
registered after it. -/
inductive Declares (ctx : Context) (tables : Tables) (origin : Option String) (symbol : String) :
    Node → List Block × Tables → Prop where
  | scalar (kind : Primitive) (documentation : Option Documentation) :
      Declares ctx tables origin symbol (.alias (.primitive kind) documentation)
        ([.scalar (ctx.name symbol)], tables.registerScalar ctx symbol)
  | synonym (other : String) (documentation : Option Documentation) :
      Declares ctx tables origin symbol (.alias (.reference other) documentation)
        ([.union (ctx.name symbol) [ctx.name other]], tables)
  | union {types : List Node} {result : Block × Tables} (documentation : Option Documentation)
      (declares : Union.Declares ctx tables symbol types result) :
      Declares ctx tables origin symbol (.alias (.union types) documentation)
        ([result.1], result.2)
  | enum (values : List String) :
      Declares ctx tables origin symbol (.enum values)
        ([(Union.declareEnum ctx tables symbol values).1],
          (Union.declareEnum ctx tables symbol values).2)
  | interface {declaration : Interface} {members : List Member} {body : List Line}
      {derived : List Block}
      (shown : Inheritance.shownMembers ctx origin declaration = .ok members)
      (rendered : interfaceBody ctx members = .ok body)
      (attached : derivedBlocks ctx tables origin declaration symbol = .ok derived) :
      Declares ctx tables origin symbol (.interface declaration)
        (.braced (ownHeader ctx declaration symbol) body
          :: (derived ++ fragmentBlocks declaration members), tables)

theorem declares_of_declarationBlocks {ctx : Context} {tables : Tables} {origin : Option String}
    {node : Node} {symbol : String} {result : List Block × Tables}
    (declared : declarationBlocks ctx tables origin node symbol = .ok result) :
    Declares ctx tables origin symbol node result := by
  unfold declarationBlocks at declared
  cases node with
  | «alias» target documentation =>
    unfold aliasBlocks at declared
    cases target with
    | primitive kind =>
      cases declared
      exact .scalar kind documentation
    | reference other =>
      cases declared
      exact .synonym other documentation
    | union types =>
      obtain ⟨written, ofUnion, same⟩ := Traversal.bind_eq_ok.mp declared
      cases same
      exact .union documentation (Union.declares_of_declare ofUnion)
    | _ => cases declared
  | interface declaration =>
    obtain ⟨written, ofInterface, same⟩ := Traversal.bind_eq_ok.mp declared
    cases same
    rw [interfaceBlocks_eq] at ofInterface
    obtain ⟨members, shown, ofInterface⟩ := Traversal.bind_eq_ok.mp ofInterface
    obtain ⟨body, rendered, ofInterface⟩ := Traversal.bind_eq_ok.mp ofInterface
    obtain ⟨derived, attached, same⟩ := Traversal.bind_eq_ok.mp ofInterface
    cases same
    exact .interface shown rendered attached
  | enum values =>
    cases declared
    exact .enum values
  | _ => cases declared

end Emission

end SchemaLowering
