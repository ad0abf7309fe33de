import SchemaLowering.Crud.Artifact
import SchemaLowering.Lowering.Union

/-!
The schema of a type graph: one group of blocks for each declared symbol, in the order of the graph.
-/

namespace SchemaLowering

namespace Emission

/-- The text between the parentheses of a method with one parameter. A referenced shape is written
in place. -/
def argumentText (ctx : Context) : Node → Except LoweringError String
  | .reference target => do
    let node ← ctx.graph.resolve target
    Expression.lowerNamed ctx (some target) node
  | node => Expression.lower ctx node

/-- What follows the type of a member. -/
def memberDecoration (member : Member) : String :=
  let marks := Mark.ofDocumentation member.documentation
  Mark.renderCost marks ++ Mark.renderDirectives marks

/-- The line that declares a member (`_member_line`). -/
def memberField (ctx : Context) (member : Member) : Except LoweringError Field := do
  let name := Text.identifier member.name
  let decoration := memberDecoration member
  match member with
  | .property declaration =>
    let type ← Expression.lowerOptional ctx declaration.signature
    return { name, type := .plain type, required := !declaration.optional, decoration }
  | .method declaration =>
    let arguments ← match declaration.parameters with
      | [] => pure none
      | [(_, argument)] => do
        let text ← argumentText ctx argument
        pure (some text)
      | several => throw (.tooManyParameters declaration.name several.length)
    let type ← Expression.lowerOptional ctx declaration.returns
    return { name, arguments, type := .plain type, decoration }

/-- What follows the name of a concrete type. -/
def typeDecoration (marks : List Mark) : String :=
  Mark.renderKeys marks ++ Mark.renderCost marks
    ++ Mark.renderDirectives marks

/-- Whether the declarations derived from a concrete type are written. -/
def wantsCrud (options : Options) (symbol : String) : Except LoweringError Bool := do
  if options.crud.isTrue then
    let reserved ← Misuse.lift (options.isReserved symbol)
    return !reserved
  else return false

/-- The blocks of an interface under a name (`emit_interface`). -/
def interfaceBlocks (ctx : Context) (tables : Tables) (origin : Option String)
    (declaration : Interface) (symbol : String) : Except LoweringError (List Block) := do
  let members ← Inheritance.shownMembers ctx origin declaration
  let fields ← members.mapM (memberField ctx)
  let body := fields.map Line.field
  let marks := Mark.ofDocumentation declaration.documentation
  let name := ctx.name symbol
  if Mark.has marks .schema then
    return [.braced .schema body]
  else if Mark.has marks .input then
    return [Block.declare .input name body]
  else if declaration.concrete then
    let primary := Block.braced (.declaration .type name (typeDecoration marks)) body
    if ← wantsCrud ctx.options symbol then
      let derived ← Crud.generate ctx tables origin declaration name
      return primary :: derived
    else return [primary]
  else
    let primary := Block.declare .interface name body
    match Mark.first? marks .fragment with
    | some fragment =>
      return [primary, .braced (.fragment fragment.text) (members.map (.word ·.name))]
    | none => return [primary]

/-- The blocks of an alias under a name (`emit_alias`). -/
def aliasBlocks (ctx : Context) (tables : Tables) (target : Node) (symbol : String) :
    Except LoweringError (List Block × Tables) :=
  match target with
  | .primitive _ => .ok ([.scalar (ctx.name symbol)], tables.registerScalar ctx symbol)
  | .reference other => .ok ([.union (ctx.name symbol) [ctx.name other]], tables)
  | .union types => do
    let (block, tables) ← Union.declare ctx tables types symbol
    return ([block], tables)
  | node => .error (.unsupported node.kind "an alias")

/-- The blocks of a declaration under a name (`emit_top_level_node`). `origin` is the symbol that
names the shape in the graph. -/
def declarationBlocks (ctx : Context) (tables : Tables) (origin : Option String) (node : Node)
    (symbol : String) : Except LoweringError (List Block × Tables) :=
  match node with
  | .alias target _ => aliasBlocks ctx tables target symbol
  | .interface declaration => do
    let blocks ← interfaceBlocks ctx tables origin declaration symbol
    return (blocks, tables)
  | .enum values =>
    let (block, tables) := Union.declareEnum ctx tables symbol values
    .ok ([block], tables)
  | node => .error (.unsupported node.kind "a top level node")

/-- The groups of blocks written so far, what is declared, and the failure that ended the pass. -/
structure Outcome where
  /-- Each declared symbol that was begun, in order. -/
  begun : List (String × Node) := []
  groups : List (List Block) := []
  failure : Option LoweringError := none

/-- Declares symbols one after the other, up to the first failure. -/
def declareAll (ctx : Context) : Tables → List (String × Node) → Outcome
  | _, [] => {}
  | tables, (symbol, node) :: rest =>
    match declarationBlocks ctx tables (some symbol) node symbol with
    | .error error => { begun := [(symbol, node)], failure := some error }
    | .ok (blocks, tables) =>
      let after := declareAll ctx tables rest
      { after with begun := (symbol, node) :: after.begun, groups := blocks :: after.groups }

/-- The text of a group of blocks, with the blank line after it. -/
def groupText (blocks : List Block) : String :=
  Block.renderAll blocks ++ "\n\n"

end Emission

/-- What a pass over a graph writes, piece by piece, and the failure that ended it. -/
structure Emitted where
  /-- Symbols that became other names, in order. -/
  collapsed : List (String × String) := []
  /-- Declarations that were begun, in order. -/
  begun : List (String × Node) := []
  pieces : List String := []
  failure : Option LoweringError := none

/-- A whole pass over a graph (`emit_all`). Nothing is written when it cannot begin. -/
def Graph.emit (options : Options) (graph : Graph) : Emitted :=
  let collapsed := (Collapse.run graph graph.entries).renames
  match Context.prepare options graph with
  | .error error => { collapsed, failure := some error }
  | .ok (ctx, tables) =>
    let outcome := Emission.declareAll ctx tables ctx.emitted
    { collapsed
      begun := outcome.begun
      pieces := "\n" :: outcome.groups.map Emission.groupText
      failure := outcome.failure }

/-- The schema of a graph (`Emitter.emit`). -/
def Graph.schema (options : Options) (graph : Graph) : Except LoweringError String :=
  let emitted := graph.emit options
  match emitted.failure with
  | some error => .error error
  | none => .ok (String.join emitted.pieces)

end SchemaLowering
