import SchemaLowering.Mark
import SchemaLowering.Lowering.Error
import SchemaLowering.Text.Identifier

/-!
What a pass over a type graph knows before anything is written: which symbols are only other names,
which are declared, and which declared names are enums or scalars.
-/

namespace SchemaLowering

/-- The scalar of identifiers. -/
def identifierScalar : String := "ID"

/-- The fixed part of a pass (`EmitContext`). -/
structure Context where
  graph : Graph
  /-- The symbols that are declared, in order. -/
  emitted : List (String × Node)
  options : Options
  /-- Symbols that stand for another name. -/
  renames : List (String × String)

/-- The names that a pass has declared as enums and as scalars, in order. -/
structure Tables where
  enums : List String := []
  scalars : List String := []
  deriving DecidableEq, Repr

namespace Graph

/-- The shape of a symbol, which has to be there (`resolve`). -/
def resolve (graph : Graph) (symbol : String) : Except LoweringError Node :=
  match graph.find? symbol with
  | some node => .ok node
  | none => .error (.unresolved symbol)

end Graph

namespace Context

/-- The name under which a symbol is written (`name`). -/
def name (ctx : Context) (symbol : String) : String :=
  Text.identifier ((ctx.renames.lookup symbol).getD symbol)

end Context

namespace Tables

/-- A list with a name at its end, unless it is there already. -/
def adjoin (names : List String) (name : String) : List String :=
  if name ∈ names then names else names ++ [name]

/-- Registers the name of an enum (`register_enum`). -/
def registerEnum (tables : Tables) (ctx : Context) (symbol : String) : Tables :=
  { tables with enums := adjoin tables.enums (ctx.name symbol) }

/-- Registers the name of a scalar (`register_scalar`). -/
def registerScalar (tables : Tables) (ctx : Context) (symbol : String) : Tables :=
  { tables with scalars := adjoin tables.scalars (ctx.name symbol) }

def isEnum (tables : Tables) (name : String) : Bool :=
  name ∈ tables.enums

def isScalar (tables : Tables) (name : String) : Bool :=
  name ∈ tables.scalars

end Tables

namespace Collapse

/-- The name that an alias merely stands for: an enum or primitive symbol it refers to, or the
identifier scalar when it is marked as one (`_collapse_alias`). -/
def target? (graph : Graph) : Node → Except LoweringError (Option String)
  | .alias target documentation => do
    let marked :=
      if Mark.has (Mark.ofDocumentation documentation) .identifier then
        some identifierScalar
      else none
    match target with
    | .reference symbol =>
      let referenced ← graph.resolve symbol
      if referenced.isPrimitive || referenced.isEnum then return some symbol else return marked
    | _ => return marked
  | _ => .ok none

/-- The symbols sorted into other names and declarations, up to the first failure. -/
structure Outcome where
  renames : List (String × String)
  emitted : List (String × Node)
  failure : Option LoweringError

/-- Sorts the symbols of a graph (the first loop of `Preprocessor.run`). -/
def run (graph : Graph) : List (String × Node) → Outcome
  | [] => ⟨[], [], none⟩
  | (symbol, node) :: rest =>
    match target? graph node with
    | .error error => ⟨[], [], some error⟩
    | .ok (some target) =>
      let after := run graph rest
      { after with renames := (symbol, target) :: after.renames }
    | .ok none =>
      let after := run graph rest
      { after with emitted := (symbol, node) :: after.emitted }

/-- Whether a declaration is written as an enum: an enum, or an alias of a union of texts or of one
that begins with an enum (`_collapses_to_enum`). -/
def declaresEnum (graph : Graph) : Node → Bool
  | .enum _ => true
  | .alias (.union types) _ =>
    match types with
    | [] => false
    | first :: _ =>
      types.all (·.isLiteral) ||
        match first with
        | .reference symbol => (graph.find? symbol).any (·.isEnum)
        | _ => false
  | _ => false

/-- Whether a declaration is written as a scalar. -/
def declaresScalar : Node → Bool
  | .alias target _ => target.isPrimitive
  | _ => false

/-- Registers the name of a declaration that is an enum or a scalar (the second loop of
`Preprocessor.run`, for one declaration). -/
def classify (ctx : Context) (tables : Tables) (entry : String × Node) : Tables :=
  if declaresEnum ctx.graph entry.2 then tables.registerEnum ctx entry.1
  else if declaresScalar entry.2 then tables.registerScalar ctx entry.1
  else tables

end Collapse

/-- The context of a new pass over a graph, with the names it declares as enums and scalars
(`Preprocessor.run`). -/
def Context.prepare (options : Options) (graph : Graph) :
    Except LoweringError (Context × Tables) :=
  let outcome := Collapse.run graph graph.entries
  match outcome.failure with
  | some error => .error error
  | none =>
    let ctx : Context := ⟨graph, outcome.emitted, options, outcome.renames⟩
    .ok (ctx, ctx.emitted.foldl (Collapse.classify ctx) {})

end SchemaLowering
