import SchemaLowering.Lowering.Context
import SchemaLowering.Sdl.Block

/-!
Unions. The schema language has unions of object types only, so a union of texts or of enums is
written as one enum.
-/

namespace SchemaLowering

namespace Union

/-- An enum with the given values, whose name is registered (`UnionEmitter.emit_enum`). -/
def declareEnum (ctx : Context) (tables : Tables) (name : String) (values : List String) :
    Block × Tables :=
  (Block.declare .enum (ctx.name name) (values.map .word), tables.registerEnum ctx name)

/-- The texts of a union that has nothing else. -/
def literals? : List Node → Option (List String)
  | [] => some []
  | .literal value :: rest => (literals? rest).map (value :: ·)
  | _ => none

/-- The symbols of a union that refers to other shapes only. -/
def references : List Node → Except UnionError (List String)
  | [] => .ok []
  | .reference target :: rest => do
    let targets ← references rest
    return target :: targets
  | node :: _ => .error (.notReference node.kind)

/-- The values of all the enums that a union consists of. -/
def enumValues (graph : Graph) : List String → Except LoweringError (List String)
  | [] => .ok []
  | target :: rest => do
    match ← graph.resolve target with
    | .enum values =>
      let others ← enumValues graph rest
      return values ++ others
    | node => .error (.union (.notEnum node.kind target))

/-- The names of all the interfaces that a union consists of. -/
def interfaceNames (ctx : Context) : List String → Except LoweringError (List String)
  | [] => .ok []
  | target :: rest => do
    match ← ctx.graph.resolve target with
    | .interface _ =>
      let others ← interfaceNames ctx rest
      return ctx.name target :: others
    | node => .error (.union (.notInterface node.kind target))

/-- The declaration of a union under a name (`UnionEmitter.emit`). Its first member decides what the
others have to be. -/
def declare (ctx : Context) (tables : Tables) (types : List Node) (name : String) :
    Except LoweringError (Block × Tables) :=
  match types with
  | [] => .error (.union (.empty name))
  | _ =>
    match literals? types with
    | some values => .ok (declareEnum ctx tables name values.eraseDups)
    | none => do
      let targets ← (references types).mapError .union
      match targets with
      | [] => .error (.union (.empty name))
      | first :: _ =>
        match ← ctx.graph.resolve first with
        | .enum _ =>
          let values ← enumValues ctx.graph targets
          return declareEnum ctx tables name values.eraseDups
        | .interface _ =>
          let names ← interfaceNames ctx targets
          return (.union (ctx.name name) names, tables)
        | node => .error (.union (.unsupported node.kind))

end Union

end SchemaLowering
