import SchemaLowering.Lowering.Inheritance

/-!
Shapes as type expressions of the schema language.
-/

namespace SchemaLowering

/-- The scalar of a primitive shape (`PRIMITIVE_SCALARS`). A shape that admits anything has none. -/
def Primitive.scalar? : Primitive → Option String
  | .string => some "String"
  | .number => some "Float"
  | .boolean => some "Boolean"
  | .any => none

namespace Expression

/-- A field of a shape that is written in place. -/
def fieldText (name type : String) : String :=
  Text.identifier name ++ ": " ++ type

/-- A member of a shape that is written in place, with the expression of its type. -/
def inlineField (lowerType : Node → Except LoweringError String) (member : Property) :
    Except LoweringError String := do
  let type ← match member.signature with
    | none => pure ""
    | some signature => lowerType signature
  return fieldText member.name type

/-- The members of a shape that is written in place, or the field that stands in for missing
ones. -/
def inlineText (options : Options) (lowerType : Node → Except LoweringError String) :
    List Property → Except LoweringError String
  | [] => do
    let name ← Misuse.lift options.placeholderName
    return fieldText name "Boolean"
  | members => do
    let fields ← members.mapM (inlineField lowerType)
    return ", ".intercalate fields

/-- The expression of a shape (`lower`), by a recursion of bounded depth. A shape written in place
may inherit from an interface whose own members contain it, so that no depth suffices. -/
def lowerWithin (ctx : Context) : Nat → Option String → Node → Except LoweringError String
  | 0, _, _ => .error .endless
  | depth + 1, origin, node =>
    match node with
    | .primitive kind =>
      match kind.scalar? with
      | some scalar => .ok scalar
      | none => .error (.unsupported node.kind "an expression")
    | .reference target => .ok (ctx.name target)
    | .array elements => do
      let parts ← elements.mapM (lowerWithin ctx depth none)
      return "[" ++ " | ".intercalate parts ++ "]"
    | .object _ | .interface _ => do
      let members ← Inheritance.inlineMembers ctx.graph origin node
      inlineText ctx.options (lowerWithin ctx depth none) members
    | _ => .error (.unsupported node.kind "an expression")

/-- No expression that ends is deeper than the number of shapes that can occur in it. -/
def depthBound (ctx : Context) (node : Node) : Nat :=
  ctx.graph.weight + node.weight + 1

/-- The expression of a shape. `origin` is the symbol that names it, if it stands in the graph under
one. -/
def lowerNamed (ctx : Context) (origin : Option String) (node : Node) :
    Except LoweringError String :=
  lowerWithin ctx (depthBound ctx node) origin node

/-- The expression of a shape that is written in place. -/
def lower (ctx : Context) (node : Node) : Except LoweringError String :=
  lowerNamed ctx none node

/-- The expression of a shape that may be missing. -/
def lowerOptional (ctx : Context) : Option Node → Except LoweringError String
  | none => .ok ""
  | some node => lower ctx node

end Expression

end SchemaLowering
