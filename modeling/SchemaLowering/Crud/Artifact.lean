import SchemaLowering.Crud.Clause

/-!
Declarations derived from a concrete type, so that its objects can be created, changed, ordered and
queried: inputs, an enum of orderings, the payload of batches and extensions of the root types.
-/

namespace SchemaLowering

namespace Crud

/-- The derived declarations. -/
inductive Artifact where
  | batchPayload
  | createInput
  | createManyInput
  | createOneInput
  | orderByInput
  | updateInput
  | updateManyInput
  | updateManyMutationInput
  | updateOneInput
  | whereInput
  | whereUniqueInput
  | queryExtension
  | mutationExtension
  deriving DecidableEq, Repr

/-- All derived declarations, in the order in which they are written. -/
def Artifact.all : List Artifact :=
  [.batchPayload, .createInput, .createManyInput, .createOneInput, .orderByInput, .updateInput,
   .updateManyInput, .updateManyMutationInput, .updateOneInput, .whereInput, .whereUniqueInput,
   .queryExtension, .mutationExtension]

/-- A field of a type as the derived declarations see it. -/
structure TypeField where
  name : String
  type : Option Node
  optional : Bool

/-- A property, or a method without parameters. Methods with parameters are left out
(`_fields`, for one member). -/
def TypeField.ofMember? : Member → Option TypeField
  | .property declaration =>
    some ⟨Text.identifier declaration.name, declaration.signature, declaration.optional⟩
  | .method declaration =>
    if declaration.parameters.isEmpty then
      some ⟨Text.identifier declaration.name, declaration.returns, declaration.optional⟩
    else none

/-- The fields of an interface that the derived declarations are about (`_fields`). -/
def fields (ctx : Context) (origin : Option String) (declaration : Interface) :
    Except LoweringError (List TypeField) := do
  let members ← Inheritance.shownMembers ctx origin declaration
  return members.filterMap TypeField.ofMember?

/-- The clauses that an input has for fields, or the field that stands in for missing ones
(`_input_lines`). -/
def inputBody (options : Options) (clauses : List (Option Field)) : List Line :=
  let given := clauses.filterMap id
  let shown := if given.isEmpty then
      [{ name := options.placeholder.text, type := .plain "Boolean" }]
    else given
  shown.map .field

def derivedName (name : String) (role : InputRole) : String :=
  name ++ role.ending

/-- An input whose only field connects objects of the type (`create_many_input`,
`create_one_input`, `update_many_input` and `update_one_input`). -/
def connectInput (name : String) (role : InputRole) (type : FieldType) : Block :=
  Block.declare .input (derivedName name role) [.field { name := "connect", type }]

/-- The payload of operations on many objects (`batch_payload`). -/
def batchPayload (name : String) : Block :=
  Block.declare .type (derivedName name .batch)
    [.field { name := "count", type := .plain "Long" }]

/-- What an object is created from (`create_input`). -/
def createInput (ctx : Context) (tables : Tables) (fields : List TypeField) (name : String) :
    Except LoweringError Block := do
  let clauses ← fields.mapM fun field =>
    createClause ctx tables field.name field.optional field.type
  return Block.declare .input (derivedName name .create) (inputBody ctx.options clauses)

/-- What an object is updated with (`update_input`). -/
def updateInput (ctx : Context) (tables : Tables) (fields : List TypeField) (name : String) :
    Except LoweringError Block := do
  let clauses ← fields.mapM fun field => updateClause ctx tables field.name field.type
  return Block.declare .input (derivedName name .update) (inputBody ctx.options clauses)

/-- What many objects are updated with (`update_many_mutation_input`). -/
def updateManyMutationInput (ctx : Context) (tables : Tables) (fields : List TypeField)
    (name : String) : Except LoweringError Block := do
  let clauses ← fields.mapM fun field => updateManyClause ctx tables field.name field.type
  return Block.declare .input (derivedName name .updateManyMutation)
    (inputBody ctx.options clauses)

/-- The two orderings by a field. -/
def orderings (field : String) : List String :=
  [field ++ "_ASC", field ++ "_DESC"]

/-- The orderings of objects (`order_by_input`). -/
def orderByInput (options : Options) (fields : List TypeField) (name : String) : Block :=
  let values := if fields.isEmpty then orderings options.placeholder.text
    else fields.flatMap (orderings ·.name)
  Block.declare .enum (derivedName name .order) (values.map .word)

/-- The ways to combine filters. -/
def combinators : List String :=
  ["AND", "OR", "NOT"]

/-- What objects are filtered by (`where_input`). -/
def whereInput (ctx : Context) (tables : Tables) (fields : List TypeField) (name : String) :
    Except LoweringError Block := do
  let clauses ← fields.mapM fun field => filterClauses ctx tables field.name field.type
  let combined : List Field := combinators.map fun combinator =>
    { name := combinator, type := .derivedList name .filter }
  return Block.declare .input (derivedName name .filter)
    ((clauses.flatten ++ combined).map .field)

/-- What one object is chosen by (`where_unique_input`). -/
def whereUniqueInput (name : String) : Block :=
  Block.declare .input (derivedName name .unique)
    [.field { name := "id", type := .plain identifierScalar, required := true }]

/-- How objects are queried (`query_extension`). -/
def queryExtension (name : String) : Block :=
  let field := Text.lowerFirst name
  let arguments := ", ".intercalate
    ["where: " ++ derivedName name .filter, "orderBy: " ++ derivedName name .order, "skip: Int",
     "after: String", "before: String", "first: Int", "last: Int"]
  .braced (.extension .query)
    [.field { name := field, arguments := some "id: ID!", type := .plain name },
     .field { name := field ++ "s", arguments := some arguments,
              type := .plain ("[" ++ name ++ "]"), required := true }]

/-- How objects are created, changed and deleted (`mutation_extension`). -/
def mutationExtension (name : String) : Block :=
  let pascal := Text.upperFirst name
  let create := derivedName name .create
  let update := derivedName name .update
  let selection := "where: " ++ derivedName name .filter
  .braced (.extension .mutation)
    [.field { name := "create" ++ pascal, arguments := some ("data: " ++ create ++ "!"),
              type := .plain name, required := true },
     .field { name := "delete" ++ pascal, arguments := some "id: ID!", type := .plain name },
     .field { name := "deleteMany" ++ pascal ++ "s", arguments := some selection,
              type := .derived name .batch, required := true },
     .field { name := "update" ++ pascal,
              arguments := some ("id: ID!, data: " ++ update ++ "!"), type := .plain name },
     .field { name := "updateMany" ++ pascal ++ "s",
              arguments :=
                some ("data: " ++ derivedName name .updateManyMutation ++ "!, " ++ selection),
              type := .derived name .batch, required := true },
     .field { name := "upsert" ++ pascal,
              arguments := some ("id: ID!, create: " ++ create ++ "!, update: " ++ update ++ "!"),
              type := .plain name, required := true }]

/-- A derived declaration of a type with the given fields and name. -/
def Artifact.block (ctx : Context) (tables : Tables) (fields : List TypeField) (name : String) :
    Artifact → Except LoweringError Block
  | .batchPayload => .ok (Crud.batchPayload name)
  | .createInput => Crud.createInput ctx tables fields name
  | .createManyInput => .ok (connectInput name .createMany (.derivedList name .unique))
  | .createOneInput => .ok (connectInput name .createOne (.derived name .unique))
  | .orderByInput => .ok (Crud.orderByInput ctx.options fields name)
  | .updateInput => Crud.updateInput ctx tables fields name
  | .updateManyInput => .ok (connectInput name .updateMany (.derivedList name .unique))
  | .updateManyMutationInput => Crud.updateManyMutationInput ctx tables fields name
  | .updateOneInput => .ok (connectInput name .updateOne (.derived name .unique))
  | .whereInput => Crud.whereInput ctx tables fields name
  | .whereUniqueInput => .ok (Crud.whereUniqueInput name)
  | .queryExtension => .ok (Crud.queryExtension name)
  | .mutationExtension => .ok (Crud.mutationExtension name)

/-- Whether a derived declaration depends on the fields of the type. -/
def Artifact.needsFields : Artifact → Bool
  | .createInput | .orderByInput | .updateInput | .updateManyMutationInput | .whereInput => true
  | _ => false

/-- All derived declarations of an interface (`generate`). -/
def generate (ctx : Context) (tables : Tables) (origin : Option String) (declaration : Interface)
    (name : String) : Except LoweringError (List Block) := do
  let fields ← Crud.fields ctx origin declaration
  Artifact.all.mapM (Artifact.block ctx tables fields name)

end Crud

end SchemaLowering
