import SchemaLowering.Lowering.Expression
import SchemaLowering.Sdl.Block

/-!
Clauses of the derived inputs: how a field of a type is set on creation and on update, and by which
fields it is filtered. Each of the four walks over the type of a field goes through its aliases and
looks at what stands behind them by itself.
-/

namespace SchemaLowering

namespace Crud

/-- Whether an expression is the name of an enum or of a scalar (`_is_enum_or_scalar`). -/
def isEnumOrScalar (tables : Tables) (expression : String) : Bool :=
  tables.isEnum expression || tables.isScalar expression

/-- The clause that sets a field on creation (`_create_clause`). Identifiers are never required. -/
def createClause (ctx : Context) (tables : Tables) (name : String) (optional : Bool) :
    Option Node → Except LoweringError (Option Field)
  | none => .ok none
  | some type => walk type
where
  walk : Node → Except LoweringError (Option Field)
    | .alias target _ => walk target
    | node => do
      let expression ← Expression.lower ctx node
      let required := !optional
      if expression = identifierScalar then return some { name, type := .plain expression }
      match node with
      | .array elements =>
        match elements.head? with
        | some (.reference target) =>
          return some { name, type := .derived (ctx.name target) .createMany, required }
        | _ => return some { name, type := .plain expression, required }
      | .reference _ =>
        if isEnumOrScalar tables expression then
          return some { name, type := .plain expression, required }
        else return some { name, type := .derived expression .createOne, required }
      | _ => return some { name, type := .plain expression, required }

/-- The clause that sets a field on update (`_update_clause`). Identifiers have none. -/
def updateClause (ctx : Context) (tables : Tables) (name : String) :
    Option Node → Except LoweringError (Option Field)
  | none => .ok none
  | some type => walk type
where
  walk : Node → Except LoweringError (Option Field)
    | .alias target _ => walk target
    | node => do
      let expression ← Expression.lower ctx node
      if expression = identifierScalar then return none
      match node with
      | .array elements =>
        match elements.head? with
        | some (.reference target) =>
          return some { name, type := .derived (ctx.name target) .updateMany }
        | _ => return some { name, type := .plain expression }
      | .reference _ =>
        if isEnumOrScalar tables expression then
          return some { name, type := .plain expression }
        else return some { name, type := .derived expression .updateOne }
      | _ => return some { name, type := .plain expression }

/-- The clause that sets a field on many objects at once (`_update_many_mutation_clause`). Lists and
relations have none. -/
def updateManyClause (ctx : Context) (tables : Tables) (name : String) :
    Option Node → Except LoweringError (Option Field)
  | none => .ok none
  | some type => walk type
where
  walk : Node → Except LoweringError (Option Field)
    | .alias target _ => walk target
    | node => do
      let expression ← Expression.lower ctx node
      if expression = identifierScalar then return none
      match node with
      | .array _ => return none
      | .reference _ =>
        if isEnumOrScalar tables expression then
          return some { name, type := .plain expression }
        else return none
      | _ => return some { name, type := .plain expression }

/-- The comparisons that a field admits beyond equality and membership. -/
structure Comparisons where
  ordering : Bool := false
  substring : Bool := false

def orderingEndings : List String :=
  ["_lt", "_lte", "_gt", "_gte"]

def substringEndings : List String :=
  ["_contains", "_not_contains", "_starts_with", "_not_starts_with", "_ends_with",
   "_not_ends_with"]

/-- The quantifiers over a relation to many objects. -/
def quantifierEndings : List String :=
  ["_every", "_some", "_none"]

/-- The clauses that filter a field by value (`_filter_clauses`). -/
def valueFilters (name expression : String) (comparisons : Comparisons) : List Field :=
  [{ name, type := .plain expression },
   { name := name ++ "_not", type := .plain expression },
   { name := name ++ "_in", type := .listOf expression },
   { name := name ++ "_not_in", type := .listOf expression }]
  ++ (if comparisons.ordering then orderingEndings else []).map
      (fun ending => { name := name ++ ending, type := .plain expression })
  ++ (if comparisons.substring then substringEndings else []).map
      (fun ending => { name := name ++ ending, type := .plain expression })

/-- The clauses that filter a field (`where_clauses`). Which ones they are depends on the kind of
primitive that its type is, then on its expression, then on the shape of its type. -/
def filterClauses (ctx : Context) (tables : Tables) (name : String) :
    Option Node → Except LoweringError (List Field)
  | none => .ok []
  | some type => walk type
where
  walk : Node → Except LoweringError (List Field)
    | .alias target _ => walk target
    | node => do
      let expression ← Expression.lower ctx node
      let kind := node.primitive?
      if kind = some .string ∨ expression = identifierScalar then
        return valueFilters name expression ⟨true, true⟩
      if kind = some .number then return valueFilters name expression ⟨true, false⟩
      if kind = some .boolean then return valueFilters name expression {}
      if ← Misuse.lift (ctx.options.isDateScalar expression) then
        return valueFilters name expression ⟨true, false⟩
      match node with
      | .array elements =>
        match elements.head? with
        | some (.reference target) =>
          let element ← Expression.lower ctx (.reference target)
          return quantifierEndings.map fun ending =>
            { name := name ++ ending, type := .derived element .filter }
        | _ => return []
      | .reference _ =>
        if tables.isEnum expression then return valueFilters name expression {}
        else if tables.isScalar expression then return valueFilters name expression ⟨true, true⟩
        else return [{ name, type := .derived expression .filter }]
      | _ => return []

end Crud

end SchemaLowering
