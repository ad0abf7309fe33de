import SchemaLowering.Crud.Artifact
import SchemaLowering.Proofs.Traversal

/-!
The four walks over the type of a field, brought to one form. What each of them distinguishes in a
type is its shape, so each is a table over shapes behind one classification. The walks are written
out one by one; that they classify alike is proved of each of them.
-/

namespace SchemaLowering

/-- The shape behind any number of aliases. -/
def Node.unaliased : Node → Node
  | .alias target _ => target.unaliased
  | node => node

namespace Crud

variable {ctx : Context} {tables : Tables} {name : String} {optional : Bool}

/-- What the derived inputs distinguish in the type of a field. -/
inductive FieldShape where
  /-- A scalar of identifiers. -/
  | identifier
  | primitive (kind : Primitive) (expression : String)
  /-- A list that is no relation. -/
  | list (expression : String)
  /-- A relation to many objects of a type. -/
  | many (element expression : String)
  | enumeration (expression : String)
  | scalar (expression : String)
  /-- A relation to one object of a type. -/
  | one (element : String)
  /-- An object shape that is written in place. -/
  | inline (expression : String)
  deriving DecidableEq, Repr

namespace FieldShape

/-- The expression that the field has in the type itself. -/
def expression : FieldShape → String
  | .identifier => identifierScalar
  | .primitive _ expression => expression
  | .list expression => expression
  | .many _ expression => expression
  | .enumeration expression => expression
  | .scalar expression => expression
  | .one element => element
  | .inline expression => expression

/-- The shape of a type that stands behind no alias and has an expression. -/
def classify (ctx : Context) (tables : Tables) (node : Node) (expression : String) : FieldShape :=
  if expression = identifierScalar then .identifier
  else match node with
    | .primitive kind => .primitive kind expression
    | .array (.reference target :: _) => .many (ctx.name target) expression
    | .array _ => .list expression
    | .reference _ =>
      if tables.isEnum expression then .enumeration expression
      else if tables.isScalar expression then .scalar expression
      else .one expression
    | _ => .inline expression

/-- The shape of a type behind its aliases. -/
def ofNode (ctx : Context) (tables : Tables) (type : Node) : Except LoweringError FieldShape :=
  (Expression.lower ctx type.unaliased).map (classify ctx tables type.unaliased)

/-- The shape of a type that may be missing. -/
def ofOptional (ctx : Context) (tables : Tables) :
    Option Node → Except LoweringError (Option FieldShape)
  | none => .ok none
  | some type => (ofNode ctx tables type).map some

/-- The ways in which a type that stands behind no alias has a shape by its expression. -/
inductive Sorts (ctx : Context) (tables : Tables) (expression : String) :
    Node → FieldShape → Prop where
  | identifier {node : Node} (same : expression = identifierScalar) :
      Sorts ctx tables expression node .identifier
  | primitive {kind : Primitive} (other : expression ≠ identifierScalar) :
      Sorts ctx tables expression (.primitive kind) (.primitive kind expression)
  | many {target : String} {rest : List Node} (other : expression ≠ identifierScalar) :
      Sorts ctx tables expression (.array (.reference target :: rest))
        (.many (ctx.name target) expression)
  | list {elements : List Node} (other : expression ≠ identifierScalar)
      (noRelation : ∀ target, elements.head? ≠ some (.reference target)) :
      Sorts ctx tables expression (.array elements) (.list expression)
  | enumeration {target : String} (other : expression ≠ identifierScalar)
      (isEnum : tables.isEnum expression = true) :
      Sorts ctx tables expression (.reference target) (.enumeration expression)
  | scalar {target : String} (other : expression ≠ identifierScalar)
      (notEnum : tables.isEnum expression = false)
      (isScalar : tables.isScalar expression = true) :
      Sorts ctx tables expression (.reference target) (.scalar expression)
  | one {target : String} (other : expression ≠ identifierScalar)
      (notEnum : tables.isEnum expression = false)
      (notScalar : tables.isScalar expression = false) :
      Sorts ctx tables expression (.reference target) (.one expression)
  | inline {node : Node} (other : expression ≠ identifierScalar)
      (notPrimitive : node.primitive? = none) (notArray : ∀ elements, node ≠ .array elements)
      (notReference : ∀ target, node ≠ .reference target) :
      Sorts ctx tables expression node (.inline expression)

theorem sorts_classify (node : Node) (expression : String) :
    Sorts ctx tables expression node (classify ctx tables node expression) := by
  fun_cases classify ctx tables node expression with
  | case1 node same => exact .identifier same
  | case2 other kind => exact .primitive other
  | case3 other target rest => exact .many other
  | case4 other elements notRelation =>
    refine .list other fun target found => ?_
    obtain ⟨rest, rfl⟩ := List.head?_eq_some_iff.mp found
    exact notRelation target rest rfl
  | case5 other target isEnum => exact .enumeration other isEnum
  | case6 other target notEnum isScalar =>
    exact .scalar other (Bool.eq_false_iff.mpr notEnum) isScalar
  | case7 other target notEnum notScalar =>
    exact .one other (Bool.eq_false_iff.mpr notEnum) (Bool.eq_false_iff.mpr notScalar)
  | case8 node other notPrimitive notRelation notArray notReference =>
    refine .inline other ?_ notArray notReference
    cases node with
    | primitive kind => exact absurd rfl (notPrimitive kind)
    | _ => rfl

theorem classify_expression (node : Node) (expression : String) :
    (classify ctx tables node expression).expression = expression := by
  fun_cases classify ctx tables node expression with
  | case1 node same => exact same.symm
  | _ => rfl

/-- The clause that sets a field on creation. Identifiers are never required. -/
def createClause (name : String) (optional : Bool) : FieldShape → Field
  | .identifier => { name, type := .plain identifierScalar }
  | .many element _ => { name, type := .derived element .createMany, required := !optional }
  | .one element => { name, type := .derived element .createOne, required := !optional }
  | shape => { name, type := .plain shape.expression, required := !optional }

/-- The clause that sets a field on update. Identifiers have none. -/
def updateClause? (name : String) : FieldShape → Option Field
  | .identifier => none
  | .many element _ => some { name, type := .derived element .updateMany }
  | .one element => some { name, type := .derived element .updateOne }
  | shape => some { name, type := .plain shape.expression }

/-- The clause that sets a field on many objects at once. Lists and relations have none. -/
def updateManyClause? (name : String) : FieldShape → Option Field
  | .identifier => none
  | .many _ _ => none
  | .list _ => none
  | .one _ => none
  | shape => some { name, type := .plain shape.expression }

/-- The clauses of a shape that is neither an identifier nor primitive, nor a date. -/
def otherFilters (name : String) : FieldShape → List Field
  | .many element _ =>
    quantifierEndings.map fun ending =>
      { name := name ++ ending, type := .derived element .filter }
  | .enumeration expression => valueFilters name expression {}
  | .scalar expression => valueFilters name expression ⟨true, true⟩
  | .one element => [{ name, type := .derived element .filter }]
  | _ => []

/-- The clauses that filter a field. -/
def filterClauses (options : Options) (name : String) :
    FieldShape → Except Misuse (List Field)
  | .identifier => .ok (valueFilters name identifierScalar ⟨true, true⟩)
  | .primitive .string expression => .ok (valueFilters name expression ⟨true, true⟩)
  | .primitive .number expression => .ok (valueFilters name expression ⟨true, false⟩)
  | .primitive .boolean expression => .ok (valueFilters name expression {})
  | shape => do
    if ← options.isDateScalar shape.expression then
      return valueFilters name shape.expression ⟨true, false⟩
    else return otherFilters name shape

end FieldShape

/-! Each walk goes behind the aliases and classifies what it finds there. -/

/-- A walk that goes through aliases, and gives the expression of what stands behind them a value by
its shape, is a table over shapes. -/
theorem walk_eq {α : Type} {walk : Node → Except LoweringError α}
    {body : Node → String → Except LoweringError α} {value : FieldShape → Except LoweringError α}
    (passes : ∀ target documentation, walk (.alias target documentation) = walk target)
    (lowers : ∀ node, (∀ target documentation, node ≠ .alias target documentation) →
      walk node = Expression.lower ctx node >>= body node)
    (sorts : ∀ node expression shape, FieldShape.Sorts ctx tables expression node shape →
      body node expression = value shape) (type : Node) :
    walk type = FieldShape.ofNode ctx tables type >>= value := by
  rw [FieldShape.ofNode, Traversal.map_bind]
  fun_induction Node.unaliased type with
  | case1 target documentation ih => rw [passes, ih]
  | case2 node plain =>
    rw [lowers node plain]
    refine bind_congr fun expression => ?_
    exact sorts node expression _ (FieldShape.sorts_classify node expression)

theorem createClause_walk_eq (type : Node) :
    createClause.walk ctx tables name optional type
      = FieldShape.ofNode ctx tables type >>= fun shape =>
          .ok (some (shape.createClause name optional)) := by
  refine walk_eq (fun _ _ => rfl) (createClause.walk.eq_2 _ _ _ _) ?_ type
  intro node expression shape sorted
  cases sorted with
  | identifier same =>
    subst same
    rfl
  | primitive other | many other =>
    rw [if_neg other]
    rfl
  | list other noRelation =>
    simp only [if_neg other]
    rfl
  | enumeration other isEnum =>
    simp only [if_neg other, isEnumOrScalar, isEnum, Bool.true_or, if_true]
    rfl
  | scalar other notEnum isScalar =>
    simp only [if_neg other, isEnumOrScalar, isScalar, Bool.or_true, if_true]
    rfl
  | one other notEnum notScalar =>
    simp only [if_neg other, isEnumOrScalar, notEnum, notScalar]
    rfl
  | inline other notPrimitive notArray notReference =>
    rw [if_neg other]
    split
    · next elements => exact absurd rfl (notArray elements)
    · next target => exact absurd rfl (notReference target)
    · rfl

theorem updateClause_walk_eq (type : Node) :
    updateClause.walk ctx tables name type
      = FieldShape.ofNode ctx tables type >>= fun shape => .ok (shape.updateClause? name) := by
  refine walk_eq (fun _ _ => rfl) (updateClause.walk.eq_2 _ _ _) ?_ type
  intro node expression shape sorted
  cases sorted with
  | identifier same =>
    rw [if_pos same]
    rfl
  | primitive other | many other =>
    rw [if_neg other]
    rfl
  | list other noRelation =>
    simp only [if_neg other]
    rfl
  | enumeration other isEnum =>
    simp only [if_neg other, isEnumOrScalar, isEnum, Bool.true_or, if_true]
    rfl
  | scalar other notEnum isScalar =>
    simp only [if_neg other, isEnumOrScalar, isScalar, Bool.or_true, if_true]
    rfl
  | one other notEnum notScalar =>
    simp only [if_neg other, isEnumOrScalar, notEnum, notScalar]
    rfl
  | inline other notPrimitive notArray notReference =>
    rw [if_neg other]
    split
    · next elements => exact absurd rfl (notArray elements)
    · next target => exact absurd rfl (notReference target)
    · rfl

theorem updateManyClause_walk_eq (type : Node) :
    updateManyClause.walk ctx tables name type
      = FieldShape.ofNode ctx tables type >>= fun shape => .ok (shape.updateManyClause? name) := by
  refine walk_eq (fun _ _ => rfl) (updateManyClause.walk.eq_2 _ _ _) ?_ type
  intro node expression shape sorted
  cases sorted with
  | identifier same =>
    rw [if_pos same]
    rfl
  | primitive other | many other | list other =>
    rw [if_neg other]
    rfl
  | enumeration other isEnum =>
    simp only [if_neg other, isEnumOrScalar, isEnum, Bool.true_or, if_true]
    rfl
  | scalar other notEnum isScalar =>
    simp only [if_neg other, isEnumOrScalar, isScalar, Bool.or_true, if_true]
    rfl
  | one other notEnum notScalar =>
    simp only [if_neg other, isEnumOrScalar, notEnum, notScalar]
    rfl
  | inline other notPrimitive notArray notReference =>
    rw [if_neg other]
    split
    · next elements => exact absurd rfl (notArray elements)
    · next target => exact absurd rfl (notReference target)
    · rfl

/-- Dates are asked for in the same way behind every shape that gets so far. -/
theorem lift_dated (options : Options) (name expression : String) (others : List Field) :
    (Misuse.lift (options.isDateScalar expression) >>= fun isDate =>
        if isDate then .ok (valueFilters name expression ⟨true, false⟩) else .ok others)
      = Misuse.lift (options.isDateScalar expression >>= fun isDate =>
        if isDate then .ok (valueFilters name expression ⟨true, false⟩) else .ok others) := by
  cases options.isDateScalar expression with
  | error misuse => rfl
  | ok isDate =>
    cases isDate with
    | _ => rfl

theorem filterClauses_walk_eq (type : Node) :
    filterClauses.walk ctx tables name type
      = FieldShape.ofNode ctx tables type >>= fun shape =>
          Misuse.lift (shape.filterClauses ctx.options name) := by
  refine walk_eq (fun _ _ => rfl) (filterClauses.walk.eq_2 _ _ _) ?_ type
  intro node expression shape sorted
  cases sorted with
  | identifier same =>
    rw [if_pos (.inr same), same]
    rfl
  | @primitive kind other =>
    cases kind with
    | any =>
      simp only [Node.primitive?, other, if_neg, reduceCtorEq, not_false_eq_true, or_self,
        Option.some.injEq]
      exact lift_dated ..
    | _ =>
      simp only [Node.primitive?, other, reduceCtorEq, Option.some.injEq, or_false, if_true,
        if_false]
      rfl
  | many other =>
    simp only [Node.primitive?, other, reduceCtorEq, or_self, if_false]
    exact lift_dated ..
  | one other notEnum notScalar =>
    simp only [Node.primitive?, other, reduceCtorEq, or_self, if_false, notEnum, notScalar,
      Bool.false_eq_true]
    exact lift_dated ..
  | list other noRelation =>
    simp only [Node.primitive?, other, reduceCtorEq, or_self, if_false]
    exact lift_dated ..
  | enumeration other isEnum =>
    simp only [Node.primitive?, other, reduceCtorEq, or_self, if_false, isEnum, if_true]
    exact lift_dated ..
  | scalar other notEnum isScalar =>
    simp only [Node.primitive?, other, reduceCtorEq, or_self, if_false, notEnum, isScalar, if_true]
    exact lift_dated ..
  | inline other notPrimitive notArray notReference =>
    simp only [notPrimitive, other, reduceCtorEq, or_self, if_false]
    exact lift_dated ..

/-! The walks over the type of a field, and the inputs that are made by them. -/

/-- The clause that a rule gives a field of a type. -/
def clauseBy (ctx : Context) (tables : Tables) (rule : TypeField → FieldShape → Option Field)
    (field : TypeField) : Except LoweringError (Option Field) :=
  (FieldShape.ofOptional ctx tables field.type).map (·.bind (rule field))

def createRule (field : TypeField) (shape : FieldShape) : Option Field :=
  some (shape.createClause field.name field.optional)

def updateRule (field : TypeField) (shape : FieldShape) : Option Field :=
  shape.updateClause? field.name

def updateManyRule (field : TypeField) (shape : FieldShape) : Option Field :=
  shape.updateManyClause? field.name

/-- A walk over a type that gives each shape a value gives it to a type that may be missing. -/
theorem clauseBy_some (rule : TypeField → FieldShape → Option Field) (name : String) (type : Node)
    (optional : Bool) :
    clauseBy ctx tables rule ⟨name, some type, optional⟩
      = FieldShape.ofNode ctx tables type >>= fun shape =>
          .ok (rule ⟨name, some type, optional⟩ shape) := by
  rw [clauseBy, FieldShape.ofOptional]
  cases FieldShape.ofNode ctx tables type with
  | error error => rfl
  | ok shape => rfl

theorem createClause_eq (field : TypeField) :
    createClause ctx tables field.name field.optional field.type
      = clauseBy ctx tables createRule field := by
  obtain ⟨name, type, optional⟩ := field
  cases type with
  | none => rfl
  | some type =>
    exact (createClause_walk_eq type).trans (clauseBy_some createRule name type optional).symm

theorem updateClause_eq (field : TypeField) :
    updateClause ctx tables field.name field.type = clauseBy ctx tables updateRule field := by
  obtain ⟨name, type, optional⟩ := field
  cases type with
  | none => rfl
  | some type =>
    exact (updateClause_walk_eq type).trans (clauseBy_some updateRule name type optional).symm

theorem updateManyClause_eq (field : TypeField) :
    updateManyClause ctx tables field.name field.type
      = clauseBy ctx tables updateManyRule field := by
  obtain ⟨name, type, optional⟩ := field
  cases type with
  | none => rfl
  | some type =>
    exact (updateManyClause_walk_eq type).trans
      (clauseBy_some updateManyRule name type optional).symm

/-- The filters of a type that may be missing, by its shape. -/
def filtersOf (ctx : Context) (tables : Tables) (name : String) (type : Option Node) :
    Except LoweringError (List Field) := do
  match ← FieldShape.ofOptional ctx tables type with
  | none => return []
  | some shape => Misuse.lift (shape.filterClauses ctx.options name)

theorem filterClauses_eq (name : String) (type : Option Node) :
    filterClauses ctx tables name type = filtersOf ctx tables name type := by
  cases type with
  | none => rfl
  | some type =>
    refine (filterClauses_walk_eq type).trans ?_
    rw [filtersOf, FieldShape.ofOptional]
    cases FieldShape.ofNode ctx tables type with
    | error error => rfl
    | ok shape => rfl

/-- The clauses that a rule gives the fields of a type. -/
def clausesBy (ctx : Context) (tables : Tables) (rule : TypeField → FieldShape → Option Field)
    (fields : List TypeField) : Except LoweringError (List Field) :=
  (fields.mapM (clauseBy ctx tables rule)).map (·.filterMap id)

/-- The clauses of an input, or the field that stands in for missing ones. -/
def filledBody (options : Options) (clauses : List Field) : List Line :=
  let shown := if clauses.isEmpty then
      [{ name := options.placeholder.text, type := .plain "Boolean" }]
    else clauses
  shown.map .field

/-- An input whose clauses are those that a rule gives the fields of the type. -/
def inputBy (ctx : Context) (tables : Tables) (rule : TypeField → FieldShape → Option Field)
    (role : InputRole) (fields : List TypeField) (name : String) : Except LoweringError Block := do
  let clauses ← clausesBy ctx tables rule fields
  return Block.declare .input (derivedName name role) (filledBody ctx.options clauses)

theorem inputBy_eq_ok {rule : TypeField → FieldShape → Option Field} {role : InputRole}
    {fields : List TypeField} {name : String} {block : Block} :
    inputBy ctx tables rule role fields name = .ok block ↔
      ∃ clauses, clausesBy ctx tables rule fields = .ok clauses ∧
        block = Block.declare .input (derivedName name role) (filledBody ctx.options clauses) := by
  rw [inputBy, Traversal.bind_eq_ok]
  refine exists_congr fun clauses => and_congr_right fun _ => ?_
  exact ⟨fun same => (Except.ok.inj same).symm, fun same => congrArg Except.ok same.symm⟩

theorem inputBy_of_walk {rule : TypeField → FieldShape → Option Field}
    {walk : TypeField → Except LoweringError (Option Field)} {role : InputRole}
    (same : ∀ field, walk field = clauseBy ctx tables rule field) (fields : List TypeField)
    (name : String) :
    (fields.mapM walk >>= fun clauses => .ok (Block.declare .input (derivedName name role)
      (inputBody ctx.options clauses))) = inputBy ctx tables rule role fields name := by
  rw [inputBy, clausesBy, Traversal.mapM_congr fun field _ => same field, Traversal.map_bind]
  rfl

theorem createInput_eq (fields : List TypeField) (name : String) :
    createInput ctx tables fields name = inputBy ctx tables createRule .create fields name :=
  inputBy_of_walk createClause_eq fields name

theorem updateInput_eq (fields : List TypeField) (name : String) :
    updateInput ctx tables fields name = inputBy ctx tables updateRule .update fields name :=
  inputBy_of_walk updateClause_eq fields name

theorem updateManyMutationInput_eq (fields : List TypeField) (name : String) :
    updateManyMutationInput ctx tables fields name
      = inputBy ctx tables updateManyRule .updateManyMutation fields name :=
  inputBy_of_walk updateManyClause_eq fields name

end Crud

end SchemaLowering
