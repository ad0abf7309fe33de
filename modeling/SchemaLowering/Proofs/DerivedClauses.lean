import SchemaLowering.Proofs.FieldShapes

/-!
The derived declarations of a type, taken apart: what stands before the braces of each, and from
which field of the type each clause of an input comes.
-/

namespace SchemaLowering

namespace Crud

variable {ctx : Context} {tables : Tables}

/-- A type has the shape into which its expression sorts what stands behind its aliases. -/
theorem FieldShape.sorts_of_ofNode {type : Node} {shape : FieldShape}
    (found : FieldShape.ofNode ctx tables type = .ok shape) :
    ∃ expression, Expression.lower ctx type.unaliased = .ok expression ∧
      FieldShape.Sorts ctx tables expression type.unaliased shape := by
  obtain ⟨expression, lowered, rfl⟩ := Traversal.map_eq_ok.mp found
  exact ⟨expression, lowered, FieldShape.sorts_classify type.unaliased expression⟩

/-- The expression of a shape is that of the type behind its aliases. -/
theorem FieldShape.lowered_of_ofNode {type : Node} {shape : FieldShape}
    (found : FieldShape.ofNode ctx tables type = .ok shape) :
    Expression.lower ctx type.unaliased = .ok shape.expression := by
  obtain ⟨expression, lowered, rfl⟩ := Traversal.map_eq_ok.mp found
  rw [FieldShape.classify_expression, lowered]

/-- A field whose type has a shape. -/
def TypeField.HasShape (ctx : Context) (tables : Tables) (field : TypeField) (shape : FieldShape) :
    Prop :=
  ∃ type, field.type = some type ∧ FieldShape.ofNode ctx tables type = .ok shape

theorem TypeField.hasShape_of_ofOptional {field : TypeField} {shape : FieldShape}
    (found : FieldShape.ofOptional ctx tables field.type = .ok (some shape)) :
    field.HasShape ctx tables shape := by
  cases type : field.type with
  | none =>
    rw [type] at found
    cases found
  | some node =>
    rw [type] at found
    obtain ⟨shape, ofType, same⟩ := Traversal.map_eq_ok.mp found
    cases same
    exact ⟨node, type, ofType⟩

/-- A clause of an input comes from a field by the rule of the input. -/
theorem mem_clausesBy {rule : TypeField → FieldShape → Option Field} {fields : List TypeField}
    {clauses : List Field} (found : clausesBy ctx tables rule fields = .ok clauses) {clause : Field}
    (member : clause ∈ clauses) :
    ∃ field ∈ fields, ∃ shape,
      field.HasShape ctx tables shape ∧ rule field shape = some clause := by
  obtain ⟨each, traversed, same⟩ := Traversal.map_eq_ok.mp found
  cases same
  obtain ⟨result, isResult, given⟩ := List.mem_filterMap.mp member
  obtain ⟨field, isField, ofField⟩ := Traversal.exists_of_mem_results traversed isResult
  obtain ⟨shape, shaped, same⟩ := Traversal.map_eq_ok.mp ofField
  cases same
  cases shape with
  | none => cases given
  | some shape => exact ⟨field, isField, shape, TypeField.hasShape_of_ofOptional shaped, given⟩

/-- The field that stands in for missing clauses. -/
def standIn (options : Options) : Field :=
  { name := options.placeholder.text, type := .plain "Boolean" }

theorem mem_inputBody {options : Options} {clauses : List Field} {line : Line}
    (member : line ∈ filledBody options clauses) :
    line = .field (standIn options) ∨ ∃ clause ∈ clauses, line = .field clause := by
  obtain ⟨clause, shown, rfl⟩ := List.mem_map.mp member
  split at shown
  · exact .inl (congrArg Line.field (List.mem_singleton.mp shown))
  · exact .inr ⟨clause, shown, rfl⟩

/-- A line of an input whose clauses follow a rule is the stand-in or comes from a field. -/
theorem mem_inputBody_of_clausesBy {rule : TypeField → FieldShape → Option Field}
    {fields : List TypeField} {clauses : List Field}
    (found : clausesBy ctx tables rule fields = .ok clauses) {line : Line}
    (member : line ∈ filledBody ctx.options clauses) :
    line = .field (standIn ctx.options) ∨
      ∃ field ∈ fields, ∃ shape clause, field.HasShape ctx tables shape ∧
        rule field shape = some clause ∧ line = .field clause := by
  rcases mem_inputBody member with standIn | ⟨clause, isClause, rfl⟩
  · exact .inl standIn
  · obtain ⟨field, isField, shape, shaped, ruled⟩ := mem_clausesBy found isClause
    exact .inr ⟨field, isField, shape, clause, shaped, ruled, rfl⟩

/-- A clause that combines filters of a type. -/
def combination (name combinator : String) : Field :=
  { name := combinator, type := .derivedList name .filter }

/-- A filter input has the filters of its fields, and then those that combine filters. -/
theorem whereInput_eq_ok {fields : List TypeField} {name : String} {block : Block}
    (found : whereInput ctx tables fields name = .ok block) :
    ∃ clauses : List Field,
      block = Block.declare .input (derivedName name .filter)
        ((clauses ++ combinators.map (combination name)).map .field) ∧
      ∀ clause ∈ clauses, ∃ field ∈ fields, ∃ shape own, field.HasShape ctx tables shape ∧
        FieldShape.filterClauses ctx.options field.name shape = .ok own ∧ clause ∈ own := by
  obtain ⟨each, traversed, same⟩ := Traversal.bind_eq_ok.mp found
  cases same
  refine ⟨each.flatten, rfl, ?_⟩
  intro clause member
  obtain ⟨own, isOwn, inOwn⟩ := List.mem_flatten.mp member
  obtain ⟨field, isField, ofField⟩ := Traversal.exists_of_mem_results traversed isOwn
  rw [filterClauses_eq] at ofField
  obtain ⟨shape, shaped, ofField⟩ := Traversal.bind_eq_ok.mp ofField
  cases shape with
  | none =>
    cases ofField
    cases inOwn
  | some shape =>
    exact ⟨field, isField, shape, own, TypeField.hasShape_of_ofOptional shaped,
      Traversal.mapError_eq_ok.mp ofField, inOwn⟩

/-- The inputs that set fields, by the rules that they follow. -/
theorem createInput_eq_ok {fields : List TypeField} {name : String} {block : Block}
    (written : createInput ctx tables fields name = .ok block) :
    ∃ clauses, clausesBy ctx tables createRule fields = .ok clauses ∧
      block = Block.declare .input (derivedName name .create) (filledBody ctx.options clauses) :=
  inputBy_eq_ok.mp ((createInput_eq fields name).symm.trans written)

theorem updateInput_eq_ok {fields : List TypeField} {name : String} {block : Block}
    (written : updateInput ctx tables fields name = .ok block) :
    ∃ clauses, clausesBy ctx tables updateRule fields = .ok clauses ∧
      block = Block.declare .input (derivedName name .update) (filledBody ctx.options clauses) :=
  inputBy_eq_ok.mp ((updateInput_eq fields name).symm.trans written)

theorem updateManyMutationInput_eq_ok {fields : List TypeField} {name : String} {block : Block}
    (written : updateManyMutationInput ctx tables fields name = .ok block) :
    ∃ clauses, clausesBy ctx tables updateManyRule fields = .ok clauses ∧
      block = Block.declare .input (derivedName name .updateManyMutation)
        (filledBody ctx.options clauses) :=
  inputBy_eq_ok.mp ((updateManyMutationInput_eq fields name).symm.trans written)

/-- What stands before the braces of a derived declaration. -/
def Artifact.header (name : String) : Artifact → Header
  | .batchPayload => .declaration .type (derivedName name .batch) ""
  | .createInput => .declaration .input (derivedName name .create) ""
  | .createManyInput => .declaration .input (derivedName name .createMany) ""
  | .createOneInput => .declaration .input (derivedName name .createOne) ""
  | .orderByInput => .declaration .enum (derivedName name .order) ""
  | .updateInput => .declaration .input (derivedName name .update) ""
  | .updateManyInput => .declaration .input (derivedName name .updateMany) ""
  | .updateManyMutationInput => .declaration .input (derivedName name .updateManyMutation) ""
  | .updateOneInput => .declaration .input (derivedName name .updateOne) ""
  | .whereInput => .declaration .input (derivedName name .filter) ""
  | .whereUniqueInput => .declaration .input (derivedName name .unique) ""
  | .queryExtension => .extension .query
  | .mutationExtension => .extension .mutation

theorem Artifact.block_eq_braced {fields : List TypeField} {name : String} {artifact : Artifact}
    {block : Block} (written : artifact.block ctx tables fields name = .ok block) :
    ∃ body, block = .braced (artifact.header name) body := by
  cases artifact with
  | createInput =>
    obtain ⟨clauses, _, rfl⟩ := createInput_eq_ok written
    exact ⟨_, rfl⟩
  | updateInput =>
    obtain ⟨clauses, _, rfl⟩ := updateInput_eq_ok written
    exact ⟨_, rfl⟩
  | updateManyMutationInput =>
    obtain ⟨clauses, _, rfl⟩ := updateManyMutationInput_eq_ok written
    exact ⟨_, rfl⟩
  | whereInput =>
    obtain ⟨clauses, rfl, _⟩ := whereInput_eq_ok written
    exact ⟨_, rfl⟩
  | _ =>
    cases written
    exact ⟨_, rfl⟩

end Crud

end SchemaLowering
