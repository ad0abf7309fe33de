import SchemaLowering.Proofs.DerivedNames

/-!
The clauses of one field in the derived inputs. Creation, update, update of many objects and filters
look at the type of the field in the same way, so they fail together, and each of their clauses
tells what the others are.
-/

namespace SchemaLowering

/-- The input by which a relation is updated in place of the one by which it is created. -/
def FieldType.forUpdate : FieldType → FieldType
  | .derived element .createOne => .derived element .updateOne
  | .derived element .createMany => .derived element .updateMany
  | type => type

/-- A clause that sets a field on creation, turned into one that sets it on update. -/
def Field.forUpdate (clause : Field) : Field :=
  { clause with type := clause.type.forUpdate, required := false }

/-- Date scalars that are given as a list of texts are looked up in it. -/
theorem Options.isDateScalar_listed {options : Options} {dates : List String}
    (listed : options.dateScalars = some (.arr (dates.map .str))) (expression : String) :
    options.isDateScalar expression = .ok (decide (expression ∈ dates)) := by
  simp only [isDateScalar, listed, List.any_map, Function.comp_def, Except.ok.injEq]
  apply Bool.eq_iff_iff.mpr
  simp

namespace Crud

variable {ctx : Context} {tables : Tables} {options : Options} {name element : String}

namespace FieldShape

/-- Whether a field holds several values or objects of another type. -/
def isLinked : FieldShape → Bool
  | .list _ | .many _ _ | .one _ => true
  | _ => false

variable {node : Node} {expression : String}

theorem classify_eq_identifier_iff :
    classify ctx tables node expression = .identifier ↔ expression = identifierScalar := by
  fun_cases classify ctx tables node expression with
  | case1 node same => exact iff_of_true rfl same
  | case2 other | case3 other | case4 other | case5 other | case6 other | case7 other =>
    exact iff_of_false (by simp) other
  | case8 node other => exact iff_of_false (by simp) other

/-- A shape is linked if it is that of a list, or of a reference to neither an enum nor a scalar. -/
theorem isLinked_classify_iff :
    (classify ctx tables node expression).isLinked = true ↔
      expression ≠ identifierScalar ∧
        ((∃ elements, node = .array elements) ∨
          ∃ target, node = .reference target ∧ tables.isEnum expression = false ∧
            tables.isScalar expression = false) := by
  fun_cases classify ctx tables node expression with
  | case1 node same => simp [isLinked, same]
  | case2 other kind => simp [isLinked]
  | case3 other target rest => simp [isLinked, other]
  | case4 other elements notRelation => simp [isLinked, other]
  | case5 other target isEnum => simp [isLinked, isEnum]
  | case6 other target notEnum isScalar => simp [isLinked, isScalar]
  | case7 other target notEnum notScalar => simp [isLinked, other, notEnum, notScalar]
  | case8 node other notPrimitive notRelation notArray notReference =>
    simp only [isLinked, Bool.false_eq_true, false_iff, not_and, not_or]
    intro _
    constructor
    · rintro ⟨elements, isArray⟩
      exact notArray elements isArray
    · rintro ⟨target, isReference, _⟩
      exact notReference target isReference

end FieldShape

/-! What one clause says about the others. -/

theorem updateClause?_eq (name : String) (optional : Bool) (shape : FieldShape) :
    FieldShape.updateClause? name shape
      = if shape = .identifier then none
        else some (FieldShape.createClause name optional shape).forUpdate := by
  cases shape with
  | _ => rfl

theorem updateManyClause?_eq (name : String) (shape : FieldShape) :
    FieldShape.updateManyClause? name shape
      = if shape.isLinked then none else FieldShape.updateClause? name shape := by
  cases shape with
  | _ => rfl

/-- A clause that relates the created object to objects of another type. -/
def Relates (element : String) (clause : Field) : Prop :=
  clause.type = .derived element .createOne ∨ clause.type = .derived element .createMany

/-- Clauses that filter by the fields of objects of another type. -/
def FiltersBy (element : String) (filters : List Field) : Prop :=
  filters ≠ [] ∧ ∀ filter ∈ filters, filter.type = .derived element .filter

theorem relates_createClause_iff {optional : Bool} {shape : FieldShape} :
    Relates element (FieldShape.createClause name optional shape) ↔
      shape.element? = some element := by
  cases shape with
  | _ => simp [Relates, FieldShape.createClause, FieldShape.element?]

theorem not_filtersBy_valueFilters (expression : String) (comparisons : Comparisons) :
    ¬ FiltersBy element (valueFilters name expression comparisons) := by
  rintro ⟨_, related⟩
  cases related _ List.mem_cons_self

theorem filtersBy_otherFilters_iff {shape : FieldShape} :
    FiltersBy element (FieldShape.otherFilters name shape) ↔ shape.element? = some element := by
  cases shape with
  | many other expression =>
    simp [FiltersBy, FieldShape.otherFilters, quantifierEndings, FieldShape.element?]
  | one other => simp [FiltersBy, FieldShape.otherFilters, FieldShape.element?]
  | enumeration expression | scalar expression =>
    simp [FieldShape.otherFilters, not_filtersBy_valueFilters, FieldShape.element?]
  | _ => simp [FiltersBy, FieldShape.otherFilters, FieldShape.element?]

/-- With a list of date scalars a field always has filters: those by value, or those of its shape if
it is no date. -/
theorem filterClauses_listed {dates : List String}
    (listed : options.dateScalars = some (.arr (dates.map .str))) (name : String)
    (shape : FieldShape) :
    ∃ filters, FieldShape.filterClauses options name shape = .ok filters ∧
      ((∃ expression comparisons, filters = valueFilters name expression comparisons) ∧
          (shape.element? = none ∨ shape.expression ∈ dates) ∨
        filters = FieldShape.otherFilters name shape) := by
  have asked := Options.isDateScalar_listed listed shape.expression
  unfold FieldShape.filterClauses
  split
  -- Identifiers and primitives are filtered by value, whatever the dates are.
  any_goals exact ⟨_, rfl, .inl ⟨⟨_, _, rfl⟩, .inl rfl⟩⟩
  rw [asked]
  by_cases date : shape.expression ∈ dates
  · refine ⟨valueFilters name shape.expression ⟨true, false⟩, ?_, .inl ⟨⟨_, _, rfl⟩, .inr date⟩⟩
    simp [date, bind, Except.bind, pure, Except.pure]
  · refine ⟨FieldShape.otherFilters name shape, ?_, .inr rfl⟩
    simp [date, bind, Except.bind, pure, Except.pure]

/-- If one filter of a field is by the fields of another type, all are. -/
theorem filtersBy_of_mem {shape : FieldShape} {filters : List Field} {filter : Field}
    (cases : (∃ expression comparisons, filters = valueFilters name expression comparisons) ∨
      filters = FieldShape.otherFilters name shape)
    (member : filter ∈ filters) (related : filter.type = .derived element .filter) :
    FiltersBy element filters := by
  rcases cases with ⟨expression, comparisons, rfl⟩ | rfl
  · have suits : FieldShape.Suits (.scalar expression) filter := suits_valueFilters member
    have typed := suits.type
    rw [related] at typed
    cases typed with
    | related ofShape => cases ofShape
  · have typed := (suits_otherFilters member).type
    rw [related] at typed
    cases typed with
    | related ofShape => exact filtersBy_otherFilters_iff.mpr ofShape

/-! The walks over the type of one field. -/

/-- The clauses of a field in the inputs that look at its type. -/
structure FieldClauses where
  created : Option Field
  updated : Option Field
  updatedMany : Option Field
  filters : List Field

/-- How the clauses of a field of a type, which stands behind no alias and has an expression, follow
each other. -/
structure FieldClauses.InStep (ctx : Context) (tables : Tables) (dates : List String)
    (type : Option Node) (expression : Option String) (clauses : FieldClauses) : Prop where
  lowered : type.mapM (Expression.lower ctx) = .ok expression
  /-- Every field that has a type can be created. -/
  created_none : clauses.created = none ↔ type = none
  /-- Identifiers are created, but not updated. -/
  updated_none : clauses.updated = none ↔
    clauses.created = none ∨ expression = some identifierScalar
  updated_some : ∀ created ∈ clauses.created, ∀ updated ∈ clauses.updated,
    updated = created.forUpdate
  /-- Lists and references to other objects are not updated on many objects. -/
  updatedMany_none : clauses.updatedMany = none ↔ clauses.updated = none ∨
    (∃ elements, type = some (.array elements)) ∨
    ∃ target, type = some (.reference target) ∧ ∀ text ∈ expression,
      tables.isEnum text = false ∧ tables.isScalar text = false
  updatedMany_some : ∀ clause ∈ clauses.updatedMany, clause ∈ clauses.updated
  filters_alike : ∀ element, ∀ filter ∈ clauses.filters,
    filter.type = .derived element .filter → FiltersBy element clauses.filters
  /-- A field that is no date is filtered as a relation if it is created as one. -/
  filters_related : (∀ text ∈ expression, text ∉ dates) → ∀ element,
    FiltersBy element clauses.filters ↔ ∃ created ∈ clauses.created, Relates element created

/-- The walks over the type of a field fail alike, or give clauses that are in step. -/
inductive TypeField.Lockstep (ctx : Context) (tables : Tables) (dates : List String)
    (field : TypeField) : Prop where
  | failed (error : LoweringError)
      (create : createClause ctx tables field.name field.optional field.type = .error error)
      (update : updateClause ctx tables field.name field.type = .error error)
      (updateMany : updateManyClause ctx tables field.name field.type = .error error)
      (filter : filterClauses ctx tables field.name field.type = .error error)
  | given (clauses : FieldClauses) (expression : Option String)
      (create : createClause ctx tables field.name field.optional field.type
        = .ok clauses.created)
      (update : updateClause ctx tables field.name field.type = .ok clauses.updated)
      (updateMany : updateManyClause ctx tables field.name field.type = .ok clauses.updatedMany)
      (filter : filterClauses ctx tables field.name field.type = .ok clauses.filters)
      (inStep : clauses.InStep ctx tables dates (field.type.map Node.unaliased) expression)

/-- The clauses that are made of one shape are in step. -/
theorem FieldClauses.inStep_classify {dates : List String} {node : Node} {expression : String}
    {filters : List Field} {shape : FieldShape} (optional : Bool)
    (lowered : Expression.lower ctx node = .ok expression)
    (classified : shape = FieldShape.classify ctx tables node expression)
    (filtered : (∃ expression comparisons, filters = valueFilters name expression comparisons) ∧
        (shape.element? = none ∨ shape.expression ∈ dates) ∨
      filters = FieldShape.otherFilters name shape) :
    FieldClauses.InStep ctx tables dates (some node) (some expression)
      ⟨some (FieldShape.createClause name optional shape), FieldShape.updateClause? name shape,
        FieldShape.updateManyClause? name shape, filters⟩ where
  lowered := congrArg (some <$> ·) lowered
  created_none := by simp
  updated_none := by
    rw [updateClause?_eq name optional]
    simp [classified, FieldShape.classify_eq_identifier_iff]
  updated_some := by
    rintro _ ⟨⟩ updated isUpdated
    rw [updateClause?_eq name optional] at isUpdated
    split at isUpdated
    · cases isUpdated
    · exact (Option.some.inj isUpdated).symm
  updatedMany_none := by
    rw [updateManyClause?_eq, ite_eq_left_iff]
    by_cases absent : FieldShape.updateClause? name shape = none
    · simp [absent]
    · have other : expression ≠ identifierScalar := by
        intro same
        have isIdentifier := classified.trans (FieldShape.classify_eq_identifier_iff.mpr same)
        rw [updateClause?_eq name optional, if_pos isIdentifier] at absent
        exact absent rfl
      have linked : shape.isLinked = true ↔ (∃ elements, node = .array elements) ∨
          ∃ target, node = .reference target ∧ tables.isEnum expression = false ∧
            tables.isScalar expression = false := by
        simp only [classified, FieldShape.isLinked_classify_iff, other, ne_eq, not_false_eq_true,
          true_and]
      simp only [absent, imp_false, not_not, linked, false_or, Option.some.injEq,
        Option.mem_some_iff, forall_eq']
  updatedMany_some := by
    intro clause member
    rw [updateManyClause?_eq] at member
    split at member
    · cases member
    · exact member
  filters_alike := by
    intro element filter member related
    exact filtersBy_of_mem (filtered.imp_left And.left) member related
  filters_related := by
    intro undated element
    have sameExpression : shape.expression = expression :=
      classified ▸ FieldShape.classify_expression node expression
    have noDate : shape.expression ∉ dates := sameExpression ▸ undated expression rfl
    simp only [Option.mem_some_iff, exists_eq_left', relates_createClause_iff]
    rcases filtered with ⟨⟨expression, comparisons, rfl⟩, noElement | date⟩ | rfl
    · simp [not_filtersBy_valueFilters, noElement]
    · exact absurd date noDate
    · exact filtersBy_otherFilters_iff

/-- All walks over the type of a field look at its shape, and nothing else can fail. -/
theorem TypeField.lockstep {dates : List String}
    (listed : ctx.options.dateScalars = some (.arr (dates.map .str))) (field : TypeField) :
    field.Lockstep ctx tables dates := by
  obtain ⟨name, type, optional⟩ := field
  cases type with
  | none =>
    refine .given ⟨none, none, none, []⟩ none rfl rfl rfl rfl ⟨rfl, ?_, ?_, ?_, ?_, ?_, ?_, ?_⟩
    all_goals simp [FiltersBy]
  | some type =>
    have shaped : FieldShape.ofNode ctx tables type
        = (Expression.lower ctx type.unaliased).map _ := rfl
    have create : createClause ctx tables name optional (some type) = _ := createClause_walk_eq type
    have update : updateClause ctx tables name (some type) = _ := updateClause_walk_eq type
    have updateMany : updateManyClause ctx tables name (some type) = _ :=
      updateManyClause_walk_eq type
    have filter : filterClauses ctx tables name (some type) = _ := filterClauses_walk_eq type
    cases lowered : Expression.lower ctx type.unaliased with
    | error error =>
      rw [shaped, lowered] at create update updateMany filter
      exact .failed error create update updateMany filter
    | ok expression =>
      rw [shaped, lowered] at create update updateMany filter
      obtain ⟨filters, given, filtered⟩ := filterClauses_listed listed name
        (FieldShape.classify ctx tables type.unaliased expression)
      have filter := filter.trans (congrArg Misuse.lift given)
      exact .given ⟨_, _, _, filters⟩ (some expression) create update updateMany filter
        (FieldClauses.inStep_classify optional lowered rfl filtered)

/-! The inputs of a type, which take its fields one after the other. -/

/-- The walks over the type of a field are parts of one walk. -/
theorem exists_jointWalk {dates : List String}
    (listed : ctx.options.dateScalars = some (.arr (dates.map .str))) (tables : Tables)
    (field : TypeField) :
    ∃ walk : Except LoweringError FieldClauses,
      createClause ctx tables field.name field.optional field.type = walk.map (·.created) ∧
      updateClause ctx tables field.name field.type = walk.map (·.updated) ∧
      updateManyClause ctx tables field.name field.type = walk.map (·.updatedMany) ∧
      filterClauses ctx tables field.name field.type = walk.map (·.filters) ∧
      ∀ clauses, walk = .ok clauses →
        ∃ type expression, clauses.InStep ctx tables dates type expression := by
  have together : field.Lockstep ctx tables dates := field.lockstep listed
  cases together with
  | failed error create update updateMany filter =>
    refine ⟨.error error, create, update, updateMany, filter, ?_⟩
    intro clauses impossible
    cases impossible
  | given clauses expression create update updateMany filter inStep =>
    refine ⟨.ok clauses, create, update, updateMany, filter, ?_⟩
    rintro _ ⟨⟩
    exact ⟨_, _, inStep⟩

/-- The walks over the fields of a type fail alike, or give clauses that are in step field by
field. -/
inductive Lockstep (ctx : Context) (tables : Tables) (dates : List String)
    (fields : List TypeField) : Prop where
  | failed (error : LoweringError)
      (create : fields.mapM (fun field =>
        createClause ctx tables field.name field.optional field.type) = .error error)
      (update : fields.mapM (fun field =>
        updateClause ctx tables field.name field.type) = .error error)
      (updateMany : fields.mapM (fun field =>
        updateManyClause ctx tables field.name field.type) = .error error)
      (filter : fields.mapM (fun field =>
        filterClauses ctx tables field.name field.type) = .error error)
  | given (clauses : List FieldClauses)
      (create : fields.mapM (fun field =>
        createClause ctx tables field.name field.optional field.type)
          = .ok (clauses.map (·.created)))
      (update : fields.mapM (fun field =>
        updateClause ctx tables field.name field.type) = .ok (clauses.map (·.updated)))
      (updateMany : fields.mapM (fun field =>
        updateManyClause ctx tables field.name field.type) = .ok (clauses.map (·.updatedMany)))
      (filter : fields.mapM (fun field =>
        filterClauses ctx tables field.name field.type) = .ok (clauses.map (·.filters)))
      (inStep : ∀ each ∈ clauses, ∃ type expression, each.InStep ctx tables dates type expression)

theorem lockstep {dates : List String}
    (listed : ctx.options.dateScalars = some (.arr (dates.map .str))) (tables : Tables)
    (fields : List TypeField) : Lockstep ctx tables dates fields := by
  -- One traversal with the joint walk gives all four, with the same first failure.
  choose walk create update updateMany filter inStep using exists_jointWalk listed tables
  have createAll := Traversal.mapM_projected create fields
  have updateAll := Traversal.mapM_projected update fields
  have updateManyAll := Traversal.mapM_projected updateMany fields
  have filterAll := Traversal.mapM_projected filter fields
  cases walked : fields.mapM walk with
  | error error =>
    rw [walked] at createAll updateAll updateManyAll filterAll
    exact .failed error createAll updateAll updateManyAll filterAll
  | ok clauses =>
    rw [walked] at createAll updateAll updateManyAll filterAll
    refine .given clauses createAll updateAll updateManyAll filterAll ?_
    intro each member
    obtain ⟨field, _, given⟩ := Traversal.exists_of_mem_results walked member
    exact inStep field each given

/-- A choice that is given by one rule only where another one gives the same is given in the order
of the other. -/
theorem filterMap_sublist {α β : Type} {items : List α} {choice other : α → Option β}
    (kept : ∀ item ∈ items, ∀ result ∈ choice item, result ∈ other item) :
    (items.filterMap choice).Sublist (items.filterMap other) := by
  induction items with
  | nil => exact .slnil
  | cons item rest ih =>
    have ofRest := ih fun item member => kept item (List.mem_cons_of_mem _ member)
    have ofItem := kept item List.mem_cons_self
    cases chosen : choice item with
    | none =>
      rw [List.filterMap_cons_none chosen]
      exact ofRest.trans ((List.sublist_cons_self item rest).filterMap other)
    | some result =>
      rw [List.filterMap_cons_some chosen, List.filterMap_cons_some (ofItem result chosen)]
      exact ofRest.cons_cons result

variable {dates : List String} {type : Option Node} {expression : Option String}

theorem FieldClauses.InStep.updated_of_created {clauses : FieldClauses}
    (inStep : clauses.InStep ctx tables dates type expression) {clause : Field}
    (updated : clause ∈ clauses.updated) : clause ∈ clauses.created.map Field.forUpdate := by
  cases made : clauses.created with
  | none => simp [inStep.updated_none.mpr (.inl made)] at updated
  | some created => simp [inStep.updated_some created made clause updated]

/-- The lines of one input are among those of another one, in order, unless a field stands in for
missing ones. -/
theorem inputBody_sublist {options : Options} {clauses others : List Field}
    (among : clauses.Sublist others) (filled : clauses ≠ []) :
    (filledBody options clauses).Sublist (filledBody options others) := by
  have othersFilled : others ≠ [] := by
    rintro rfl
    exact filled (List.sublist_nil.mp among)
  simp only [filledBody, List.isEmpty_iff, filled, othersFilled, if_false]
  exact among.map Line.field

/-- The inputs that look at the types of the fields of a type fail alike; or each of them is
written, what is updated is among what is created, and what is updated on many objects is among what
is updated. -/
inductive InputsInStep (ctx : Context) (tables : Tables) (fields : List TypeField)
    (name : String) : Prop where
  | failed (error : LoweringError)
      (create : createInput ctx tables fields name = .error error)
      (update : updateInput ctx tables fields name = .error error)
      (updateMany : updateManyMutationInput ctx tables fields name = .error error)
      (filter : whereInput ctx tables fields name = .error error)
  | written (created updated updatedMany filters : List Field)
      (create : createInput ctx tables fields name
        = .ok (.declare .input (derivedName name .create) (filledBody ctx.options created)))
      (update : updateInput ctx tables fields name
        = .ok (.declare .input (derivedName name .update) (filledBody ctx.options updated)))
      (updateMany : updateManyMutationInput ctx tables fields name
        = .ok (.declare .input (derivedName name .updateManyMutation)
          (filledBody ctx.options updatedMany)))
      (filter : whereInput ctx tables fields name
        = .ok (.declare .input (derivedName name .filter)
          ((filters ++ combinators.map (combination name)).map .field)))
      (updated_among : updated.Sublist (created.map Field.forUpdate))
      (updatedMany_among : updatedMany.Sublist updated)
      (lines_among : updatedMany = [] ∧
          filledBody ctx.options updatedMany = [.field (standIn ctx.options)] ∨
        (filledBody ctx.options updatedMany).Sublist (filledBody ctx.options updated))

/-- Missing clauses leave no line in an input. -/
theorem inputBody_map {α : Type} (options : Options) (items : List α) (choice : α → Option Field) :
    inputBody options (items.map choice) = filledBody options (items.filterMap choice) := by
  have chosen : (items.map choice).filterMap id = items.filterMap choice := List.filterMap_map
  rw [← chosen]
  rfl

theorem Lockstep.inputsInStep {fields : List TypeField}
    (together : Lockstep ctx tables dates fields) (name : String) :
    InputsInStep ctx tables fields name := by
  cases together with
  | failed error create update updateMany filter =>
    refine .failed error ?_ ?_ ?_ ?_
    · exact congrArg (· >>= _) create
    · exact congrArg (· >>= _) update
    · exact congrArg (· >>= _) updateMany
    · exact congrArg (· >>= _) filter
  | given clauses create update updateMany filter inStep =>
    have updatedAmong : (clauses.filterMap (·.updated)).Sublist
        ((clauses.filterMap (·.created)).map Field.forUpdate) := by
      rw [List.map_filterMap]
      refine filterMap_sublist fun each member clause updated => ?_
      obtain ⟨type, expression, inStep⟩ := inStep each member
      exact inStep.updated_of_created updated
    have updatedManyAmong : (clauses.filterMap (·.updatedMany)).Sublist
        (clauses.filterMap (·.updated)) := by
      refine filterMap_sublist fun each member clause updatedMany => ?_
      obtain ⟨type, expression, inStep⟩ := inStep each member
      exact inStep.updatedMany_some clause updatedMany
    refine .written _ _ _ (clauses.map (·.filters)).flatten ?_ ?_ ?_ ?_ updatedAmong
      updatedManyAmong ?_
    · rw [createInput, create, ← inputBody_map]
      rfl
    · rw [updateInput, update, ← inputBody_map]
      rfl
    · rw [updateManyMutationInput, updateMany, ← inputBody_map]
      rfl
    · rw [whereInput, filter]
      rfl
    · by_cases none : clauses.filterMap (·.updatedMany) = []
      · refine .inl ⟨none, ?_⟩
        rw [none]
        rfl
      · exact .inr (inputBody_sublist updatedManyAmong none)

/-- The inputs of a type look at each of its fields in the same way. For every field they fail with
one error, or its clauses tell each other; so the inputs of an interface fail together, and what can
be set on many objects is set as on one, in the same order. -/
theorem clauses_in_step {ctx : Context} {dates : List String}
    (listed : ctx.options.dateScalars = some (.arr (dates.map .str))) (tables : Tables) :
    (∀ field : TypeField, field.Lockstep ctx tables dates) ∧
      ∀ origin declaration fields name, Crud.fields ctx origin declaration = .ok fields →
        InputsInStep ctx tables fields name := by
  constructor
  · intro field
    exact field.lockstep listed
  · intro origin declaration fields name _
    exact (lockstep listed tables fields).inputsInStep name

/-- The authors of a book, by an alias of a list of references. -/
def authorsField : TypeField :=
  ⟨"authors", some (.alias (.array [.reference "Author"]) none), false⟩

def shelved : Interface :=
  ⟨[.property ⟨"authors", authorsField.type, false, none⟩,
    .property ⟨"id", some (.reference "BookId"), false, none⟩,
    .property ⟨"title", some (.primitive .string), false, none⟩], [], true, none⟩

/-- A shelf of books whose identifiers are marked as such. -/
def shelf : Context :=
  ⟨⟨[("Book", .interface shelved)]⟩, [], {}, [("BookId", identifierScalar)]⟩

/-- The authors of a book of the shelf are set on creation and on update, but not on many books. -/
theorem shelf_clauses :
    (createClause shelf {} authorsField.name authorsField.optional authorsField.type).toOption
        = some (some
            { name := "authors", type := .derived "Author" .createMany, required := true }) ∧
      (updateClause shelf {} authorsField.name authorsField.type).toOption
        = some (some { name := "authors", type := .derived "Author" .updateMany }) ∧
      (updateManyClause shelf {} authorsField.name authorsField.type).toOption = some none ∧
      (Crud.fields shelf (some "Book") shelved).toOption.isSome = true := by
  decide +kernel

theorem clauses_in_step_shelf :
    shelf.options.dateScalars = some (.arr (["Date", "DateTime"].map .str)) ∧
      authorsField.Lockstep shelf {} ["Date", "DateTime"] ∧
      (∃ (clauses : FieldClauses) (expression : Option String),
        createClause shelf {} authorsField.name authorsField.optional authorsField.type
          = .ok clauses.created ∧
        clauses.updated = some { name := "authors", type := .derived "Author" .updateMany } ∧
        clauses.updatedMany = none ∧
        clauses.InStep shelf {} ["Date", "DateTime"] (some (.array [.reference "Author"]))
          expression) ∧
      ∃ fields, Crud.fields shelf (some "Book") shelved = .ok fields ∧
        InputsInStep shelf {} fields "Book" := by
  have listed : shelf.options.dateScalars = some (.arr (["Date", "DateTime"].map .str)) := rfl
  obtain ⟨eachField, eachInterface⟩ := clauses_in_step listed {}
  obtain ⟨created, updated, updatedMany, hasFields⟩ := shelf_clauses
  obtain ⟨fields, found⟩ := Option.isSome_iff_exists.mp hasFields
  have found := Traversal.eq_ok_of_toOption found
  refine ⟨listed, eachField authorsField, ?_, fields, found,
    eachInterface (some "Book") shelved fields "Book" found⟩
  cases eachField authorsField with
  | failed error create update updateMany filter =>
    rw [create] at created
    cases created
  | given clauses expression create update updateMany filter inStep =>
    rw [update] at updated
    rw [updateMany] at updatedMany
    exact ⟨clauses, expression, create, Option.some.inj updated, Option.some.inj updatedMany,
      inStep⟩

end Crud

end SchemaLowering
