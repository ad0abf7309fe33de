import SchemaLowering.Proofs.DerivedClauses
import Mathlib.Data.List.Nodup
import Mathlib.Data.List.Pairwise

/-!
The names in a filter input. A field is filtered under its own name followed by endings that depend
on its type, and the combinators of filters close the input. Two such names agree only where one
field is named like another one with an ending, or like a combinator.
-/

namespace SchemaLowering

namespace Crud

/-- The endings of the filters by value. -/
def valueEndings (comparisons : Comparisons) : List String :=
  ["", "_not", "_in", "_not_in"]
  ++ (if comparisons.ordering then orderingEndings else [])
  ++ (if comparisons.substring then substringEndings else [])

namespace FieldShape

/-- The endings of the filters of a shape that is neither an identifier nor primitive, nor a
date. -/
def otherEndings : FieldShape → List String
  | .many _ _ => quantifierEndings
  | .enumeration _ => valueEndings {}
  | .scalar _ => valueEndings ⟨true, true⟩
  | .one _ => [""]
  | _ => []

/-- The endings of the filters of a shape. -/
def filterEndings (options : Options) : FieldShape → List String
  | .identifier => valueEndings ⟨true, true⟩
  | .primitive .string _ => valueEndings ⟨true, true⟩
  | .primitive .number _ => valueEndings ⟨true, false⟩
  | .primitive .boolean _ => valueEndings {}
  | shape =>
    if options.isDateScalar shape.expression = .ok true then valueEndings ⟨true, false⟩
    else shape.otherEndings

end FieldShape

/-- All the lists of endings that a shape can have. -/
def endingFamilies : List (List String) :=
  [[], [""], quantifierEndings, valueEndings {}, valueEndings ⟨true, false⟩,
   valueEndings ⟨true, true⟩]

variable {ctx : Context} {tables : Tables} {options : Options} {name : String}

theorem names_valueFilters (name expression : String) (comparisons : Comparisons) :
    (valueFilters name expression comparisons).map Field.name
      = (valueEndings comparisons).map (name ++ ·) := by
  simp [valueFilters, valueEndings, Function.comp_def]

theorem names_otherFilters (name : String) (shape : FieldShape) :
    (FieldShape.otherFilters name shape).map Field.name = shape.otherEndings.map (name ++ ·) := by
  cases shape with
  | many element expression =>
    simp [FieldShape.otherFilters, FieldShape.otherEndings, Function.comp_def]
  | enumeration expression => exact names_valueFilters name expression {}
  | scalar expression => exact names_valueFilters name expression ⟨true, true⟩
  | one element => simp [FieldShape.otherFilters, FieldShape.otherEndings]
  | _ => rfl

/-- The filters of a field have its name with the endings of its shape. -/
theorem names_filterClauses {shape : FieldShape} {clauses : List Field}
    (found : FieldShape.filterClauses options name shape = .ok clauses) :
    clauses.map Field.name = (shape.filterEndings options).map (name ++ ·) := by
  unfold FieldShape.filterClauses at found
  split at found
  · cases found
    exact names_valueFilters name identifierScalar ⟨true, true⟩
  · cases found
    exact names_valueFilters _ _ _
  · cases found
    exact names_valueFilters _ _ _
  · cases found
    exact names_valueFilters _ _ _
  · next notIdentifier notString notNumber notBoolean =>
    obtain ⟨isDate, asked, found⟩ := Traversal.bind_eq_ok.mp found
    have endings : shape.filterEndings options =
        if options.isDateScalar shape.expression = .ok true then valueEndings ⟨true, false⟩
        else shape.otherEndings := by
      unfold FieldShape.filterEndings
      split
      · exact absurd rfl notIdentifier
      · exact absurd rfl (notString _)
      · exact absurd rfl (notNumber _)
      · exact absurd rfl (notBoolean _)
      · rfl
    rw [endings, asked]
    cases isDate with
    | false =>
      cases found
      exact names_otherFilters name shape
    | true =>
      cases found
      exact names_valueFilters _ _ _

theorem otherEndings_mem_families (shape : FieldShape) : shape.otherEndings ∈ endingFamilies := by
  cases shape with
  | _ => simp [FieldShape.otherEndings, endingFamilies]

theorem filterEndings_mem_families (options : Options) (shape : FieldShape) :
    shape.filterEndings options ∈ endingFamilies := by
  unfold FieldShape.filterEndings
  split
  · simp [endingFamilies]
  · simp [endingFamilies]
  · simp [endingFamilies]
  · simp [endingFamilies]
  · split
    · simp [endingFamilies]
    · exact otherEndings_mem_families _

theorem families_distinct : ∀ endings ∈ endingFamilies, endings.Nodup := by
  decide

/-- Where an ending of one family ends in one of another, they are equal; or what comes before is an
ending as well, and the other family filters by equality too. -/
theorem families_suffix : ∀ longer ∈ endingFamilies, ∀ shorter ∈ endingFamilies,
    ∀ ending ∈ longer, ∀ last ∈ shorter, last.toList <:+ ending.toList →
      ending = last ∨
        "" ∈ shorter ∧ ∃ between ∈ longer, between ≠ "" ∧ between ++ last = ending := by
  decide +kernel

/-- A name with an ending is another name with an ending only if the one without endings that is
longer is the shorter one with an ending. -/
theorem name_of_same_filter {longer shorter : List String} (isLonger : longer ∈ endingFamilies)
    (isShorter : shorter ∈ endingFamilies) {ending last first second : String}
    (isEnding : ending ∈ longer) (isLast : last ∈ shorter) {between : List Char}
    (continued : second.toList = first.toList ++ between)
    (rest : ending.toList = between ++ last.toList) (different : first ≠ second) :
    "" ∈ shorter ∧ ∃ between ∈ longer, between ≠ "" ∧ second = first ++ between := by
  have suffix : last.toList <:+ ending.toList := ⟨between, rest.symm⟩
  rcases families_suffix longer isLonger shorter isShorter ending isEnding last isLast suffix with
    rfl | ⟨equality, own, isOwn, nonempty, joined⟩
  · have nothing : between = [] := List.append_left_eq_self.mp rest.symm
    rw [nothing, List.append_nil] at continued
    exact absurd (String.toList_inj.mp continued.symm) different
  · have same : between = own.toList := by
      rw [← joined, String.toList_append] at rest
      exact (List.append_cancel_right rest).symm
    refine ⟨equality, own, isOwn, nonempty, ?_⟩
    apply String.toList_inj.mp
    rw [continued, same, String.toList_append]

/-- The endings of the filters of a field. -/
def TypeField.filterEndings (ctx : Context) (tables : Tables) (field : TypeField) : List String :=
  match FieldShape.ofOptional ctx tables field.type with
  | .ok (some shape) => shape.filterEndings ctx.options
  | _ => []

/-- The names under which a field is filtered. -/
def TypeField.filterNames (ctx : Context) (tables : Tables) (field : TypeField) : List String :=
  (field.filterEndings ctx tables).map (field.name ++ ·)

/-- No field that is filtered by equality is named like another field with one of its endings, or
like a combinator. -/
structure FiltersApart (ctx : Context) (tables : Tables) (fields : List TypeField) : Prop where
  separate : ∀ first ∈ fields, ∀ second ∈ fields, "" ∈ second.filterEndings ctx tables →
    ∀ ending ∈ first.filterEndings ctx tables, ending ≠ "" → second.name ≠ first.name ++ ending
  uncombined : ∀ field ∈ fields, "" ∈ field.filterEndings ctx tables → field.name ∉ combinators

theorem TypeField.filterEndings_mem_families (field : TypeField) :
    field.filterEndings ctx tables ∈ endingFamilies := by
  unfold TypeField.filterEndings
  split
  · exact Crud.filterEndings_mem_families _ _
  · simp [endingFamilies]

theorem TypeField.filterNames_distinct (field : TypeField) :
    (field.filterNames ctx tables).Nodup := by
  refine List.Nodup.map_on ?_ (families_distinct _ field.filterEndings_mem_families)
  intro ending _ other _ same
  apply String.toList_inj.mp
  have same := String.toList_inj.mpr same
  rw [String.toList_append, String.toList_append] at same
  exact List.append_cancel_left same

variable {fields : List TypeField}

/-- Two fields with different names share no filter where filters are apart. -/
theorem FiltersApart.disjoint (apart : FiltersApart ctx tables fields) {first second : TypeField}
    (isFirst : first ∈ fields) (isSecond : second ∈ fields) (different : first.name ≠ second.name) :
    (first.filterNames ctx tables).Disjoint (second.filterNames ctx tables) := by
  intro shared ofFirst ofSecond
  obtain ⟨ending, isEnding, rfl⟩ := List.mem_map.mp ofFirst
  obtain ⟨last, isLast, same⟩ := List.mem_map.mp ofSecond
  have families := @TypeField.filterEndings_mem_families ctx tables
  have same := String.toList_inj.mpr same
  rw [String.toList_append, String.toList_append] at same
  rcases List.append_eq_append_iff.mp same with
    ⟨between, continued, rest⟩ | ⟨between, continued, rest⟩
  · obtain ⟨equality, own, isOwn, nonempty, named⟩ := name_of_same_filter (families second)
      (families first) isLast isEnding continued rest different.symm
    exact apart.separate second isSecond first isFirst equality own isOwn nonempty named
  · obtain ⟨equality, own, isOwn, nonempty, named⟩ := name_of_same_filter (families first)
      (families second) isEnding isLast continued rest different
    exact apart.separate first isFirst second isSecond equality own isOwn nonempty named

theorem families_underscore : ∀ endings ∈ endingFamilies, ∀ ending ∈ endings, ending ≠ "" →
    '_' ∈ ending.toList := by
  decide

theorem combinators_no_underscore : ∀ combinator ∈ combinators, '_' ∉ combinator.toList := by
  decide

/-- A field has a combinator among its filters only under its own name. -/
theorem FiltersApart.disjoint_combinators (apart : FiltersApart ctx tables fields)
    {field : TypeField} (isField : field ∈ fields) :
    (field.filterNames ctx tables).Disjoint combinators := by
  intro shared ofField isCombinator
  obtain ⟨ending, isEnding, rfl⟩ := List.mem_map.mp ofField
  by_cases equality : ending = ""
  · subst equality
    rw [String.append_empty] at isCombinator
    exact apart.uncombined field isField isEnding isCombinator
  · have underscore := families_underscore _ field.filterEndings_mem_families _ isEnding equality
    have absent := combinators_no_underscore _ isCombinator
    rw [String.toList_append] at absent
    exact absent (List.mem_append_right _ underscore)

theorem TypeField.name_mem_filterNames {field : TypeField}
    (equality : "" ∈ field.filterEndings ctx tables) : field.name ∈ field.filterNames ctx tables :=
  List.mem_map.mpr ⟨"", equality, String.append_empty⟩

/-- Where the fields of a type have different names, the names in its filter input are different if
and only if the filters of the fields are apart. -/
theorem nodup_filterNames_iff (distinct : (fields.map TypeField.name).Nodup) :
    (fields.flatMap (·.filterNames ctx tables) ++ combinators).Nodup ↔
      FiltersApart ctx tables fields := by
  rw [List.nodup_append', List.nodup_flatMap]
  constructor
  · rintro ⟨⟨_, pairs⟩, _, disjoint⟩
    constructor
    · intro first isFirst second isSecond equality ending isEnding nonempty named
      have different : first ≠ second := by
        rintro rfl
        exact nonempty (String.append_eq_left_iff.mp named.symm)
      have symmetric : Std.Symm
          (Function.onFun List.Disjoint fun field : TypeField => field.filterNames ctx tables) :=
        ⟨fun _ _ disjoint _ inFirst inSecond => disjoint inSecond inFirst⟩
      have ofSecond := TypeField.name_mem_filterNames equality
      rw [named] at ofSecond
      exact pairs.forall isFirst isSecond different (List.mem_map.mpr ⟨ending, isEnding, rfl⟩)
        ofSecond
    · intro field isField equality
      exact disjoint (List.mem_flatMap.mpr
        ⟨field, isField, TypeField.name_mem_filterNames equality⟩)
  · intro apart
    refine ⟨⟨fun field _ => field.filterNames_distinct, ?_⟩, by decide, ?_⟩
    · refine (List.pairwise_map.mp distinct).imp_of_mem ?_
      intro first second isFirst isSecond different
      exact apart.disjoint isFirst isSecond different
    · intro shared ofFields
      obtain ⟨field, isField, ofField⟩ := List.mem_flatMap.mp ofFields
      exact apart.disjoint_combinators isField ofField

end Crud

end SchemaLowering
