import SchemaLowering.Proofs.DerivedDeclarations
import SchemaLowering.Proofs.DerivedNames
import SchemaLowering.Proofs.FilterNames
import SchemaLowering.Proofs.InheritedMembers

/-!
The fields that a block declares. Members are told apart by their names, and fields are written
under identifiers, so that fields of a block have different names as long as the members of the
interface have different identifiers. Filters add endings to the names, which can make them equal
again.
-/

namespace SchemaLowering

def Line.fieldName? : Line → Option String
  | .field declared => some declared.name
  | .word _ => none

namespace Block

/-- The names of the fields that a block declares. -/
def fieldNames : Block → List String
  | .braced _ body => body.filterMap Line.fieldName?
  | _ => []

theorem fieldNames_fields (header : Header) (fields : List Field) :
    (braced header (fields.map .field)).fieldNames = fields.map Field.name := by
  rw [fieldNames, List.filterMap_map, ← List.filterMap_eq_map]
  rfl

/-- A body of words declares no fields. -/
theorem fieldNames_words {body : List Line} (words : ∀ line ∈ body, ∃ text, line = .word text)
    (header : Header) : (braced header body).fieldNames = [] := by
  apply List.filterMap_eq_nil_iff.mpr
  intro line isLine
  obtain ⟨text, rfl⟩ := words line isLine
  rfl

end Block

namespace Inheritance

/-- Of several members with one name only the first is kept. -/
theorem firstByName_distinct (seen : List String) (all : List Member) :
    ((firstByName seen all).map Member.name).Nodup ∧
      ∀ member ∈ firstByName seen all, member.name ∉ seen := by
  fun_induction firstByName seen all with
  | case1 => simp
  | case2 seen first rest known ih => exact ih
  | case3 seen first rest fresh ih =>
    obtain ⟨distinct, unseen⟩ := ih
    constructor
    · rw [List.map_cons, List.nodup_cons]
      refine ⟨fun again => ?_, distinct⟩
      obtain ⟨member, kept, same⟩ := List.mem_map.mp again
      exact unseen member kept (same ▸ List.mem_cons_self)
    · intro member kept
      rcases List.mem_cons.mp kept with rfl | kept
      · exact fresh
      · exact fun known => unseen member kept (List.mem_cons_of_mem _ known)

/-- The members that a declaration shows have different names. -/
theorem shownMembers_distinct {ctx : Context} {origin : Option String} {declaration : Interface}
    {shown : List Member} (found : shownMembers ctx origin declaration = .ok shown) :
    (shown.map Member.name).Nodup := by
  obtain ⟨all, collected, rfl | ⟨name, _, rfl⟩⟩ := shownMembers_eq_ok found
  · obtain ⟨links, _, same⟩ := Traversal.bind_eq_ok.mp collected
    cases same
    have sorted := (Text.sortBy_perm Member.name
      (firstByName [] (links.flatMap (·.declaration.members)))).map Member.name
    exact sorted.nodup_iff.mpr (firstByName_distinct _ _).1
  · exact List.nodup_singleton _

end Inheritance

namespace Crud

variable {ctx : Context} {tables : Tables} {fields : List TypeField} {name : String}

theorem TypeField.name_of_ofMember? {member : Member} {field : TypeField}
    (given : ofMember? member = some field) : field.name = Text.identifier member.name := by
  cases member with
  | property declaration =>
    cases given
    rfl
  | method declaration =>
    rw [ofMember?] at given
    split at given
    · cases given
      rfl
    · cases given

/-- The derived declarations see the members of an interface, or some of them, in the same order. -/
theorem names_fields {origin : Option String} {declaration : Interface} {members : List Member}
    (shown : Inheritance.shownMembers ctx origin declaration = .ok members)
    (kept : Crud.fields ctx origin declaration = .ok fields) :
    (fields.map TypeField.name).Sublist
      (members.map fun member => Text.identifier member.name) := by
  obtain ⟨all, shownAll, same⟩ := Traversal.bind_eq_ok.mp kept
  cases shown.symm.trans shownAll
  cases same
  clear shown shownAll kept
  induction members with
  | nil => exact List.Sublist.slnil
  | cons member rest ih =>
    cases given : TypeField.ofMember? member with
    | none =>
      rw [List.filterMap_cons_none given]
      exact ih.cons _
    | some field =>
      rw [List.filterMap_cons_some given, List.map_cons, List.map_cons,
        TypeField.name_of_ofMember? given]
      exact ih.cons_cons _

/-- Clauses that keep the name of their field have the names of fields, in the same order. -/
theorem names_clausesBy {rule : TypeField → FieldShape → Option Field} {clauses : List Field}
    (named : ∀ field shape clause, rule field shape = some clause → clause.name = field.name)
    (found : clausesBy ctx tables rule fields = .ok clauses) :
    (clauses.map Field.name).Sublist (fields.map TypeField.name) := by
  obtain ⟨results, traversed, rfl⟩ := Traversal.map_eq_ok.mp found
  rw [Traversal.mapM_eq_ok] at traversed
  clear found
  induction traversed with
  | nil => exact List.Sublist.slnil
  | @cons field result _ _ first _ ih =>
    obtain ⟨shape, _, given⟩ := Traversal.map_eq_ok.mp first
    cases result with
    | none => exact ih.cons _
    | some clause =>
      obtain ⟨own, _, ruled⟩ := Option.bind_eq_some_iff.mp given
      have kept : id (some clause) = some clause := rfl
      rw [List.filterMap_cons_some kept, List.map_cons, List.map_cons, named field own clause ruled]
      exact ih.cons_cons _

theorem name_createClause (name : String) (optional : Bool) (shape : FieldShape) :
    (FieldShape.createClause name optional shape).name = name := by
  cases shape with
  | _ => rfl

theorem name_updateClause {shape : FieldShape} {clause : Field}
    (given : FieldShape.updateClause? name shape = some clause) : clause.name = name := by
  cases shape with
  | identifier => cases given
  | _ =>
    cases given
    rfl

theorem name_updateManyClause {shape : FieldShape} {clause : Field}
    (given : FieldShape.updateManyClause? name shape = some clause) : clause.name = name := by
  cases shape with
  | identifier | many | list | one => cases given
  | _ =>
    cases given
    rfl

/-- An input whose clauses have different names has different fields, also when a field stands in
for missing clauses. -/
theorem fieldNames_inputBody_distinct {options : Options} {clauses : List Field}
    (distinct : (clauses.map Field.name).Nodup) (header : Header) :
    (Block.braced header (filledBody options clauses)).fieldNames.Nodup := by
  rw [filledBody, Block.fieldNames_fields]
  split
  · exact List.nodup_singleton _
  · exact distinct

theorem fieldNames_whereInput {block : Block}
    (written : whereInput ctx tables fields name = .ok block) :
    block.fieldNames = fields.flatMap (·.filterNames ctx tables) ++ combinators := by
  obtain ⟨clauses, traversed, same⟩ := Traversal.bind_eq_ok.mp written
  cases same
  have each : clauses.map (·.map Field.name) = fields.map (·.filterNames ctx tables) := by
    apply Traversal.map_results traversed
    intro field _ own filtered
    rw [filterClauses_eq] at filtered
    obtain ⟨shape, shaped, found⟩ := Traversal.bind_eq_ok.mp filtered
    rw [TypeField.filterNames, TypeField.filterEndings, shaped]
    cases shape with
    | none =>
      cases found
      rfl
    | some shape => exact (names_filterClauses (Traversal.mapError_eq_ok.mp found)).symm
  rw [Block.declare, Block.fieldNames_fields, List.map_append, List.map_flatten, each,
    List.flatMap_def, List.map_map]
  rfl

theorem fieldNames_queryExtension_distinct (name : String) :
    (queryExtension name).fieldNames.Nodup := by
  have names : (queryExtension name).fieldNames
      = [Text.lowerFirst name, Text.lowerFirst name ++ "s"] := rfl
  rw [names]
  simp [← String.toList_inj]

theorem fieldNames_mutationExtension_distinct (name : String) :
    (mutationExtension name).fieldNames.Nodup := by
  have names : (mutationExtension name).fieldNames
      = ["create" ++ Text.upperFirst name, "delete" ++ Text.upperFirst name,
         "deleteMany" ++ Text.upperFirst name ++ "s", "update" ++ Text.upperFirst name,
         "updateMany" ++ Text.upperFirst name ++ "s", "upsert" ++ Text.upperFirst name] := rfl
  have longer : ∀ text : List Char, text ≠ 'M' :: 'a' :: 'n' :: 'y' :: (text ++ ['s']) := by
    intro text same
    have lengths := congrArg List.length same
    simp only [List.length_cons, List.length_append, List.length_nil] at lengths
    omega
  rw [names]
  simp [← String.toList_inj, longer]

/-- The derived declarations apart from the filter input have different fields, as long as the
fields of the type have different names. -/
theorem Artifact.fieldNames_distinct {artifact : Artifact} {block : Block}
    (other : artifact ≠ .whereInput) (distinct : (fields.map TypeField.name).Nodup)
    (written : artifact.block ctx tables fields name = .ok block) : block.fieldNames.Nodup := by
  cases artifact with
  | whereInput => exact absurd rfl other
  | createInput =>
    obtain ⟨clauses, found, rfl⟩ := createInput_eq_ok written
    apply fieldNames_inputBody_distinct
    refine distinct.sublist (names_clausesBy ?_ found)
    intro field shape clause ruled
    cases ruled
    exact name_createClause field.name field.optional shape
  | updateInput =>
    obtain ⟨clauses, found, rfl⟩ := updateInput_eq_ok written
    apply fieldNames_inputBody_distinct
    exact distinct.sublist (names_clausesBy (fun _ _ _ ruled => name_updateClause ruled) found)
  | updateManyMutationInput =>
    obtain ⟨clauses, found, rfl⟩ := updateManyMutationInput_eq_ok written
    apply fieldNames_inputBody_distinct
    exact distinct.sublist (names_clausesBy (fun _ _ _ ruled => name_updateManyClause ruled) found)
  | orderByInput =>
    cases written
    have words : (Crud.orderByInput ctx.options fields name).fieldNames = [] := by
      apply Block.fieldNames_words
      intro line isLine
      obtain ⟨value, _, rfl⟩ := List.mem_map.mp isLine
      exact ⟨value, rfl⟩
    rw [words]
    exact List.nodup_nil
  | queryExtension =>
    cases written
    exact fieldNames_queryExtension_distinct name
  | mutationExtension =>
    cases written
    exact fieldNames_mutationExtension_distinct name
  | _ =>
    cases written
    exact List.nodup_singleton _

/-- Only the filter input is declared under the name of the filter input. -/
theorem Artifact.declares_filter_iff {artifact : Artifact} {block : Block}
    (written : artifact.block ctx tables fields name = .ok block) :
    block.declaredName? = some (derivedName name .filter) ↔ artifact = .whereInput := by
  obtain ⟨body, rfl⟩ := block_eq_braced written
  cases artifact with
  | _ => simp [header, Block.declaredName?, derivedName, InputRole.ending, ← String.toList_inj]

end Crud

namespace Emission

variable {ctx : Context} {tables : Tables}

theorem name_memberField {member : Member} {field : Field}
    (rendered : memberField ctx member = .ok field) :
    field.name = Text.identifier member.name := by
  cases member with
  | property declaration =>
    obtain ⟨type, _, same⟩ := Traversal.bind_eq_ok.mp rendered
    cases same
    rfl
  | method declaration =>
    obtain ⟨arguments, type, _, rfl, _⟩ := memberField_method rendered
    rfl

/-- An interface declares its members under their identifiers. -/
theorem fieldNames_interfaceBody {members : List Member} {body : List Line}
    (rendered : interfaceBody ctx members = .ok body) (header : Header) :
    (Block.braced header body).fieldNames
      = members.map fun member => Text.identifier member.name := by
  obtain ⟨fields, each, same⟩ := Traversal.bind_eq_ok.mp rendered
  cases same
  rw [Block.fieldNames_fields]
  exact Traversal.map_results each fun member _ field ofMember => (name_memberField ofMember).symm

theorem declaredName?_ownHeader (declaration : Interface) (symbol : String) (body : List Line) :
    (Block.braced (ownHeader ctx declaration symbol) body).declaredName?
      ≠ some (Crud.derivedName (ctx.name symbol) .filter) := by
  have longer : ctx.name symbol ≠ Crud.derivedName (ctx.name symbol) .filter := by
    simp [Crud.derivedName, InputRole.ending, ← String.toList_inj]
  unfold ownHeader
  split
  · simp [Block.declaredName?]
  split
  · simpa [Block.declaredName?] using longer
  split
  · simpa [Block.declaredName?] using longer
  · simpa [Block.declaredName?] using longer

theorem fieldNames_declareEnum (name : String) (values : List String) :
    (Union.declareEnum ctx tables name values).1.fieldNames = [] := by
  apply Block.fieldNames_words
  intro line isLine
  obtain ⟨value, _, rfl⟩ := List.mem_map.mp isLine
  exact ⟨value, rfl⟩

/-- A fragment selects fields and declares none, and nothing else. -/
theorem fragmentBlocks_plain {declaration : Interface} {members : List Member} {block : Block}
    (isBlock : block ∈ fragmentBlocks declaration members) :
    block.fieldNames = [] ∧ block.declaredName? = none := by
  unfold fragmentBlocks at isBlock
  split at isBlock
  · cases isBlock
  split at isBlock
  · cases List.mem_singleton.mp isBlock
    refine ⟨Block.fieldNames_words ?_ _, rfl⟩
    intro line isLine
    obtain ⟨member, _, rfl⟩ := List.mem_map.mp isLine
    exact ⟨member.name, rfl⟩
  · cases isBlock

/-- How far the fields of a declared symbol are told apart. The members of an interface have
different names, and its own block, which stands first, has their identifiers as fields. Where these
are different too, each block has different fields, apart from the filter input, which has them if
and only if the filters of the fields are apart. No other shape has fields. -/
def FieldsDistinct (ctx : Context) (tables : Tables) (entry : String × Node) (blocks : List Block) :
    Prop :=
  match entry.2 with
  | .interface declaration =>
    ∃ members fields, Inheritance.shownMembers ctx (some entry.1) declaration = .ok members ∧
      Crud.fields ctx (some entry.1) declaration = .ok fields ∧
      (members.map Member.name).Nodup ∧
      (∃ body derived, blocks = .braced (ownHeader ctx declaration entry.1) body :: derived ∧
        (Block.braced (ownHeader ctx declaration entry.1) body).fieldNames
          = members.map fun member => Text.identifier member.name) ∧
      ((members.map fun member => Text.identifier member.name).Nodup →
        ∀ block ∈ blocks, block.fieldNames.Nodup ↔
          (block.declaredName? = some (Crud.derivedName (ctx.name entry.1) .filter) →
            Crud.FiltersApart ctx tables fields))
  | _ => ∀ block ∈ blocks, block.fieldNames = []

/-- A derived declaration has different fields where the fields of the type are different, and where
the filters are apart if it is the filter input. -/
theorem fieldNames_derived_iff {symbol : String} {declaration : Interface} {members : List Member}
    {fields : List Crud.TypeField} {derived : List Block} {block : Block}
    (shown : Inheritance.shownMembers ctx (some symbol) declaration = .ok members)
    (kept : Crud.fields ctx (some symbol) declaration = .ok fields)
    (distinct : (members.map fun member => Text.identifier member.name).Nodup)
    (attached : derivedBlocks ctx tables (some symbol) declaration symbol = .ok derived)
    (isBlock : block ∈ derived) :
    block.fieldNames.Nodup ↔
      (block.declaredName? = some (Crud.derivedName (ctx.name symbol) .filter) →
        Crud.FiltersApart ctx tables fields) := by
  have wanted := derivedBlocks_eq_ok attached
  split at wanted
  · obtain ⟨same, keptSame, written⟩ := Traversal.bind_eq_ok.mp wanted
    cases kept.symm.trans keptSame
    obtain ⟨artifact, _, ofArtifact⟩ := Traversal.exists_of_mem_results written isBlock
    have distinctFields := distinct.sublist (Crud.names_fields shown kept)
    rw [Crud.Artifact.declares_filter_iff ofArtifact]
    by_cases isFilter : artifact = .whereInput
    · subst isFilter
      rw [Crud.fieldNames_whereInput ofArtifact, Crud.nodup_filterNames_iff distinctFields]
      exact ⟨fun apart _ => apart, fun apart => apart rfl⟩
    · exact iff_of_true (Crud.Artifact.fieldNames_distinct isFilter distinctFields ofArtifact)
        fun same => absurd same isFilter
  · subst wanted
    cases isBlock

theorem fieldsDistinct_of_group {entry : String × Node} {blocks : List Block}
    (written : group ctx entry = .ok blocks) :
    FieldsDistinct ctx ctx.declaredTables entry blocks := by
  obtain ⟨symbol, node⟩ := entry
  obtain ⟨after, declares⟩ := declares_of_group written
  cases declares with
  | scalar | synonym =>
    intro block isBlock
    cases List.mem_singleton.mp isBlock
    rfl
  | enum values =>
    intro block isBlock
    cases List.mem_singleton.mp isBlock
    exact fieldNames_declareEnum symbol values
  | union documentation declares =>
    intro block isBlock
    cases List.mem_singleton.mp isBlock
    cases declares with
    | texts | enums => exact fieldNames_declareEnum _ _
    | interfaces => rfl
  | @interface declaration members body derived shown rendered attached =>
    have kept : Crud.fields ctx (some symbol) declaration
        = .ok (members.filterMap Crud.TypeField.ofMember?) := by
      rw [Crud.fields, shown]
      rfl
    have own := fieldNames_interfaceBody rendered (ownHeader ctx declaration symbol)
    refine ⟨members, _, shown, kept, Inheritance.shownMembers_distinct shown,
      ⟨body, _, rfl, own⟩, ?_⟩
    intro distinct block isBlock
    rcases List.mem_cons.mp isBlock with rfl | isBlock
    · refine iff_of_true ?_ fun isFilter => absurd isFilter (declaredName?_ownHeader _ _ _)
      rw [own]
      exact distinct
    rcases List.mem_append.mp isBlock with isDerived | isFragment
    · exact fieldNames_derived_iff shown kept distinct attached isDerived
    · obtain ⟨fieldless, nameless⟩ := fragmentBlocks_plain isFragment
      rw [fieldless, nameless]
      exact iff_of_true List.nodup_nil fun isFilter => by cases isFilter

end Emission

namespace Graph

variable {options : Options} {graph : Graph}

/-- The fields of each block of a schema have different names exactly as far as the identifiers of
the members are different, and those of a filter input if the filters are apart besides. -/
theorem field_names_distinct {text : String} (finished : graph.schema options = .ok text) :
    ∃ ctx tables, Context.prepare options graph = .ok (ctx, tables) ∧
      let groups := (Emission.declareAll ctx tables ctx.emitted).groups
      text = textOf groups ∧
      List.Forall₂ (Emission.FieldsDistinct ctx tables) ctx.emitted groups := by
  obtain ⟨groups, writes, rfl⟩ := schema_eq_ok_iff.mp finished
  have outcome := Emission.declareAll_of_group_ok (fun _ member => member) writes.written
  refine ⟨_, _, writes.prepare, ?_⟩
  rw [outcome]
  refine ⟨rfl, (Traversal.mapM_eq_ok.mp writes.written).imp ?_⟩
  intro entry blocks written
  exact Emission.fieldsDistinct_of_group written

/-- A type with a field that begins like another one. -/
def item : Interface :=
  ⟨[.property ⟨"in-stock", some (.primitive .boolean), false, none⟩,
    .property ⟨"price", some (.primitive .number), false, none⟩,
    .property ⟨"price_list", some (.array [.reference "Item"]), true, none⟩], [], true, none⟩

def catalogue : Graph :=
  ⟨[("Item", .interface item)]⟩

theorem field_names_distinct_catalogue :
    ∃ text ctx tables fields, catalogue.schema {} = .ok text ∧
      Context.prepare {} catalogue = .ok (ctx, tables) ∧
      fields.map Crud.TypeField.name = ["in_stock", "price", "price_list"] ∧
      Crud.FiltersApart ctx tables fields ∧
      ∀ block ∈ (Emission.declareAll ctx tables ctx.emitted).groups.flatten,
        block.fieldNames.Nodup := by
  have finishes : (catalogue.emit {}).failure = none := by decide +kernel
  obtain ⟨groups, writes⟩ := emit_failure_eq_none_iff.mp finishes
  obtain ⟨ctx, tables, prepared, _, each⟩ := field_names_distinct writes.schema
  have same := writes.prepare
  rw [same] at prepared
  cases prepared
  have distinct : ∀ block ∈ (Emission.declareAll (Context.ofGraph {} catalogue)
      (Context.ofGraph {} catalogue).declaredTables
      (Context.ofGraph {} catalogue).emitted).groups.flatten, block.fieldNames.Nodup := by
    decide +kernel
  have filter : ∃ block ∈ (Emission.declareAll (Context.ofGraph {} catalogue)
      (Context.ofGraph {} catalogue).declaredTables
      (Context.ofGraph {} catalogue).emitted).groups.flatten,
      block.declaredName? = some "ItemWhereInput" := by
    decide +kernel
  obtain ⟨block, isBlock, isFilter⟩ := filter
  have nodup := distinct block isBlock
  generalize (Emission.declareAll _ _ _).groups = written at each isBlock
  have single : (Context.ofGraph {} catalogue).emitted = catalogue.entries := rfl
  rw [single] at each
  obtain ⟨blocks, _, ⟨members, fields, shown, kept, _, _, apart⟩, rest, rfl⟩ :=
    List.forall₂_cons_left_iff.mp each
  cases rest
  rw [List.flatten_singleton] at isBlock
  have identifiers : ((Inheritance.shownMembers (Context.ofGraph {} catalogue) (some "Item")
      item).map (·.map fun member => Text.identifier member.name)).toOption
        = some ["in_stock", "price", "price_list"] := by
    decide +kernel
  have names : ((Crud.fields (Context.ofGraph {} catalogue) (some "Item") item).map
      (·.map (·.name))).toOption = some ["in_stock", "price", "price_list"] := by
    decide +kernel
  rw [shown] at identifiers
  rw [kept] at names
  have spelled : (members.map fun member => Text.identifier member.name)
      = ["in_stock", "price", "price_list"] := Option.some.inj identifiers
  have unlike : (members.map fun member => Text.identifier member.name).Nodup := by
    rw [spelled]
    decide
  exact ⟨_, _, _, fields, writes.schema, same, Option.some.inj names,
    (apart unlike block isBlock).mp nodup isFilter, distinct⟩

/-- Two members that become one identifier. -/
def hyphenated : Graph :=
  ⟨[("Post", .interface
      ⟨[.property ⟨"a-b", some (.primitive .string), false, none⟩,
        .property ⟨"a_b", some (.primitive .number), false, none⟩], [], false, none⟩)]⟩

/-- A field named like a filter of another one. -/
def priced : Graph :=
  ⟨[("Item", .interface
      ⟨[.property ⟨"price", some (.primitive .number), false, none⟩,
        .property ⟨"price_in", some (.primitive .string), false, none⟩], [], true, none⟩)]⟩

/-- Fields of a block can have one name, because identifiers are less precise than names, and
because filters add endings. -/
theorem repeated_field_names :
    (hyphenated.emit {}).failure = none ∧ (priced.emit {}).failure = none ∧
      let posts := Context.ofGraph {} hyphenated
      let items := Context.ofGraph {} priced
      (∃ block ∈ (Emission.declareAll posts posts.declaredTables posts.emitted).groups.flatten,
        block.declaredName? = some "Post" ∧ block.fieldNames = ["a_b", "a_b"]) ∧
      ∃ block ∈ (Emission.declareAll items items.declaredTables items.emitted).groups.flatten,
        block.declaredName? = some "ItemWhereInput" ∧ ¬ block.fieldNames.Nodup := by
  decide +kernel

end Graph

end SchemaLowering
