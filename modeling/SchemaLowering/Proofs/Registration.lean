import SchemaLowering.Proofs.Declaration
import SchemaLowering.Proofs.Preparation
import SchemaLowering.Session

/-!
Registered names. A declaration that succeeds registers what the classification of its shape says
and nothing else. All declared symbols are classified before the first one is written, so a pass
never adds a name, and what it writes under a symbol does not depend on what it wrote before.
-/

namespace SchemaLowering

namespace Tables

theorem adjoin_of_mem {names : List String} {name : String} (member : name ∈ names) :
    adjoin names name = names := by
  simp [adjoin, member]

theorem adjoin_eraseDups (names : List String) (name : String) :
    adjoin names.eraseDups name = (names ++ [name]).eraseDups := by
  rw [List.eraseDups_append]
  by_cases member : name ∈ names
  · have kept : adjoin names.eraseDups name = names.eraseDups :=
      adjoin_of_mem (List.mem_eraseDups.mpr member)
    simp [kept, List.removeAll, member]
  · have missing : name ∉ names.eraseDups := fun found => member (List.mem_eraseDups.mp found)
    simp [adjoin, missing, List.removeAll, member, List.eraseDups_cons]

/-- Names adjoined one after the other stay in the order of their first occurrences. -/
theorem foldl_adjoin (names others : List String) :
    others.foldl adjoin names.eraseDups = (names ++ others).eraseDups := by
  induction others generalizing names with
  | nil => simp
  | cons name rest ih =>
    rw [List.foldl_cons, adjoin_eraseDups, ih, List.append_assoc, List.singleton_append]

end Tables

namespace Collapse

theorem declaresEnum_of_declaresScalar {graph : Graph} {node : Node}
    (scalar : declaresScalar node = true) : declaresEnum graph node = false := by
  cases node with
  | «alias» target documentation =>
    cases target with
    | primitive kind => rfl
    | _ => cases scalar
  | _ => cases scalar

theorem classify_enums (ctx : Context) (tables : Tables) (entry : String × Node) :
    (classify ctx tables entry).enums =
      if declaresEnum ctx.graph entry.2 then Tables.adjoin tables.enums (ctx.name entry.1)
      else tables.enums := by
  unfold classify
  by_cases enum : declaresEnum ctx.graph entry.2
  · simp [enum, Tables.registerEnum]
  · by_cases scalar : declaresScalar entry.2
    · simp [enum, scalar, Tables.registerScalar]
    · simp [enum, scalar]

theorem classify_scalars (ctx : Context) (tables : Tables) (entry : String × Node) :
    (classify ctx tables entry).scalars =
      if declaresScalar entry.2 then Tables.adjoin tables.scalars (ctx.name entry.1)
      else tables.scalars := by
  unfold classify
  by_cases scalar : declaresScalar entry.2
  · simp [declaresEnum_of_declaresScalar scalar, scalar, Tables.registerScalar]
  · by_cases enum : declaresEnum ctx.graph entry.2
    · simp [enum, scalar, Tables.registerEnum]
    · simp [enum, scalar]

end Collapse

namespace Context

/-- The names, in order, of the declared symbols whose shapes satisfy a condition. -/
def namesWhere (ctx : Context) (condition : Node → Bool) : List String :=
  (ctx.emitted.filter (condition ·.2)).map (ctx.name ·.1)

theorem mem_namesWhere {ctx : Context} {condition : Node → Bool} {name : String} :
    name ∈ ctx.namesWhere condition ↔
      ∃ entry ∈ ctx.emitted, condition entry.2 = true ∧ ctx.name entry.1 = name := by
  simp only [namesWhere, List.mem_map, List.mem_filter, and_assoc]

/-- A list of names that grows by the names of some entries, in the course of any fold. -/
private theorem foldl_names (ctx : Context) (condition : Node → Bool)
    (names : Tables → List String)
    (grows : ∀ tables entry, names (Collapse.classify ctx tables entry) =
      if condition entry.2 then Tables.adjoin (names tables) (ctx.name entry.1) else names tables)
    (entries : List (String × Node)) (tables : Tables) :
    names (entries.foldl (Collapse.classify ctx) tables) =
      ((entries.filter (condition ·.2)).map (ctx.name ·.1)).foldl Tables.adjoin (names tables) := by
  induction entries generalizing tables with
  | nil => rfl
  | cons entry rest ih =>
    rw [List.foldl_cons, ih, grows, List.filter_cons]
    split
    · rfl
    · rfl

theorem declaredTables_enums (ctx : Context) :
    ctx.declaredTables.enums = (ctx.namesWhere (Collapse.declaresEnum ctx.graph)).eraseDups :=
  (foldl_names ctx _ Tables.enums (Collapse.classify_enums ctx) ctx.emitted {}).trans
    (Tables.foldl_adjoin [] _)

theorem declaredTables_scalars (ctx : Context) :
    ctx.declaredTables.scalars = (ctx.namesWhere Collapse.declaresScalar).eraseDups :=
  (foldl_names ctx _ Tables.scalars (Collapse.classify_scalars ctx) ctx.emitted {}).trans
    (Tables.foldl_adjoin [] _)

/-- Classifying a declared symbol once more changes nothing. -/
theorem classify_declaredTables {ctx : Context} {entry : String × Node}
    (declared : entry ∈ ctx.emitted) :
    Collapse.classify ctx ctx.declaredTables entry = ctx.declaredTables := by
  have enums : (Collapse.classify ctx ctx.declaredTables entry).enums
      = ctx.declaredTables.enums := by
    rw [Collapse.classify_enums]
    split
    · next enum =>
      apply Tables.adjoin_of_mem
      rw [declaredTables_enums, List.mem_eraseDups, mem_namesWhere]
      exact ⟨entry, declared, enum, rfl⟩
    · rfl
  have scalars : (Collapse.classify ctx ctx.declaredTables entry).scalars
      = ctx.declaredTables.scalars := by
    rw [Collapse.classify_scalars]
    split
    · next scalar =>
      apply Tables.adjoin_of_mem
      rw [declaredTables_scalars, List.mem_eraseDups, mem_namesWhere]
      exact ⟨entry, declared, scalar, rfl⟩
    · rfl
  generalize Collapse.classify ctx ctx.declaredTables entry = tables at enums scalars
  cases tables
  cases enums
  cases scalars
  rfl

end Context

namespace Emission

/-- What is written under a symbol, and the names registered after it, are those that the
classification of its shape foretells. -/
structure Foretold (ctx : Context) (tables : Tables) (symbol : String) (node : Node)
    (blocks : List Block) (after : Tables) : Prop where
  registered : after = Collapse.classify ctx tables (symbol, node)
  isEnum : blocks.head?.any Block.isEnum = Collapse.declaresEnum ctx.graph node
  isScalar : blocks.head?.any Block.isScalar = Collapse.declaresScalar node

theorem foretold_enum (ctx : Context) (tables : Tables) (symbol : String) {node : Node}
    (values : List String) (enum : Collapse.declaresEnum ctx.graph node = true) :
    Foretold ctx tables symbol node [(Union.declareEnum ctx tables symbol values).1]
      (Union.declareEnum ctx tables symbol values).2 where
  registered := by simp [Union.declareEnum, Collapse.classify, enum]
  isEnum := by simp [Union.declareEnum, Block.declare, Block.isEnum, enum]
  isScalar := by
    have notScalar : Collapse.declaresScalar node = false := by
      by_contra scalar
      rw [Bool.not_eq_false] at scalar
      rw [Collapse.declaresEnum_of_declaresScalar scalar] at enum
      cases enum
    simp [Union.declareEnum, Block.declare, Block.isScalar, notScalar]

theorem foretold_of_neither {ctx : Context} {tables : Tables} {symbol : String} {node : Node}
    {own : Block} {attached : List Block} (notEnum : Collapse.declaresEnum ctx.graph node = false)
    (notScalar : Collapse.declaresScalar node = false) (ownEnum : own.isEnum = false)
    (ownScalar : own.isScalar = false) :
    Foretold ctx tables symbol node (own :: attached) tables where
  registered := by simp [Collapse.classify, notEnum, notScalar]
  isEnum := by simp [notEnum, ownEnum]
  isScalar := by simp [notScalar, ownScalar]

theorem foretold_union {ctx : Context} {tables : Tables} {symbol : String} {types : List Node}
    {documentation : Option Documentation} {result : Block × Tables}
    (declares : Union.Declares ctx tables symbol types result) :
    Foretold ctx tables symbol (.alias (.union types) documentation) [result.1] result.2 := by
  cases declares with
  | texts nonempty found =>
    rename_i values
    apply foretold_enum
    have literal := Union.literals?_isSome types
    rw [found, Option.isSome_some] at literal
    cases types with
    | nil => exact absurd rfl nonempty
    | cons node rest => simp [Collapse.declaresEnum, ← literal]
  | enums leading found =>
    apply foretold_enum
    simp [Collapse.declaresEnum, leading, Node.isEnum]
  | interfaces leading found =>
    apply foretold_of_neither
    · simp [Collapse.declaresEnum, leading, Node.isEnum, Node.isLiteral]
    · rfl
    · rfl
    · rfl

theorem ownHeader_isEnum (ctx : Context) (declaration : Interface) (symbol : String)
    (body : List Line) :
    (Block.braced (ownHeader ctx declaration symbol) body).isEnum = false := by
  unfold ownHeader
  repeat' split
  all_goals rfl

/-- A declaration that succeeds writes and registers what its classification foretells. -/
theorem foretold_declaration {ctx : Context} {tables after : Tables} {origin : Option String}
    {node : Node} {symbol : String} {blocks : List Block}
    (declared : declarationBlocks ctx tables origin node symbol = .ok (blocks, after)) :
    Foretold ctx tables symbol node blocks after := by
  cases declares_of_declarationBlocks declared with
  | scalar kind documentation => exact ⟨rfl, rfl, rfl⟩
  | synonym other documentation => exact foretold_of_neither rfl rfl rfl rfl
  | union documentation declares => exact foretold_union declares
  | enum values => exact foretold_enum ctx tables symbol values rfl
  | interface shown rendered attached =>
    exact foretold_of_neither rfl rfl (ownHeader_isEnum ..) rfl

end Emission

end SchemaLowering
