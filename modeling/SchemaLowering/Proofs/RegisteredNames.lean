import SchemaLowering.Proofs.Pass

/-!
Names registered in the course of steps on one pass. A step registers at most one name, behind the
names that are there, and registers it last: work in which names are registered at once, and stay
registered when the work fails later on, gives the same tables.
-/

namespace SchemaLowering

namespace Tables

/-- Each table holds a name once, and all names are identifiers. -/
structure WellFormed (tables : Tables) : Prop where
  enums_distinct : tables.enums.Nodup
  scalars_distinct : tables.scalars.Nodup
  identifiers : ∀ name ∈ tables.enums ++ tables.scalars, ∀ c ∈ name.toList,
    Text.isNameChar c = true

/-- Later tables begin with the earlier ones, and both together have at most one more name. -/
structure GrowsTo (before after : Tables) : Prop where
  enums : before.enums <+: after.enums
  scalars : before.scalars <+: after.scalars
  few : after.enums.length + after.scalars.length
    ≤ before.enums.length + before.scalars.length + 1

/-- What a step on a pass can do to the tables. -/
inductive Registers (ctx : Context) (tables : Tables) : Tables → Prop where
  | nothing : Registers ctx tables tables
  | enum (symbol : String) : Registers ctx tables (tables.registerEnum ctx symbol)
  | scalar (symbol : String) : Registers ctx tables (tables.registerScalar ctx symbol)

theorem prefix_adjoin (names : List String) (name : String) : names <+: adjoin names name := by
  unfold adjoin
  split
  · exact List.prefix_refl names
  · exact List.prefix_append names [name]

theorem length_adjoin_le (names : List String) (name : String) :
    (adjoin names name).length ≤ names.length + 1 := by
  unfold adjoin
  split
  · omega
  · simp

theorem nodup_adjoin {names : List String} (distinct : names.Nodup) (name : String) :
    (adjoin names name).Nodup := by
  unfold adjoin
  split
  · exact distinct
  · next fresh =>
    rw [List.nodup_append]
    refine ⟨distinct, by simp, fun old isOld new isNew same => ?_⟩
    rw [List.mem_singleton.mp isNew] at same
    exact fresh (same ▸ isOld)

theorem mem_adjoin {names : List String} {name other : String} :
    other ∈ adjoin names name ↔ other ∈ names ∨ other = name := by
  unfold adjoin
  split
  · next found =>
    constructor
    · exact .inl
    · rintro (member | rfl)
      · exact member
      · exact found
  · simp

variable {ctx : Context} {before after : Tables}

theorem Registers.growsTo (registers : Registers ctx before after) : before.GrowsTo after := by
  cases registers with
  | nothing => exact ⟨List.prefix_refl _, List.prefix_refl _, by omega⟩
  | enum symbol =>
    have few := length_adjoin_le before.enums (ctx.name symbol)
    exact ⟨prefix_adjoin _ _, List.prefix_refl _, by simp only [registerEnum]; omega⟩
  | scalar symbol =>
    have few := length_adjoin_le before.scalars (ctx.name symbol)
    exact ⟨List.prefix_refl _, prefix_adjoin _ _, by simp only [registerScalar]; omega⟩

/-- Registering keeps tables well-formed, because a registered name is an identifier. -/
theorem Registers.wellFormed (registers : Registers ctx before after)
    (wellFormed : before.WellFormed) : after.WellFormed := by
  have registered (symbol : String) :
      ∀ c ∈ (ctx.name symbol).toList, Text.isNameChar c = true :=
    fun _ => Text.isNameChar_of_mem_identifier
  cases registers with
  | nothing => exact wellFormed
  | enum symbol =>
    refine ⟨nodup_adjoin wellFormed.enums_distinct _, wellFormed.scalars_distinct, ?_⟩
    intro name member
    simp only [registerEnum, List.mem_append, mem_adjoin] at member
    rcases member with (old | rfl) | scalar
    · exact wellFormed.identifiers name (List.mem_append_left _ old)
    · exact registered symbol
    · exact wellFormed.identifiers name (List.mem_append_right _ scalar)
  | scalar symbol =>
    refine ⟨wellFormed.enums_distinct, nodup_adjoin wellFormed.scalars_distinct _, ?_⟩
    intro name member
    simp only [registerScalar, List.mem_append, mem_adjoin] at member
    rcases member with enum | (old | rfl)
    · exact wellFormed.identifiers name (List.mem_append_left _ enum)
    · exact wellFormed.identifiers name (List.mem_append_right _ old)
    · exact registered symbol

theorem registers_classify (ctx : Context) (tables : Tables) (entry : String × Node) :
    Registers ctx tables (Collapse.classify ctx tables entry) := by
  unfold Collapse.classify
  split
  · exact .enum entry.1
  split
  · exact .scalar entry.1
  · exact .nothing

/-- The names that a pass begins with are well-formed. -/
theorem wellFormed_declaredTables (ctx : Context) : ctx.declaredTables.WellFormed := by
  suffices ∀ (entries : List (String × Node)) (tables : Tables), tables.WellFormed →
      (entries.foldl (Collapse.classify ctx) tables).WellFormed from
    this ctx.emitted {} ⟨List.nodup_nil, List.nodup_nil, by simp⟩
  intro entries
  induction entries with
  | nil => exact fun _ wellFormed => wellFormed
  | cons entry rest ih =>
    intro tables wellFormed
    exact ih _ ((registers_classify ctx tables entry).wellFormed wellFormed)

end Tables

namespace Session

/-- The pass as it stands after some steps. -/
def reached (state : State) (requests : List Step) : State :=
  ((trace state requests).getLast?.map Prod.snd).getD state

theorem reached_cons (state : State) (request : Step) (rest : List Step) :
    reached state (request :: rest) = reached (step state request).2 rest := by
  simp only [reached, trace, List.getLast?_cons]
  cases (trace (step state request).2 rest).getLast? with
  | none => rfl
  | some taken => rfl

theorem trace_append (state : State) (earlier later : List Step) :
    trace state (earlier ++ later)
      = trace state earlier ++ trace (reached state earlier) later := by
  induction earlier generalizing state with
  | nil => rfl
  | cons request rest ih =>
    rw [List.cons_append, trace, trace, ih, reached_cons, List.cons_append]

theorem registers_declare {state : State} {origin : Option String} {node : Node} {name : String}
    {result : Answer × Tables} (answered : declare state origin node name = .ok result) :
    Tables.Registers state.ctx state.tables result.2 := by
  obtain ⟨⟨blocks, after⟩, declared, same⟩ := Traversal.bind_eq_ok.mp answered
  cases same
  have registered := (Emission.foretold_declaration declared).registered
  rw [registered]
  exact Tables.registers_classify state.ctx state.tables (name, node)

theorem registers_declareUnion {ctx : Context} {tables : Tables} {types : List Node}
    {name : String} {result : Block × Tables}
    (declared : Union.declare ctx tables types name = .ok result) :
    Tables.Registers ctx tables result.2 := by
  cases Union.declares_of_declare declared with
  | texts nonempty found => exact .enum name
  | enums leading found => exact .enum name
  | interfaces leading found => exact .nothing

/-- Whether a step only looks at a pass. -/
def Step.onlyReads : Step → Bool
  | .lower _ | .filters _ _ | .artifact _ _ _ | .artifacts _ _ => true
  | .isEnum _ | .isScalar _ | .name _ | .resolve _ | .emitAll => true
  | _ => false

theorem tables_of_answer {state : State} {request : Step} {result : Answer × Tables}
    (reads : request.onlyReads = true) (answered : answer state request = .ok result) :
    result.2 = state.tables := by
  cases request with
  | isEnum | isScalar | name =>
    cases answered
    rfl
  | lower | filters | resolve | emitAll =>
    obtain ⟨value, found, same⟩ := Traversal.bind_eq_ok.mp answered
    cases same
    rfl
  | artifact chosen symbol name =>
    simp only [answer] at answered
    split at answered
    all_goals
      obtain ⟨fields, found, answered⟩ := Traversal.bind_eq_ok.mp answered
      obtain ⟨block, written, same⟩ := Traversal.bind_eq_ok.mp answered
      cases same
      rfl
  | artifacts symbol name =>
    obtain ⟨fields, found, answered⟩ := Traversal.bind_eq_ok.mp answered
    obtain ⟨blocks, written, same⟩ := Traversal.bind_eq_ok.mp answered
    cases same
    rfl
  | _ => cases reads

/-- Every step but a new beginning registers at most one name: the one under which it declares
something, or which it is asked to register. -/
theorem registers_answer {state : State} {request : Step} {result : Answer × Tables}
    (samePass : request ≠ .restart) (answered : answer state request = .ok result) :
    Tables.Registers state.ctx state.tables result.2 := by
  cases request with
  | declare symbol name =>
    obtain ⟨node, resolved, answered⟩ := Traversal.bind_eq_ok.mp answered
    exact registers_declare answered
  | declareNode node name =>
    cases node with
    | none => cases answered
    | some node => exact registers_declare answered
  | declareUnion node name =>
    rcases node with _ | node
    · cases answered
    cases node with
    | union types =>
      obtain ⟨written, declared, same⟩ := Traversal.bind_eq_ok.mp answered
      cases same
      exact registers_declareUnion declared
    | _ => cases answered
  | registerEnum name =>
    cases answered
    exact .enum name
  | registerScalar name =>
    cases answered
    exact .scalar name
  | restart => exact absurd rfl samePass
  | _ =>
    rw [tables_of_answer rfl answered]
    exact .nothing

theorem registers_step {state : State} {request : Step} (samePass : request ≠ .restart) :
    Tables.Registers state.ctx state.tables (step state request).2.tables := by
  unfold step
  cases answered : answer state request with
  | error error => exact .nothing
  | ok result => exact registers_answer samePass answered

/-- A new beginning registers what the graph declares. -/
theorem wellFormed_restart {state : State} (wellFormed : state.tables.WellFormed) :
    (step state .restart).2.tables.WellFormed := by
  unfold step
  cases answered : answer state .restart with
  | error error => exact wellFormed
  | ok result =>
    obtain ⟨⟨ctx, tables⟩, prepared, same⟩ := Traversal.bind_eq_ok.mp answered
    cases same
    obtain ⟨begins, same, tablesEq⟩ := Context.prepare_eq_ok_iff.mp prepared
    rw [tablesEq]
    exact Tables.wellFormed_declaredTables _

theorem wellFormed_step {state : State} (wellFormed : state.tables.WellFormed) (request : Step) :
    (step state request).2.tables.WellFormed := by
  by_cases samePass : request = .restart
  · subst samePass
    exact wellFormed_restart wellFormed
  · exact (registers_step samePass).wellFormed wellFormed

theorem wellFormed_reached {state : State} (wellFormed : state.tables.WellFormed)
    (requests : List Step) : (reached state requests).tables.WellFormed := by
  induction requests generalizing state with
  | nil => exact wellFormed
  | cons request rest ih =>
    rw [reached_cons]
    exact ih (wellFormed_step wellFormed request)

/-- Work on a pass in which a name is registered at once, and stays so when the work fails. -/
abbrev Registering := ExceptT LoweringError (StateM Tables)

namespace Registering

variable {α β : Type}

/-- Work that only reads the tables. -/
def ask (question : Tables → Except LoweringError α) : Registering α :=
  ExceptT.mk fun tables => (question tables, tables)

def declareEnum (ctx : Context) (name : String) (values : List String) : Registering Block := do
  modify (·.registerEnum ctx name)
  return Block.declare .enum (ctx.name name) (values.map .word)

/-- The declaration of a union that refers to other shapes, by what the first of them is. -/
def declareReferences (ctx : Context) (targets : List String) (name : String) :
    Node → Registering Block
  | .enum _ => do
    let values ← ask fun _ => Union.enumValues ctx.graph targets
    declareEnum ctx name values.eraseDups
  | .interface _ => do
    let names ← ask fun _ => Union.interfaceNames ctx targets
    return .union (ctx.name name) names
  | node => throw (.union (.unsupported node.kind))

def declareUnion (ctx : Context) (types : List Node) (name : String) : Registering Block :=
  match types with
  | [] => throw (.union (.empty name))
  | _ =>
    match Union.literals? types with
    | some values => declareEnum ctx name values.eraseDups
    | none => do
      let targets ← ask fun _ => (Union.references types).mapError .union
      match targets with
      | [] => throw (.union (.empty name))
      | first :: _ => do
        let leading ← ask fun _ => ctx.graph.resolve first
        declareReferences ctx targets name leading

def declareAlias (ctx : Context) (target : Node) (symbol : String) : Registering (List Block) :=
  match target with
  | .primitive _ => do
    modify (·.registerScalar ctx symbol)
    return [.scalar (ctx.name symbol)]
  | .reference other => return [.union (ctx.name symbol) [ctx.name other]]
  | .union types => do
    let block ← declareUnion ctx types symbol
    return [block]
  | node => throw (.unsupported node.kind "an alias")

def declarationBlocks (ctx : Context) (origin : Option String) (node : Node) (symbol : String) :
    Registering (List Block) :=
  match node with
  | .alias target _ => declareAlias ctx target symbol
  | .interface declaration =>
    ask fun tables => Emission.interfaceBlocks ctx tables origin declaration symbol
  | .enum values => do
    let block ← declareEnum ctx symbol values
    return [block]
  | node => throw (.unsupported node.kind "a top level node")

def declare (ctx : Context) (origin : Option String) (node : Node) (symbol : String) :
    Registering Answer := do
  let blocks ← declarationBlocks ctx origin node symbol
  return .text (Block.renderAll blocks)

/-- A step, taken with names registered at once. -/
def perform (ctx : Context) : Step → Registering Answer
  | .declare symbol name => do
    let node ← ask fun _ => ctx.graph.resolve symbol
    declare ctx (some symbol) node name
  | .declareNode (some node) name => declare ctx none node name
  | .declareUnion (some (.union types)) name => do
    let block ← declareUnion ctx types name
    return .text block.render
  | .registerEnum name => do
    modify (·.registerEnum ctx name)
    return .nothing
  | .registerScalar name => do
    modify (·.registerScalar ctx name)
    return .nothing
  | .restart => do
    let (_, tables) ← ask fun _ => Context.prepare ctx.options ctx.graph
    set tables
    return .nothing
  | request => ask fun tables => (answer ⟨ctx, tables⟩ request).map Prod.fst

/-- The outcome of work that is all or nothing: the tables after it, or those before it when it
fails. -/
def settled (tables : Tables) : Except LoweringError (α × Tables) → Except LoweringError α × Tables
  | .ok (value, after) => (.ok value, after)
  | .error error => (.error error, tables)

/-- A question gives its answer, and the tables stay. -/
theorem run_ask (question : Tables → Except LoweringError α) (tables : Tables) :
    (ask question).run.run tables
      = settled tables (question tables >>= fun value => pure (value, tables)) := by
  change (question tables, tables) = _
  cases question tables with
  | error error => rfl
  | ok value => rfl

theorem run_ask_bind {question : Tables → Except LoweringError α} {next : α → Registering β}
    {tables : Tables} {other : α → Except LoweringError (β × Tables)}
    (agree : ∀ value, (next value).run.run tables = settled tables (other value)) :
    (ask question >>= next).run.run tables = settled tables (question tables >>= other) := by
  rw [ExceptT.run_bind, StateT.run_bind]
  have asked : (ask question).run.run tables = (question tables, tables) := rfl
  rw [asked]
  cases question tables with
  | error error => rfl
  | ok value => exact agree value

theorem run_bind_pure {first : Registering α} {tables : Tables}
    {other : Except LoweringError (α × Tables)}
    (agree : first.run.run tables = settled tables other) (change : α → β) :
    (first >>= fun value => pure (change value)).run.run tables
      = settled tables (other >>= fun result => pure (change result.1, result.2)) := by
  rw [ExceptT.run_bind, StateT.run_bind, agree]
  cases other with
  | error error => rfl
  | ok result => rfl

/-- A union is declared as if it were all or nothing, because its name is registered after every
look at its members. -/
theorem run_declareUnion (ctx : Context) (tables : Tables) (types : List Node) (name : String) :
    (declareUnion ctx types name).run.run tables
      = settled tables (Union.declare ctx tables types name) := by
  cases types with
  | nil => rfl
  | cons node others =>
    unfold declareUnion Union.declare
    cases Union.literals? (node :: others) with
    | some values => rfl
    | none =>
      refine run_ask_bind fun targets => ?_
      cases targets with
      | nil => rfl
      | cons first rest =>
        refine run_ask_bind fun leading => ?_
        cases leading with
        | enum own => exact run_ask_bind fun values => rfl
        | interface own => exact run_ask_bind fun names => rfl
        | _ => rfl

theorem run_declarationBlocks (ctx : Context) (tables : Tables) (origin : Option String)
    (node : Node) (symbol : String) :
    (declarationBlocks ctx origin node symbol).run.run tables
      = settled tables (Emission.declarationBlocks ctx tables origin node symbol) := by
  cases node with
  | «alias» target documentation =>
    cases target with
    | union types => exact run_bind_pure (run_declareUnion ctx tables types symbol) ([·])
    | _ => rfl
  | interface declaration =>
    exact run_ask
      (fun tables => Emission.interfaceBlocks ctx tables origin declaration symbol) tables
  | _ => rfl

theorem run_declare (state : State) (origin : Option String) (node : Node) (symbol : String) :
    (declare state.ctx origin node symbol).run.run state.tables
      = settled state.tables (Session.declare state origin node symbol) :=
  run_bind_pure (run_declarationBlocks state.ctx state.tables origin node symbol)
    (Answer.text <| Block.renderAll ·)

/-- A step that only reads the tables is a question to them. -/
theorem run_ask_answer {state : State} {request : Step} (reads : request.onlyReads = true) :
    (ask fun tables => (answer ⟨state.ctx, tables⟩ request).map Prod.fst).run.run state.tables
      = settled state.tables (answer state request) := by
  rw [run_ask]
  cases answered : answer state request with
  | error error => simp [Except.map, settled, bind, Except.bind]
  | ok result =>
    have kept := tables_of_answer reads answered
    simp [Except.map, settled, bind, Except.bind, pure, Except.pure, kept]

/-- Every step gives the same answer and the same tables as when its names are registered at once,
whether it fails or not. -/
theorem run_perform (state : State) (request : Step) :
    (perform state.ctx request).run.run state.tables
      = settled state.tables (answer state request) := by
  cases request with
  | declare symbol name => exact run_ask_bind fun node => run_declare state (some symbol) node name
  | declareNode node name =>
    cases node with
    | none => rfl
    | some node => exact run_declare state none node name
  | declareUnion node name =>
    rcases node with _ | node
    · rfl
    cases node with
    | union types => exact run_bind_pure (run_declareUnion state.ctx state.tables types name) _
    | _ => rfl
  | restart => exact run_ask_bind fun prepared => rfl
  | registerEnum | registerScalar => rfl
  | _ => exact run_ask_answer rfl

end Registering

theorem settled_answer (state : State) (request : Step) :
    Registering.settled state.tables (answer state request)
      = ((step state request).1, (step state request).2.tables) := by
  unfold step
  cases answer state request with
  | error error => rfl
  | ok result => rfl

theorem tables_of_failure {state : State} {request : Step} {error : LoweringError}
    (failed : (step state request).1 = .error error) :
    (step state request).2.tables = state.tables := by
  unfold step at failed ⊢
  cases answered : answer state request with
  | error error => rfl
  | ok result => simp [answered] at failed

/-- Over every run of steps on a pass the tables hold no name twice and identifiers only. Each step,
a new beginning apart, keeps the names that are there at the front and adds at most one. A step that
fails leaves the tables as they were, even when each name is registered as soon as its declaration
gets to it. -/
theorem registered_names_grow {options : Options} {graph : Graph} {state : State}
    (started : start options graph = .ok state) (earlier : List Step) (request : Step)
    (later : List Step) :
    let before := reached state earlier
    let taken := step before request
    trace state (earlier ++ request :: later)
        = trace state earlier ++ taken :: trace taken.2 later ∧
      before.tables.WellFormed ∧ taken.2.tables.WellFormed ∧
      (request ≠ .restart → before.tables.GrowsTo taken.2.tables) ∧
      (∀ error, taken.1 = .error error → taken.2.tables = before.tables) ∧
      (Registering.perform before.ctx request).run.run before.tables
        = (taken.1, taken.2.tables) := by
  intro before taken
  obtain ⟨begins, rfl⟩ := start_eq_ok_iff.mp started
  have wellFormed : before.tables.WellFormed :=
    wellFormed_reached (Tables.wellFormed_declaredTables _) earlier
  refine ⟨trace_append _ earlier _, wellFormed, wellFormed_step wellFormed request, ?_, ?_, ?_⟩
  · intro samePass
    exact (registers_step samePass).growsTo
  · intro error failed
    exact tables_of_failure failed
  · rw [Registering.run_perform, settled_answer]

/-- Names registered on request and by a declaration, and then a union of unlike members. -/
theorem registered_names_grow_paints :
    ∃ state, start {} Graph.paints = .ok state ∧
      let before := reached state [.registerScalar "Sky Blue", .declare "Color" "Hue"]
      let taken := step before
        (.declareUnion (some (.union [.reference "Color", .reference "Wall"])) "Mixed")
      before.tables = ⟨["Color", "Shade", "Hue"], ["Key", "Sky_Blue"]⟩ ∧
        taken.2.tables = before.tables ∧ before.tables.WellFormed := by
  have started : start {} Graph.paints = .ok
      ⟨Context.ofGraph {} Graph.paints, (Context.ofGraph {} Graph.paints).declaredTables⟩ := rfl
  obtain ⟨-, wellFormed, -, -, unchanged, -⟩ := registered_names_grow started
    [.registerScalar "Sky Blue", .declare "Color" "Hue"]
    (.declareUnion (some (.union [.reference "Color", .reference "Wall"])) "Mixed") []
  exact ⟨_, started, by decide, unchanged (.union (.notEnum "interface" "Wall")) rfl, wellFormed⟩

end Session

end SchemaLowering
