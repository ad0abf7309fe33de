import SchemaLowering.Proofs.FailureReports

/-!
References that a pass follows. Aliases, unions and supertypes are looked up in the graph, and so is
the parameter of a method if it is a reference; a pass that succeeds has found all of them. A
reference in the type of a field is written under its name and not looked up, so that it may miss
the graph.
-/

namespace SchemaLowering

namespace Inheritance

/-- The supertypes of an interface and of its ancestors. -/
inductive Ascends (graph : Graph) (target : String) : Interface → Prop where
  | own {declaration : Interface} (named : target ∈ declaration.inherits) :
      Ascends graph target declaration
  | above {declaration parent : Interface} {name : String} (named : name ∈ declaration.inherits)
      (found : graph.find? name = some (.interface parent))
      (higher : Ascends graph target parent) : Ascends graph target declaration

variable {graph : Graph} {origin : Option String} {target : String}

/-- A walk that does not fail finds the supertypes of every ancestor. -/
theorem ascends_known {visited : List String} {current : Interface}
    {above : List (String × Interface)}
    (walked : ancestors graph origin visited current = .ok above)
    (ascends : Ascends graph target current) :
    ∃ parent, graph.find? target = some (.interface parent) := by
  fun_induction ancestors graph origin visited current generalizing above with
  | case1 visited current none =>
    cases ascends with
    | own named => simp [none] at named
    | above named => simp [none] at named
  | case5 visited current name one fresh notStart parent found _ ih =>
    obtain ⟨rest, walkedRest, _⟩ := Traversal.bind_eq_ok.mp walked
    cases ascends with
    | own named =>
      rw [one, List.mem_singleton] at named
      exact ⟨parent, named ▸ found⟩
    | above named foundName higher =>
      rw [one, List.mem_singleton] at named
      subst named
      cases found.symm.trans foundName
      exact ih walkedRest higher
  | _ => cases walked

theorem ascends_known_of_members {declaration : Interface} {all : List Member}
    (collected : members graph origin declaration = .ok all)
    (ascends : Ascends graph target declaration) :
    ∃ parent, graph.find? target = some (.interface parent) := by
  obtain ⟨links, chained, _⟩ := Traversal.bind_eq_ok.mp collected
  obtain ⟨above, walked, _⟩ := Traversal.bind_eq_ok.mp chained
  exact ascends_known walked ascends

end Inheritance

namespace Expression

/-- The supertypes that are looked up when a shape is written as an expression: those of the
interfaces that are written in place, at any depth. -/
inductive LooksUp (ctx : Context) (target : String) : Option String → Node → Prop where
  | supertype {origin : Option String} {declaration : Interface}
      (ascends : Inheritance.Ascends ctx.graph target declaration) :
      LooksUp ctx target origin (.interface declaration)
  | element {origin : Option String} {elements : List Node} {element : Node}
      (isElement : element ∈ elements) (inside : LooksUp ctx target none element) :
      LooksUp ctx target origin (.array elements)
  | member {origin : Option String} {node : Node} {members : List Property} {member : Property}
      {type : Node} (listed : Inheritance.inlineMembers ctx.graph origin node = .ok members)
      (isMember : member ∈ members) (typed : member.signature = some type)
      (inside : LooksUp ctx target none type) : LooksUp ctx target origin node

variable {ctx : Context} {target : String}

theorem lowered_of_inlineText {options : Options} {lowerType : Node → Except LoweringError String}
    {members : List Property} {expression : String}
    (inlined : inlineText options lowerType members = .ok expression) {member : Property}
    (isMember : member ∈ members) {type : Node} (typed : member.signature = some type) :
    ∃ lowered, lowerType type = .ok lowered := by
  cases members with
  | nil => cases isMember
  | cons first rest =>
    obtain ⟨fields, each, _⟩ := Traversal.bind_eq_ok.mp inlined
    obtain ⟨field, ofMember⟩ := Traversal.exists_mapM_eq_ok.mp ⟨fields, each⟩ member isMember
    rw [inlineField, typed] at ofMember
    obtain ⟨lowered, ofType, _⟩ := Traversal.bind_eq_ok.mp ofMember
    exact ⟨lowered, ofType⟩

/-- A shape that is written in place has an expression only if its members are found. -/
theorem inlineText_of_lowerWithin {depth : Nat} {origin : Option String} {node : Node}
    {members : List Property} {expression : String}
    (listed : Inheritance.inlineMembers ctx.graph origin node = .ok members)
    (lowered : lowerWithin ctx (depth + 1) origin node = .ok expression) :
    inlineText ctx.options (lowerWithin ctx depth none) members = .ok expression := by
  cases node with
  | object own =>
    cases listed
    exact lowered
  | interface declaration =>
    obtain ⟨found, listedHere, inlined⟩ := Traversal.bind_eq_ok.mp lowered
    cases listed.symm.trans listedHere
    exact inlined
  | _ => cases listed

/-- An expression is written only if the supertypes that it looks up are found. -/
theorem looksUp_known {depth : Nat} {origin : Option String} {node : Node} {expression : String}
    (lowered : lowerWithin ctx depth origin node = .ok expression)
    (looksUp : LooksUp ctx target origin node) :
    ∃ parent, ctx.graph.find? target = some (.interface parent) := by
  -- Each step down to the supertype uses up one level of the depth.
  induction looksUp generalizing depth expression with
  | supertype ascends =>
    cases depth with
    | zero => cases lowered
    | succ depth =>
      obtain ⟨members, listed, _⟩ := Traversal.bind_eq_ok.mp lowered
      obtain ⟨all, collected, _⟩ := Traversal.bind_eq_ok.mp listed
      exact Inheritance.ascends_known_of_members collected ascends
  | element isElement _ ih =>
    cases depth with
    | zero => cases lowered
    | succ depth =>
      obtain ⟨parts, each, _⟩ := Traversal.bind_eq_ok.mp lowered
      obtain ⟨part, ofElement⟩ := Traversal.exists_mapM_eq_ok.mp ⟨parts, each⟩ _ isElement
      exact ih ofElement
  | member listed isMember typed _ ih =>
    cases depth with
    | zero => cases lowered
    | succ depth =>
      have inlined := inlineText_of_lowerWithin listed lowered
      obtain ⟨inner, ofType⟩ := lowered_of_inlineText inlined isMember typed
      exact ih ofType

theorem looksUp_known_of_lowerOptional {type : Option Node} {expression : String}
    (lowered : lowerOptional ctx type = .ok expression) {node : Node} (typed : type = some node)
    (looksUp : LooksUp ctx target none node) :
    ∃ parent, ctx.graph.find? target = some (.interface parent) := by
  subst typed
  exact looksUp_known lowered looksUp

end Expression

namespace Emission

/-- The references that are followed when a member of a declaration is written. -/
inductive MemberFollows (ctx : Context) (target : String) : Member → Prop where
  | signature {declaration : Property} {type : Node} (typed : declaration.signature = some type)
      (looksUp : Expression.LooksUp ctx target none type) :
      MemberFollows ctx target (.property declaration)
  | returns {declaration : Method} {type : Node} (typed : declaration.returns = some type)
      (looksUp : Expression.LooksUp ctx target none type) :
      MemberFollows ctx target (.method declaration)
  | parameter {declaration : Method} {name : String}
      (named : (name, .reference target) ∈ declaration.parameters) :
      MemberFollows ctx target (.method declaration)
  | argument {declaration : Method} {name : String} {type : Node}
      (named : (name, type) ∈ declaration.parameters)
      (looksUp : Expression.LooksUp ctx target none type) :
      MemberFollows ctx target (.method declaration)
  | behindParameter {declaration : Method} {name other : String} {type : Node}
      (named : (name, .reference other) ∈ declaration.parameters)
      (found : ctx.graph.find? other = some type)
      (looksUp : Expression.LooksUp ctx target (some other) type) :
      MemberFollows ctx target (.method declaration)

variable {ctx : Context} {target : String}

theorem argumentText_of_memberField {declaration : Method} {field : Field}
    (rendered : memberField ctx (.method declaration) = .ok field) {name : String} {argument : Node}
    (named : (name, argument) ∈ declaration.parameters) :
    ∃ text, argumentText ctx argument = .ok text := by
  obtain ⟨_, _, _, _, parameters⟩ := memberField_method rendered
  rcases parameters with ⟨empty, _⟩ | ⟨only, type, text, single, written, _⟩
  · rw [empty] at named
    cases named
  · rw [single, List.mem_singleton] at named
    cases named
    exact ⟨text, written⟩

/-- A member that is written has its references found. -/
theorem memberFollows_known {member : Member} {field : Field}
    (rendered : memberField ctx member = .ok field) (follows : MemberFollows ctx target member) :
    ∃ node, ctx.graph.find? target = some node := by
  cases follows with
  | signature typed looksUp =>
    obtain ⟨type, lowered, _⟩ := Traversal.bind_eq_ok.mp rendered
    obtain ⟨parent, found⟩ := Expression.looksUp_known_of_lowerOptional lowered typed looksUp
    exact ⟨_, found⟩
  | returns typed looksUp =>
    obtain ⟨_, type, lowered, _⟩ := memberField_method rendered
    obtain ⟨parent, found⟩ := Expression.looksUp_known_of_lowerOptional lowered typed looksUp
    exact ⟨_, found⟩
  | parameter named =>
    obtain ⟨text, written⟩ := argumentText_of_memberField rendered named
    obtain ⟨node, resolved, _⟩ := Traversal.bind_eq_ok.mp written
    exact ⟨node, Graph.resolve_eq_ok.mp resolved⟩
  | @argument _ _ type named looksUp =>
    obtain ⟨text, written⟩ := argumentText_of_memberField rendered named
    unfold argumentText at written
    split at written
    · cases looksUp with
      | member listed => cases listed
    · obtain ⟨parent, found⟩ := Expression.looksUp_known written looksUp
      exact ⟨_, found⟩
  | behindParameter named found looksUp =>
    obtain ⟨text, written⟩ := argumentText_of_memberField rendered named
    obtain ⟨node, resolved, lowered⟩ := Traversal.bind_eq_ok.mp written
    cases (Graph.resolve_eq_ok.mp resolved).symm.trans found
    obtain ⟨parent, found⟩ := Expression.looksUp_known lowered looksUp
    exact ⟨_, found⟩

/-- The references of a declared symbol that are followed when it is written. -/
inductive Follows (ctx : Context) (target : String) : String × Node → Prop where
  | union {symbol : String} {types : List Node} {documentation : Option Documentation}
      (isMember : .reference target ∈ types) :
      Follows ctx target (symbol, .alias (.union types) documentation)
  | supertype {symbol : String} {declaration : Interface}
      (ascends : Inheritance.Ascends ctx.graph target declaration) :
      Follows ctx target (symbol, .interface declaration)
  | member {symbol : String} {declaration : Interface} {members : List Member} {member : Member}
      (shown : Inheritance.shownMembers ctx (some symbol) declaration = .ok members)
      (isMember : member ∈ members) (follows : MemberFollows ctx target member) :
      Follows ctx target (symbol, .interface declaration)

theorem reference_known_of_union {tables : Tables} {symbol : String} {types : List Node}
    {result : Block × Tables} (declares : Union.Declares ctx tables symbol types result)
    (isMember : .reference target ∈ types) : ∃ node, ctx.graph.find? target = some node := by
  cases declares with
  | texts nonempty found =>
    have literals := Union.literals?_isSome types
    rw [found, Option.isSome_some, eq_comm, List.all_eq_true] at literals
    cases literals _ isMember
  | enums leading found =>
    obtain ⟨name, isName, same⟩ := List.mem_map.mp isMember
    cases same
    obtain ⟨own, known⟩ := (Union.enumValues_eq_ok found).1 target isName
    exact ⟨_, known⟩
  | interfaces leading found =>
    obtain ⟨name, isName, same⟩ := List.mem_map.mp isMember
    cases same
    obtain ⟨own, known⟩ := (Union.interfaceNames_eq_ok found).1 target isName
    exact ⟨_, known⟩

/-- A declared symbol that is written has its references found. -/
theorem follows_known {entry : String × Node} {blocks : List Block}
    (written : group ctx entry = .ok blocks) (follows : Follows ctx target entry) :
    ∃ node, ctx.graph.find? target = some node := by
  obtain ⟨after, declares⟩ := declares_of_group written
  cases follows with
  | union isMember =>
    cases declares with
    | union documentation declares => exact reference_known_of_union declares isMember
  | supertype ascends =>
    cases declares with
    | interface shown rendered attached =>
      obtain ⟨all, collected, _⟩ := Inheritance.shownMembers_eq_ok shown
      obtain ⟨parent, found⟩ := Inheritance.ascends_known_of_members collected ascends
      exact ⟨_, found⟩
  | member shownHere isMember follows =>
    cases declares with
    | interface shown rendered attached =>
      cases shown.symm.trans shownHere
      obtain ⟨fields, each, _⟩ := Traversal.bind_eq_ok.mp rendered
      obtain ⟨field, ofMember⟩ := Traversal.exists_mapM_eq_ok.mp ⟨fields, each⟩ _ isMember
      exact memberFollows_known ofMember follows

end Emission

namespace Context

/-- The references that a pass follows: those of the aliases of the graph, and those of the symbols
that it declares. -/
inductive Follows (ctx : Context) (target : String) : Prop where
  | alias {symbol : String} {documentation : Option Documentation}
      (isEntry : (symbol, .alias (.reference target) documentation) ∈ ctx.graph.entries)
  | declaration {entry : String × Node} (emitted : entry ∈ ctx.emitted)
      (follows : Emission.Follows ctx target entry)

/-- A symbol that the graph misses has no other name. -/
theorem ofGraph_name_of_missing {options : Options} {graph : Graph} {symbol : String}
    (missing : graph.find? symbol = none) :
    (ofGraph options graph).name symbol = Text.identifier symbol := by
  have unnamed : (ofGraph options graph).renames.lookup symbol = none := by
    rw [List.lookup_eq_none_iff]
    intro rename isRename
    obtain ⟨entry, isEntry, renamed⟩ := List.mem_filterMap.mp isRename
    obtain ⟨name, _, rfl⟩ := Option.map_eq_some_iff.mp renamed
    exact List.lookup_eq_none_iff.mp missing entry isEntry
  rw [Context.name, unnamed, Option.getD_none]

end Context

namespace Graph

/-- A pass that succeeds has found every reference that it follows, and one that reports a symbol as
missing is right. References in the types of fields are not followed: one that the graph misses is
written as it is. -/
theorem followed_references_known (options : Options) (graph : Graph) :
    (∀ text, graph.schema options = .ok text →
      ∃ ctx tables, Context.prepare options graph = .ok (ctx, tables) ∧
        (∀ target, ctx.Follows target → ∃ node, graph.find? target = some node) ∧
        ∀ target, graph.find? target = none →
          Expression.lower ctx (.reference target) = .ok (Text.identifier target)) ∧
    ∀ target, graph.schema options = .error (.unresolved target) → graph.find? target = none := by
  refine ⟨?_, truthful_schema options graph⟩
  intro text finished
  obtain ⟨groups, writes, rfl⟩ := schema_eq_ok_iff.mp finished
  refine ⟨_, _, writes.prepare, ?_, ?_⟩
  · intro target follows
    cases follows with
    | «alias» isEntry =>
      obtain ⟨collapsed, found⟩ := writes.begins _ isEntry
      obtain ⟨node, resolved, _⟩ := Traversal.bind_eq_ok.mp found
      exact ⟨node, resolve_eq_ok.mp resolved⟩
    | declaration emitted follows =>
      obtain ⟨blocks, _, written⟩ := Traversal.exists_result_of_mem writes.written emitted
      exact Emission.follows_known written follows
  · intro target missing
    exact congrArg Except.ok (Context.ofGraph_name_of_missing missing)

/-- A type whose inherited method takes a filter. The filter is written in place, down to the
supertype of a shape inside it. -/
def library : Graph :=
  ⟨[("Page", .interface ⟨[.property ⟨"size", some (.primitive .number), false, none⟩], [], false,
      none⟩),
    ("Filter", .interface ⟨[.property ⟨"page",
      some (.array [.interface ⟨[], ["Page"], false, none⟩]), false, none⟩], [], false, none⟩),
    ("Shelf", .interface ⟨[.method ⟨"books", [("filter", .reference "Filter")],
      some (.array [.reference "Book"]), false, none⟩], [], false, none⟩),
    ("Archive", .interface ⟨[], ["Shelf"], true, none⟩)]⟩

/-- A type whose supertype is not in the graph. -/
def orphan : Graph :=
  ⟨[("Leaf", .interface ⟨[], ["Root"], true, none⟩)]⟩

theorem followed_references_known_library :
    (∃ text ctx tables, library.schema {} = .ok text ∧
      Context.prepare {} library = .ok (ctx, tables) ∧
      (ctx.Follows "Page" ∧ ∃ node, library.find? "Page" = some node) ∧
      Expression.lower ctx (.reference "Book") = .ok "Book") ∧
    orphan.schema {} = .error (.unresolved "Root") ∧ orphan.find? "Root" = none := by
  constructor
  · have finishes : (library.emit {}).failure = none := by decide +kernel
    obtain ⟨groups, writes⟩ := emit_failure_eq_none_iff.mp finishes
    have finished := writes.schema
    obtain ⟨ctx, tables, prepared, known, missing⟩ :=
      (followed_references_known {} library).1 _ finished
    have same := writes.prepare
    rw [same] at prepared
    cases prepared
    have follows : (Context.ofGraph {} library).Follows "Page" := by
      have emitted : library.entries.get ⟨3, by decide⟩ ∈ (Context.ofGraph {} library).emitted :=
        List.mem_of_getElem? (i := 3) rfl
      refine .declaration emitted (.member (by with_unfolding_all rfl) List.mem_cons_self ?_)
      refine .behindParameter List.mem_cons_self rfl ?_
      refine .member (by with_unfolding_all rfl) List.mem_cons_self rfl ?_
      exact .element List.mem_cons_self (.supertype (.own List.mem_cons_self))
    exact ⟨_, _, _, finished, same, ⟨follows, known _ follows⟩, missing "Book" (by decide)⟩
  · have failed : orphan.schema {} = .error (.unresolved "Root") := by decide +kernel
    exact ⟨failed, (followed_references_known {} orphan).2 _ failed⟩

/-- A type with a field whose type is not in the graph. -/
def unknownAuthor : Graph :=
  ⟨[("Post", .interface ⟨[.property ⟨"author", some (.reference "Missing"), false, none⟩], [],
    false, none⟩)]⟩

/-- The reference of a field may miss the graph. -/
theorem unknown_field_type_written :
    unknownAuthor.find? "Missing" = none ∧
      unknownAuthor.schema {} = .ok "\ninterface Post \x7b\n  author: Missing!\n\x7d\n\n" := by
  decide +kernel

end Graph

end SchemaLowering
