import SchemaLowering.Lowering.Expression
import SchemaLowering.Proofs.CollectedMembers
import SchemaLowering.Proofs.Respelling

/-!
Two contexts that write the same name for a symbol and for its new spelling lower a shape and the
respelled shape to the same expression, with the same members in the same order, or fail alike.
-/

namespace SchemaLowering

/-- A graph that finds the respelled shape under every symbol. -/
def Graph.Respells (spell : String → String) (graph other : Graph) : Prop :=
  ∀ symbol, other.find? symbol = (graph.find? symbol).map (Node.respell spell false)

/-- Graphs that find the same shapes, each symbol spelled as it is. -/
theorem Graph.respells_id {graph other : Graph}
    (same : ∀ symbol, other.find? symbol = graph.find? symbol) : graph.Respells id other := by
  intro symbol
  have unchanged : Node.respell id false = id := funext (Node.respell_id false)
  rw [unchanged, Option.map_id, id_eq, same]

/-- A context over such a graph that does not tell a symbol from its new spelling by its name. Of
the options, those that show in what is written are the same. -/
structure Context.Respells (spell : String → String) (ctx other : Context) : Prop where
  graph : ctx.graph.Respells spell other.graph
  weight : other.graph.weight = ctx.graph.weight
  placeholder : other.options.placeholder = ctx.options.placeholder
  dateScalars : other.options.dateScalars = ctx.options.dateScalars
  name : ∀ symbol, other.name symbol = ctx.name symbol
  spelled : ∀ symbol, other.name (spell symbol) = ctx.name symbol

theorem Context.Respells.placeholderName {spell : String → String} {ctx other : Context}
    (respells : ctx.Respells spell other) :
    other.options.placeholderName = ctx.options.placeholderName := by
  unfold Options.placeholderName
  rw [respells.placeholder]

namespace Inheritance

variable {spell : String → String} {graph other : Graph}

/-- One step from an interface to the supertype that it names. -/
theorem ancestors_of_one {origin : Option String} {visited : List String} {current : Interface}
    {name : String} (one : current.inherits = [name]) (fresh : name ∉ visited) :
    ancestors graph origin visited current =
      match graph.find? name with
      | none => .error (.unresolved name)
      | some node =>
        if origin = some name then .error (.cyclic (visited ++ [name]))
        else match node with
          | .interface parent => do
            let rest ← ancestors graph origin (visited ++ [name]) parent
            return (name, parent) :: rest
          | other => .error (.notInterface name other.kind) := by
  rw [ancestors, one]
  simp only [fresh, ↓reduceDIte]
  split
  · next missing => rw [missing]
  · next node found =>
    cases node with
    | interface parent => simp only [found]
    | _ => simp only [found]

/-- The ancestors of a respelled interface are the respelled ancestors. -/
theorem ancestors_respell (respells : graph.Respells spell other) (origin : Option String)
    (visited : List String) (current : Interface) :
    ancestors other origin visited (current.respell spell)
      = (ancestors graph origin visited current).map
        (List.map fun ancestor => (ancestor.1, ancestor.2.respell spell)) := by
  have same := current.respell_inherits spell
  fun_induction ancestors graph origin visited current with
  | case1 visited current none =>
    rw [ancestors, same, none]
    rfl
  | case2 visited current name one seen =>
    rw [ancestors, same, one]
    simp only [seen, ↓reduceDIte]
    rfl
  | case3 visited current name one fresh missing =>
    rw [ancestors_of_one (same.trans one) fresh, respells, missing]
    rfl
  | case4 visited current name one fresh node found start =>
    rw [ancestors_of_one (same.trans one) fresh, respells, found]
    simp [start, Except.map]
  | case5 visited current name one fresh notStart parent found _ ih =>
    rw [ancestors_of_one (same.trans one) fresh, respells, found]
    simp only [Option.map_some, notStart, if_false, Node.respell,
      ih (parent.respell_inherits spell)]
    cases ancestors graph origin (visited ++ [name]) parent with
    | error error => rfl
    | ok rest => rfl
  | case6 visited current name one fresh notStart node found notInterface =>
    rw [ancestors_of_one (same.trans one) fresh, respells, found]
    simp only [Option.map_some, notStart, if_false, Except.map]
    cases node with
    | interface declaration => exact (notInterface declaration found rfl HEq.rfl).elim
    | member declaration =>
      cases declaration with
      | property declaration => rfl
      | method declaration => rfl
    | _ => rfl
  | case7 visited current notNone notOne =>
    rw [ancestors, same]
    split
    · next none => exact (notNone none).elim
    · next name one => exact (notOne name one).elim
    · rfl

theorem firstByName_respell (seen : List String) (all : List Member) :
    firstByName seen (all.map (Member.respell spell true))
      = (firstByName seen all).map (Member.respell spell true) := by
  fun_induction firstByName seen all with
  | case1 => rfl
  | case2 seen member rest known ih =>
    rw [List.map_cons, firstByName, Member.respell_name, if_pos known, ih]
  | case3 seen member rest fresh ih =>
    rw [List.map_cons, firstByName, Member.respell_name, if_neg fresh, ih, List.map_cons]

theorem members_respell (respells : graph.Respells spell other) (origin : Option String)
    (declaration : Interface) :
    members other origin (declaration.respell spell)
      = (members graph origin declaration).map (List.map (Member.respell spell true)) := by
  unfold members chain
  rw [ancestors_respell respells]
  cases ancestors graph origin [] declaration with
  | error error => rfl
  | ok above =>
    simp only [Except.map, bind, Except.bind, pure, Except.pure, List.map_map, List.flatMap_cons,
      List.flatMap_map, Function.comp_def, Interface.respell_members]
    rw [← List.map_flatMap, ← List.map_append, firstByName_respell]

theorem properties_respell (all : List Member) :
    properties (all.map (Member.respell spell true))
      = (properties all).map (List.map (Property.respell spell true)) := by
  fun_induction properties all with
  | case1 => rfl
  | case2 declaration rest ih =>
    rw [List.map_cons, Member.respell, properties, ih]
    cases properties rest with
    | error error => rfl
    | ok others => rfl
  | case3 declaration rest => rfl

/-- The type of a member written in place is respelled where the whole shape is, and always inside
an interface. -/
theorem inlineMembers_respell (respells : graph.Respells spell other) (origin : Option String)
    (inField : Bool) (node : Node) :
    ∃ inMember, inlineMembers other origin (node.respell spell inField)
      = (inlineMembers graph origin node).map (List.map (Property.respell spell inMember)) := by
  cases node with
  | object members =>
    refine ⟨inField, ?_⟩
    rw [Node.respell, inlineMembers, inlineMembers, respellProperties_eq_map]
    rfl
  | interface declaration =>
    refine ⟨true, ?_⟩
    rw [Node.respell, inlineMembers, inlineMembers, members_respell respells]
    cases members graph origin declaration with
    | error error => rfl
    | ok all => exact properties_respell all
  | _ => exact ⟨inField, rfl⟩

theorem insertSorted_respell (member : Member) (sorted : List Member) :
    Text.insertSorted Member.name (member.respell spell true)
        (sorted.map (Member.respell spell true))
      = (Text.insertSorted Member.name member sorted).map (Member.respell spell true) := by
  induction sorted with
  | nil => rfl
  | cons head rest ih =>
    simp only [List.map_cons, Text.insertSorted, Member.respell_name]
    split
    · rfl
    · rw [ih, List.map_cons]

theorem sortBy_respell (all : List Member) :
    Text.sortBy Member.name (all.map (Member.respell spell true))
      = (Text.sortBy Member.name all).map (Member.respell spell true) := by
  induction all with
  | nil => rfl
  | cons member rest ih => rw [List.map_cons, Text.sortBy, ih, Text.sortBy, insertSorted_respell]

theorem shownMembers_respell {ctx other : Context} (respells : ctx.Respells spell other)
    (origin : Option String) (declaration : Interface) :
    shownMembers other origin (declaration.respell spell)
      = (shownMembers ctx origin declaration).map (List.map (Member.respell spell true)) := by
  unfold shownMembers substance
  rw [sortedMembers_eq, sortedMembers_eq, members_respell respells.graph, respells.placeholderName]
  cases members ctx.graph origin declaration with
  | error error => rfl
  | ok all =>
    simp only [Except.map, bind, Except.bind, pure, Except.pure, sortBy_respell]
    cases Text.sortBy Member.name all with
    | nil =>
      simp only [List.map_nil]
      cases Misuse.lift ctx.options.placeholderName with
      | error error => rfl
      | ok name => rfl
    | cons first rest => rfl

end Inheritance

namespace Expression

variable {spell : String → String} {ctx other : Context}

theorem name_respell (respells : ctx.Respells spell other) (inField : Bool) (target : String) :
    other.name (if inField then spell target else target) = ctx.name target := by
  cases inField with
  | false => exact respells.name target
  | true => exact respells.spelled target

theorem inlineText_respell {options otherOptions : Options}
    (placeholder : otherOptions.placeholderName = options.placeholderName)
    {lowerOther lowerType : Node → Except LoweringError String} (inField : Bool)
    (same : ∀ node, lowerOther (node.respell spell inField) = lowerType node)
    (members : List Property) :
    inlineText otherOptions lowerOther (members.map (Property.respell spell inField))
      = inlineText options lowerType members := by
  have fields : (members.map (Property.respell spell inField)).mapM (inlineField lowerOther)
      = members.mapM (inlineField lowerType) := by
    rw [List.mapM_map]
    apply Traversal.mapM_congr
    intro member _
    simp only [Function.comp_apply, inlineField, Property.respell_signature,
      Property.respell_name]
    cases member.signature with
    | none => rfl
    | some signature => simp only [Option.map_some, same]
  cases members with
  | nil => rw [List.map_nil, inlineText, placeholder, inlineText]
  | cons first rest =>
    rw [List.map_cons] at fields ⊢
    rw [inlineText, inlineText, fields]
    · simp
    · simp

/-- A respelled shape has the same expression, at every depth. -/
theorem lowerWithin_respell (respells : ctx.Respells spell other) (depth : Nat)
    (origin : Option String) (inField : Bool) (node : Node) :
    lowerWithin other depth origin (node.respell spell inField)
      = lowerWithin ctx depth origin node := by
  induction depth generalizing origin inField node with
  | zero => rfl
  | succ depth ih =>
    -- The members of a shape written in place agree, and their types do by induction.
    have inPlace : (Inheritance.inlineMembers other.graph origin (node.respell spell inField)
          >>= inlineText other.options (lowerWithin other depth none))
        = (Inheritance.inlineMembers ctx.graph origin node
          >>= inlineText ctx.options (lowerWithin ctx depth none)) := by
      obtain ⟨inMember, same⟩ :=
        Inheritance.inlineMembers_respell respells.graph origin inField node
      rw [same]
      cases Inheritance.inlineMembers ctx.graph origin node with
      | error error => rfl
      | ok members =>
        exact inlineText_respell respells.placeholderName inMember
          (fun node => ih none inMember node) members
    cases node with
    | primitive kind => rfl
    | reference target =>
      rw [Node.respell, lowerWithin, lowerWithin, name_respell respells]
    | array elements =>
      have parts : (elements.map (Node.respell spell inField)).mapM (lowerWithin other depth none)
          = elements.mapM (lowerWithin ctx depth none) := by
        rw [List.mapM_map]
        exact Traversal.mapM_congr fun element _ => ih none inField element
      rw [Node.respell, respellNodes_eq_map, lowerWithin, lowerWithin, parts]
    | object members => exact inPlace
    | interface declaration => exact inPlace
    | member declaration =>
      cases declaration with
      | property declaration => rfl
      | method declaration => rfl
    | _ => rfl

theorem lowerNamed_respell (respells : ctx.Respells spell other) (origin : Option String)
    (inField : Bool) (node : Node) :
    lowerNamed other origin (node.respell spell inField) = lowerNamed ctx origin node := by
  have bound : depthBound other (node.respell spell inField) = depthBound ctx node := by
    rw [depthBound, depthBound, respells.weight, Node.respell_weight]
  rw [lowerNamed, lowerNamed, bound, lowerWithin_respell respells]

theorem lowerOptional_respell (respells : ctx.Respells spell other) (inField : Bool)
    (node : Option Node) :
    lowerOptional other (node.map (Node.respell spell inField)) = lowerOptional ctx node := by
  cases node with
  | none => rfl
  | some node => exact lowerNamed_respell respells none inField node

end Expression

end SchemaLowering
