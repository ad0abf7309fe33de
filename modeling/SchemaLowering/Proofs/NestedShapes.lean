import SchemaLowering.Proofs.Preparation

/-!
Shapes inside shapes. The weight of a shape counts the shapes that occur in it.
-/

namespace SchemaLowering

/-- The types of fields without arguments, in order. -/
def Property.signatures (members : List Property) : List Node :=
  members.flatMap (·.signature.toList)

/-- The shapes of a member's type and arguments. -/
def Member.types : Member → List Node
  | .property declaration => declaration.signature.toList
  | .method declaration => declaration.parameters.map (·.2) ++ declaration.returns.toList

namespace Node

/-- The shapes that a shape is directly made of. -/
def parts : Node → List Node
  | .array elements => elements
  | .union types => types
  | .object members => Property.signatures members
  | .alias target _ => [target]
  | .interface declaration => declaration.members.flatMap Member.types
  | .member declaration => declaration.types
  | _ => []

theorem nodesWeight_append (nodes others : List Node) :
    nodesWeight (nodes ++ others) = nodesWeight nodes + nodesWeight others := by
  induction nodes with
  | nil => simp [nodesWeight]
  | cons node rest ih =>
    rw [List.cons_append, nodesWeight, nodesWeight, ih]
    omega

theorem nodesWeight_toList (node : Option Node) :
    nodesWeight node.toList = optionalWeight node := by
  cases node with
  | none => simp [nodesWeight, optionalWeight]
  | some node => simp [nodesWeight, optionalWeight]

theorem nodesWeight_arguments (parameters : List (String × Node)) :
    nodesWeight (parameters.map (·.2)) = parametersWeight parameters := by
  induction parameters with
  | nil => simp [nodesWeight, parametersWeight]
  | cons parameter rest ih => rw [List.map_cons, nodesWeight, parametersWeight, ih]

theorem nodesWeight_signature (member : Property) :
    nodesWeight member.signature.toList = member.weight := by
  obtain ⟨name, signature, optional, documentation⟩ := member
  rw [Property.weight, nodesWeight_toList]

theorem nodesWeight_types (member : Member) : nodesWeight member.types = member.weight := by
  cases member with
  | property declaration => rw [Member.types, nodesWeight_signature, Member.weight]
  | method declaration =>
    obtain ⟨name, parameters, returns, optional, documentation⟩ := declaration
    rw [Member.types, nodesWeight_append, nodesWeight_arguments, nodesWeight_toList, Member.weight,
      Method.weight]

theorem nodesWeight_signatures (members : List Property) :
    nodesWeight (Property.signatures members) = propertiesWeight members := by
  rw [Property.signatures]
  induction members with
  | nil => simp [nodesWeight, propertiesWeight]
  | cons member rest ih =>
    rw [List.flatMap_cons, nodesWeight_append, ih, nodesWeight_signature, propertiesWeight]

theorem nodesWeight_members (members : List Member) :
    nodesWeight (members.flatMap Member.types) = membersWeight members := by
  induction members with
  | nil => simp [nodesWeight, membersWeight]
  | cons member rest ih =>
    rw [List.flatMap_cons, nodesWeight_append, ih, nodesWeight_types, membersWeight]

/-- A shape weighs one more than its parts. -/
theorem weight_eq (node : Node) : node.weight = 1 + nodesWeight node.parts := by
  cases node with
  | array elements => rw [weight, parts]
  | union types => rw [weight, parts]
  | object members => rw [weight, parts, nodesWeight_signatures]
  | «alias» target documentation => simp [weight, parts, nodesWeight]
  | interface declaration =>
    obtain ⟨members, inherits, concrete, documentation⟩ := declaration
    rw [weight, parts, nodesWeight_members, Interface.weight]
  | member declaration => rw [weight, parts, nodesWeight_types]
  | _ => simp [weight, parts, nodesWeight]

theorem weight_le_of_mem {nodes : List Node} {node : Node} (isNode : node ∈ nodes) :
    node.weight ≤ nodesWeight nodes := by
  induction isNode with
  | head rest =>
    rw [nodesWeight]
    omega
  | tail first _ ih =>
    rw [nodesWeight]
    omega

theorem weight_lt_of_mem_parts {node part : Node} (isPart : part ∈ node.parts) :
    part.weight < node.weight := by
  have bound := weight_le_of_mem isPart
  rw [weight_eq node]
  omega

/-- The shapes that occur in a shape, itself first. -/
def shapes (node : Node) : List Node :=
  node :: node.parts.attach.flatMap fun ⟨part, _⟩ => part.shapes
termination_by node.weight
decreasing_by exact weight_lt_of_mem_parts (by assumption)

/-- The shapes that occur inside a shape. -/
def interior (node : Node) : List Node :=
  node.parts.flatMap shapes

theorem shapes_eq (node : Node) : node.shapes = node :: node.interior := by
  rw [shapes, interior]
  simp

theorem mem_shapes_self (node : Node) : node ∈ node.shapes := by
  rw [shapes_eq]
  exact List.mem_cons_self

theorem mem_interior_of_mem_parts {node part : Node} (isPart : part ∈ node.parts) :
    part ∈ node.interior :=
  List.mem_flatMap.mpr ⟨part, isPart, part.mem_shapes_self⟩

theorem length_flatMap_shapes {nodes : List Node}
    (each : ∀ node ∈ nodes, node.shapes.length = node.weight) :
    (nodes.flatMap shapes).length = nodesWeight nodes := by
  induction nodes with
  | nil => simp [nodesWeight]
  | cons node rest ih =>
    obtain ⟨first, others⟩ := List.forall_mem_cons.mp each
    rw [List.flatMap_cons, List.length_append, first, ih others, nodesWeight]

theorem length_shapes (node : Node) : node.shapes.length = node.weight := by
  rw [shapes_eq, List.length_cons, interior,
    length_flatMap_shapes fun part _ => part.length_shapes, weight_eq, Nat.add_comm]
termination_by node.weight
decreasing_by exact weight_lt_of_mem_parts (by assumption)

theorem length_interior (node : Node) : node.interior.length + 1 = node.weight := by
  rw [← length_shapes, shapes_eq, List.length_cons]

/-- What a shape inside is made of is inside as well. -/
theorem mem_interior_trans {node shape part : Node} (occurs : shape ∈ node.shapes)
    (isPart : part ∈ shape.parts) : part ∈ node.interior := by
  rw [shapes_eq] at occurs
  rcases List.mem_cons.mp occurs with rfl | inside
  · exact mem_interior_of_mem_parts isPart
  · obtain ⟨middle, isMiddle, occurs⟩ := List.mem_flatMap.mp inside
    refine List.mem_flatMap.mpr ⟨middle, isMiddle, ?_⟩
    rw [shapes_eq]
    exact List.mem_cons_of_mem _ (mem_interior_trans occurs isPart)
termination_by node.weight
decreasing_by exact weight_lt_of_mem_parts (by assumption)

theorem mem_shapes_of_mem_interior {node shape : Node} (inside : shape ∈ node.interior) :
    shape ∈ node.shapes := by
  rw [shapes_eq]
  exact List.mem_cons_of_mem _ inside

end Node

namespace Graph

/-- The shapes that occur inside the shapes of a graph. -/
def interior (graph : Graph) : List Node :=
  graph.entries.flatMap (·.2.interior)

theorem length_interior (graph : Graph) : graph.interior.length ≤ graph.weight := by
  obtain ⟨entries⟩ := graph
  simp only [interior, weight]
  induction entries with
  | nil => simp
  | cons entry rest ih =>
    have own := entry.2.length_interior
    rw [List.flatMap_cons, List.length_append, List.foldr_cons]
    omega

theorem mem_interior_of_find? {graph : Graph} {symbol : String} {node part : Node}
    (found : graph.find? symbol = some node) (isPart : part ∈ node.parts) :
    part ∈ graph.interior :=
  List.mem_flatMap.mpr ⟨_, mem_entries_of_find? found, Node.mem_interior_of_mem_parts isPart⟩

theorem mem_interior_trans {graph : Graph} {shape part : Node} (inside : shape ∈ graph.interior)
    (isPart : part ∈ shape.parts) : part ∈ graph.interior := by
  obtain ⟨entry, isEntry, inside⟩ := List.mem_flatMap.mp inside
  refine List.mem_flatMap.mpr ⟨entry, isEntry, ?_⟩
  exact Node.mem_interior_trans (Node.mem_shapes_of_mem_interior inside) isPart

end Graph

end SchemaLowering
