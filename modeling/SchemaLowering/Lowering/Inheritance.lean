import SchemaLowering.Lowering.Context
import SchemaLowering.Text.Sorted

/-!
Inherited members. The schema language has no inheritance, so an interface is written with the
members of all its ancestors; of several members with one name the most derived one counts.
-/

namespace SchemaLowering

/-- An interface of an inheritance chain and the symbol that names it. The first one of a chain may
stand outside the graph. -/
structure Link where
  symbol : Option String
  declaration : Interface

namespace Inheritance

theorem unvisited_shrinks {graph : Graph} {visited : List String} {name : String} {node : Node}
    (found : graph.find? name = some node) (fresh : name ∉ visited) :
    (graph.symbols.filter (· ∉ visited ++ [name])).length
      < (graph.symbols.filter (· ∉ visited)).length := by
  have member : name ∈ graph.symbols.filter (· ∉ visited) := by
    simp [Graph.mem_symbols_of_find? found, fresh]
  have split : graph.symbols.filter (· ∉ visited ++ [name])
      = (graph.symbols.filter (· ∉ visited)).filter (· ≠ name) := by
    rw [List.filter_filter]
    congr 1
    funext symbol
    simp [not_or, and_comm]
  rw [split]
  exact List.length_filter_lt_length_iff_exists.mpr ⟨name, member, by simp⟩

/-- The ancestors of an interface, nearest first (`_walk_chain`). `origin` is the symbol of the
interface where the walk started, and `visited` holds the supertypes passed so far. -/
def ancestors (graph : Graph) (origin : Option String) (visited : List String)
    (current : Interface) : Except LoweringError (List (String × Interface)) :=
  match current.inherits with
  | [] => .ok []
  | [name] =>
    if _revisited : name ∈ visited then .error (.cyclic (visited ++ [name]))
    else match _found : graph.find? name with
      | none => .error (.unresolved name)
      | some node =>
        if origin = some name then .error (.cyclic (visited ++ [name]))
        else match node with
          | .interface parent => do
            let rest ← ancestors graph origin (visited ++ [name]) parent
            return (name, parent) :: rest
          | other => .error (.notInterface name other.kind)
  | several => .error (.multipleInheritance several)
termination_by (graph.symbols.filter (· ∉ visited)).length
decreasing_by exact unvisited_shrinks _found _revisited

/-- An interface and its ancestors, as `_walk_chain` yields them. -/
def chain (graph : Graph) (origin : Option String) (declaration : Interface) :
    Except LoweringError (List Link) := do
  let rest ← ancestors graph origin [] declaration
  return ⟨origin, declaration⟩ :: rest.map fun (name, parent) => ⟨some name, parent⟩

/-- The interfaces of a walk, leaving out those that were passed before. An interface is known by
its symbol. -/
def eachOnce (passed : List Link) : List Link → List Link
  | [] => passed
  | link :: rest =>
    if passed.any (·.symbol = link.symbol) then eachOnce passed rest
    else eachOnce (passed ++ [link]) rest

/-- An interface and its ancestors, each exactly once (`transitive_interfaces`). -/
def transitive (graph : Graph) (origin : Option String) (declaration : Interface) :
    Except LoweringError (List Link) := do
  let links ← chain graph origin declaration
  return eachOnce [] links

/-- The first member of each name, leaving out names seen before. -/
def firstByName (seen : List String) : List Member → List Member
  | [] => []
  | member :: rest =>
    if member.name ∈ seen then firstByName seen rest
    else member :: firstByName (member.name :: seen) rest

/-- All members of an interface, its own before inherited ones, as `collect_members` gathers
them. -/
def members (graph : Graph) (origin : Option String) (declaration : Interface) :
    Except LoweringError (List Member) := do
  let links ← chain graph origin declaration
  return firstByName [] (links.flatMap (·.declaration.members))

/-- The properties that a list of members consists of (`collect_members`, its last loop). -/
def properties : List Member → Except LoweringError (List Property)
  | [] => .ok []
  | .property declaration :: rest => do
    let others ← properties rest
    return declaration :: others
  | .method _ :: _ =>
    .error (.unsupported "method" "an inline object member (expected properties)")

/-- The members of a shape that is written in place, in order of declaration (`collect_members`). -/
def inlineMembers (graph : Graph) (origin : Option String) :
    Node → Except LoweringError (List Property)
  | .object members => .ok members
  | .interface declaration => do
    let all ← members graph origin declaration
    properties all
  | _ => .error (.misuse .attribute)

/-- The members of a shape that may be missing. A missing one has none. -/
def inlineMembersOf (graph : Graph) (origin : Option String) :
    Option Node → Except LoweringError (List Property)
  | none => .ok []
  | some node => inlineMembers graph origin node

/-- Members by their names, with one more unless its name is there. -/
def keepFirst (byName : List (String × Member)) (member : Member) : List (String × Member) :=
  if byName.any (·.1 = member.name) then byName else byName ++ [(member.name, member)]

/-- The members of an interface in the order of their names (`denormalized_members`). -/
def sortedMembers (graph : Graph) (origin : Option String) (declaration : Interface) :
    Except LoweringError (List Member) := do
  let links ← transitive graph origin declaration
  let byName := (links.flatMap (·.declaration.members)).foldl keepFirst []
  return Text.sortBy Member.name (byName.map Prod.snd)

/-- The field that stands in for missing members (`placeholder`). -/
def placeholder (name : String) : Property :=
  { name, signature := some (.primitive .boolean), optional := false, documentation := none }

/-- What a declaration consists of: members, or the field that stands in for missing ones, by the
name that the options give it. -/
inductive Substance where
  | members (first : Member) (rest : List Member)
  | placeholder (name : Json)

/-- What a declaration of an interface consists of. -/
def substance (options : Options) (graph : Graph) (origin : Option String)
    (declaration : Interface) : Except LoweringError Substance := do
  match ← sortedMembers graph origin declaration with
  | [] => return .placeholder options.placeholder
  | first :: rest => return .members first rest

/-- The members that a declaration shows (`denormalized_members`). There is always at least one. -/
def shownMembers (ctx : Context) (origin : Option String) (declaration : Interface) :
    Except LoweringError (List Member) := do
  match ← substance ctx.options ctx.graph origin declaration with
  | .members first rest => return first :: rest
  | .placeholder _ =>
    let name ← Misuse.lift ctx.options.placeholderName
    return [.property (placeholder name)]

end Inheritance

end SchemaLowering
