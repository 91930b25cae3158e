import TypedLayouts.TypeScript.Plain
import TypedLayouts.TypeScript.Reading.Parser

/-!
# Source files

The tree of a source file: what is to be seen of the nodes that reading the file comes to. Hidden
nodes give way to what is inside of them, and marks are left out, but a mark that had to be put in
is remembered by the node around it.

A plain file is not read this way but by a reader of its own. The two are meant to agree on it;
there is no proof that they do.
-/

namespace TypedLayouts.TypeScript

namespace Node

/-- What is to be seen of some nodes. -/
structure View where
  /-- The trees, with their roles. -/
  trees : List (Option Role × Tree) := []
  /-- A mark among the nodes had to be put in. -/
  repaired : Bool := false

namespace View

/-- What is to be seen of some nodes and of those behind them. -/
def append (a b : View) : View :=
  ⟨a.trees ++ b.trees, a.repaired || b.repaired⟩

/-- The trees that have no role get one. -/
def withRole (role : Option Role) (view : View) : View :=
  { view with trees := view.trees.map fun (known, tree) => (known <|> role, tree) }

/-- The trees with their roles. -/
def children (view : View) : List (Role × Tree) :=
  view.trees.map fun (role, tree) => (role.getD .part, tree)

end View

/-- The kind of a node that is shown as what it is; there is none for marks. -/
def kind? (node : Node) : Option Kind :=
  match node.label with
  | .token n =>
    match Token.vocabulary[n]? with
    | some .name => some .identifier
    | some .comment => some .comment
    | some token => if token.isNamed then some .other else none
    | none => none
  | .group n => some ((Construct.all[n - 1]?.map Construct.kind).getD .other)
  | .error => some .error
  | .errorPart => none

mutual

/-- What is to be seen of a node that the production around it uses as `step` says. -/
def view (g : Grammar) (source : Source) (step : Option Step) (node : Node) : View :=
  let inside := viewAll g source (g.stepsOf node.production) node.children
  let role := step.bind (·.role)
  let shown := step.bind (·.shown)
  if shown.isNone && !node.label.isVisible then
    View.withRole role { inside with repaired := inside.repaired || node.isMissing }
  else
    match shown.getD node.kind? with
    | some kind =>
      let text := String.ofList (source.between node.start node.stop)
      ⟨[(role, ⟨kind, text, inside.children, node.isMissing, inside.repaired⟩)], false⟩
    | none => ⟨[], node.isMissing⟩
termination_by sizeOf node
decreasing_by
  cases node
  simp_wf
  omega

/-- What is to be seen of the children of a node, whose production has the given parts. -/
def viewAll (g : Grammar) (source : Source) (steps : List Step) : List Node → View
  | [] => {}
  | node :: rest =>
    if node.isExtra then (view g source none node).append (viewAll g source steps rest)
    else (view g source steps.head? node).append (viewAll g source steps.tail rest)
termination_by nodes => sizeOf nodes

end

end Node

namespace Tree

/-- The tree of a text that is read with some grammar. -/
def ofList (g : Grammar) (cs : List Char) : Tree :=
  let source := Source.ofList cs
  let seen := (g.parse? source).bind fun root => (root.view g source none).trees.head?
  (seen.map (·.2)).getD ⟨.error, String.ofList cs, [], false, false⟩

/-- The tree of a source file, from the reader of plain files if it is one. -/
def ofText (text : String) : Tree :=
  match Plain.file? text.toList with
  | some tree => tree
  | none => ofList language text.toList

end Tree

end TypedLayouts.TypeScript
