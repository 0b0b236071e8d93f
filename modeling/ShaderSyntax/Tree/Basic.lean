import ShaderSyntax.Numeral.Shortest

/-!
# Syntax trees

A tree is an arena of nodes that refer to one another by number. Every node has at most one parent:
attaching a node somewhere first detaches it from where it was. An edit is a computation that
changes a tree step by step and may fail on the way (`TreeBuilder`); what it changed before it
failed stays.
-/

set_option autoImplicit false

namespace ShaderSyntax

/-- The number of a node in its tree. -/
abbrev NodeId := Nat

/-- The literal value of a leaf. -/
inductive Scalar where
  | int (value : Int)
  | uint (value : Nat)
  | float (value : Float)
  | double (value : Float)
  | bool (value : Bool)
  | str (value : String)

/-- The text of a literal value. -/
def Scalar.text : Scalar → String
  | .int value => toString value
  | .uint value => toString value
  | .float value => String.ofList (Numeral.writeFloat value)
  | .double value => String.ofList (Numeral.writeFloat value)
  | .bool value => if value then "true" else "false"
  | .str value => value

/-- A node: its kind, a literal value or an operator where it has one, and its place in the tree. -/
structure Node where
  kind : String
  value : Option Scalar
  op : Option String
  parent : Option NodeId
  children : List NodeId

/-- Why an edit of a tree is refused. -/
inductive TreeError where
  | unknownNode (id : NodeId)
  | notAChild (parent child : NodeId)
  /-- The child is the parent or one of its ancestors. -/
  | cycle (parent child : NodeId)
  | badIndex (index length : Nat)
  deriving DecidableEq, Repr

/-- How messages write a node's number. -/
def nodeText (id : NodeId) : String := s!"NodeId({id})"

/-- The message of a refused edit. -/
def TreeError.message : TreeError → String
  | .unknownNode id => s!"unknown node {nodeText id}"
  | .notAChild parent child => s!"{nodeText child} is not a child of {nodeText parent}"
  | .cycle parent child => s!"cannot attach {nodeText child} below itself ({nodeText parent})"
  | .badIndex index length => s!"index {index} out of range for a node with {length} children"

/-- An arena of nodes, numbered from zero in the order in which they were made. -/
structure SyntaxTree where
  nodes : Array Node

/-- Building a tree: a computation that changes the tree and may fail; what it changed before it
failed stays. -/
abbrev TreeBuilder := ExceptT TreeError (StateM SyntaxTree)

namespace SyntaxTree

/-- The tree without nodes. -/
def empty : SyntaxTree := ⟨#[]⟩

/-- The number of nodes. -/
def size (tree : SyntaxTree) : Nat := tree.nodes.size

/-- A node by its number. -/
def get? (tree : SyntaxTree) (id : NodeId) : Option Node := tree.nodes[id]?

/-- A node by its number, or the error that there is none. -/
def node (tree : SyntaxTree) (id : NodeId) : Except TreeError Node :=
  match tree.get? id with
  | some node => .ok node
  | none => .error (.unknownNode id)

/-- The kind of a node. -/
def kind? (tree : SyntaxTree) (id : NodeId) : Option String := (tree.get? id).map Node.kind

/-- The parent of a node. -/
def parent? (tree : SyntaxTree) (id : NodeId) : Option NodeId := (tree.get? id).bind Node.parent

/-- The children of a node, none for an unknown one. -/
def children (tree : SyntaxTree) (id : NodeId) : List NodeId :=
  ((tree.get? id).map Node.children).getD []

/-- Changes a node; an unknown one is left alone. -/
def modify (tree : SyntaxTree) (id : NodeId) (change : Node → Node) : SyntaxTree :=
  ⟨tree.nodes.modify id change⟩

/-- Adds a node without parent and children; gives its number. -/
def add (tree : SyntaxTree) (kind : String) (value : Option Scalar) (op : Option String) :
    NodeId × SyntaxTree :=
  (tree.size, ⟨tree.nodes.push ⟨kind, value, op, none, []⟩⟩)

/-- Adds a node with neither value nor operator. -/
def newNode (tree : SyntaxTree) (kind : String) : NodeId × SyntaxTree :=
  tree.add kind none none

/-- Adds a node with a literal value. -/
def leaf (tree : SyntaxTree) (kind : String) (value : Scalar) : NodeId × SyntaxTree :=
  tree.add kind (some value) none

/-- Adds a node with an operator. -/
def opNode (tree : SyntaxTree) (kind op : String) : NodeId × SyntaxTree :=
  tree.add kind none (some op)

/-- Follows parents upwards from a node until `goal` is met; `steps` bounds the way, and a way that
is longer than the tree counts as one that meets its goal. -/
def climb (tree : SyntaxTree) (goal : NodeId) : Nat → NodeId → Except TreeError Bool
  | 0, _ => .ok true
  | steps + 1, id =>
    if id = goal then .ok true
    else
      match tree.get? id with
      | none => .error (.unknownNode id)
      | some node =>
        match node.parent with
        | none => .ok false
        | some up => tree.climb goal steps up

/-- Refuses to attach a node below itself, and unknown nodes. -/
def checkAttach (tree : SyntaxTree) (parent child : NodeId) : Except TreeError Unit := do
  let _ ← tree.node child
  if ← tree.climb child (tree.size + 1) parent then throw (.cycle parent child)

/-- Puts a node that has no parent among the children of another, which `arrange` lists anew. -/
def adopt (tree : SyntaxTree) (parent child : NodeId) (arrange : List NodeId → List NodeId) :
    SyntaxTree :=
  (tree.modify parent fun node => { node with children := arrange node.children }).modify
    child fun node => { node with parent := some parent }

/-- Puts an item at a place of a list. -/
def insertAt (items : List NodeId) (index : Nat) (item : NodeId) : List NodeId :=
  items.take index ++ item :: items.drop index

/-- The list with the first occurrence of an item replaced. -/
def replaceFirst (old new : NodeId) : List NodeId → List NodeId
  | [] => []
  | item :: rest => if item = old then new :: rest else item :: replaceFirst old new rest

end SyntaxTree

namespace TreeBuilder

open SyntaxTree

/-- A node by its number. -/
def node (id : NodeId) : TreeBuilder Node := do
  liftM ((← get).node id)

/-- Changes a node. -/
def change (id : NodeId) (change : Node → Node) : TreeBuilder Unit := do
  let _ ← node id
  modify (·.modify id change)

/-- Gives a node a literal value. -/
def setValue (id : NodeId) (value : Scalar) : TreeBuilder Unit :=
  change id fun node => { node with value := some value }

/-- Removes a child from its parent, which leaves it without one. -/
def remove (parent child : NodeId) : TreeBuilder Unit := do
  if (← node parent).children.contains child then
    modify (·.modify parent fun node => { node with children := node.children.erase child })
    change child fun node => { node with parent := none }
  else throw (.notAChild parent child)

/-- Detaches a node from its parent, if it has one. -/
def detach (id : NodeId) : TreeBuilder Unit := do
  match (← node id).parent with
  | some parent => remove parent id
  | none => return ()

/-- Makes a node the last child of another. -/
def push (parent child : NodeId) : TreeBuilder Unit := do
  liftM ((← get).checkAttach parent child)
  detach child
  modify (·.adopt parent child (· ++ [child]))

/-- Makes a node the child of another at a place among its children, counted after the node has
been detached. -/
def insert (parent : NodeId) (index : Nat) (child : NodeId) : TreeBuilder Unit := do
  liftM ((← get).checkAttach parent child)
  let siblings := (← node parent).children.length
  let length := siblings - if (← node child).parent = some parent then 1 else 0
  if length < index then throw (.badIndex index length)
  detach child
  modify (·.adopt parent child fun children => insertAt children index child)

/-- Puts a node in the place of a child, which is left without parent. -/
def replace (parent old new : NodeId) : TreeBuilder Unit := do
  if old = new then return ()
  if (← node parent).children.contains old then
    liftM ((← get).checkAttach parent new)
    detach new
    modify (·.modify parent fun node =>
      { node with children := replaceFirst old new node.children })
    modify (·.modify old fun node => { node with parent := none })
    modify (·.modify new fun node => { node with parent := some parent })
  else throw (.notAChild parent old)

/-- Makes nodes the last children of another, one by one. -/
def pushAll (parent : NodeId) : List NodeId → TreeBuilder Unit
  | [] => return ()
  | child :: rest => do
    push parent child
    pushAll parent rest

end TreeBuilder

namespace SyntaxTree

/-- The tree after an edit, or why the edit failed. -/
def edited (tree : SyntaxTree) (edit : TreeBuilder Unit) : Except TreeError SyntaxTree :=
  match edit.run tree with
  | (.ok (), tree) => .ok tree
  | (.error error, _) => .error error

/-- The tree with a literal value given to a node. -/
def setValue (tree : SyntaxTree) (id : NodeId) (value : Scalar) : Except TreeError SyntaxTree :=
  tree.edited (.setValue id value)

/-- The tree with a child removed from its parent. -/
def remove (tree : SyntaxTree) (parent child : NodeId) : Except TreeError SyntaxTree :=
  tree.edited (.remove parent child)

/-- The tree with a node detached from its parent. -/
def detach (tree : SyntaxTree) (id : NodeId) : Except TreeError SyntaxTree :=
  tree.edited (.detach id)

/-- The tree with a node made the last child of another. -/
def push (tree : SyntaxTree) (parent child : NodeId) : Except TreeError SyntaxTree :=
  tree.edited (.push parent child)

/-- The tree with a node put among the children of another. -/
def insert (tree : SyntaxTree) (parent : NodeId) (index : Nat) (child : NodeId) :
    Except TreeError SyntaxTree :=
  tree.edited (.insert parent index child)

/-- The tree with a node put in the place of a child. -/
def replace (tree : SyntaxTree) (parent old new : NodeId) : Except TreeError SyntaxTree :=
  tree.edited (.replace parent old new)

/-- Adds a node and makes other nodes its children, in order. -/
def branch (kind : String) (children : List NodeId) : TreeBuilder NodeId := do
  let (id, tree) := (← get).newNode kind
  set tree
  TreeBuilder.pushAll id children
  return id

/-- What a node's line says after its kind: its value, or else its operator. -/
def annotation (node : Node) : String :=
  match node.value, node.op with
  | some value, _ => " : " ++ value.text
  | none, some op => " (" ++ op ++ ")"
  | none, none => ""

/-- The lines of a node and those below it, with a hyphen for each level. `levels` bounds the
depth. -/
def renderLines (tree : SyntaxTree) : Nat → Nat → NodeId → List String
  | 0, _, _ => []
  | levels + 1, depth, id =>
    match tree.get? id with
    | none => []
    | some node =>
      let tab := String.ofList (List.replicate depth '-')
      (tab ++ node.kind ++ annotation node ++ " \x7b") ::
        (node.children.flatMap (tree.renderLines levels (depth + 1)) ++ [tab ++ "\x7d"])

/-- The indented text of a node and all below it; nothing for an unknown node. -/
def render (tree : SyntaxTree) (root : NodeId) : String :=
  String.join ((tree.renderLines (tree.size + 1) 0 root).map (· ++ "\n"))

end SyntaxTree

end ShaderSyntax
