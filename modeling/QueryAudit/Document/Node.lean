import QueryAudit.Corpus.Basic

/-! The nodes of a document, as one follows them from the document inwards: each has a kind and a
position, and steps lead to its parts. -/
namespace QueryAudit

inductive Node where
  | document (document : Document)
  | definition (definition : Definition)
  | selectionSet (position : Position) (items : List Selection)
  | selection (selection : Selection)
  | name (name : Name)
  | namedType (name : Name)
deriving Repr, Inhabited

/-- A step inwards: a named part of a node, or a position in a list of nodes. A negative position
counts from the end. -/
inductive NodeStep where
  | definitions
  | selections
  | selectionSet
  | name
  | aliasName
  | typeCondition
  | position (index : Int)
deriving DecidableEq, Repr, Inhabited

/-- Where steps lead: to a node, to a list of nodes, or to a part that a node may have and this
one has not. -/
inductive NodePart where
  | node (node : Node)
  | nodes (nodes : List Node)
  | absent
deriving Repr, Inhabited

def NodePart.ofOption : Option Node → NodePart
  | some n => .node n
  | none => .absent

/-- Why a step leads nowhere. -/
inductive NodeStepError where
  | noSuchPart
  | noSuchPosition
  | notList
deriving DecidableEq, Repr

inductive SelectionKind where
  | field
  | spread
  | inline
deriving DecidableEq, Repr, Inhabited

def SelectionKind.word : SelectionKind → String
  | field => "field"
  | spread => "fragment_spread"
  | inline => "inline_fragment"

def Selection.kind : Selection → SelectionKind
  | field .. => .field
  | spread _ => .spread
  | inline .. => .inline

namespace Node

def kindText : Node → String
  | document _ => "document"
  | definition d => d.kindText
  | selectionSet .. => "selection_set"
  | selection s => s.kind.word
  | name _ => "name"
  | namedType _ => "named_type"

/-- The kind in capitalized words without a gap, as messages name a node. -/
def title (node : Node) : String :=
  String.join ((node.kindText.splitOn "_").map String.capitalize) ++ "Node"

def position : Node → Position
  | document _ => .start
  | definition d => d.position
  | selectionSet position _ => position
  | selection s => s.position
  | name n | namedType n => n.position

/-- The part that a step names, if nodes of this kind have one. -/
def part? : Node → NodeStep → Option NodePart
  | document d, .definitions => some (.nodes (d.definitions.map .definition))
  | selectionSet _ items, .selections => some (.nodes (items.map .selection))
  | definition (.operation o), .name => some (.ofOption (o.name.map .name))
  | definition d, .name => d.name?.map fun n => .node (.name n)
  | definition (.operation o), .selectionSet => some (.node (.selectionSet o.bodyPosition o.body))
  | definition (.fragment f), .selectionSet => some (.node (.selectionSet f.bodyPosition f.body))
  | definition (.fragment f), .typeCondition => some (.node (.namedType f.typeCondition))
  | selection (.field head _), .name => some (.node (.name head.name))
  | selection (.field head _), .aliasName => some (.ofOption (head.aliasName.map .name))
  | selection (.field head body), .selectionSet =>
    some (if body.isEmpty then .absent else .node (.selectionSet head.bodyPosition body))
  | selection (.spread head), .name => some (.node (.name head.name))
  | selection (.inline head body), .selectionSet =>
    some (.node (.selectionSet head.bodyPosition body))
  | selection (.inline head _), .typeCondition =>
    some (.ofOption (head.typeCondition.map .namedType))
  | namedType n, .name => some (.node (.name n))
  | _, _ => none

end Node

/-- The item at a position, which counts from the end if it is negative. -/
def itemAt? (items : List α) (position : Int) : Option α :=
  if position < 0 then
    if items.length < position.natAbs then none else items[items.length - position.natAbs]?
  else items[position.toNat]?

namespace NodePart

/-- One step on. Only a list has positions, and only a node has parts. -/
def step : NodePart → NodeStep → Except NodeStepError NodePart
  | .nodes list, .position index =>
    match itemAt? list index with
    | some n => .ok (.node n)
    | none => .error .noSuchPosition
  | _, .position _ => .error .notList
  | .node n, step =>
    match n.part? step with
    | some part => .ok part
    | none => .error .noSuchPart
  | _, _ => .error .noSuchPart

def follow (part : NodePart) (steps : List NodeStep) : Except NodeStepError NodePart :=
  steps.foldlM step part

end NodePart

namespace Node

/-- A node of the wrong kind for what it is asked. -/
inductive Mismatch where
  | notSelection (kind : String)
  | notExecutable (title : String)
deriving DecidableEq, Repr

/-- What is said of a part that is not there, in the place of a kind or a title. -/
def absentTitle : String := "NoneType"

def Mismatch.message : Mismatch → String
  | notSelection kind => s!"Unhandled selection node kind: {kind}"
  | notExecutable title => s!"Expected an operation or fragment definition, got {title}"

def selectionKind (node : Node) : Except Mismatch SelectionKind :=
  match node with
  | selection s => .ok s.kind
  | _ => .error (.notSelection node.kindText)

def executable (node : Node) : Except Mismatch Executable :=
  match node with
  | definition d =>
    match d.executable? with
    | some e => .ok e
    | none => .error (.notExecutable node.title)
  | _ => .error (.notExecutable node.title)

end Node

namespace NodePart

/-- The kind of a selection. A part that is not there has none, and a list is asked as little. -/
def selectionKind : NodePart → Except Node.Mismatch SelectionKind
  | .node n => n.selectionKind
  | _ => .error (.notSelection Node.absentTitle)

def executable : NodePart → Except Node.Mismatch Executable
  | .node n => n.executable
  | _ => .error (.notExecutable Node.absentTitle)

end NodePart

/-- Classifies a node of any kind; only operations and fragments have a place in a corpus. -/
def Sourced.classifyNode (s : Sourced Node) : Except Unclassifiable CorpusDocument :=
  match s.node.executable with
  | .ok e => .ok (s.map fun _ => e)
  | .error _ => .error (.ofKind s.node.kindText (s.locate s.node.position) s.sourcePath)

end QueryAudit
