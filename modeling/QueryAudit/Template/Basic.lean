import QueryAudit.Json.Pairs

/-! Templates: texts with places for values, and parts that are repeated for each item of a list.
Where a value is missing, nothing is left behind. -/
namespace QueryAudit

/-- Why a text cannot be made. -/
inductive PrintError where
  /-- A template cannot be read. -/
  | badTemplate
  /-- Something is looked up by a list or an object. -/
  | notKey
  /-- A value goes by the name that a template has for itself. -/
  | ownName
  /-- A part is taken of something that is not there. -/
  | undefined
  /-- Something without parts is counted, or gone through. -/
  | noParts
  /-- An integer has more digits than can be written. -/
  | longInteger
deriving DecidableEq, Repr

/-- A value in running text, if all its integers can be written. -/
def Json.print (value : Json) : Except PrintError String :=
  if value.isShort then .ok value.display else .error .longInteger

namespace Template

/-- What stands for a value. Only objects have parts that go by names. -/
inductive Expr where
  | name (name : String)
  | text (text : String)
  | number (n : Nat)
  | part (whole : Expr) (key : String)
  | count (items : Expr)
  | orElse (first second : Expr)
  | equal (left right : Expr)
  | choose (condition yes no : Expr)
deriving DecidableEq, Repr, Inhabited

inductive Node where
  | text (text : String)
  | output (expr : Expr)
  /-- A part for each of the items, which goes by a name in it. -/
  | each (name : String) (items : Expr) (body : List Node)
deriving Repr, Inhabited

/-- What a value is made of; there is nothing in one that is missing. -/
def parts : Option Json → Except PrintError (List Json)
  | none => .ok []
  | some value => (Members.parts? value).elim (.error .noParts) .ok

/-- Whether a value counts as absent. -/
def isFalsy (value : Option Json) : Bool := value.all (·.isFalsy)

def Expr.eval (scope : Members) : Expr → Except PrintError (Option Json)
  | name n => .ok (Members.get? n scope)
  | text s => .ok (some (.str s))
  | number n => .ok (some (.ofNat n))
  | part whole key => do
    match ← whole.eval scope with
    | some value => return value.get? key
    | none => throw .undefined
  | count items => do
    let items ← parts (← items.eval scope)
    return some (.ofNat items.length)
  | orElse first second => do
    let value ← first.eval scope
    if isFalsy value then second.eval scope else return value
  | equal left right => do
    let value ← left.eval scope
    return some (.bool (value = (← right.eval scope)))
  | choose condition yes no => do
    if isFalsy (← condition.eval scope) then no.eval scope else yes.eval scope

/-- What a value leaves in a text. -/
def printed : Option Json → Except PrintError String
  | none => .ok ""
  | some value => value.print

mutual

def Node.render (scope : Members) : Node → Except PrintError String
  | .text content => .ok content
  | .output expr => do printed (← expr.eval scope)
  | .each name items body => do
    let values ← parts (← items.eval scope)
    let texts ← values.mapM fun value => renderAll ((name, value) :: scope) body
    return String.join texts

def renderAll (scope : Members) : List Node → Except PrintError String
  | [] => .ok ""
  | node :: rest => do
    let text ← node.render scope
    return text ++ (← renderAll scope rest)

end

/-- The name by which a template goes in its own data, so that no value can have it. -/
def ownName : String := "self"

end Template

abbrev Template := List Template.Node

/-- Puts data into a template. -/
def Template.render (data : Members) (template : Template) : Except PrintError String :=
  if Members.contains ownName data then .error .ownName else renderAll data template

end QueryAudit
