import QueryAudit.Json.Basic

/-! Values that stand where a text should. A text is measured, read character by character, and cut
into lines where it is wrong; a value that is no text fails at one of these. -/
namespace QueryAudit

/-- What cannot be done with a value that is no text. -/
inductive BodyFault where
  | noLength (value : Json)
  /-- An item is no character. -/
  | noCharacter (item : Json)
  /-- Items make up a word that nothing is called by. -/
  | noWord
  /-- An object has no beginning. -/
  | noBeginning
  /-- An object has nothing in first place. -/
  | noFirst
  /-- A list is not cut into lines. -/
  | noLines
deriving DecidableEq, Repr

namespace BodyFault

def message : BodyFault → String
  | noLength value => s!"object of type '{value.kindName}' has no len()"
  | noCharacter item =>
    s!"'in <string>' requires string as left operand, not {item.kindName}"
  | noWord => "unhashable type: 'list'"
  | noBeginning => "unhashable type: 'slice'"
  | noFirst => "0"
  | noLines => "'list' object has no attribute 'splitlines'"

end BodyFault

namespace Body

/-- An item that is passed over between words. -/
def isBlank (item : String) : Bool := item ∈ ["", " ", "\t", ",", "\ufeff", "\n", "\r"]

/-- What fails first in a list. -/
def listFault : List Json → BodyFault
  | [] => .noLines
  | .str s :: rest =>
    if isBlank s then listFault rest
    else if s.toList.all (·.isAlpha) || s = "_" then .noWord
    else .noLines
  | item :: _ => .noCharacter item

/-- The text that a value is. -/
def read : Json → Except BodyFault String
  | .str s => .ok s
  | .arr items => .error (listFault items)
  | .obj [] => .error .noBeginning
  | .obj _ => .error .noFirst
  | value => .error (.noLength value)

end Body

end QueryAudit
