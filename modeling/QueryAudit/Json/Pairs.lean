import QueryAudit.Json.Basic

/-! Members given in another form: a list of pairs of a key and a value. A pair may itself be any
two things in a row, be it a list, a text of two characters or an object of two keys. -/
namespace QueryAudit

/-- Why a value gives no members. -/
inductive PairsError where
  /-- Something that should be a pair has another length. -/
  | notPair
  /-- Something has no parts at all, or its parts make no key. -/
  | noParts
deriving DecidableEq, Repr

namespace Members

/-- What a value is made of: items, characters or keys. -/
def parts? : Json → Option (List Json)
  | .arr items => some items
  | .str s => some (s.toList.map fun c => .str (String.singleton c))
  | .obj members => some (members.map fun m => .str m.1)
  | _ => none

/-- Adds a pair. Only a text is the key of a member; other keys are passed over. -/
def addPair (members : Members) (pair : Json) : Except PairsError Members :=
  match parts? pair with
  | some [.str key, value] => .ok (set key value members)
  | some [.arr _, _] | some [.obj _, _] => .error .noParts
  | some [_, _] => .ok members
  | some _ => .error .notPair
  | none => .error .noParts

/-- The members that a value gives, none if it counts as absent. -/
def ofValue (value : Json) : Except PairsError Members :=
  if value.isFalsy then .ok []
  else
    match value, parts? value with
    | .obj members, _ => .ok members
    | _, some pairs => pairs.foldlM addPair []
    | _, none => .error .noParts

end Members

end QueryAudit
