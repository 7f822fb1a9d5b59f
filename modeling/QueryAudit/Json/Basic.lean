import QueryAudit.Number.Shortest
import QueryAudit.Text.Integer
import QueryAudit.Text.Quoted

/-! JSON values. Integers are unbounded and kept apart from binary64 numbers; an object keeps its
members in order, each key once. -/
namespace QueryAudit

inductive Json where
  | null
  | bool (b : Bool)
  | int (n : Int)
  | float (x : Binary64)
  | str (s : String)
  | arr (items : List Json)
  | obj (members : List (String × Json))
deriving Repr, Inhabited

namespace Json

mutual

/-- Whether two values are the same, member by member in order. -/
def same : Json → Json → Bool
  | null, null => true
  | bool a, bool b => a = b
  | int a, int b => a = b
  | float a, float b => a = b
  | str a, str b => a = b
  | arr a, arr b => sameItems a b
  | obj a, obj b => sameMembers a b
  | _, _ => false

def sameItems : List Json → List Json → Bool
  | [], [] => true
  | a :: as, b :: bs => same a b && sameItems as bs
  | _, _ => false

def sameMembers : List (String × Json) → List (String × Json) → Bool
  | [], [] => true
  | (k, a) :: as, (l, b) :: bs => k = l && same a b && sameMembers as bs
  | _, _ => false

end

mutual

theorem same_iff : (a b : Json) → (same a b = true ↔ a = b)
  | null, b | bool _, b | int _, b | float _, b | str _, b => by cases b <;> simp [same]
  | arr items, b => by cases b <;> simp [same, sameItems_iff items]
  | obj members, b => by cases b <;> simp [same, sameMembers_iff members]

theorem sameItems_iff : (a b : List Json) → (sameItems a b = true ↔ a = b)
  | [], b => by cases b <;> simp [sameItems]
  | item :: rest, b => by cases b <;> simp [sameItems, same_iff item, sameItems_iff rest]

theorem sameMembers_iff : (a b : List (String × Json)) → (sameMembers a b = true ↔ a = b)
  | [], b => by cases b <;> simp [sameMembers]
  | (key, value) :: rest, b => by
    cases b <;> simp [sameMembers, same_iff value, sameMembers_iff rest, Prod.ext_iff]

end

instance : DecidableEq Json := fun a b => decidable_of_decidable_of_iff (same_iff a b)

end Json

/-- Members of an object, in order. -/
abbrev Members := List (String × Json)

namespace Members

def get? (key : String) : Members → Option Json
  | [] => none
  | (k, v) :: rest => if k = key then some v else get? key rest

def contains (key : String) (members : Members) : Bool := (get? key members).isSome

/-- A known key keeps its place and takes the new value; a new key goes to the end. -/
def set (key : String) (value : Json) : Members → Members
  | [] => [(key, value)]
  | (k, v) :: rest => if k = key then (k, value) :: rest else (k, v) :: set key value rest

def erase (key : String) (members : Members) : Members := members.filter (·.1 ≠ key)

def keys (members : Members) : List String := members.map (·.1)

end Members

namespace Json

def get? (key : String) : Json → Option Json
  | obj members => Members.get? key members
  | _ => none

/-- The values that count as absent: null, false, zero and everything empty. -/
def isFalsy : Json → Bool
  | null => true
  | bool b => !b
  | int n => n == 0
  | float x => x.isZero
  | str s => s.isEmpty
  | arr items => items.isEmpty
  | obj members => members.isEmpty

def isNull : Json → Bool
  | null => true
  | _ => false

def ofNat (n : Nat) : Json := int n

def strings (texts : List String) : Json := arr (texts.map str)

def ofOption (value : Option Json) : Json := value.getD null

def ofText? (text : Option String) : Json := ofOption (text.map str)

def asString? : Json → Option String
  | str s => some s
  | _ => none

def asArray? : Json → Option (List Json)
  | arr items => some items
  | _ => none

def asObject? : Json → Option Members
  | obj members => some members
  | _ => none

def asNat? : Json → Option Nat
  | int n => if n < 0 then none else some n.toNat
  | _ => none

mutual

/-- How a value is quoted in a message. All digits of an integer are written; what may be written at
all is for others to say (`isShort`). -/
def quoted : Json → String
  | null => "None"
  | bool true => "True"
  | bool false => "False"
  | int n => toString n
  | float x => x.text "nan" "inf"
  | str s => Text.quoted s
  | arr items => "[" ++ ", ".intercalate (quotedItems items) ++ "]"
  | obj members => "\x7b" ++ ", ".intercalate (quotedMembers members) ++ "\x7d"

def quotedItems : List Json → List String
  | [] => []
  | item :: rest => item.quoted :: quotedItems rest

def quotedMembers : List (String × Json) → List String
  | [] => []
  | (key, value) :: rest => (Text.quoted key ++ ": " ++ value.quoted) :: quotedMembers rest

end

/-- Whether a value holds a text: as a key, as an item or as a part of a longer text. -/
def holds? (text : String) : Json → Option Bool
  | .obj members => some (Members.contains text members)
  | .arr items => some (items.any fun item => item.asString? == some text)
  | .str s => some (text.isEmpty || (s.splitOn text).length ≠ 1)
  | _ => none

/-- The word for the kind of a value. -/
def kindName : Json → String
  | null => "NoneType"
  | bool _ => "bool"
  | int _ => "int"
  | float _ => "float"
  | str _ => "str"
  | arr _ => "list"
  | obj _ => "dict"

/-- How a value is written into running text: a string as it is, all else as in a message. -/
def display : Json → String
  | str s => s
  | value => value.quoted

mutual

/-- Whether each integer has no more digits than a number that can be read. -/
def isShort : Json → Bool
  | int n => (Nat.toDigits 10 n.natAbs).length ≤ Text.longestNumber
  | arr items => isShortItems items
  | obj members => isShortMembers members
  | null | bool _ | float _ | str _ => true

def isShortItems : List Json → Bool
  | [] => true
  | item :: rest => item.isShort && isShortItems rest

def isShortMembers : List (String × Json) → Bool
  | [] => true
  | (_, value) :: rest => value.isShort && isShortMembers rest

end

end Json

end QueryAudit
