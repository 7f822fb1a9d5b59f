import QueryAudit.Json.Basic

/-! Which fields of which types are used. Types come in the order of their first use, and no type
is kept without a used field; as a dictionary everything is sorted by code point. -/
namespace QueryAudit

structure UsedFields where
  entries : List (String × List String) := []
deriving Repr, Inhabited

namespace UsedFields

/-- From lists of field names, which may hold a name several times or none at all. -/
def ofLists (lists : List (String × List String)) : UsedFields :=
  ⟨(lists.filter (!·.2.isEmpty)).map fun (type, fields) => (type, fields.eraseDups)⟩

/-- Adds a field to the entries of its type. -/
def addEntry (type field : String) : List (String × List String) → List (String × List String)
  | [] => [(type, [field])]
  | (t, fields) :: rest =>
    if t = type then (t, if field ∈ fields then fields else fields ++ [field]) :: rest
    else (t, fields) :: addEntry type field rest

/-- From single uses, in order. -/
def ofPairs (pairs : List (String × String)) : UsedFields :=
  ⟨pairs.foldl (fun entries (type, field) => addEntry type field entries) []⟩

def get? (used : UsedFields) (type : String) : Option (List String) :=
  (used.entries.find? (·.1 = type)).map (·.2)

def fieldsOf (used : UsedFields) (type : String) : List String := (used.get? type).getD []

def isUsed (used : UsedFields) (type field : String) : Bool := (used.fieldsOf type).contains field

def contains (used : UsedFields) (type : String) : Bool := (used.get? type).isSome

def size (used : UsedFields) : Nat := used.entries.length

def typeNames (used : UsedFields) : List String := used.entries.map (·.1)

def sameMembers (a b : List String) : Bool := a.all b.contains && b.all a.contains

/-- Equality of content, whatever the order. -/
def equal (a b : UsedFields) : Bool :=
  a.size == b.size && a.entries.all fun (type, fields) =>
    match b.get? type with
    | some others => sameMembers fields others
    | none => false

instance : BEq UsedFields := ⟨equal⟩

def sortTexts (texts : List String) : List String := texts.mergeSort fun a b => decide (a ≤ b)

/-- Everything sorted. -/
def sorted (used : UsedFields) : List (String × List String) :=
  (used.entries.mergeSort fun a b => decide (a.1 ≤ b.1)).map fun (type, fields) =>
    (type, sortTexts fields)

def toJson (used : UsedFields) : Json :=
  .obj (used.sorted.map fun (type, fields) => (type, .strings fields))

/-- How the used fields are shown in a message. -/
def shown (used : UsedFields) : String := "UsedFieldIndex(" ++ used.toJson.quoted ++ ")"

end UsedFields

end QueryAudit
