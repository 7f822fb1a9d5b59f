import QueryAudit.Json.Basic

/-! Values in messages about them, kept short: long texts and lists lose their middle, and what
lies deeper than two levels is only hinted at. -/
namespace QueryAudit.Json

def longestText : Nat := 240
def longestList : Nat := 10
def deepestLevel : Nat := 2

/-- A long text keeps its two ends. -/
def abridgedText (text : String) : String :=
  if text.length ≤ longestText then text
  else
    let chars := text.toList
    let front := (longestText - 3) / 2
    let back := longestText - 3 - front
    String.ofList (chars.take front ++ ['.', '.', '.'] ++ chars.drop (chars.length - back))

/-- A long list keeps its first and its last items. -/
def abridgedList (items : List String) : List String :=
  if items.length ≤ longestList then items
  else
    let front := longestList / 2
    items.take front ++ ["..."] ++ items.drop (items.length - (front - 1))

mutual

def abridgedAt (level : Nat) : Json → String
  | int n => abridgedText (toString n)
  | str s => abridgedText (Text.quoted s)
  | arr items =>
    if items.isEmpty then "[]"
    else if deepestLevel ≤ level then "[...]"
    else "[" ++ ", ".intercalate (abridgedList (abridgedItems (level + 1) items)) ++ "]"
  | obj members =>
    if members.isEmpty then "\x7b\x7d"
    else if deepestLevel ≤ level then "\x7b...\x7d"
    else
      "\x7b" ++ ", ".intercalate (abridgedList (abridgedMembers (level + 1) members)) ++ "\x7d"
  | value => value.quoted

def abridgedItems (level : Nat) : List Json → List String
  | [] => []
  | item :: rest => abridgedAt level item :: abridgedItems level rest

def abridgedMembers (level : Nat) : List (String × Json) → List String
  | [] => []
  | (key, value) :: rest =>
    (abridgedText (Text.quoted key) ++ ": " ++ abridgedAt level value) ::
      abridgedMembers level rest

end

def abridged (value : Json) : String := abridgedAt 0 value

end QueryAudit.Json
