import QueryAudit.Json.Basic

/-! Writing JSON in ASCII: other characters are escapes of four hexadecimal digits, in pairs
beyond the first plane. A layout says what stands inside the brackets and behind a comma; an
empty array or object is always written without a break. -/
namespace QueryAudit.Json

def unitEscape (n : Nat) : List Char := '\\' :: 'u' :: Text.hexDigits 4 n

def escapedChar (c : Char) : List Char :=
  match c with
  | '"' => ['\\', '"']
  | '\\' => ['\\', '\\']
  | '\n' => ['\\', 'n']
  | '\r' => ['\\', 'r']
  | '\t' => ['\\', 't']
  | '\x08' => ['\\', 'b']
  | '\x0c' => ['\\', 'f']
  | c =>
    if 0x20 ≤ c.toNat ∧ c.toNat < 0x7F then [c]
    else if c.toNat < 0x10000 then unitEscape c.toNat
    else
      let n := c.toNat - 0x10000
      unitEscape (0xD800 + n / 0x400) ++ unitEscape (0xDC00 + n % 0x400)

def stringChars (s : String) : List Char := '"' :: (s.toList.flatMap escapedChar ++ ['"'])

structure Layout where
  /-- Before the first item of a level, and before the bracket that closes it. -/
  edge : Nat → List Char
  /-- Behind a comma of a level. -/
  gap : Nat → List Char

def lineBreak (level : Nat) : List Char := '\n' :: List.replicate (2 * level) ' '

/-- Each item on a line of its own, two blanks deeper than its container. -/
def Layout.indented : Layout := ⟨lineBreak, lineBreak⟩

def Layout.oneLine : Layout := ⟨fun _ => [], fun _ => [' ']⟩

def scalarChars : Json → List Char
  | null => "null".toList
  | bool true => "true".toList
  | bool false => "false".toList
  | int n => (toString n).toList
  | float x => (x.text "NaN" "Infinity").toList
  | str s => stringChars s
  | arr _ => "[]".toList
  | obj _ => ['\x7b', '\x7d']

mutual

/-- The text of a value whose container is at `level`, in front of what follows it. -/
def chars (layout : Layout) (level : Nat) : Json → (rest : List Char) → List Char
  | arr (item :: items), rest =>
    '[' :: (layout.edge (level + 1) ++ chars layout (level + 1) item
      (itemsChars layout (level + 1) items (layout.edge level ++ ']' :: rest)))
  | obj ((key, member) :: members), rest =>
    '\x7b' :: (layout.edge (level + 1) ++ (stringChars key ++ ':' :: ' ' ::
      chars layout (level + 1) member
        (membersChars layout (level + 1) members (layout.edge level ++ '\x7d' :: rest))))
  | value, rest => scalarChars value ++ rest

/-- Further items, each behind a comma. -/
def itemsChars (layout : Layout) (level : Nat) : List Json → (rest : List Char) → List Char
  | [], rest => rest
  | item :: items, rest =>
    ',' :: (layout.gap level ++ chars layout level item (itemsChars layout level items rest))

/-- Further members, each behind a comma. -/
def membersChars (layout : Layout) (level : Nat) :
    List (String × Json) → (rest : List Char) → List Char
  | [], rest => rest
  | (key, member) :: members, rest =>
    ',' :: (layout.gap level ++ (stringChars key ++ ':' :: ' ' ::
      chars layout level member (membersChars layout level members rest)))

end

def write (layout : Layout) (value : Json) : String := String.ofList (chars layout 0 value [])

end QueryAudit.Json
