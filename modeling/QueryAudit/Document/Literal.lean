import QueryAudit.Document.Basic
import QueryAudit.Text.Escape
import QueryAudit.Text.Lines

/-! The text of values. A string is written between quotes with escapes, or as a block if it was
read from one; a block opens and ends with a line of its own where that is easier to read, or where
its text would otherwise be read back as another one. -/
namespace QueryAudit

namespace Literal

/-- Two characters for those that have a short escape, six for other control characters. -/
def escapedChar (c : Char) : List Char :=
  match c with
  | '"' => ['\\', '"']
  | '\\' => ['\\', '\\']
  | '\x08' => ['\\', 'b']
  | '\t' => ['\\', 't']
  | '\n' => ['\\', 'n']
  | '\x0c' => ['\\', 'f']
  | '\r' => ['\\', 'r']
  | c =>
    if c.toNat < 0x20 || (0x7f ≤ c.toNat && c.toNat < 0xa0) then
      '\\' :: 'u' :: (Text.hexDigits 4 c.toNat).map Char.toUpper
    else [c]

def string (value : String) : String :=
  String.ofList ('"' :: (value.toList.flatMap escapedChar ++ ['"']))

/-- Three quotes in a row get a backslash before them. -/
def escapedQuotes : List Char → List Char
  | '"' :: '"' :: '"' :: rest => '\\' :: '"' :: '"' :: '"' :: escapedQuotes rest
  | c :: rest => c :: escapedQuotes rest
  | [] => []

def isIndented (line : List Char) : Bool :=
  match line with
  | [] => true
  | c :: _ => c == ' ' || c == '\t'

/-- The longest text that stays on the line of its quotes. -/
def longestSingleLine : Nat := 70

def block (value : String) : String :=
  let text := value.toList
  let escaped := escapedQuotes text
  let lines := Text.proseLines escaped
  let isSingle := lines.length ≤ 1
  let opensIndented := !isSingle && (lines.drop 1).all isIndented
  let endsInTriple := ['\\', '"', '"', '"'].isSuffixOf escaped
  let needsEnd := (['"'].isSuffixOf text && !endsInTriple) || ['\\'].isSuffixOf text
  let isTall := !isSingle || longestSingleLine < text.length || needsEnd || endsInTriple
  let startsBlank := isSingle && isIndented text
  let before := if (isTall && !startsBlank) || opensIndented then "\n" else ""
  let after := if isTall then "\n" else ""
  "\"\"\"" ++ before ++ String.ofList escaped ++ after ++ "\"\"\""

end Literal

mutual

def Value.text : Value → String
  | .reference name => "$" ++ name
  | .int text | .float text => text
  | .string value block => if block then Literal.block value else Literal.string value
  | .boolean b => if b then "true" else "false"
  | .null => "null"
  | .enum name => name
  | .list items => "[" ++ ", ".intercalate (itemTexts items) ++ "]"
  | .object fields => "\x7b" ++ ", ".intercalate (fieldTexts fields) ++ "\x7d"

def itemTexts : List Value → List String
  | [] => []
  | v :: rest => v.text :: itemTexts rest

def fieldTexts : List (String × Value) → List String
  | [] => []
  | (name, v) :: rest => (name ++ ": " ++ v.text) :: fieldTexts rest

end

end QueryAudit
