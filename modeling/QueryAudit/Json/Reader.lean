import QueryAudit.Json.Basic
import QueryAudit.Text.Integer

/-! Reading JSON. A reader takes the text that is left and gives a value with the text behind it.
A fault keeps the text from its place on, so its position is a difference of lengths. Beside the
standard grammar the words `NaN`, `Infinity` and `-Infinity` are numbers; a repeated key keeps its
first place and its last value. -/
namespace QueryAudit.Json

inductive Complaint where
  | value
  | propertyName
  | colon
  | comma
  | extraData
  | unterminatedString
  | escape
  | unicodeEscape
  | controlCharacter
  | byteOrderMark
  /-- An integer of too many digits. -/
  | longNumber
deriving DecidableEq, Repr

def Complaint.message : Complaint → String
  | value => "Expecting value"
  | propertyName => "Expecting property name enclosed in double quotes"
  | colon => "Expecting ':' delimiter"
  | comma => "Expecting ',' delimiter"
  | extraData => "Extra data"
  | unterminatedString => "Unterminated string starting at"
  | escape => "Invalid \\escape"
  | unicodeEscape => "Invalid \\uXXXX escape"
  | controlCharacter => "Invalid control character at"
  | byteOrderMark => "Unexpected UTF-8 BOM (decode using utf-8-sig)"
  | longNumber => "Too many digits"

/-- What is wrong, and the text from there on. -/
structure Fault where
  complaint : Complaint
  rest : List Char
deriving Repr

abbrev Reader (α : Type) := List Char → Except Fault (α × List Char)

def isBlank (c : Char) : Bool := c == ' ' || c == '\t' || c == '\n' || c == '\r'

def skipBlanks (cs : List Char) : List Char := cs.dropWhile isBlank

/-- A half of a pair that stands alone has no character of its own. -/
def charOfCode (n : Nat) : Char :=
  if Text.isScalarCode n then Char.ofNat n else '\ufffd'

/-- The four digits behind a backslash and a `u`, at least one character before the end of the
text, and the second half of a pair if one follows. `cs` starts at the `u`. -/
def unicodeEscape : Reader Char
  | 'u' :: a :: b :: c :: d :: e :: rest =>
    match Text.fourHex? a b c d with
    | none => .error ⟨.unicodeEscape, 'u' :: a :: b :: c :: d :: e :: rest⟩
    | some high =>
      match Text.isHighSurrogate high, e :: rest with
      | true, '\\' :: 'u' :: a :: b :: c :: d :: f :: rest =>
        match Text.fourHex? a b c d with
        | none => .error ⟨.unicodeEscape, 'u' :: a :: b :: c :: d :: f :: rest⟩
        | some low =>
          if Text.isLowSurrogate low then .ok (Char.ofNat (Text.joinSurrogates high low), f :: rest)
          else .ok (charOfCode high, e :: 'u' :: a :: b :: c :: d :: f :: rest)
      | _, rest => .ok (charOfCode high, rest)
  | cs => .error ⟨.unicodeEscape, cs⟩

/-- The characters up to the closing quote. `opening` is the text from the opening quote on;
`fuel` bounds the number of characters. -/
def stringBody (opening : List Char) : Nat → List Char → Except Fault (List Char × List Char)
  | 0, _ => .error ⟨.unterminatedString, opening⟩
  | _, [] => .error ⟨.unterminatedString, opening⟩
  | _ + 1, '"' :: rest => .ok ([], rest)
  | _ + 1, ['\\'] => .error ⟨.unterminatedString, opening⟩
  | fuel + 1, '\\' :: 'u' :: rest => do
    let (c, rest) ← unicodeEscape ('u' :: rest)
    let (body, rest) ← stringBody opening fuel rest
    return (c :: body, rest)
  | fuel + 1, '\\' :: e :: rest =>
    match Text.simpleEscape? e with
    | none => .error ⟨.escape, '\\' :: e :: rest⟩
    | some c => do
      let (body, rest) ← stringBody opening fuel rest
      return (c :: body, rest)
  | fuel + 1, c :: rest =>
    if c.toNat < 0x20 then .error ⟨.controlCharacter, c :: rest⟩
    else do
      let (body, rest) ← stringBody opening fuel rest
      return (c :: body, rest)

/-- A string; the text starts behind the opening quote. `fuel` bounds its length. -/
def string (fuel : Nat) : Reader String := fun cs => do
  let (body, rest) ← stringBody ('"' :: cs) fuel cs
  return (String.ofList body, rest)

def digitsValue (digits : List Char) : Nat :=
  digits.foldl (fun n c => n * 10 + (c.toNat - '0'.toNat)) 0

/-- The digits of the whole part: a single zero, or digits that do not start with one. -/
def wholeDigits : List Char → List Char × List Char
  | '0' :: rest => (['0'], rest)
  | cs => cs.span Char.isDigit

/-- A point with at least one digit behind it. -/
def fraction? : List Char → Option (List Char × List Char)
  | '.' :: rest =>
    let (digits, rest) := rest.span Char.isDigit
    if digits.isEmpty then none else some (digits, rest)
  | _ => none

def exponentSign : List Char → Bool × List Char
  | '-' :: rest => (true, rest)
  | '+' :: rest => (false, rest)
  | cs => (false, cs)

def exponent? : List Char → Option (Int × List Char)
  | c :: rest =>
    if c = 'e' ∨ c = 'E' then
      let (negative, rest) := exponentSign rest
      let (digits, rest) := rest.span Char.isDigit
      let magnitude : Int := digitsValue digits
      if digits.isEmpty then none else some (if negative then -magnitude else magnitude, rest)
    else none
  | [] => none

/-- A number with a fraction or an exponent is a binary64 number, any other an integer. -/
def number? (cs : List Char) : Option (Json × List Char) :=
  let (negative, unsigned) := match cs with
    | '-' :: rest => (true, rest)
    | _ => (false, cs)
  let (whole, rest) := wholeDigits unsigned
  if whole.isEmpty then none
  else
    match fraction? rest, exponent? rest with
    | none, none =>
      let n : Int := digitsValue whole
      some (.int (if negative then -n else n), rest)
    | none, some (exponent, rest) =>
      some (.float (.ofDecimal negative (digitsValue whole) exponent), rest)
    | some (digits, rest), _ =>
      let (exponent, rest) := (exponent? rest).getD (0, rest)
      let scale : Int := digits.length
      some (.float (.ofDecimal negative (digitsValue (whole ++ digits)) (exponent - scale)), rest)

/-- Words that are values of their own. -/
def words : List (String × Json) := [
  ("null", .null), ("true", .bool true), ("false", .bool false),
  ("NaN", .float .nan), ("Infinity", .float (.infinite false)),
  ("-Infinity", .float (.infinite true))]

def dropWord? : List Char → List Char → Option (List Char)
  | [], cs => some cs
  | w :: ws, c :: cs => if w = c then dropWord? ws cs else none
  | _ :: _, [] => none

def word? (cs : List Char) : Option (Json × List Char) :=
  words.findSome? fun (word, value) => (dropWord? word.toList cs).map (value, ·)

/-- Whether what was read up to a rest is an integer that is too long to be one. -/
def isLongInteger (cs : List Char) : Json × List Char → Bool
  | (.int n, rest) =>
    let sign := if n < 0 then 1 else 0
    Text.longestNumber + sign + rest.length < cs.length
  | _ => false

/-- A value without parts: a word or a number. -/
def scalar : Reader Json := fun cs =>
  match word? cs with
  | some found => .ok found
  | none =>
    match number? cs with
    | some found => if isLongInteger cs found then .error ⟨.longNumber, cs⟩ else .ok found
    | none => .error ⟨.value, cs⟩

mutual

/-- A value; the text starts at its first character. `fuel` bounds twice the length of the text, as
a bracket opens both a value and its first item. -/
def value : Nat → Reader Json
  | 0, cs => .error ⟨.value, cs⟩
  | fuel + 1, '"' :: rest => do
    let (s, rest) ← string fuel rest
    return (.str s, rest)
  | fuel + 1, '\x7b' :: rest =>
    match skipBlanks rest with
    | '\x7d' :: rest => .ok (.obj [], rest)
    | rest => do
      let (found, rest) ← members fuel [] rest
      return (.obj found, rest)
  | fuel + 1, '[' :: rest =>
    match skipBlanks rest with
    | ']' :: rest => .ok (.arr [], rest)
    | rest => do
      let (found, rest) ← items fuel rest
      return (.arr found, rest)
  | _ + 1, cs => scalar cs

/-- The items of an array up to its closing bracket; there is at least one. -/
def items : Nat → Reader (List Json)
  | 0, cs => .error ⟨.value, cs⟩
  | fuel + 1, cs => do
    let (item, rest) ← value fuel cs
    match skipBlanks rest with
    | ']' :: rest => return ([item], rest)
    | ',' :: rest => do
      let (later, rest) ← items fuel (skipBlanks rest)
      return (item :: later, rest)
    | rest => .error ⟨.comma, rest⟩

/-- The members of an object up to its closing brace, put after those found before. -/
def members : Nat → Members → Reader Members
  | 0, _, cs => .error ⟨.value, cs⟩
  | fuel + 1, found, '"' :: rest => do
    let (key, rest) ← string fuel rest
    match skipBlanks rest with
    | ':' :: rest => do
      let (member, rest) ← value fuel (skipBlanks rest)
      let found := Members.set key member found
      match skipBlanks rest with
      | '\x7d' :: rest => return (found, rest)
      | ',' :: rest => members fuel found (skipBlanks rest)
      | rest => .error ⟨.comma, rest⟩
    | rest => .error ⟨.colon, rest⟩
  | _ + 1, _, cs => .error ⟨.propertyName, cs⟩

end

/-- A whole text: one value between blanks. -/
def readChars (text : List Char) : Except Fault Json :=
  match text with
  | '\ufeff' :: _ => .error ⟨.byteOrderMark, text⟩
  | _ => do
    let (found, rest) ← value (2 * text.length + 1) (skipBlanks text)
    match skipBlanks rest with
    | [] => return found
    | rest => .error ⟨.extraData, rest⟩

/-- A fault with its place: line and column count from one, the offset from zero. -/
structure ReadError where
  complaint : Complaint
  line : Nat
  column : Nat
  offset : Nat
deriving DecidableEq, Repr

def ReadError.message (e : ReadError) : String :=
  s!"{e.complaint.message}: line {e.line} column {e.column} (char {e.offset})"

def Fault.located (fault : Fault) (text : List Char) : ReadError :=
  let offset := text.length - fault.rest.length
  let before := text.take offset
  { complaint := fault.complaint
    line := before.count '\n' + 1
    column := (before.reverse.takeWhile (· ≠ '\n')).length + 1
    offset := offset }

def read (text : String) : Except ReadError Json :=
  match readChars text.toList with
  | .ok found => .ok found
  | .error fault => .error (fault.located text.toList)

end QueryAudit.Json
