import QueryAudit.Text.Escape
import QueryAudit.Token.Basic
import QueryAudit.Token.BlockString

/-! Cutting a text into tokens. Blanks, commas, byte order marks, line ends and comments between
tokens are skipped; a token's line and column are those of its first character. -/
namespace QueryAudit

namespace Lexer

/-- The text that is left, and where it starts. -/
structure Cursor where
  rest : List Char
  offset : Nat
  line : Nat
  lineStart : Nat
deriving Repr

namespace Cursor

def ofText (text : List Char) : Cursor := ⟨text, 0, 1, 0⟩

def position (c : Cursor) : Position := ⟨c.offset, c.line, c.offset - c.lineStart + 1⟩

/-- Passes over `count` characters of the current line. -/
def skip (c : Cursor) (count : Nat) : Cursor :=
  { c with rest := c.rest.drop count, offset := c.offset + count }

end Cursor

def isIgnored (c : Char) : Bool := c == ' ' || c == '\t' || c == ',' || c == '\ufeff'

def isNameStart (c : Char) : Bool := c.isAlpha || c == '_'

def isNamePart (c : Char) : Bool := c.isAlphanum || c == '_'

/-- Passes over what stands between two tokens. -/
def skipIgnored (inComment : Bool) (offset line lineStart : Nat) : List Char → Cursor
  | '\r' :: '\n' :: rest => skipIgnored false (offset + 2) (line + 1) (offset + 2) rest
  | '\r' :: rest => skipIgnored false (offset + 1) (line + 1) (offset + 1) rest
  | '\n' :: rest => skipIgnored false (offset + 1) (line + 1) (offset + 1) rest
  | c :: rest =>
    if inComment || isIgnored c then skipIgnored inComment (offset + 1) line lineStart rest
    else if c == '#' then skipIgnored true (offset + 1) line lineStart rest
    else ⟨c :: rest, offset, line, lineStart⟩
  | [] => ⟨[], offset, line, lineStart⟩

/-- How the next character is shown in a message. -/
def shownChar : List Char → String
  | [] => "<EOF>"
  | c :: _ =>
    if 0x20 ≤ c.toNat ∧ c.toNat ≤ 0x7E then s!"'{c}'"
    else
      let digits := (Nat.toDigits 16 c.toNat).map Char.toUpper
      "U+" ++ String.ofList (List.replicate (4 - digits.length) '0' ++ digits)

def fail {α : Type} (complaint : SyntaxComplaint) (offset : Nat) : Except Unreadable α :=
  .error (.grammar ⟨complaint, offset⟩)

/-- At least one digit, and what is behind the digits. -/
def digits (cs : List Char) (offset : Nat) : Except Unreadable (List Char × List Char) :=
  let (found, rest) := cs.span Char.isDigit
  if found.isEmpty then fail (.expectedDigit (shownChar cs)) offset else .ok (found, rest)

/-- The part of a number before a point or an exponent: no zero in front of another digit. -/
def wholePart (cs : List Char) (offset : Nat) : Except Unreadable (List Char × List Char) :=
  match cs with
  | '0' :: d :: rest =>
    if d.isDigit then fail (.digitAfterZero (shownChar (d :: rest))) (offset + 1)
    else .ok (['0'], d :: rest)
  | _ => digits cs offset

def fractionPart (cs : List Char) (offset : Nat) : Except Unreadable (List Char × List Char) :=
  match cs with
  | '.' :: rest => do
    let (found, rest) ← digits rest (offset + 1)
    return ('.' :: found, rest)
  | _ => .ok ([], cs)

def exponentPart (cs : List Char) (offset : Nat) : Except Unreadable (List Char × List Char) :=
  match cs with
  | e :: rest =>
    if e = 'e' ∨ e = 'E' then
      match rest with
      | sign :: behind =>
        if sign = '+' ∨ sign = '-' then do
          let (found, rest) ← digits behind (offset + 2)
          return (e :: sign :: found, rest)
        else do
          let (found, rest) ← digits rest (offset + 1)
          return (e :: found, rest)
      | [] => fail (.expectedDigit (shownChar [])) (offset + 1)
    else .ok ([], cs)
  | [] => .ok ([], cs)

def minusSign : List Char → List Char × List Char
  | '-' :: rest => (['-'], rest)
  | cs => ([], cs)

/-- A number may not be followed by a point or a name. -/
def number (cs : List Char) (offset : Nat) : Except Unreadable (Lexeme × Nat) := do
  let (sign, rest) := minusSign cs
  let place := offset + sign.length
  let (whole, rest) ← wholePart rest place
  let place := place + whole.length
  let (fraction, rest) ← fractionPart rest place
  let place := place + fraction.length
  let (exponent, rest) ← exponentPart rest place
  let place := place + exponent.length
  let text := sign ++ whole ++ fraction ++ exponent
  let lexeme := if fraction.isEmpty && exponent.isEmpty then Lexeme.int (String.ofList text)
    else .float (String.ofList text)
  match rest with
  | c :: _ =>
    if c = '.' ∨ isNameStart c then fail (.expectedDigit (shownChar rest)) place
    else return (lexeme, text.length)
  | [] => return (lexeme, text.length)

/-- The digits of an escape with braces: the character and the size of the whole escape, or the
size of the text to blame. `size` characters are read; an escape has twelve at most. -/
def bracedEscape (point size : Nat) : List Char → Except Nat (Char × Nat)
  | [] => .error size
  | c :: rest =>
    if size ≥ 12 then .error size
    else if c = '\x7d' then
      if size + 1 < 5 ∨ !Text.isScalarCode point then .error (size + 1)
      else .ok (Char.ofNat point, size + 1)
    else
      match Text.hexValue? c with
      | none => .error (size + 1)
      | some digit => bracedEscape (point * 16 + digit) (size + 1) rest

/-- Four digits, or none if one of them is no digit; fails if the text ends before the fourth. -/
def fixedCode : List Char → Except Unreadable (Option Nat)
  | a :: b :: c :: d :: _ => .ok (Text.fourHex? a b c d)
  | _ => .error .cutEscape

/-- An escape of four digits, or two of them that form a pair. `cs` starts at the backslash. -/
def fixedEscape (cs : List Char) (offset : Nat) : Except Unreadable (Char × Nat) := do
  let bad : Except Unreadable (Char × Nat) :=
    fail (.unicodeEscape (String.ofList (cs.take 6))) offset
  match ← fixedCode (cs.drop 2) with
  | none => bad
  | some code =>
    if Text.isScalarCode code then return (Char.ofNat code, 6)
    else if Text.isHighSurrogate code then
      match cs.drop 6 with
      | '\\' :: 'u' :: behind =>
        match ← fixedCode behind with
        | some low =>
          if Text.isLowSurrogate low then return (Char.ofNat (Text.joinSurrogates code low), 12)
          else bad
        | none => bad
      | _ => bad
    else bad

/-- The character that an escape stands for, and the size of the escape. -/
def escape (cs : List Char) (offset : Nat) : Except Unreadable (Char × Nat) :=
  match cs with
  | '\\' :: 'u' :: '\x7b' :: rest =>
    match bracedEscape 0 3 rest with
    | .ok found => .ok found
    | .error size => fail (.unicodeEscape (String.ofList (cs.take size))) offset
  | '\\' :: 'u' :: _ => fixedEscape cs offset
  | '\\' :: e :: _ =>
    match Text.simpleEscape? e with
    | some c => .ok (c, 2)
    | none => fail (.characterEscape (String.ofList ['\\', e])) offset
  | _ => .error .cutEscape

/-- The characters of a string up to its closing quote, and how many the string takes.
`fuel` bounds the length of the text. -/
def stringBody : Nat → List Char → Nat → Except Unreadable (List Char × Nat)
  | 0, _, offset => fail .unterminatedString offset
  | _, [], offset => fail .unterminatedString offset
  | fuel + 1, c :: rest, offset =>
    if c = '"' then .ok ([], 1)
    else if c = '\n' ∨ c = '\r' then fail .unterminatedString offset
    else if c = '\\' then do
      let (decoded, size) ← escape (c :: rest) offset
      let (body, length) ← stringBody fuel ((c :: rest).drop size) (offset + size)
      return (decoded :: body, length + size)
    else do
      let (body, length) ← stringBody fuel rest (offset + 1)
      return (c :: body, length + 1)

/-- What a block string holds: its lines so far, the last one reversed, and the cursor. -/
def blockBody (current : List Char) (lines : List (List Char)) (offset line lineStart : Nat) :
    List Char → Except Unreadable (List (List Char) × Cursor)
  | '"' :: '"' :: '"' :: rest =>
    .ok ((current.reverse :: lines).reverse, ⟨rest, offset + 3, line, lineStart⟩)
  | '\\' :: '"' :: '"' :: '"' :: rest =>
    blockBody ('"' :: '"' :: '"' :: current) lines (offset + 4) line lineStart rest
  | '\r' :: '\n' :: rest =>
    blockBody [] (current.reverse :: lines) (offset + 2) (line + 1) (offset + 2) rest
  | '\r' :: rest =>
    blockBody [] (current.reverse :: lines) (offset + 1) (line + 1) (offset + 1) rest
  | '\n' :: rest =>
    blockBody [] (current.reverse :: lines) (offset + 1) (line + 1) (offset + 1) rest
  | c :: rest => blockBody (c :: current) lines (offset + 1) line lineStart rest
  | [] => fail .unterminatedString offset

/-- The token at a cursor that stands on no ignored character, and the cursor behind it. -/
def token (c : Cursor) : Except Unreadable (Token × Cursor) :=
  let found (lexeme : Lexeme) (length : Nat) : Except Unreadable (Token × Cursor) :=
    .ok (⟨lexeme, c.position⟩, c.skip length)
  match c.rest with
  | [] => found .endOfText 0
  | '.' :: '.' :: '.' :: _ => found (.punctuator .spread) 3
  | '"' :: '"' :: '"' :: rest => do
    let (lines, behind) ← blockBody [] [] (c.offset + 3) c.line c.lineStart rest
    return (⟨.block (BlockString.join (BlockString.dedent lines)), c.position⟩, behind)
  | '"' :: rest => do
    let (body, length) ← stringBody (rest.length + 1) rest (c.offset + 1)
    found (.string (String.ofList body)) (length + 1)
  | first :: rest =>
    match Punctuator.ofChar? first with
    | some p => found (.punctuator p) 1
    | none =>
      if first.isDigit || first == '-' then do
        let (lexeme, length) ← number (first :: rest) c.offset
        found lexeme length
      else if isNameStart first then
        let text := (first :: rest).takeWhile isNamePart
        found (.name (String.ofList text)) text.length
      else if first == '\x27' then fail .singleQuote c.offset
      else fail (.unexpectedCharacter (shownChar (first :: rest))) c.offset

/-- The tokens from a cursor on; `fuel` bounds their number. -/
def tokensFrom : Nat → Cursor → TokenStream
  | 0, _ => ⟨[], none, 0⟩
  | fuel + 1, c =>
    match token (skipIgnored false c.offset c.line c.lineStart c.rest) with
    | .error failure => ⟨[], some failure, 0⟩
    | .ok (token, behind) =>
      if token.lexeme = .endOfText then ⟨[token], none, 1⟩
      else
        let later := tokensFrom fuel behind
        ⟨token :: later.tokens, later.failure, later.size + 1⟩

end Lexer

/-- The tokens of a text. Every token but the last takes a character, which bounds their number. -/
def TokenStream.ofText (text : String) : TokenStream :=
  let chars := text.toList
  Lexer.tokensFrom (chars.length + 1) (.ofText chars)

end QueryAudit
