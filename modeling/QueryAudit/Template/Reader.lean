import QueryAudit.Template.Basic
import QueryAudit.Text.Lines

/-! Reading templates. A text holds marks: an output stands between double braces and gives a value,
a tag stands between braces with percent signs and opens or closes a part that is repeated. A text is
cut at its marks, the blanks around its tags are tidied, and then each closing tag goes with the last
one that is open. -/
namespace QueryAudit.Template

/-- What happens to the blanks and line breaks of a template. -/
structure Settings where
  /-- The line break right behind a tag is left out. -/
  trimBlocks : Bool := false
  /-- The blanks between the start of a line and a tag are left out. -/
  lstripBlocks : Bool := false
  /-- The line break at the end of the text is kept. -/
  keepTrailingNewline : Bool := false
deriving DecidableEq, Repr

inductive MarkKind where
  | output
  | tag
deriving DecidableEq, Repr, Inhabited

/-- The character that ends a mark together with a closing brace. -/
def MarkKind.closer : MarkKind → Char
  | output => '\x7d'
  | tag => '%'

/-- A mark, and the text behind it up to the next one. -/
structure Mark where
  kind : MarkKind
  inner : List Char := []
  after : List Char
deriving DecidableEq, Repr, Inhabited

/-- The quote that is open behind a character. -/
def quoteAfter (quote : Option Char) (c : Char) : Option Char :=
  match quote with
  | some q => if c = q then none else some q
  | none => if c = '"' || c = '\'' then some c else none

mutual

/-- The text up to the first mark, and the marks. Remarks are not read. -/
def cut : List Char → Option (List Char × List Mark)
  | [] => some ([], [])
  | '\x7b' :: '\x7b' :: rest => (cutMark .output none rest).map ([], ·)
  | '\x7b' :: '%' :: rest => (cutMark .tag none rest).map ([], ·)
  | '\x7b' :: '#' :: _ => none
  | c :: rest => (cut rest).map fun (text, marks) => (c :: text, marks)

/-- The marks from the inside of the first on. A mark does not end within quotes. -/
def cutMark (kind : MarkKind) (quote : Option Char) : List Char → Option (List Mark)
  | [] => none
  | c :: rest =>
    if quote.isNone && c = kind.closer && rest.head? = some '\x7d' then
      match rest with
      | [] => none
      | _ :: rest => (cut rest).map fun (after, marks) => { kind, after } :: marks
    else
      match cutMark kind (quoteAfter quote c) rest with
      | some (mark :: marks) => some ({ mark with inner := c :: mark.inner } :: marks)
      | _ => none

end

inductive Token where
  | word (name : String)
  | number (n : Nat)
  | text (text : String)
  | point
  | bar
  | equals
deriving DecidableEq, Repr

def isWordChar (c : Char) : Bool := c.isAlphanum || c = '_'

/-- The tokens of a mark. `fuel` bounds their number. -/
def tokens : Nat → List Char → Option (List Token)
  | _, [] => some []
  | 0, _ => none
  | fuel + 1, c :: rest =>
    if Text.isBlank c then tokens fuel rest
    else if c.isDigit then
      let (digits, rest) := (c :: rest).span Char.isDigit
      (tokens fuel rest).map (.number (Nat.ofDigitChars 10 digits 0) :: ·)
    else if isWordChar c then
      let (name, rest) := (c :: rest).span isWordChar
      (tokens fuel rest).map (.word (String.ofList name) :: ·)
    else
      match c, rest with
      | '.', rest => (tokens fuel rest).map (.point :: ·)
      | '|', rest => (tokens fuel rest).map (.bar :: ·)
      | '=', '=' :: rest => (tokens fuel rest).map (.equals :: ·)
      | '"', rest | '\'', rest =>
        match rest.span (· ≠ c) with
        | (content, _ :: rest) =>
          if '\\' ∈ content then none
          else (tokens fuel rest).map (.text (String.ofList content) :: ·)
        | _ => none
      | _, _ => none

/-- Words that no value of the data goes by. -/
def reserved : List String := [
  "and", "caller", "cycler", "dict", "else", "false", "False", "if", "in", "is", "joiner", "lipsum",
  "loop", "namespace", "none", "None", "not", "or", "range", "self", "super", "true", "True"]

/-- Parts of a value, one in the other. -/
def partsFrom (whole : Expr) : List Token → Expr × List Token
  | .point :: .word key :: rest => partsFrom (.part whole key) rest
  | rest => (whole, rest)

/-- Filters of a value, one after the other. -/
def filtersFrom (value : Expr) : List Token → Expr × List Token
  | .bar :: .word "length" :: rest => filtersFrom (.count value) rest
  | rest => (value, rest)

def operand : List Token → Option (Expr × List Token)
  | .word name :: rest =>
    if name ∈ reserved then none
    else
      let (value, rest) := partsFrom (.name name) rest
      some (filtersFrom value rest)
  | .number n :: rest => some (filtersFrom (.number n) rest)
  | .text s :: rest => some (filtersFrom (.text s) rest)
  | _ => none

def comparison (tokens : List Token) : Option (Expr × List Token) := do
  let (left, rest) ← operand tokens
  match rest with
  | .equals :: rest => do
    let (right, rest) ← operand rest
    return (.equal left right, rest)
  | _ => return (left, rest)

/-- A value, or another one in its place if it counts as absent. -/
def alternative (tokens : List Token) : Option (Expr × List Token) := do
  let (first, rest) ← comparison tokens
  match rest with
  | .word "or" :: rest => do
    let (second, rest) ← comparison rest
    return (.orElse first second, rest)
  | _ => return (first, rest)

/-- One of two values by a condition that stands between them. -/
def choice (tokens : List Token) : Option (Expr × List Token) := do
  let (yes, rest) ← alternative tokens
  match rest with
  | .word "if" :: rest => do
    let (condition, rest) ← alternative rest
    match rest with
    | .word "else" :: rest => do
      let (no, rest) ← alternative rest
      return (.choose condition yes no, rest)
    | _ => none
  | _ => return (yes, rest)

/-- A text, an output or a tag. -/
inductive Piece where
  | text (text : String)
  | output (expr : Expr)
  | opens (name : String) (items : Expr)
  | closes
deriving DecidableEq, Repr

def Mark.piece (mark : Mark) : Option Piece := do
  let tokens ← tokens mark.inner.length mark.inner
  match mark.kind, tokens with
  | .output, tokens => do
    match ← choice tokens with
    | (expr, []) => return .output expr
    | _ => none
  | .tag, .word "for" :: .word name :: .word "in" :: tokens => do
    match ← alternative tokens with
    | (items, []) => if name ∈ reserved then none else return .opens name items
    | _ => none
  | .tag, [.word "endfor"] => return .closes
  | .tag, _ => none

/-- Leaves out what stands between the start of a line and a tag, if it is blank. The text before the
tag may itself start a line. -/
def Settings.strip (settings : Settings) (lineStart : Bool) (text : List Char) : List Char :=
  let last := (text.reverse.takeWhile (· ≠ '\n')).reverse
  let before := text.take (text.length - last.length)
  if settings.lstripBlocks && (lineStart || !before.isEmpty) && last.all Text.isBlank then before
  else text

/-- Leaves out a line break behind a tag, and tells whether there was one to leave out. -/
def Settings.trim (settings : Settings) (text : List Char) : Bool × List Char :=
  match text with
  | '\n' :: rest => if settings.trimBlocks then (true, rest) else (false, text)
  | _ => (false, text)

/-- The pieces of a text before marks and of the marks. -/
def pieces (settings : Settings) (lineStart : Bool) (text : List Char) :
    List Mark → Option (List Piece)
  | [] => some [.text (String.ofList text)]
  | mark :: marks => do
    let piece ← mark.piece
    match mark.kind with
    | .output =>
      let later ← pieces settings false mark.after marks
      return .text (String.ofList text) :: piece :: later
    | .tag =>
      let (trimmed, after) := settings.trim mark.after
      let later ← pieces settings trimmed after marks
      return .text (String.ofList (settings.strip lineStart text)) :: piece :: later

/-- A part that is open: its name and items, and what came before it. -/
structure Opened where
  name : String
  items : Expr
  before : List Node
deriving Repr

/-- The nodes of pieces, behind those of the innermost open part that were found before. -/
def nest (opened : List Opened) (found : List Node) : List Piece → Option Template
  | [] => if opened.isEmpty then some found else none
  | .text s :: rest => nest opened (if s = "" then found else found ++ [.text s]) rest
  | .output expr :: rest => nest opened (found ++ [.output expr]) rest
  | .opens name items :: rest => nest (⟨name, items, found⟩ :: opened) [] rest
  | .closes :: rest =>
    match opened with
    | [] => none
    | ⟨name, items, before⟩ :: opened => nest opened (before ++ [.each name items found]) rest

/-- Line breaks are of one kind, and the last one may be left out. -/
def Settings.source (settings : Settings) (text : List Char) : List Char :=
  let lines := Text.sourceLines text
  let lines := if !settings.keepTrailingNewline && lines.getLast? = some [] then lines.dropLast
    else lines
  ['\n'].intercalate lines

def pieces? (settings : Settings) (text : List Char) : Option (List Piece) := do
  let (first, marks) ← cut (settings.source text)
  pieces settings true first marks

def read? (settings : Settings) (text : String) : Option Template := do
  nest [] [] (← pieces? settings text.toList)

/-- Puts data into the template that a text states. -/
def fill (settings : Settings) (text : String) (data : Members) : Except PrintError String :=
  match read? settings text with
  | some template => template.render data
  | none => .error .badTemplate

end QueryAudit.Template
