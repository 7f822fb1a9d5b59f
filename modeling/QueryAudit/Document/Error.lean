import QueryAudit.Source.Location

/-! Why a text is not a GraphQL document. -/
namespace QueryAudit

/-- What is wrong at a place of the text; shown parts are already in the words of the message. -/
inductive SyntaxComplaint where
  | unexpectedCharacter (shown : String)
  | singleQuote
  | unterminatedString
  | digitAfterZero (shown : String)
  | expectedDigit (shown : String)
  | characterEscape (escape : String)
  | unicodeEscape (escape : String)
  | expected (wanted found : String)
  | unexpected (found : String)
  | variableInConstant (name : String)
  | misplacedDescription
  | reservedEnumValue (shown : String)
deriving DecidableEq, Repr

def SyntaxComplaint.message : SyntaxComplaint → String
  | unexpectedCharacter shown => s!"Unexpected character: {shown}."
  | singleQuote =>
    "Unexpected single quote character ('), did you mean to use a double quote (\")?"
  | unterminatedString => "Unterminated string."
  | digitAfterZero shown => s!"Invalid number, unexpected digit after 0: {shown}."
  | expectedDigit shown => s!"Invalid number, expected digit but got: {shown}."
  | characterEscape escape => s!"Invalid character escape sequence: '{escape}'."
  | unicodeEscape escape => s!"Invalid Unicode escape sequence: '{escape}'."
  | expected wanted found => s!"Expected {wanted}, found {found}."
  | unexpected found => s!"Unexpected {found}."
  | variableInConstant name => s!"Unexpected variable '${name}' in constant value."
  | misplacedDescription =>
    "Unexpected description, descriptions are supported only on type definitions."
  | reservedEnumValue shown => s!"{shown} is reserved and cannot be used for an enum value."

structure SyntaxError where
  complaint : SyntaxComplaint
  offset : Nat
deriving DecidableEq, Repr

def SyntaxError.message (e : SyntaxError) : String := "Syntax Error: " ++ e.complaint.message

/-- A text that cannot be read: it breaks the grammar, or it ends inside an escape sequence. -/
inductive Unreadable where
  | grammar (error : SyntaxError)
  | cutEscape
deriving DecidableEq, Repr

end QueryAudit
