import QueryAudit.Document.Error

/-! Tokens of GraphQL texts. -/
namespace QueryAudit

inductive Punctuator where
  | bang
  | dollar
  | ampersand
  | parenOpen
  | parenClose
  | spread
  | colon
  | equals
  | at_
  | bracketOpen
  | bracketClose
  | braceOpen
  | pipe
  | braceClose
deriving DecidableEq, Repr

def Punctuator.text : Punctuator → String
  | bang => "!"
  | dollar => "$"
  | ampersand => "&"
  | parenOpen => "("
  | parenClose => ")"
  | spread => "..."
  | colon => ":"
  | equals => "="
  | at_ => "@"
  | bracketOpen => "["
  | bracketClose => "]"
  | braceOpen => "\x7b"
  | pipe => "|"
  | braceClose => "\x7d"

/-- The punctuator that a single character is. -/
def Punctuator.ofChar? : Char → Option Punctuator
  | '!' => some bang
  | '$' => some dollar
  | '&' => some ampersand
  | '(' => some parenOpen
  | ')' => some parenClose
  | ':' => some colon
  | '=' => some equals
  | '@' => some at_
  | '[' => some bracketOpen
  | ']' => some bracketClose
  | '\x7b' => some braceOpen
  | '|' => some pipe
  | '\x7d' => some braceClose
  | _ => none

inductive Lexeme where
  | endOfText
  | punctuator (p : Punctuator)
  | name (text : String)
  | int (text : String)
  | float (text : String)
  /-- A string in quotes, decoded. -/
  | string (value : String)
  /-- A block string, decoded and without its common indentation. -/
  | block (value : String)
deriving DecidableEq, Repr, Inhabited

/-- How a token is shown in a message. -/
def Lexeme.shown : Lexeme → String
  | endOfText => "<EOF>"
  | punctuator p => s!"'{p.text}'"
  | name text => s!"Name '{text}'"
  | int text => s!"Int '{text}'"
  | float text => s!"Float '{text}'"
  | string value => s!"String '{value}'"
  | block value => s!"BlockString '{value}'"

/-- The text of a lexeme that carries one. -/
def Lexeme.value? : Lexeme → Option String
  | endOfText | punctuator _ => none
  | name text | int text | float text | string text | block text => some text

structure Token where
  lexeme : Lexeme
  position : Position
deriving DecidableEq, Repr, Inhabited

/-- The tokens of a text up to its end, or up to the place where no token can be read. -/
structure TokenStream where
  tokens : List Token
  failure : Option Unreadable
  /-- How many tokens there were at first. -/
  size : Nat
deriving Repr

end QueryAudit
