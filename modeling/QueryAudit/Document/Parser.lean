import QueryAudit.Document.Basic
import QueryAudit.Token.Lexer

/-! Parsing documents. The parser stands on one token and may look at the next; a text that cannot
be cut into tokens fails as soon as the parser steps onto the place or looks at it. Nesting is
bounded by the number of all tokens, which is the fuel of the recursive parsers. -/
namespace QueryAudit

abbrev Parser := StateT TokenStream (Except Unreadable)

namespace Parser

def streamEnd {α : Type} : Parser α := do throw ((← get).failure.getD .cutEscape)

/-- The token that the parser stands on. -/
def current : Parser Token := do
  match (← get).tokens with
  | token :: _ => return token
  | [] => streamEnd

/-- Steps onto the next token; the end of the text is never left. -/
def advance : Parser Unit := do
  match (← get).tokens with
  | _ :: next :: rest => modify ({ · with tokens := next :: rest })
  | [token] => if token.lexeme = .endOfText then return () else streamEnd
  | [] => streamEnd

/-- The token behind the current one. -/
def lookahead : Parser Token := do
  match (← get).tokens with
  | _ :: next :: _ => return next
  | [token] => if token.lexeme = .endOfText then return token else streamEnd
  | [] => streamEnd

def complain {α : Type} (complaint : SyntaxComplaint) (token : Token) : Parser α :=
  throw (.grammar ⟨complaint, token.position.offset⟩)

def unexpected {α : Type} (token : Token) : Parser α :=
  complain (.unexpected token.lexeme.shown) token

def isAt (p : Punctuator) : Parser Bool := return (← current).lexeme = .punctuator p

def isAtName : Parser Bool := do
  match (← current).lexeme with
  | .name _ => return true
  | _ => return false

def expect (p : Punctuator) : Parser Unit := do
  let token ← current
  if token.lexeme = .punctuator p then advance
  else complain (.expected s!"'{p.text}'" token.lexeme.shown) token

/-- Passes over a punctuator if it is the current token. -/
def accept (p : Punctuator) : Parser Bool := do
  if ← isAt p then
    advance
    return true
  else return false

def expectKeyword (word : String) : Parser Unit := do
  let token ← current
  if token.lexeme = .name word then advance
  else complain (.expected s!"'{word}'" token.lexeme.shown) token

def acceptKeyword (word : String) : Parser Bool := do
  if (← current).lexeme = .name word then
    advance
    return true
  else return false

def name : Parser Name := do
  let token ← current
  match token.lexeme with
  | .name text =>
    advance
    return ⟨text, token.position⟩
  | lexeme => complain (.expected "Name" lexeme.shown) token

/-- Items up to a closing punctuator. Each item takes a token, so `fuel` may be their number. -/
def itemsUntil {α : Type} (close : Punctuator) (item : Parser α) : Nat → Parser (List α)
  | 0 => do unexpected (← current)
  | fuel + 1 => do
    if ← accept close then return []
    else
      let first ← item
      let later ← itemsUntil close item fuel
      return first :: later

/-- No fewer tokens than are left. -/
def remaining : Parser Nat := return (← get).size

/-- Any number of items between two punctuators. -/
def anyBetween {α : Type} (opening close : Punctuator) (item : Parser α) : Parser (List α) := do
  expect opening
  itemsUntil close item (← remaining)

/-- At least one item between two punctuators. -/
def someBetween {α : Type} (opening close : Punctuator) (item : Parser α) : Parser (List α) := do
  expect opening
  let first ← item
  let later ← itemsUntil close item (← remaining)
  return first :: later

/-- At least one item between two punctuators, or nothing at all. -/
def optionallyBetween {α : Type} (opening close : Punctuator) (item : Parser α) :
    Parser (List α) := do
  if ← isAt opening then someBetween opening close item else return []

def moreSeparated {α : Type} (separator : Punctuator) (item : Parser α) : Nat → Parser (List α)
  | 0 => return []
  | fuel + 1 => do
    if ← accept separator then
      let first ← item
      let later ← moreSeparated separator item fuel
      return first :: later
    else return []

/-- At least one item; a separator may also stand before the first. -/
def separated {α : Type} (separator : Punctuator) (item : Parser α) : Parser (List α) := do
  let _ ← accept separator
  let first ← item
  let later ← moreSeparated separator item (← remaining)
  return first :: later

/-! Values -/

/-- A variable; in a constant value the dollar sign is to blame. -/
def variableName (constant : Bool) : Parser String := do
  let dollar ← current
  expect .dollar
  if constant then
    match (← current).lexeme with
    | .name text => complain (.variableInConstant text) dollar
    | _ => unexpected dollar
  else return (← name).text

def namedValue (text : String) : Value :=
  if text = "true" then .boolean true
  else if text = "false" then .boolean false
  else if text = "null" then .null
  else .enum text

def objectField (value : Parser Value) : Parser (String × Value) := do
  let key ← name
  expect .colon
  return (key.text, ← value)

def value (constant : Bool) : Nat → Parser Value
  | 0 => do unexpected (← current)
  | fuel + 1 => do
    let token ← current
    match token.lexeme with
    | .punctuator .bracketOpen =>
      return .list (← anyBetween .bracketOpen .bracketClose (value constant fuel))
    | .punctuator .braceOpen =>
      return .object (← anyBetween .braceOpen .braceClose (objectField (value constant fuel)))
    | .punctuator .dollar => return .reference (← variableName constant)
    | .int text => advance; return .int text
    | .float text => advance; return .float text
    | .string text => advance; return .string text false
    | .block text => advance; return .string text true
    | .name text => advance; return namedValue text
    | _ => unexpected token

def literal (constant : Bool) : Parser Value := do value constant (← remaining)

def argument (constant : Bool) : Parser Argument := do
  let key ← name
  expect .colon
  let position := (← current).position
  return ⟨key.text, ← literal constant, position⟩

def arguments (constant : Bool) : Parser (List Argument) :=
  optionallyBetween .parenOpen .parenClose (argument constant)

def directivesFrom (constant : Bool) : Nat → Parser (List Directive)
  | 0 => return []
  | fuel + 1 => do
    let position := (← current).position
    if ← accept .at_ then
      let key ← name
      let given ← arguments constant
      let later ← directivesFrom constant fuel
      return ⟨position, key.text, given⟩ :: later
    else return []

def directives (constant : Bool) : Parser (List Directive) := do
  directivesFrom constant (← remaining)

/-! Types -/

def typeRefFrom : Nat → Parser TypeRef
  | 0 => do unexpected (← current)
  | fuel + 1 => do
    let inner ←
      if ← accept .bracketOpen then
        let item ← typeRefFrom fuel
        expect .bracketClose
        pure (TypeRef.list item)
      else pure (TypeRef.named (← name).text)
    if ← accept .bang then return .nonNull inner else return inner

def typeRef : Parser TypeRef := do typeRefFrom (← remaining)

/-! Selections -/

/-- A fragment may not be called `on`. -/
def fragmentName : Parser Name := do
  let token ← current
  if token.lexeme.value? = some "on" then unexpected token else name

/-- A body with the place where it opens. -/
abbrev Body := Position × List Selection

def field (body : Parser Body) : Parser Selection := do
  let first ← name
  let (aliasName, called) ←
    if ← accept .colon then pure (some first, ← name) else pure (none, first)
  let given ← arguments false
  let applied ← directives false
  let (bodyPosition, selections) ←
    if ← isAt .braceOpen then body else pure (Position.start, [])
  return .field ⟨aliasName, called, given, applied, bodyPosition⟩ selections

def spreadOrInline (body : Parser Body) : Parser Selection := do
  let position := (← current).position
  expect .spread
  let conditioned ← acceptKeyword "on"
  if !conditioned && (← isAtName) then
    let called ← fragmentName
    return .spread ⟨position, called, ← directives false⟩
  else
    let condition ← if conditioned then some <$> name else pure none
    let applied ← directives false
    let (bodyPosition, selections) ← body
    return .inline ⟨position, condition, applied, bodyPosition⟩ selections

def selection (body : Parser Body) : Parser Selection := do
  if ← isAt .spread then spreadOrInline body else field body

def bodyFrom : Nat → Parser Body
  | 0 => do unexpected (← current)
  | fuel + 1 => do
    let position := (← current).position
    return (position, ← someBetween .braceOpen .braceClose (selection (bodyFrom fuel)))

def body : Parser Body := do bodyFrom (← remaining)

/-! Executable definitions -/

def variableDefinition : Parser VariableDefinition := do
  let called ← variableName false
  expect .colon
  let type ← typeRef
  let default ← if ← accept .equals then some <$> literal true else pure none
  return ⟨called, type, default, ← directives true⟩

def operationKind : Parser OperationKind := do
  let token ← current
  match OperationKind.ofText? (← name).text with
  | some kind => return kind
  | none => unexpected token

def operation : Parser Operation := do
  let position := (← current).position
  if ← isAt .braceOpen then
    let (bodyPosition, selections) ← body
    return ⟨position, .query, none, [], [], bodyPosition, selections⟩
  else
    let kind ← operationKind
    let called ← if ← isAtName then some <$> name else pure none
    let variableDefinitions ← optionallyBetween .parenOpen .parenClose variableDefinition
    let applied ← directives false
    let (bodyPosition, selections) ← body
    return ⟨position, kind, called, variableDefinitions, applied, bodyPosition, selections⟩

def fragment : Parser Fragment := do
  let position := (← current).position
  expectKeyword "fragment"
  let called ← fragmentName
  expectKeyword "on"
  let condition ← name
  let applied ← directives false
  let (bodyPosition, selections) ← body
  return ⟨position, called, condition, applied, bodyPosition, selections⟩

/-! Type system definitions -/

def isAtDescription : Parser Bool := do
  match (← current).lexeme with
  | .string _ | .block _ => return true
  | _ => return false

def description : Parser Unit := do
  if ← isAtDescription then advance

def inputValue : Parser InputValue := do
  description
  let called ← name
  expect .colon
  let type ← typeRef
  let default ← if ← accept .equals then some <$> literal true else pure none
  return ⟨called.text, type, default, ← directives true⟩

def fieldDeclaration : Parser FieldDeclaration := do
  description
  let called ← name
  let given ← optionallyBetween .parenOpen .parenClose inputValue
  expect .colon
  let type ← typeRef
  return ⟨called, given, type, ← directives true⟩

/-- The words for `true`, `false` and `null` are no values of an enumeration. -/
def enumValueName : Parser Name := do
  let token ← current
  if ["true", "false", "null"].any (token.lexeme.value? = some ·) then
    complain (.reservedEnumValue token.lexeme.shown) token
  else name

def enumValue : Parser EnumValue := do
  description
  let called ← enumValueName
  return ⟨called.text, ← directives true⟩

def typeNames (separator : Punctuator) : Parser (List String) :=
  separated separator ((·.text) <$> name)

def interfaces : Parser (List String) := do
  if ← acceptKeyword "implements" then typeNames .ampersand else return []

def unionMembers : Parser (List String) := do
  if ← accept .equals then typeNames .pipe else return []

def fieldDeclarations : Parser (List FieldDeclaration) :=
  optionallyBetween .braceOpen .braceClose fieldDeclaration

/-- The directives and the body of a type, in the order that its kind asks for. -/
def typeBody : TypeKind → Parser (List Directive × TypeBody)
  | .scalar => return (← directives true, .scalar)
  | .object => do
    let implemented ← interfaces
    let applied ← directives true
    return (applied, .object implemented (← fieldDeclarations))
  | .interface => do
    let implemented ← interfaces
    let applied ← directives true
    return (applied, .interface implemented (← fieldDeclarations))
  | .union => do
    let applied ← directives true
    return (applied, .union (← unionMembers))
  | .enum => do
    let applied ← directives true
    return (applied, .enum (← optionallyBetween .braceOpen .braceClose enumValue))
  | .input => do
    let applied ← directives true
    return (applied, .input (← optionallyBetween .braceOpen .braceClose inputValue))

def typeKeyword : TypeKind → String
  | .scalar => "scalar"
  | .object => "type"
  | .interface => "interface"
  | .union => "union"
  | .enum => "enum"
  | .input => "input"

def typeKinds : List TypeKind := [.scalar, .object, .interface, .union, .enum, .input]

def typeKind? (word : String) : Option TypeKind := typeKinds.find? (typeKeyword · = word)

def rootDeclaration : Parser (OperationKind × String) := do
  let kind ← operationKind
  expect .colon
  return (kind, (← name).text)

def schemaDeclaration : Parser SchemaDeclaration := do
  let position := (← current).position
  description
  expectKeyword "schema"
  let applied ← directives true
  return ⟨position, applied, ← someBetween .braceOpen .braceClose rootDeclaration⟩

def typeDeclaration (kind : TypeKind) : Parser TypeDeclaration := do
  let position := (← current).position
  description
  expectKeyword (typeKeyword kind)
  let called ← name
  let (applied, declared) ← typeBody kind
  return ⟨position, called, applied, declared⟩

def directiveLocation : Parser String := do
  let token ← current
  let called ← name
  if called.text ∈ Directive.sites then return called.text else unexpected token

def directiveDeclaration : Parser DirectiveDeclaration := do
  let position := (← current).position
  description
  expectKeyword "directive"
  expect .at_
  let called ← name
  let given ← optionallyBetween .parenOpen .parenClose inputValue
  let repeatable ← acceptKeyword "repeatable"
  expectKeyword "on"
  return ⟨position, called, given, repeatable, ← separated .pipe directiveLocation⟩

def isEmptyBody : TypeBody → Bool
  | .scalar => true
  | .object implemented fields | .interface implemented fields =>
    implemented.isEmpty && fields.isEmpty
  | .union members => members.isEmpty
  | .enum values => values.isEmpty
  | .input fields => fields.isEmpty

/-- An extension says something: a directive, or something in its body. -/
def typeExtension (kind : TypeKind) : Parser TypeDeclaration := do
  let position := (← current).position
  expectKeyword "extend"
  expectKeyword (typeKeyword kind)
  let called ← name
  let (applied, declared) ← typeBody kind
  if applied.isEmpty && isEmptyBody declared then unexpected (← current)
  else return ⟨position, called, applied, declared⟩

def schemaExtension : Parser SchemaDeclaration := do
  let position := (← current).position
  expectKeyword "extend"
  expectKeyword "schema"
  let applied ← directives true
  let roots ← optionallyBetween .braceOpen .braceClose rootDeclaration
  if applied.isEmpty && roots.isEmpty then unexpected (← current)
  else return ⟨position, applied, roots⟩

def extension : Parser Definition := do
  let keyword ← lookahead
  match keyword.lexeme with
  | .name "schema" => return .schemaExtension (← schemaExtension)
  | .name word =>
    match typeKind? word with
    | some kind => return .typeExtension (← typeExtension kind)
    | none => unexpected keyword
  | _ => unexpected keyword

/-- The keyword that starts a definition stands behind its description. Only type system
definitions may have one. -/
def keywordDefinition (described : Bool) (keyword : Token) (word : String) :
    Parser Definition := do
  match word, typeKind? word with
  | "schema", _ => return .schema (← schemaDeclaration)
  | "directive", _ => return .directive (← directiveDeclaration)
  | _, some kind => return .type (← typeDeclaration kind)
  | _, none =>
    if described then complain .misplacedDescription (← current)
    else
      match word, OperationKind.ofText? word with
      | _, some _ => return .operation (← operation)
      | "fragment", _ => return .fragment (← fragment)
      | "extend", _ => extension
      | _, none => unexpected keyword

def definition : Parser Definition := do
  if ← isAt .braceOpen then return .operation (← operation)
  else
    let described ← isAtDescription
    let keyword ← if described then lookahead else current
    match keyword.lexeme with
    | .name word => keywordDefinition described keyword word
    | _ => unexpected keyword

/-- Definitions up to the end of the text. -/
def definitionsFrom : Nat → Parser (List Definition)
  | 0 => do unexpected (← current)
  | fuel + 1 => do
    let first ← definition
    if (← current).lexeme = .endOfText then return [first]
    else
      let later ← definitionsFrom fuel
      return first :: later

def definitions : Parser (List Definition) := do definitionsFrom (← remaining)

/-- A value and nothing behind it. -/
def wholeValue : Parser Value := do
  let found ← literal false
  let token ← current
  if token.lexeme = .endOfText then return found
  else complain (.expected "<EOF>" token.lexeme.shown) token

end Parser

/-- The definitions of a text; there is at least one. -/
def parseDefinitions (text : String) : Except Unreadable (List Definition) :=
  Parser.definitions.run' (TokenStream.ofText text)

def parseDocument (text : String) (origin : Origin) : Except Unreadable Document := do
  return ⟨origin, ← parseDefinitions text⟩

def parseValue (text : String) : Except Unreadable Value :=
  Parser.wholeValue.run' (TokenStream.ofText text)

end QueryAudit
