import QueryAudit.Pattern.Basic
import QueryAudit.Text.CharacterName
import QueryAudit.Text.Escape
import QueryAudit.Text.Identifier
import QueryAudit.Text.Integer

/-! The notation for patterns: literals, `.`, classes in brackets, classes and characters named
behind a backslash, anchors, alternatives, repetitions, groups of all kinds, comments and option
letters. A backslash and the character behind it are read as one. -/
namespace QueryAudit.Pattern

/-- Why a text is no pattern. -/
inductive ReadError where
  | malformed
  /-- The number of a repetition or the code of a character is far too great. -/
  | tooGreat
  /-- A number of too many digits, or options that exclude each other. -/
  | unusable
deriving DecidableEq, Repr, Inhabited

/-- A character, or one behind a backslash. -/
inductive Mark where
  | plain (c : Char)
  | escaped (c : Char)
deriving DecidableEq, Repr, Inhabited

/-- The marks of a text, and whether it ends in a lone backslash. -/
def marks : List Char → List Mark × Bool
  | [] => ([], false)
  | ['\\'] => ([], true)
  | '\\' :: c :: rest =>
    let (more, cut) := marks rest
    (.escaped c :: more, cut)
  | c :: rest =>
    let (more, cut) := marks rest
    (.plain c :: more, cut)

/-- Option letters. -/
abbrev Options := List Char

namespace Options

def letters : Options := ['i', 'L', 'm', 's', 'x', 'a', 't', 'u']

/-- The options of which at most one is in force. -/
def alphabets : Options := ['a', 'L', 'u']

/-- Options inside a group that adds some and drops others. -/
def within (outer added dropped : Options) : Options :=
  let kept := if added.any (· ∈ alphabets) then outer.filter (· ∉ alphabets) else outer
  (kept ++ added).filter (· ∉ dropped)

def letterCase (options : Options) : LetterCase :=
  if 'i' ∉ options then .exact else if 'a' ∈ options then .ascii else .unicode

end Options

/-- The options that groups add and drop, from the outside in. -/
abbrev Scope := List (Options × Options)

structure Reading where
  marks : List Mark
  cut : Bool
  /-- The options of the whole pattern. -/
  options : Options := []
  /-- The number of the next group. -/
  next : Nat := 1
  names : List (String × Nat) := []
  /-- The widths of the groups that are closed. -/
  widths : List (Nat × Nat × Nat) := []
  /-- The number of the first group that is opened inside the outermost look back. -/
  looking : Option Nat := none
  /-- The numbers of groups in conditions. -/
  conditions : List Nat := []
  repeats : Bool := false
  /-- Whether some look back has no fixed width. -/
  loose : Bool := false

abbrev Reader := StateT Reading (Except ReadError)

namespace Reader

def fail {α : Type} : Reader α := throw .malformed

def peek : Reader (Option Mark) := return (← get).marks.head?

/-- Steps over a mark; a lone backslash behind it is an error at once. -/
def advance : Reader Unit := do
  let state ← get
  let rest := state.marks.drop 1
  if rest.isEmpty && state.cut then fail
  set { state with marks := rest }

def take? : Reader (Option Mark) := do
  let mark ← peek
  if mark.isSome then advance
  return mark

def accept (c : Char) : Reader Bool := do
  if (← peek) = some (.plain c) then
    advance
    return true
  else return false

def close : Reader Unit := do
  if !(← accept ')') then fail

/-- Up to `count` characters that meet a condition. -/
def takeSome (holds : Char → Bool) : Nat → Reader (List Char)
  | 0 => return []
  | count + 1 => do
    match ← peek with
    | some (.plain c) =>
      if holds c then
        advance
        return c :: (← takeSome holds count)
      else return []
    | _ => return []

def remaining : Reader Nat := return (← get).marks.length

def takeWhile (holds : Char → Bool) : Reader (List Char) := do
  takeSome holds (← remaining)

/-- The characters up to a closing one, the last one first. -/
def charsUntil (closing : Char) : (fuel : Nat) → List Char → Reader (List Char)
  | 0, _ => fail
  | fuel + 1, text => do
    match ← take? with
    | none => fail
    | some (.plain c) => if c = closing then return text else charsUntil closing fuel (c :: text)
    | some (.escaped c) => charsUntil closing fuel (c :: '\\' :: text)

/-- The text up to a closing character, which is not empty. -/
def nameUntil (closing : Char) : Reader String := do
  let text ← charsUntil closing ((← remaining) + 1) []
  if text.isEmpty then fail
  return String.ofList text.reverse

def options (scope : Scope) : Reader Options := do
  return scope.foldl (fun outer (added, dropped) => outer.within added dropped) (← get).options

def literal (scope : Scope) (code : Nat) : Reader Pattern := do
  return .one ⟨false, [.range code code], (← options scope).letterCase⟩

/-! Characters behind a backslash -/

def namedClass? : Char → Option ClassItem
  | 'w' => some (.word true)
  | 'W' => some (.word false)
  | 'd' => some (.digit true)
  | 'D' => some (.digit false)
  | 's' => some (.blank true)
  | 'S' => some (.blank false)
  | _ => none

def control? : Char → Option Nat
  | 'a' => some 7
  | 'f' => some 12
  | 'n' => some 10
  | 'r' => some 13
  | 't' => some 9
  | 'v' => some 11
  | _ => none

def isOctal (c : Char) : Bool := '0' ≤ c && c ≤ '7'

def numeral (base : Nat) (digits : List Char) : Nat :=
  digits.foldl (fun n c => base * n + (Text.hexValue? c).getD 0) 0

/-- The code in a fixed number of hexadecimal digits. -/
def hexCode (count : Nat) : Reader Nat := do
  let digits ← takeSome (fun c => (Text.hexValue? c).isSome) count
  if digits.length ≠ count then fail
  return numeral 16 digits

/-- A character that is given by its code or its name. -/
def codeEscape? (c : Char) : Reader (Option Nat) := do
  match c with
  | 'x' => return some (← hexCode 2)
  | 'u' => return some (← hexCode 4)
  | 'U' =>
    let code ← hexCode 8
    if 0x80000000 ≤ code then throw .tooGreat
    if 0x110000 ≤ code then fail
    return some code
  | 'N' =>
    if !(← accept '\x7b') then fail
    match Text.namedCode? (← nameUntil '\x7d') with
    | some code => return some code
    | none => fail
  | _ => return none

/-- An escape in a class: a class, or the code of a character. -/
def classEscape (c : Char) : Reader ClassItem := do
  let single (code : Nat) : ClassItem := .range code code
  match control? c, namedClass? c with
  | some code, _ => return single code
  | none, some item => return item
  | none, none =>
    if c = 'b' then return single 8
    if let some code ← codeEscape? c then return single code
    if isOctal c then
      let code := numeral 8 (c :: (← takeSome isOctal 2))
      if 0o377 < code then fail
      return single code
    if c.isAlphanum then fail
    return single c.toNat

/-- Whether a group may be looked back at from here. -/
def checkLook (number : Nat) : Reader Unit := do
  let state ← get
  match state.looking with
  | none => return ()
  | some first => if first ≤ number || !state.widths.any (·.1 = number) then fail

def reference (scope : Scope) (number : Nat) : Reader Pattern := do
  if !(← get).widths.any (·.1 = number) then fail
  checkLook number
  return .reference number (← options scope).letterCase

/-- Three octal digits are a code; one or two digits call a group. -/
def numberEscape (scope : Scope) (c : Char) : Reader Pattern := do
  match ← takeSome Char.isDigit 1 with
  | [] => reference scope (numeral 10 [c])
  | second =>
    let third ← if isOctal c && second.all isOctal then takeSome isOctal 1 else pure []
    if third.isEmpty then reference scope (numeral 10 (c :: second))
    else
      let code := numeral 8 (c :: second ++ third)
      if 0o377 < code then fail
      literal scope code

def escape (scope : Scope) (c : Char) : Reader Pattern := do
  match namedClass? c, control? c with
  | some item, _ => return .one ⟨false, [item], (← options scope).letterCase⟩
  | none, some code => literal scope code
  | none, none =>
    match c with
    | 'A' => return .start
    | 'Z' => return .textEnd
    | 'b' => return .wordEdge true
    | 'B' => return .wordEdge false
    | '0' => literal scope (numeral 8 (← takeSome isOctal 2))
    | _ =>
      if let some code ← codeEscape? c then literal scope code
      else if c.isDigit then numberEscape scope c
      else if c.isAlpha then fail
      else literal scope c.toNat

/-! Classes -/

def classItem : Mark → Reader ClassItem
  | .escaped c => classEscape c
  | .plain c => return .range c.toNat c.toNat

/-- The items of a class up to its closing bracket, which is literal in first place. A range needs
a character at both ends, in order; a bar before the closing bracket is literal. -/
def classItems : (fuel : Nat) → (first : Bool) → Reader (List ClassItem)
  | 0, _ => fail
  | fuel + 1, first => do
    match ← take? with
    | none => fail
    | some mark =>
      if mark = .plain ']' && !first then return []
      else
        let low ← classItem mark
        if ← accept '-' then
          match ← take? with
          | none => fail
          | some (.plain ']') => return [low, .range '-'.toNat '-'.toNat]
          | some other =>
            match low, ← classItem other with
            | .range a _, .range b _ =>
              if b < a then fail else return .range a b :: (← classItems fuel false)
            | _, _ => fail
        else return low :: (← classItems fuel false)

def charClass (scope : Scope) : Reader Pattern := do
  let negated ← accept '^'
  let items ← classItems ((← remaining) + 1) true
  return .one ⟨negated, items, (← options scope).letterCase⟩

/-! Repetitions -/

/-- A number from which on a repetition is too long. -/
def repeatLimit : Nat := 4294967295

def bound (digits : List Char) : Reader (Option Nat) := do
  if digits.isEmpty then return none
  if Text.longestNumber < digits.length then throw .unusable
  let n := numeral 10 digits
  if repeatLimit ≤ n then throw .tooGreat
  return some n

/-- The bounds in braces; without a closing brace there are none, and nothing is read. -/
def bounds? : Reader (Option (Nat × Option Nat)) := do
  let before ← get
  if (← peek) = some (.plain '\x7d') then return none
  let low ← takeWhile Char.isDigit
  let high ← if ← accept ',' then takeWhile Char.isDigit else pure low
  if !(← accept '\x7d') then
    set before
    return none
  let least ← bound low
  let most ← bound high
  if most.any (· < least.getD 0) then fail
  return some (least.getD 0, most)

def quantifier? : Char → Reader (Option (Nat × Option Nat))
  | '*' => return some (0, none)
  | '+' => return some (1, none)
  | '?' => return some (0, some 1)
  | _ => bounds?

/-- Repeats the last item. A place cannot be repeated, nor can a repetition. -/
def repetition (bounds : Nat × Option Nat) (items : List Pattern) : Reader (List Pattern) := do
  match items with
  | [] => fail
  | item :: before =>
    if item.isPlace || item.isRepetition then fail
    let greed ←
      if ← accept '?' then pure Greed.shortest
      else if ← accept '+' then pure Greed.possessive
      else pure Greed.longest
    modify ({ · with repeats := true })
    return .repeated item bounds.1 bounds.2 greed :: before

/-! Groups -/

def identifierUntil (closing : Char) : Reader String := do
  let name ← nameUntil closing
  if !Text.isIdentifier name then fail
  return name

def numberOf (name : String) : Reader Nat := do
  match (← get).names.find? (·.1 = name) with
  | some (_, number) => return number
  | none => fail

/-- The group of a condition, by name or by number. -/
def conditionGroup : Reader Nat := do
  let name ← nameUntil ')'
  if Text.isIdentifier name then numberOf name
  else
    match Text.readInteger? name with
    | some n =>
      if n ≤ 0 then fail
      modify fun state => { state with conditions := n.toNat :: state.conditions }
      return n.toNat
    | none => fail

def openGroup (name : Option String) : Reader Nat := do
  let state ← get
  if let some name := name then
    if state.names.any (·.1 = name) then fail
  let names := match name with
    | some name => (name, state.next) :: state.names
    | none => state.names
  set { state with next := state.next + 1, names }
  return state.next

def closeGroup (number : Nat) (inner : Pattern) : Reader Unit :=
  modify fun state =>
    { state with widths := (number, inner.width state.widths) :: state.widths }

def option : Option Mark → Reader Char
  | some (.plain c) => if c ∈ Options.letters then return c else fail
  | _ => fail

/-- Options to add, up to the character that ends them. Two alphabets exclude each other, and one
of them is not for texts. -/
def addedOptions : (fuel : Nat) → Char → Options → Reader (Options × Char)
  | 0, _, _ => fail
  | fuel + 1, c, added => do
    if c = 'L' then fail
    let added := c :: added
    if 'a' ∈ added && 'u' ∈ added then fail
    match ← take? with
    | some (.plain d) =>
      if d ∈ [')', '-', ':'] then return (added, d)
      else addedOptions fuel (← option (some (.plain d))) added
    | _ => fail

def droppedOptions : (fuel : Nat) → Char → Options → Reader Options
  | 0, _, _ => fail
  | fuel + 1, c, dropped => do
    if c ∈ Options.alphabets then fail
    let dropped := c :: dropped
    match ← take? with
    | some (.plain ':') => return dropped
    | mark => droppedOptions fuel (← option mark) dropped

/-- Options that begin with a letter or a minus: those of the whole pattern, or what a group adds
and drops. -/
def groupOptions (c : Char) : Reader (Option (Options × Options)) := do
  let fuel ← remaining
  let (added, ending) ← if c = '-' then pure ([], '-') else addedOptions (fuel + 1) c []
  if ending = ')' then
    modify fun state => { state with options := added ++ state.options }
    return none
  if 't' ∈ added then fail
  let dropped ← if ending = '-' then droppedOptions (fuel + 1) (← option (← take?)) [] else pure []
  if 't' ∈ dropped || added.any (· ∈ dropped) then fail
  return some (added, dropped)

/-- A comment ends at the first closing parenthesis. -/
def comment : Nat → Reader Unit
  | 0 => fail
  | fuel + 1 => do
    match ← take? with
    | none => fail
    | some (.plain ')') => return ()
    | _ => comment fuel

/-- What a parenthesis opens. -/
inductive Opening where
  | capturing (name : Option String)
  | plain (added dropped : Options)
  | atomic
  | looking (back expected : Bool)
  | conditional
  /-- A whole item that is already read. -/
  | item (p : Pattern)
  | nothing

def namedOpening (scope : Scope) : Reader Opening := do
  if ← accept '<' then return .capturing (some (← identifierUntil '>'))
  else if ← accept '=' then
    return .item (← reference scope (← numberOf (← identifierUntil ')')))
  else fail

/-- What a parenthesis with a question mark opens. Options of the whole pattern stand at its very
start. -/
def markedOpening (scope : Scope) (isFirst : Bool) : Reader Opening := do
  match ← take? with
  | some (.plain c) =>
    match c with
    | 'P' => namedOpening scope
    | ':' => return .plain [] []
    | '#' =>
      comment ((← remaining) + 1)
      return .nothing
    | '=' => return .looking false true
    | '!' => return .looking false false
    | '<' =>
      if ← accept '=' then return .looking true true
      else if ← accept '!' then return .looking true false
      else fail
    | '(' => return .conditional
    | '>' => return .atomic
    | c =>
      if c ∈ Options.letters || c = '-' then
        match ← groupOptions c with
        | some (added, dropped) => return .plain added dropped
        | none => if isFirst then return .nothing else fail
      else fail
  | _ => fail

/-- Leaves the outermost look back, if it is this one. -/
def lookingBack (back : Bool) (read : Reader Pattern) : Reader Pattern := do
  let outer := (← get).looking
  if back && outer.isNone then modify fun state => { state with looking := some state.next }
  let p ← read
  if back && outer.isNone then modify ({ · with looking := none })
  return p

/-- A look back has a fixed width; that it has none is told when the whole pattern is read. -/
def look (back expected : Bool) (inner : Pattern) : Reader Pattern := do
  let (low, high) := inner.width (← get).widths
  if back then
    if low ≠ high then modify ({ · with loose := true })
    return .look (some low) expected inner
  else return .look none expected inner

/-- Passes over the rest of a line. -/
def lineComment : Nat → Reader Unit
  | 0 => return ()
  | fuel + 1 => do
    match ← take? with
    | none | some (.plain '\n') => return ()
    | _ => lineComment fuel

def isSkipped (c : Char) : Bool := c ∈ [' ', '\t', '\n', '\r', '\x0b', '\x0c']

/-- Whether a part is the same wherever it is written the same. -/
def isFixed : Pattern → Bool
  | .one _ | .reference .. => true
  | p => p.isPlace

/-- The one class that single characters of several classes make up. -/
def commonClass? : List (List Pattern) → Option CharClass
  | [[.one cls]] => if cls.negated then none else some cls
  | [.one cls] :: rest =>
    if cls.negated then none
    else (commonClass? rest).map fun other => { cls with items := cls.items ++ other.items }
  | _ => none

def eitherOf (first : List Pattern) : List (List Pattern) → Pattern
  | [] => sequenceOf first
  | second :: rest => .either (sequenceOf first) (eitherOf second rest)

/-- Alternatives. What all of them begin with is written once before them, and single characters
make up one class. -/
def choice : (first : List Pattern) → (others : List (List Pattern)) → List Pattern
  | first, [] => first
  | [], others => [eitherOf [] others]
  | p :: first, others =>
    if isFixed p && others.all (·.head? = some p) then p :: choice first (others.map (·.drop 1))
    else
      match commonClass? ((p :: first) :: others) with
      | some cls => [.one cls]
      | none => [eitherOf (p :: first) others]

mutual

/-- Alternatives up to a closing parenthesis or the end. -/
def alternatives (fuel : Nat) (scope : Scope) (outermost : Bool) : Reader Pattern :=
  match fuel with
  | 0 => fail
  | fuel + 1 => do
    let first ← items fuel scope outermost []
    return sequenceOf (choice first (← laterAlternatives fuel scope))

def laterAlternatives (fuel : Nat) (scope : Scope) : Reader (List (List Pattern)) :=
  match fuel with
  | 0 => fail
  | fuel + 1 => do
    if ← accept '|' then return (← items fuel scope false []) :: (← laterAlternatives fuel scope)
    else return []

/-- Items one after another; `read` are those before, the last one first. A group that only holds
items together vanishes. -/
def items (fuel : Nat) (scope : Scope) (outermost : Bool) (read : List Pattern) :
    Reader (List Pattern) :=
  match fuel with
  | 0 => fail
  | fuel + 1 => do
    match ← peek with
    | none | some (.plain '|') | some (.plain ')') => return read.reverse.flatMap parts
    | some mark =>
      advance
      items fuel scope outermost (← item fuel scope outermost read mark)

/-- One item, which may be a repetition of the item before. -/
def item (fuel : Nat) (scope : Scope) (outermost : Bool) (read : List Pattern) (mark : Mark) :
    Reader (List Pattern) :=
  match fuel with
  | 0 => fail
  | fuel + 1 => do
    match mark with
    | .escaped c => return (← escape scope c) :: read
    | .plain c =>
      let spaced := 'x' ∈ (← options scope)
      if spaced && isSkipped c then return read
      else if spaced && c = '#' then
        lineComment ((← remaining) + 1)
        return read
      else
        match c with
        | '.' => return .one ⟨true, [.range 10 10], .exact⟩ :: read
        | '^' => return .start :: read
        | '$' => return .finish :: read
        | '[' => return (← charClass scope) :: read
        | '(' => return (← group fuel scope (outermost && read.isEmpty)) ++ read
        | '*' | '+' | '?' | '\x7b' =>
          match ← quantifier? c with
          | some bounds => repetition bounds read
          | none => return (← literal scope c.toNat) :: read
        | c => return (← literal scope c.toNat) :: read

/-- The inside of a parenthesis, behind the opening one: at most one item. -/
def group (fuel : Nat) (scope : Scope) (isFirst : Bool) : Reader (List Pattern) :=
  match fuel with
  | 0 => fail
  | fuel + 1 => do
    let opening ← if ← accept '?' then markedOpening scope isFirst else pure (.capturing none)
    match opening with
    | .nothing => return []
    | .item p => return [p]
    | .capturing name =>
      let number ← openGroup name
      let inner ← alternatives fuel scope false
      close
      closeGroup number inner
      return [.group number inner]
    | .plain added dropped =>
      let inner ← alternatives fuel (scope ++ [(added, dropped)]) false
      close
      return [.sequence inner .empty]
    | .atomic =>
      let inner ← alternatives fuel scope false
      close
      return [.atomic inner]
    | .looking back expected =>
      let inner ← lookingBack back (alternatives fuel scope false)
      close
      return [← look back expected inner]
    | .conditional =>
      let number ← conditionGroup
      checkLook number
      let present ← items fuel scope false []
      let absent ← if ← accept '|' then items fuel scope false [] else pure []
      close
      return [.condition number (sequenceOf present) (sequenceOf absent)]

end

/-- The whole pattern. Each level of the notation takes a mark or ends, so a multiple of their
number is enough fuel. -/
def whole : Reader Pattern := do
  if (← get).marks.isEmpty && (← get).cut then fail
  let p ← alternatives (4 * (← remaining) + 8) [] true
  let state ← get
  if 'a' ∈ state.options && 'u' ∈ state.options then throw .unusable
  if !state.marks.isEmpty then fail
  if state.conditions.any (state.next ≤ ·) then fail
  if state.loose || (state.repeats && 't' ∈ state.options) then fail
  return p

end Reader

def read (text : String) : Except ReadError Pattern :=
  let (found, cut) := marks text.toList
  Reader.whole.run' { marks := found, cut }

end QueryAudit.Pattern
