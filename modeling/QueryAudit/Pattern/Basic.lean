/-! Patterns of names. A pattern is a text with a shape: characters of a class, one thing after
another, alternatives, repetitions, groups that later parts look back at, and conditions on what
stands around. Names are ASCII, so the classes are too. -/
namespace QueryAudit

/-- Which letters count as the same. -/
inductive LetterCase where
  | exact
  | ascii
  | unicode
deriving DecidableEq, Repr, Inhabited

/-- The characters beyond ASCII that are a small or a capital form of a letter. -/
def LetterCase.distant (c : Char) : List Nat :=
  match c.toLower with
  | 'i' => [0x130, 0x131]
  | 'k' => [0x212a]
  | 's' => [0x17f]
  | _ => []

/-- The codes of all characters that count as a given one. -/
def LetterCase.alike (letters : LetterCase) (c : Char) : List Nat :=
  match letters with
  | exact => [c.toNat]
  | ascii => [c.toLower.toNat, c.toUpper.toNat]
  | unicode => c.toLower.toNat :: c.toUpper.toNat :: LetterCase.distant c

/-- One entry of a character class; `expected` tells a class from its complement. -/
inductive ClassItem where
  | range (low high : Nat)
  | word (expected : Bool)
  | digit (expected : Bool)
  | blank (expected : Bool)
deriving DecidableEq, Repr, Inhabited

def isWordChar (c : Char) : Bool := c.isAlphanum || c == '_'

def ClassItem.holds (letters : LetterCase) (c : Char) : ClassItem → Bool
  | range low high => (letters.alike c).any fun n => low ≤ n && n ≤ high
  | word expected => isWordChar c == expected
  | digit expected => c.isDigit == expected
  | blank expected => (c.isWhitespace || c == '\x0b' || c == '\x0c') == expected

structure CharClass where
  negated : Bool
  items : List ClassItem
  letters : LetterCase
deriving DecidableEq, Repr, Inhabited

def CharClass.holds (cls : CharClass) (c : Char) : Bool :=
  cls.items.any (·.holds cls.letters c) != cls.negated

/-- Whether an entry names a letter, or a character beyond ASCII, rather than a class. -/
def ClassItem.isCased : ClassItem → Bool
  | range low high =>
    0x80 ≤ high || (low ≤ 'z'.toNat && 'a'.toNat ≤ high) || (low ≤ 'Z'.toNat && 'A'.toNat ≤ high)
  | _ => false

/-- Whether small and capital letters make a difference that is put aside. -/
def CharClass.isFolded (cls : CharClass) : Bool :=
  cls.letters != .exact && cls.items.any (·.isCased)

/-- The only code that a class names. -/
def CharClass.only? (cls : CharClass) : Option Nat :=
  match cls.items with
  | [.range low high] => if low = high then some low else none
  | _ => none

/-- The only code that an unfolded class names. -/
def CharClass.code? (cls : CharClass) : Option Nat := if cls.isFolded then none else cls.only?

/-- Whether a run over a class takes note of each place: if the class is folded and names more than
a letter and its other form. The letters i and s have further forms. -/
def CharClass.notes (cls : CharClass) : Bool :=
  cls.isFolded && cls.only?.all fun code =>
    cls.letters = .unicode && (Char.ofNat code).toLower ∈ ['i', 's']

/-- Which of several matches a repetition prefers. A possessive one takes the longest and never
gives any of it back. -/
inductive Greed where
  | longest
  | shortest
  | possessive
deriving DecidableEq, Repr, Inhabited

inductive Pattern where
  | empty
  | start
  /-- The end of the text, or the place before a final line end. -/
  | finish
  | textEnd
  /-- The edge of a word, or a place that is none. -/
  | wordEdge (expected : Bool)
  | one (cls : CharClass)
  | sequence (first second : Pattern)
  | either (left right : Pattern)
  | repeated (inner : Pattern) (least : Nat) (most : Option Nat) (greed : Greed)
  | group (number : Nat) (inner : Pattern)
  /-- What a group matched, once more. -/
  | reference (number : Nat) (letters : LetterCase)
  /-- One of two patterns, by whether a group has matched. -/
  | condition (number : Nat) (present absent : Pattern)
  /-- The preferred match and no other. -/
  | atomic (inner : Pattern)
  /-- What follows here, or what follows a number of characters before; nothing is consumed. -/
  | look (back : Option Nat) (expected : Bool) (inner : Pattern)
deriving DecidableEq, Repr, Inhabited

namespace Pattern

/-- Parts one after another. What is before a part comes first in the structure, so that the ends
of all that is before are known together. -/
def sequenceOf (parts : List Pattern) : Pattern := parts.foldl sequence empty

/-- The parts of a sequence. -/
def parts : Pattern → List Pattern
  | empty => []
  | sequence first second => parts first ++ parts second
  | p => [p]

/-- A place in the text rather than a part of it. -/
def isPlace : Pattern → Bool
  | start | finish | textEnd | wordEdge _ => true
  | _ => false

def isRepetition : Pattern → Bool
  | repeated .. => true
  | _ => false

/-- Greater widths are not told apart. The least width of a match stays below the greatest width
of an endless one. -/
def endlessWidth : Nat := 4294967295

def clipWidths (low high : Nat) : Nat × Nat := (min low (endlessWidth - 1), min high endlessWidth)

/-- The least and the greatest number of characters that a match takes; `widths` are those of the
groups before. -/
def width (widths : List (Nat × Nat × Nat)) : Pattern → Nat × Nat
  | one _ => (1, 1)
  | sequence first second =>
    let a := width widths first
    let b := width widths second
    clipWidths (a.1 + b.1) (a.2 + b.2)
  | either left right | condition _ left right =>
    let a := width widths left
    let b := width widths right
    (min a.1 b.1, max a.2 b.2)
  | repeated inner least most _ =>
    let a := width widths inner
    clipWidths (a.1 * least) (a.2 * most.getD endlessWidth)
  | group _ inner | atomic inner => width widths inner
  | reference number _ => ((widths.find? (·.1 = number)).map (·.2)).getD (0, 0)
  | empty | start | finish | textEnd | wordEdge _ | look .. => (0, 0)

end Pattern

end QueryAudit
