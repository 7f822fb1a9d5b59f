/-! How alike two texts are: twice the characters that match in order, over all characters. What
matches is the longest common piece and, to both sides of it, what matches there. -/
namespace QueryAudit.Text

/-- The length of the beginning that two texts share. -/
def commonStart : List Char → List Char → Nat
  | a :: as, b :: bs => if a = b then commonStart as bs + 1 else 0
  | _, _ => 0

structure CommonPiece where
  first : Nat := 0
  second : Nat := 0
  length : Nat := 0

/-- The longest piece that two texts share; of several the one that comes first in the first
text, then in the second. -/
def longestPiece (a b : List Char) : CommonPiece :=
  (List.range a.length).foldl (fun best i =>
    (List.range b.length).foldl (fun best j =>
      let length := commonStart (a.drop i) (b.drop j)
      if best.length < length then ⟨i, j, length⟩ else best) best) {}

/-- The number of characters that match; the fuel is the length of the first text. -/
def matchingChars : (fuel : Nat) → List Char → List Char → Nat
  | 0, _, _ => 0
  | fuel + 1, a, b =>
    let piece := longestPiece a b
    if piece.length = 0 then 0
    else
      piece.length + matchingChars fuel (a.take piece.first) (b.take piece.second) +
        matchingChars fuel (a.drop (piece.first + piece.length))
          (b.drop (piece.second + piece.length))

/-- An option with the matching characters and all characters of it and a word. -/
structure Likeness where
  option : String
  matching : Nat
  total : Nat

def likeness (word option : String) : Likeness where
  option
  matching := matchingChars option.length option.toList word.toList
  total := option.length + word.length

/-- More alike comes first; among equals the later in code point order. -/
def Likeness.before (a b : Likeness) : Bool :=
  let x := a.matching * b.total
  let y := b.matching * a.total
  y < x || (x == y && decide (b.option ≤ a.option))

/-- Up to three options that match a word in at least three fifths of their characters. -/
def closeMatches (word : String) (options : List String) : List String :=
  let close := (options.map (likeness word)).filter fun l => 3 * l.total ≤ 10 * l.matching
  ((close.mergeSort Likeness.before).take 3).map (·.option)

end QueryAudit.Text
