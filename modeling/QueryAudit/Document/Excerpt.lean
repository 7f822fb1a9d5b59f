import QueryAudit.Document.Error
import QueryAudit.Text.Lines

/-! The place of a syntax error as it is printed below its message: name, line and column, then
the line itself between its neighbours, with a caret under the place. The line and the column are
counted in prose lines, the lines shown are source lines. -/
namespace QueryAudit.Excerpt

/-- Line and column of an offset. -/
def lineColumn (text : List Char) (offset : Nat) : Nat × Nat :=
  let lines := Text.proseLines (text.take offset)
  match lines.getLast? with
  | none => (1, 1)
  | some last => (lines.length, last.length + 1)

def padLeft (width : Nat) (text : String) : String :=
  "".pushn ' ' (width - text.length) ++ text

/-- Lines behind aligned marks; a line that is not there is left out, an empty one has only its
mark. -/
def markedLines (lines : List (String × Option String)) : String :=
  let shown := lines.filterMap fun (mark, line) => line.map (mark, ·)
  let width := (shown.map (·.1.length)).foldl max 0
  "\n".intercalate (shown.map fun (mark, line) =>
    padLeft width mark ++ (if line = "" then "" else " " ++ line))

def pieces (size : Nat) : (fuel : Nat) → List Char → List String
  | 0, _ => []
  | fuel + 1, line =>
    if line.isEmpty then [] else String.ofList (line.take size) :: pieces size fuel (line.drop size)

/-- The longest line that is shown whole, and the length of the pieces of a longer one. -/
def longestWhole : Nat := 120
def pieceLength : Nat := 80

/-- The printed place, or nothing if the line that was counted is not among the source lines. -/
def print? (name text : String) (offset : Nat) : Option String :=
  let (line, column) := lineColumn text.toList offset
  let lines := Text.sourceLines text.toList
  let shown (i : Nat) : Option String := lines[i]?.map String.ofList
  lines[line - 1]?.map fun found =>
    let head := s!"{name}:{line}:{column}\n"
    if longestWhole < found.length then
      let parts := pieces pieceLength found.length found
      let index := column / pieceLength
      let before := (parts.drop 1).take index
      head ++ markedLines ([(s!"{line} |", parts.head?)]
        ++ before.map (fun part => ("|", some part))
        ++ [("|", some (padLeft (column % pieceLength) "^")), ("|", parts[index + 1]?)])
    else
      head ++ markedLines [
        (s!"{line - 1} |", if line ≤ 1 then none else shown (line - 2)),
        (s!"{line} |", some (String.ofList found)),
        ("|", some (padLeft column "^")),
        (s!"{line + 1} |", shown line)]

end QueryAudit.Excerpt
