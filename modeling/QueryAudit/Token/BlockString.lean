/-! Block strings: the indentation that all lines but the first have in common is cut, and so are
blank lines at both ends. -/
namespace QueryAudit.BlockString

def isIndent (c : Char) : Bool := c == ' ' || c == '\t'

def indentOf (line : List Char) : Nat := (line.takeWhile isIndent).length

def isBlankLine (line : List Char) : Bool := line.all isIndent

/-- The least indentation of the lines behind the first that are not blank. -/
def commonIndent (lines : List (List Char)) : Option Nat :=
  (((lines.drop 1).filter (!isBlankLine ·)).map indentOf).min?

/-- Lines without any indentation in common lose all they have: they are blank. -/
def dedent (lines : List (List Char)) : List (List Char) :=
  let indent := commonIndent lines
  let cut (line : List Char) : List Char := match indent with
    | some indent => line.drop indent
    | none => []
  let kept := match lines with
    | [] => []
    | first :: rest => (first, first) :: rest.map fun line => (line, cut line)
  let kept := kept.dropWhile (isBlankLine ·.1)
  let kept := (kept.reverse.dropWhile (isBlankLine ·.1)).reverse
  kept.map (·.2)

def join (lines : List (List Char)) : String :=
  "\n".intercalate (lines.map String.ofList)

end QueryAudit.BlockString
