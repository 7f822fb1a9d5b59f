/-! Names that someone may have meant. A known name is suggested if few edits lead to it: insert,
delete or replace a character, or swap two neighbours. Names are ASCII. -/
namespace QueryAudit.Text

/-- The next row of the table of edit distances. Each row is the distances of one beginning of the
first text to all beginnings of the second; `earlier` is the character and the row before last. -/
def nextRow (target : Array Char) (c : Char) (length : Nat) (earlier : Option (Char × Array Nat))
    (last : Array Nat) : Array Nat :=
  (List.range target.size).foldl (fun row j =>
    let cost := if target[j]? = some c then 0 else 1
    let edited := min (min (last.getD (j + 1) 0 + 1) (row.getD j 0 + 1)) (last.getD j 0 + cost)
    let best := match earlier with
      | some (previous, before) =>
        if 0 < j && target[j - 1]? = some c && target[j]? = some previous then
          min edited (before.getD (j - 1) 0 + 1)
        else edited
      | none => edited
    row.push best) #[length]

def distanceRows (target : Array Char) (earlier : Option (Char × Array Nat)) (last : Array Nat)
    (length : Nat) : List Char → Array Nat
  | [] => last
  | c :: rest =>
    distanceRows target (some (c, last)) (nextRow target c length earlier last) (length + 1) rest

/-- The number of edits between two texts. -/
def editDistance (source target : List Char) : Nat :=
  (distanceRows target.toArray none (Array.range (target.length + 1)) 1 source).getD
    target.length 0

/-- Edits ignore case, and any change of case alone counts as one edit. -/
def nameDistance (name other : String) : Nat :=
  if name = other then 0
  else if name.toLower = other.toLower then 1
  else editDistance name.toLower.toList other.toLower.toList

/-- A text divided at its runs of digits: what stands before the first, then each run with what
follows it. -/
def digitRuns : List Char → List Char × List (List Char × List Char)
  | [] => ([], [])
  | c :: rest =>
    let (head, runs) := digitRuns rest
    if c.isDigit then
      match head, runs with
      | [], (digits, tail) :: more => ([], (c :: digits, tail) :: more)
      | _, _ => ([], ([c], head) :: runs)
    else (c :: head, runs)

def digitsValue (digits : List Char) : Nat :=
  digits.foldl (fun n d => 10 * n + (d.toNat - '0'.toNat)) 0

def compareText (a b : List Char) : Ordering := compare (String.ofList a) (String.ofList b)

def compareRuns : List (List Char × List Char) → List (List Char × List Char) → Ordering
  | [], [] => .eq
  | [], _ => .lt
  | _, [] => .gt
  | (d, t) :: rest, (d', t') :: rest' =>
    (compare (digitsValue d) (digitsValue d')).then <|
      (compareText d d').then <| (compareText t t').then <| compareRuns rest rest'

/-- The natural order of names: runs of digits compare as numbers. -/
def compareNatural (a b : String) : Ordering :=
  let (head, runs) := digitRuns a.toList
  let (head', runs') := digitRuns b.toList
  (compareText head head').then (compareRuns runs runs')

/-- How far a suggestion may be from a name. -/
def suggestionReach (name : String) : Nat := 2 * name.length / 5 + 1

/-- The options within reach of a name, nearest first, then in natural order, each once. -/
def suggestions (name : String) (options : List String) : List String :=
  let near := (options.eraseDups.map fun option => (nameDistance name option, option)).filter
    (·.1 ≤ suggestionReach name)
  (near.mergeSort fun a b => ((compare a.1 b.1).then (compareNatural a.2 b.2)).isLE).map (·.2)

/-- How many suggestions are shown. -/
def shownSuggestions : Nat := 5

/-- The question behind a message, empty without suggestions. -/
def didYouMean (options : List String) : String :=
  let quote (s : String) : String := "'" ++ s ++ "'"
  match options.take shownSuggestions with
  | [] => ""
  | [a] => " Did you mean " ++ quote a ++ "?"
  | [a, b] => " Did you mean " ++ quote a ++ " or " ++ quote b ++ "?"
  | several =>
    let leading := ", ".intercalate (several.dropLast.map quote)
    " Did you mean " ++ leading ++ ", or " ++ quote (several.getLastD "") ++ "?"

end QueryAudit.Text
