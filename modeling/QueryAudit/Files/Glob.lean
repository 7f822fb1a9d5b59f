import QueryAudit.Files.Tree
import QueryAudit.Pattern.Basic

/-! Patterns of paths. A component may hold `*`, `?` and sets in brackets; two stars alone stand
for any number of directories. -/
namespace QueryAudit.Glob

/-- Why a pattern cannot be followed. -/
inductive Error where
  /-- There is no pattern. -/
  | empty
  /-- The pattern has no component. -/
  | noComponent
  /-- The pattern is only a slash behind nothing. -/
  | bareSlash
  /-- Two stars stand next to other characters. -/
  | gluedStars
  /-- A place on the way cannot be asked for. -/
  | file (error : FileError)
deriving DecidableEq, Repr

/-- A piece of a component: any characters at all, or one of a class. -/
inductive Piece where
  | any
  | one (cls : CharClass)
deriving DecidableEq, Repr, Inhabited

inductive Part where
  | precise (name : String)
  | wildcard (pieces : List Piece)
  | recursive
  /-- A slash at the end: only directories match. -/
  | slash
deriving DecidableEq, Repr, Inhabited

/-- Divides a set at the hyphens between the ends of a range. A hyphen counts only if `skip`
characters were passed, and after one the next two characters are passed. -/
def chunks (skip : Nat) (current : List Char) : List Char → List (List Char)
  | [] => [current]
  | c :: rest =>
    if c = '-' && skip = 0 then current :: chunks 2 [] rest
    else chunks (skip - 1) (current ++ [c]) rest

/-- A hyphen with nothing behind it stands for itself. -/
def closeLast : List (List Char) → List (List Char)
  | [] => []
  | [a, []] => [a ++ ['-']]
  | a :: rest => a :: closeLast rest

/-- Ranges that end before they start vanish with both of their ends. -/
def dropEmptyRanges : List (List Char) → List (List Char)
  | [] => []
  | chunk :: rest =>
    match chunk.getLast?, dropEmptyRanges rest with
    | some low, (high :: tail) :: more =>
      if high < low then (chunk.dropLast ++ tail) :: more else chunk :: (high :: tail) :: more
    | _, others => chunk :: others

def ranges : List (List Char) → List ClassItem
  | a :: b :: rest =>
    (match a.getLast?, b.head? with
    | some low, some high => [.range low.toNat high.toNat]
    | _, _ => []) ++ ranges (b :: rest)
  | _ => []

/-- The entries of a set. A hyphen with nothing before it stands for itself. -/
def setItems (parts : List (List Char)) : List ClassItem :=
  let hyphen : List Char := match parts with
    | [] :: _ :: _ => ['-']
    | _ => []
  (hyphen ++ parts.flatten).map (fun c => .range c.toNat c.toNat) ++ ranges parts

/-- The class of a set. An exclamation mark at its start, once empty ranges are gone, turns it
round. -/
def setClass (content : List Char) : CharClass :=
  let skip := if content.head? = some '!' then 2 else 1
  match dropEmptyRanges (closeLast (chunks skip [] content)) with
  | ('!' :: first) :: rest => ⟨true, setItems (first :: rest), .exact⟩
  | parts => ⟨false, setItems parts, .exact⟩

/-- The content of a set up to its closing bracket, which is literal in first place. -/
def closeSet (text : List Char) : Option (List Char × List Char) :=
  let (lead, text) := match text with
    | '!' :: ']' :: rest => (['!', ']'], rest)
    | '!' :: rest => (['!'], rest)
    | ']' :: rest => ([']'], rest)
    | _ => ([], text)
  match text.dropWhile (· ≠ ']') with
  | [] => none
  | _ :: rest => some (lead ++ text.takeWhile (· ≠ ']'), rest)

def anyChar : CharClass := ⟨true, [], .exact⟩

def literal (c : Char) : CharClass := ⟨false, [.range c.toNat c.toNat], .exact⟩

def component : (fuel : Nat) → List Char → List Piece
  | 0, _ => []
  | fuel + 1, text =>
    match text with
    | [] => []
    | '*' :: rest => .any :: component fuel rest
    | '?' :: rest => .one anyChar :: component fuel rest
    | '[' :: rest =>
      match closeSet rest with
      | some (content, after) => .one (setClass content) :: component fuel after
      | none => .one (literal '[') :: component fuel rest
    | c :: rest => .one (literal c) :: component fuel rest

/-- What may be left of a component where nothing more is read. -/
def skips : List Piece → List (List Piece)
  | .any :: rest => (.any :: rest) :: skips rest
  | pieces => [pieces]

/-- What may be left behind one more character. -/
def step (c : Char) : List Piece → List (List Piece)
  | [] => []
  | .any :: rest => skips (.any :: rest)
  | .one cls :: rest => if cls.holds c then skips rest else []

/-- Whether a component fits a whole name. All that may be left of it is followed at once. -/
def fits (pieces : List Piece) (name : String) : Bool :=
  (name.toList.foldl (fun left c => (left.flatMap (step c)).eraseDups) (skips pieces)).any
    (·.isEmpty)

def part (name : String) : Except Error Part :=
  if name = "**" then .ok .recursive
  else if 1 < (name.splitOn "**").length then .error .gluedStars
  else if name.any fun c => c = '*' || c = '?' || c = '[' then
    .ok (.wildcard (component name.length name.toList))
  else .ok (.precise name)

/-- The parts of a relative pattern. -/
def parts (pattern : String) : Except Error (List Part) := do
  if pattern = "" then throw .empty
  let found ← (Path.partsOf pattern).mapM part
  if pattern.endsWith "/" then
    if found.isEmpty then throw .bareSlash else return found ++ [.slash]
  else if found.isEmpty then throw .noComponent
  else return found

/-- All that is found from each of some places, in order. -/
def gather (find : Path → Except FileError (List Path)) (places : List Path) :
    Except FileError (List Path) := do
  return (← places.mapM find).flatten

/-- The paths below one that match the parts of a pattern. -/
def select (fs : FileSystem) : List Part → Path → Except FileError (List Path)
  | [], path => .ok [path]
  | .slash :: _, path => .ok [path]
  | .precise name :: rest, path => do
    let next := path.child name
    let there ← if rest.isEmpty then fs.isPresent next else fs.isDirectory next
    if there then select fs rest next else return []
  | .wildcard pieces :: rest, path =>
    let entries := ((fs.find? path).map (·.entries)).getD []
    let matching := entries.filter fun (name, tree) =>
      (rest.isEmpty || tree.isDirectory) && fits pieces name
    gather (select fs rest) (matching.map fun (name, _) => path.child name)
  | .recursive :: rest, path => do
    let directories := ((fs.find? path).map (·.directories path)).getD []
    return (← gather (select fs rest) directories).eraseDups

/-- What the parts of a pattern match below a directory; nothing lies below anything else. -/
def selectBelow (fs : FileSystem) (found : List Part) (base : Path) :
    Except FileError (List Path) := do
  if ← fs.isDirectory base then select fs found base else return []

/-- All paths that a relative pattern matches below a directory. -/
def expand (fs : FileSystem) (base : Path) (pattern : String) : Except Error (List Path) := do
  let found ← parts pattern
  (selectBelow fs found base).mapError .file

/-- Everything below a directory. -/
def below (fs : FileSystem) (base : Path) : Except FileError (List Path) :=
  selectBelow fs [.recursive, .wildcard [.any]] base

end QueryAudit.Glob
