/-! Paths. Empty and dot components vanish, and two dots stay: a path is not simplified further
than its text allows. -/
namespace QueryAudit

structure Path where
  /-- Empty for a relative path, else the slashes it starts with. -/
  root : String := ""
  parts : List String := []
deriving DecidableEq, Repr, Inhabited

namespace Path

/-- Exactly two slashes at the start are kept apart from any other number. -/
def rootOf (text : String) : String :=
  match text.toList with
  | '/' :: '/' :: '/' :: _ => "/"
  | '/' :: '/' :: _ => "//"
  | '/' :: _ => "/"
  | _ => ""

def partsOf (text : String) : List String :=
  (text.splitToList (· = '/')).filter fun part => part ≠ "" && part ≠ "."

def ofText (text : String) : Path := ⟨rootOf text, partsOf text⟩

def text (path : Path) : String :=
  if path.root = "" && path.parts.isEmpty then "." else path.root ++ "/".intercalate path.parts

def hasNull (path : Path) : Bool := path.parts.any ('\x00' ∈ ·.toList)

def isAbsolute (path : Path) : Bool := path.root ≠ ""

/-- One path below another; an absolute path stays itself. -/
def join (base path : Path) : Path :=
  if path.isAbsolute then path else ⟨base.root, base.parts ++ path.parts⟩

def child (path : Path) (name : String) : Path := ⟨path.root, path.parts ++ [name]⟩

def parent (path : Path) : Path := ⟨path.root, path.parts.dropLast⟩

def name (path : Path) : String := path.parts.getLastD ""

/-- What a name ends in from its last dot, unless the dot is its first or last character. -/
def suffixOf (name : String) : String :=
  let back := name.toList.reverse
  let tail := back.takeWhile (· ≠ '.')
  match back.drop tail.length with
  | _ :: _ :: _ => if tail.isEmpty then "" else String.ofList ('.' :: tail.reverse)
  | _ => ""

def suffix (path : Path) : String := suffixOf path.name

/-- The components by which paths are ordered. -/
def key (path : Path) : List String :=
  if path.isAbsolute then path.root :: path.parts else path.parts

/-- Component by component; a path comes before what lies below it. -/
def comesBefore : List String → List String → Bool
  | [], _ => true
  | _ :: _, [] => false
  | a :: as, b :: bs => if a = b then comesBefore as bs else decide (a ≤ b)

def sort (paths : List Path) : List Path := paths.mergeSort fun a b => comesBefore a.key b.key

/-- Follows two dots in the text alone. -/
def resolveParts (done : List String) : List String → List String
  | [] => done
  | part :: rest => resolveParts (if part = ".." then done.dropLast else done ++ [part]) rest

/-- The absolute path without any dots that a path stands for below a directory. -/
def resolve (base path : Path) : Path := ⟨"/", resolveParts [] (base.join path).parts⟩

end Path

end QueryAudit
