import QueryAudit.Files.Error
import QueryAudit.Files.Path

/-! File systems without links: a tree of directories and files, and the directory that relative
paths start from. -/
namespace QueryAudit

inductive FileTree where
  | file (content : ByteArray)
  /-- A file that may not be read. -/
  | locked
  | directory (entries : List (String × FileTree))
deriving Inhabited

namespace FileTree

def entries : FileTree → List (String × FileTree)
  | file _ | locked => []
  | directory entries => entries

def isDirectory : FileTree → Bool
  | file _ | locked => false
  | directory _ => true

def isFile : FileTree → Bool
  | file _ | locked => true
  | directory _ => false

def find? (name : String) : List (String × FileTree) → Option FileTree
  | [] => none
  | (n, tree) :: rest => if n = name then some tree else find? name rest

/-- Gives a name its tree, in the place of the one it had or behind all others. -/
def put (name : String) (tree : FileTree) : List (String × FileTree) → List (String × FileTree)
  | [] => [(name, tree)]
  | (n, t) :: rest => if n = name then (n, tree) :: rest else (n, t) :: put name tree rest

/-- Puts a tree at a place below a directory, and makes the directories on the way. -/
def insert (tree : FileTree) : List String → FileTree → FileTree
  | [], target =>
    match tree, target with
    | directory [], directory entries => directory entries
    | _, _ => tree
  | part :: rest, target =>
    let below := insert tree rest ((find? part target.entries).getD (directory []))
    directory (put part below target.entries)

mutual

/-- The directories in a tree, itself included, by their paths. -/
def directories (path : Path) : FileTree → List Path
  | file _ | locked => []
  | directory entries => path :: directoriesIn path entries

def directoriesIn (path : Path) : List (String × FileTree) → List Path
  | [] => []
  | (name, tree) :: rest => directories (path.child name) tree ++ directoriesIn path rest

end

end FileTree

structure FileSystem where
  root : FileTree
  cwd : Path
deriving Inhabited

namespace FileSystem

/-- Why nothing stands at a path. -/
inductive Absence where
  | notFound
  | notDirectory
  | nameTooLong
  /-- The path holds a character that no path can. -/
  | nullCharacter
deriving DecidableEq, Repr

/-- The most bytes of a name in a directory. -/
def longestName : Nat := 255

/-- The most bytes of a whole path. -/
def longestPath : Nat := 4095

/-- Goes down from the first of a stack of directories, whose parents follow it. -/
def walk : List FileTree → List String → Except Absence FileTree
  | [], _ => .error .notFound
  | top :: _, [] => .ok top
  | .file _ :: _, _ :: _ | .locked :: _, _ :: _ => .error .notDirectory
  | .directory entries :: above, part :: rest =>
    if part = ".." then walk (if above.isEmpty then [.directory entries] else above) rest
    else
      match FileTree.find? part entries with
      | some tree => walk (tree :: .directory entries :: above) rest
      | none => .error (if longestName < part.utf8ByteSize then .nameTooLong else .notFound)
termination_by structural _ parts => parts

def find (fs : FileSystem) (path : Path) : Except Absence FileTree :=
  if path.hasNull then .error .nullCharacter
  else if longestPath < path.text.utf8ByteSize then .error .nameTooLong
  else walk [fs.root] (fs.cwd.join path).parts

def find? (fs : FileSystem) (path : Path) : Option FileTree := (fs.find path).toOption

/-- What stands at a path, if anything does. A name that is too long cannot even be asked for. -/
def look (fs : FileSystem) (path : Path) : Except FileError (Option FileTree) :=
  match fs.find path with
  | .ok tree => .ok (some tree)
  | .error .nameTooLong => .error (.nameTooLong path.text)
  | .error _ => .ok none

def isPresent (fs : FileSystem) (path : Path) : Except FileError Bool :=
  (fs.look path).map (·.isSome)

def isFile (fs : FileSystem) (path : Path) : Except FileError Bool :=
  (fs.look path).map (·.any (·.isFile))

def isDirectory (fs : FileSystem) (path : Path) : Except FileError Bool :=
  (fs.look path).map (·.any (·.isDirectory))

/-- Why a file cannot be read: an error of the file system, or a path that is none. -/
inductive ReadFailure where
  | file (error : FileError)
  | nullCharacter
deriving DecidableEq, Repr

def read (fs : FileSystem) (path : Path) : Except ReadFailure ByteArray :=
  match fs.find path with
  | .ok (.file content) => .ok content
  | .ok .locked => .error (.file (.denied path.text))
  | .ok (.directory _) => .error (.file (.isDirectory path.text))
  | .error .notFound => .error (.file (.notFound path.text))
  | .error .notDirectory => .error (.file (.notDirectory path.text))
  | .error .nameTooLong => .error (.file (.nameTooLong path.text))
  | .error .nullCharacter => .error .nullCharacter

end FileSystem

/-- Turns all line ends into line feeds. -/
def unifyLineEnds : List Char → List Char
  | '\r' :: '\n' :: rest => '\n' :: unifyLineEnds rest
  | '\r' :: rest => '\n' :: unifyLineEnds rest
  | c :: rest => c :: unifyLineEnds rest
  | [] => []

/-- The text in a file, if it is UTF-8. -/
def decodeText? (content : ByteArray) : Option String :=
  (String.fromUTF8? content).map fun s => String.ofList (unifyLineEnds s.toList)

end QueryAudit
