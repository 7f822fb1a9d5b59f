import QueryAudit.Corpus.Source
import QueryAudit.Event
import QueryAudit.Files.Glob

/-! Loading the documents of a corpus. A file that cannot be read or parsed is noted and does not
keep the others from loading; a text that cannot even be decoded ends the loading. -/
namespace QueryAudit

/-- The endings of files that are found in a directory. -/
def documentSuffixes : List String := [".graphql", ".graphqls", ".gql"]

/-- Everything below a directory that has the ending of a document, also other directories. -/
def documentsBelow (fs : FileSystem) (directory : Path) : Except FileError (List Path) := do
  return Path.sort ((← Glob.below fs directory).filter (·.suffix ∈ documentSuffixes))

/-- What one pattern stands for: a file, the documents of a directory, or what it matches. -/
def matchPattern (fs : FileSystem) (base : Path) (pattern : String) :
    Except Glob.Error (List Path) := do
  let path := Path.ofText pattern
  let candidate := base.join path
  if ← (fs.isFile candidate).mapError .file then return [candidate]
  else if ← (fs.isDirectory candidate).mapError .file then
    (documentsBelow fs candidate).mapError .file
  else
    let found ←
      if path.isAbsolute then Glob.expand fs ⟨path.root, []⟩ ("/".intercalate path.parts)
      else Glob.expand fs base pattern
    return Path.sort (← (found.filterM fs.isFile).mapError .file)

/-- Adds to some files what patterns are matched by, each file once. -/
def expandFrom (found? : String → Except Glob.Error (List Path)) (files : List Path) :
    List String → Logged (Except Glob.Error (List Path))
  | [] => ⟨[], .ok files⟩
  | pattern :: rest =>
    match found? pattern with
    | .error e => ⟨[], .error e⟩
    | .ok found =>
      let next := expandFrom found? (files ++ found.eraseDups.filter (· ∉ files)) rest
      let told := if found.isEmpty then [.patternMatchedNothing pattern] else []
      ⟨told ++ next.events, next.value⟩

def expandPatterns (fs : FileSystem) (base : Path) (patterns : List String) :
    Logged (Except Glob.Error (List Path)) :=
  expandFrom (matchPattern fs base) [] patterns

/-- The documents that were loaded, and the errors of the files that were not. -/
structure Loaded where
  documents : List SourceDocument := []
  errors : List DocumentError := []
deriving Repr, Inhabited

def loadFile (fs : FileSystem) (path : Path) : Except DocumentFailure SourceDocument :=
  match fs.read path with
  | .error (.file e) => .error (.reported (.unreadable path.text e))
  | .error .nullCharacter => .error .nullCharacter
  | .ok content =>
    match decodeText? content with
    | none => .error .undecodable
    | some text => SourceDocument.parse text path.text

/-- What the event of an error says: a file error alone, a syntax error with its file. -/
def DocumentError.cause (e : DocumentError) : String :=
  match e with
  | .unparsable .. => e.message
  | .unreadable _ error => error.message

/-- Loads files in order. -/
def loadFiles (fs : FileSystem) : List Path → Logged (Except DocumentFailure Loaded)
  | [] => ⟨[], .ok {}⟩
  | path :: rest =>
    match loadFile fs path with
    | .ok document =>
      let next := loadFiles fs rest
      ⟨next.events, next.value.map fun l => { l with documents := document :: l.documents }⟩
    | .error (.reported e) =>
      let next := loadFiles fs rest
      ⟨.documentLoadFailed e.path e.cause :: next.events,
        next.value.map fun l => { l with errors := e :: l.errors }⟩
    | .error failure => ⟨[], .error failure⟩

/-- What ends the loading of documents. -/
inductive LoadFailure where
  | pattern (error : Glob.Error)
  | document (failure : DocumentFailure)
deriving Repr

def loadDocuments (fs : FileSystem) (base : Path) (patterns : List String) :
    Logged (Except LoadFailure Loaded) :=
  let expanded := expandPatterns fs base patterns
  match expanded.value with
  | .error e => ⟨expanded.events, .error (.pattern e)⟩
  | .ok files =>
    let loaded := loadFiles fs files
    match loaded.value with
    | .error failure => ⟨expanded.events ++ loaded.events, .error (.document failure)⟩
    | .ok l =>
      ⟨expanded.events ++ loaded.events ++ [.documentsLoaded l.documents.length l.errors.length],
        .ok l⟩

end QueryAudit
