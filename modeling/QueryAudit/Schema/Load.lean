import QueryAudit.Corpus.Load
import QueryAudit.Schema.Introspection

/-! Loading a schema: from a description, from one text, or from all texts of a directory. -/
namespace QueryAudit.Schema

def readText (fs : FileSystem) (path : Path) : Except SchemaFailure String :=
  match fs.read path with
  | .error (.file (.denied denied)) => .error (.file (.denied denied))
  | .error _ => .error .directory
  | .ok content =>
    match decodeText? content with
    | none => .error .undecodable
    | some text => .ok text

/-- The texts of a directory, one after the other. -/
def ofDirectory (fs : FileSystem) (path : Path) : Except SchemaFailure Schema := do
  let files ← (documentsBelow fs path).mapError .file
  if files.isEmpty then throw (.reported (.noFiles path.text))
  let texts ← files.mapM (readText fs)
  Schema.ofText path.text ("\n".intercalate texts)

def ofFile (fs : FileSystem) (path : Path) : Except SchemaFailure Schema := do
  let text ← readText fs path
  if path.suffix = ".json" then
    match Json.read text with
    | .ok value => Schema.ofIntrospection path.text value
    | .error e =>
      if e.complaint = .longNumber then throw .longNumber
      else throw (.reported (.invalidJson path.text e))
  else Schema.ofText path.text text

def load (fs : FileSystem) (path : Path) : Logged (Except SchemaFailure Schema) :=
  match fs.look path with
  | .error e => ⟨[], .error (.file e)⟩
  | .ok none => ⟨[], .error (.reported (.notFound path.text))⟩
  | .ok (some (.directory _)) => Schema.logged path.text (ofDirectory fs path)
  | .ok (some _) => Schema.logged path.text (ofFile fs path)

end QueryAudit.Schema
