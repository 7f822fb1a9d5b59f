import QueryAudit.Config.Basic
import QueryAudit.Files.Tree

/-! Loading a configuration. Unless the file says otherwise, paths in it are relative to its own
directory. -/
namespace QueryAudit.Config

def load (fs : FileSystem) (path : Path) : Except ConfigFailure Config :=
  match fs.read path with
  | .error (.file e) => .error (.reported (.unreadable path.text e))
  | .error .nullCharacter => .error .nullCharacter
  | .ok content =>
    match decodeText? content with
    | none => .error .undecodable
    | some text =>
      match Json.read text with
      | .error e =>
        if e.complaint = .longNumber then .error .longNumber
        else .error (.reported (.invalidJson path.text e))
      | .ok (.obj members) =>
        if Members.contains "base_dir" members then Config.read (.obj members)
        else Config.read (.obj (members ++ [("base_dir", .str path.parent.text)]))
      | .ok _ => .error (.reported (.notObject path.text))

/-- Where the schema of a configuration lies. -/
def schemaPath (config : Config) : Path := (Path.ofText config.baseDir).join (.ofText config.schema)

end QueryAudit.Config
