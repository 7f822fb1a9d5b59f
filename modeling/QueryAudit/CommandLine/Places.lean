import QueryAudit.CommandLine.Run

/-! Which places a command looks at. Whoever runs a command on a disk has to know them before the
command can be run on a copy of what is there. -/
namespace QueryAudit

/-- The directory below which a pattern matches: its path up to the first wildcard. -/
def Path.stem (pattern : Path) : Path :=
  ⟨pattern.root, pattern.parts.takeWhile fun part => !part.any (· ∈ ['*', '?', '['])⟩

/-- The places that a configuration names. -/
def Config.places (config : Config) : List Path :=
  let base := Path.ofText config.baseDir
  config.schemaPath :: config.documents.map fun d => base.join (Path.ofText d).stem

/-- The files that are read for a configuration. -/
def Config.files (fs : FileSystem) (config : Config) : List Path :=
  let schema := config.schemaPath
  let documents := expandPatterns fs (.ofText config.baseDir) config.documents
  let schemas := match fs.find? schema with
    | some (.directory _) => (documentsBelow fs schema).toOption.getD []
    | _ => [schema]
  schemas ++ documents.value.toOption.getD []

namespace CommandLine

def Given.place? : Given → Option Path
  | schema value | config value => some (.ofText value)
  | _ => none

/-- The places that arguments name by themselves. -/
def argumentPlaces (arguments : List String) : List Path :=
  match divide arguments with
  | .ok (givens, _) => givens.filterMap Given.place?
  | .error _ => []

end CommandLine

end QueryAudit
