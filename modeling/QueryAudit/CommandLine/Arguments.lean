import QueryAudit.CommandLine.Error
import QueryAudit.Files.Tree
import QueryAudit.Text.Integer
import QueryAudit.Text.Similarity

/-! The arguments of a command. First they are divided into options and documents; then the value
of each option is read, in the order in which the options first appear, and the last value of an
option counts. -/
namespace QueryAudit.CommandLine

/-- One use of an option. -/
inductive Given where
  | schema (value : String)
  | config (value : String)
  | maxDepth (value : String)
  | ignore (value : String)
  | unusedFields (enabled : Bool)
  | format (value : String)
  | logLevel (value : String)
  | help
deriving DecidableEq, Repr, Inhabited

/-- An option takes the next argument for its value, or it has none. -/
inductive Kind where
  | takes (make : String → Given)
  | plain (given : Given)

def longOptions : List (String × Kind) := [
  ("--schema", .takes .schema), ("--config", .takes .config), ("--max-depth", .takes .maxDepth),
  ("--ignore", .takes .ignore), ("--unused-fields", .plain (.unusedFields true)),
  ("--no-unused-fields", .plain (.unusedFields false)), ("--format", .takes .format),
  ("--log-level", .takes .logLevel), ("--help", .plain .help)]

def longOption? (name : String) : Option Kind := (longOptions.find? (·.1 = name)).map (·.2)

def shortOption? : Char → Option (String → Given)
  | 's' => some .schema
  | 'c' => some .config
  | _ => none

/-- A name and what stands behind its first equals sign. -/
def splitValue (argument : String) : String × Option String :=
  let chars := argument.toList
  let name := chars.takeWhile (· ≠ '=')
  match chars.dropWhile (· ≠ '=') with
  | [] => (argument, none)
  | _ :: value => (String.ofList name, some (String.ofList value))

def isOption (argument : String) : Bool := argument.startsWith "-" && 1 < argument.length

/-- What an argument that looks like an option asks for. -/
inductive Request where
  | done (given : Given)
  /-- The next argument is its value. -/
  | waits (name : String) (make : String → Given)

def request (argument : String) : Except UsageError Request :=
  let (name, value) := splitValue argument
  match longOption? name, value with
  | some (.takes make), some value => .ok (.done (make value))
  | some (.takes make), none => .ok (.waits name make)
  | some (.plain _), some _ => .error (.takesNoValue name)
  | some (.plain given), none => .ok (.done given)
  | none, _ =>
    if argument.startsWith "--" then
      .error (.noSuchOption name (Text.closeMatches name (longOptions.map (·.1))))
    else
      match argument.toList with
      | dash :: c :: rest =>
        let short := String.ofList [dash, c]
        match shortOption? c with
        | none => .error (.noSuchOption short [])
        | some make =>
          if rest.isEmpty then .ok (.waits short make) else .ok (.done (make (String.ofList rest)))
      | _ => .error (.noSuchOption argument [])

/-- Options and documents; behind two dashes everything is a document. -/
def divide : List String → Except UsageError (List Given × List String)
  | [] => .ok ([], [])
  | argument :: rest =>
    if argument = "--" then .ok ([], rest)
    else if isOption argument then
      match request argument with
      | .error e => .error e
      | .ok (.done given) =>
        (divide rest).map fun (givens, documents) => (given :: givens, documents)
      | .ok (.waits name make) =>
        match rest with
        | [] => .error (.requiresArgument name)
        | value :: rest =>
          (divide rest).map fun (givens, documents) => (make value :: givens, documents)
    else (divide rest).map fun (givens, documents) => (givens, argument :: documents)

inductive OutputFormat where
  | text
  | json
deriving DecidableEq, Repr, Inhabited

structure Arguments where
  schema : Option Path := none
  config : Option Path := none
  maxDepth : Option Int := none
  ignore : List String := []
  unusedFields : Option Bool := none
  format : OutputFormat := .text
  logLevel : Option String := none
  documents : List String := []
deriving DecidableEq, Repr, Inhabited

/-- A path that has to exist, made absolute. -/
def readPath (fs : FileSystem) (option value : String) : Except ArgumentFailure Path :=
  if (Path.ofText value).hasNull then .error .nullCharacter
  else
    let path := Path.resolve fs.cwd (.ofText value)
    if (fs.find? path).isSome then .ok path else .error (.usage (.noSuchPath option value))

def logLevelChoices : List String := ["DEBUG", "INFO", "WARNING", "ERROR"]

/-- Takes over the value of one option. -/
def apply (fs : FileSystem) (arguments : Arguments) : Given → Except ArgumentFailure Arguments
  | .schema value => do
    return { arguments with schema := some (← readPath fs "'--schema' / '-s'" value) }
  | .config value => do
    return { arguments with config := some (← readPath fs "'--config' / '-c'" value) }
  | .maxDepth value =>
    match Text.readInteger? value with
    | some n => .ok { arguments with maxDepth := some n }
    | none => .error (.usage (.notInteger "'--max-depth'" value))
  | .ignore value => .ok { arguments with ignore := arguments.ignore ++ [value] }
  | .unusedFields enabled => .ok { arguments with unusedFields := some enabled }
  | .format value =>
    if value = "text" then .ok { arguments with format := .text }
    else if value = "json" then .ok { arguments with format := .json }
    else .error (.usage (.notChoice "'--format'" value ["text", "json"]))
  | .logLevel value =>
    match logLevelChoices.find? fun choice => choice.toLower = value.toLower with
    | some choice => .ok { arguments with logLevel := some choice }
    | none => .error (.usage (.notChoice "'--log-level'" value logLevelChoices))
  | .help => .ok arguments

/-- Whether two uses are of the same option. -/
def Given.sameOption : Given → Given → Bool
  | schema _, schema _ | config _, config _ | maxDepth _, maxDepth _ | ignore _, ignore _
  | unusedFields _, unusedFields _ | format _, format _ | logLevel _, logLevel _
  | help, help => true
  | _, _ => false

def Given.isRepeatable : Given → Bool
  | ignore _ => true
  | _ => false

/-- The uses that count: options in the order of their first use, each with its last value, and a
repeatable one with all of its values. -/
def counting : List Given → List Given
  | [] => []
  | given :: rest =>
    let same := given :: rest.filter given.sameOption
    let values := if given.isRepeatable then same else [same.getLastD given]
    values ++ counting (rest.filter fun other => !given.sameOption other)
termination_by givens => givens.length
decreasing_by simpa [Nat.lt_succ_iff] using List.length_filter_le _ rest.attach

/-- The arguments of a command, or nothing if it asks for help. -/
def Arguments.read (fs : FileSystem) (arguments : List String) :
    Except ArgumentFailure (Option Arguments) := do
  let (givens, documents) ← (divide arguments).mapError .usage
  if givens.contains .help then return none
  let read ← (counting givens).foldlM (apply fs) { documents }
  return some read

end QueryAudit.CommandLine
