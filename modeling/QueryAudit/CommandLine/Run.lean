import QueryAudit.CommandLine.Arguments
import QueryAudit.Config.Load
import QueryAudit.Event.Line
import QueryAudit.Schema.Load
import QueryAudit.Session.Run

/-! What a command does: it reads a configuration, lets the arguments override it, loads a schema
and documents, runs the rules and prints the report. -/
namespace QueryAudit

/-- Settings of a configuration that arguments override. A limit or names to ignore also turn the
depth rule on. -/
def Config.override (config : Config) (cwd : Path) (arguments : CommandLine.Arguments) : Config :=
  let config := match arguments.schema with
    | some path => { config with schema := path.text }
    | none => config
  let config := if arguments.documents.isEmpty then config else
    { config with documents := arguments.documents.map fun d => (cwd.join (.ofText d)).text }
  let options := match arguments.maxDepth with
    | some depth => Members.set "maxDepth" (.int depth) config.depth.options
    | none => config.depth.options
  let options := if arguments.ignore.isEmpty then options else
    Members.set "ignore" (.strings arguments.ignore) options
  let config := if arguments.maxDepth.isNone && arguments.ignore.isEmpty then config else
    { config with depth := ⟨true, options⟩ }
  let config := match arguments.unusedFields with
    | some enabled => { config with unused := ⟨enabled, []⟩ }
    | none => config
  match arguments.logLevel with
  | some level => { config with logLevel := level }
  | none => config

namespace CommandLine

/-- What stops a command without a message of its own. -/
inductive Crash where
  | config (failure : ConfigFailure)
  | schema (failure : SchemaFailure)
  | documents (failure : LoadFailure)
  | report (error : PrintError)
  /-- A path of the arguments is none. -/
  | nullCharacter
deriving Repr

/-- How a command can end early. -/
inductive Stop where
  | usage (error : UsageError)
  | failed (message : String)
  | crashed (crash : Crash)
deriving Repr

/-- What goes to the error output: log lines, which show the time, and other texts. -/
inductive Notice where
  | log (format : LogFormat) (event : Event)
  | text (text : String)
deriving Repr

def Notice.print (time : String) : Notice → String
  | log format event => event.line format time ++ "\n"
  | text content => content

structure Outcome where
  exitCode : Nat
  output : String := ""
  notices : List Notice := []
  crash : Option Crash := none
deriving Repr

def Outcome.ofStop (notices : List Notice) : Stop → Outcome
  | .usage e => ⟨2, "", notices ++ [.text e.text], none⟩
  | .failed message => ⟨1, "", notices ++ [.text s!"Error: {message}\n"], none⟩
  | .crashed crash => ⟨1, "", notices, some crash⟩

def configStop : ConfigFailure → Stop
  | .reported e => .usage (.configuration e)
  | failure => .crashed (.config failure)

/-- The configuration in force: the file's, if there is one, with what the arguments override. -/
def configure (fs : FileSystem) (arguments : Arguments) : Except Stop Config := do
  let base ← match arguments.config with
    | some path => (Config.load fs path).mapError configStop
    | none => pure {}
  let config ← (base.override fs.cwd arguments).validate.mapError configStop
  if config.schema = "" then throw (.usage .schemaRequired)
  return config

/-- Loads everything and runs the rules; the files that could not be loaded come with the report. -/
def analyze (fs : FileSystem) (config : Config) :
    Logged (Except Stop (Report × List DocumentError)) :=
  ExceptT.run do
    let schema ← show ExceptT Stop Logged Schema from do
      match ← Schema.load fs config.schemaPath with
      | .ok schema => return schema
      | .error (.reported e) => throw (.failed e.message)
      | .error failure => throw (.crashed (.schema failure))
    let loaded ← show ExceptT Stop Logged Loaded from do
      match ← loadDocuments fs (.ofText config.baseDir) config.documents with
      | .ok loaded => return loaded
      | .error failure => throw (.crashed (.documents failure))
    let session ← show ExceptT Stop Logged Session from do
      match ← Session.start schema (loaded.documents.map .source) config with
      | .ok session => return session
      | .error e => throw (.usage (.unclassifiable e))
    match session.rules with
    | .error failure => throw (configStop failure)
    | .ok rules =>
      let (report, _) ← session.run rules {}
      return (report, loaded.errors)

def render (format : OutputFormat) (report : Report) : Except PrintError String :=
  match format with
  | .text => report.text
  | .json => report.json

/-- The log lines that are heavy enough for the configuration. -/
def logNotices (config : Config) (events : List Event) : List Notice :=
  (events.filter fun e => (Level.ofName config.logLevel).weight ≤ e.level.weight).map
    (.log (.ofName config.logFormat))

def runWith (fs : FileSystem) (arguments : Arguments) : Outcome :=
  match configure fs arguments with
  | .error stop => .ofStop [] stop
  | .ok config =>
    let analyzed := analyze fs config
    let notices := logNotices config analyzed.events
    match analyzed.value with
    | .error stop => .ofStop notices stop
    | .ok (report, errors) =>
      let notices := notices ++ errors.map fun e => .text s!"{e.path.shown}: {e.message}\n"
      match render arguments.format report with
      | .error e => .ofStop notices (.crashed (.report e))
      | .ok output =>
        let failed := report.hasErrors || !errors.isEmpty
        { exitCode := if failed then 1 else 0, output, notices }

/-- Runs a command on the files at hand. -/
def run (fs : FileSystem) (arguments : List String) : Outcome :=
  match Arguments.read fs arguments with
  | .error (.usage e) => .ofStop [] (.usage e)
  | .error .nullCharacter => .ofStop [] (.crashed .nullCharacter)
  | .ok none => { exitCode := 0, output := helpText }
  | .ok (some arguments) => runWith fs arguments

end CommandLine

end QueryAudit
