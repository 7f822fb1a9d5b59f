import QueryAudit.Config.Error
import QueryAudit.Corpus.Basic

/-! What can be wrong with a command, and the texts about its use. -/
namespace QueryAudit.CommandLine

def programName : String := "graphql-corpus-analysis"

def usageLine : String := "Usage: " ++ programName ++ " [OPTIONS] [DOCUMENTS]...\n"

def helpText : String := usageLine ++ "
Options:
  -s, --schema PATH               SDL file, directory, or introspection JSON
  -c, --config PATH
  --max-depth INTEGER             Maximum selection depth (selection-set-depth
                                  rule)
  --ignore TEXT                   Field name that does not count towards depth
                                  (repeatable)
  --unused-fields / --no-unused-fields
                                  Enable the no-unused-fields rule
  --format [text|json]
  --log-level [DEBUG|INFO|WARNING|ERROR]
  --help                          Show this message and exit.
"

inductive UsageError where
  | noSuchOption (name : String) (close : List String)
  | requiresArgument (name : String)
  | takesNoValue (name : String)
  | noSuchPath (option value : String)
  | notInteger (option value : String)
  | notChoice (option value : String) (choices : List String)
  | configuration (error : ConfigError)
  | unclassifiable (error : Unclassifiable)
  | schemaRequired
deriving Repr

/-- Arguments that cannot be used: a wrong use of the program, or a path with a character that no
path can hold, which stops it. -/
inductive ArgumentFailure where
  | usage (error : UsageError)
  | nullCharacter
deriving Repr

namespace UsageError

/-- Names that may have been meant, in order. -/
def closeText (close : List String) : String :=
  match close.mergeSort fun a b => decide (a ≤ b) with
  | [] => ""
  | [name] => s!" Did you mean {name}?"
  | names => " (Possible options: " ++ ", ".intercalate names ++ ")"

def invalidValue (option reason : String) : String := s!"Invalid value for {option}: {reason}"

def message : UsageError → String
  | noSuchOption name close => s!"No such option: {name}" ++ closeText close
  | requiresArgument name => "Option " ++ Text.quoted name ++ " requires an argument."
  | takesNoValue name => "Option " ++ Text.quoted name ++ " does not take a value."
  | noSuchPath option value =>
    invalidValue option ("Path " ++ Text.quoted value ++ " does not exist.")
  | notInteger option value => invalidValue option (Text.quoted value ++ " is not a valid integer.")
  | notChoice option value choices =>
    invalidValue option (Text.quoted value ++ " is not one of " ++
      ", ".intercalate (choices.map Text.quoted) ++ ".")
  | configuration error => error.message
  | unclassifiable error => error.message
  | schemaRequired => "A schema is required (--schema or \"schema\" in the config file)"

/-- Whether the use of the program is shown along with the error. -/
def showsUsage : UsageError → Bool
  | requiresArgument _ | takesNoValue _ => false
  | _ => true

def text (e : UsageError) : String :=
  (if e.showsUsage then usageLine ++ s!"Try '{programName} --help' for help.\n\n" else "") ++
    s!"Error: {e.message}\n"

end UsageError

end QueryAudit.CommandLine
