import QueryAudit.Document.Parser
import QueryAudit.Files.Error

/-! Parsed texts together with the path they were read from. -/
namespace QueryAudit

structure SourceDocument where
  path : Label
  document : Document
deriving Repr, Inhabited

/-- Why a text is missing from the corpus. -/
inductive DocumentError where
  | unparsable (path : Label) (error : SyntaxError)
  | unreadable (path : Label) (error : FileError)
deriving DecidableEq, Repr

namespace DocumentError

def path : DocumentError → Label
  | unparsable path _ | unreadable path _ => path

def message : DocumentError → String
  | unparsable path error =>
    "Cannot parse " ++ (if path.isBlank then "document" else path.shown) ++ ": " ++ error.message
  | unreadable path error => s!"Cannot read {path.shown}: {error.message}"

end DocumentError

/-- A document that cannot be had: one with a message, a text that breaks off in an escape
sequence or is no UTF-8, or a path that is none, which stops whoever asked for it. -/
inductive DocumentFailure where
  | reported (error : DocumentError)
  | cutEscape
  | undecodable
  /-- The path holds a character that no path can. -/
  | nullCharacter
deriving DecidableEq, Repr

/-- A text without a path has no name either. -/
def SourceDocument.parse (text : String) (path : Label) : Except DocumentFailure SourceDocument :=
  match parseDocument text (if path.isBlank then .anonymous else .ofName path) with
  | .ok document => .ok ⟨path, document⟩
  | .error (.grammar error) => .error (.reported (.unparsable path error))
  | .error .cutEscape => .error .cutEscape

end QueryAudit
