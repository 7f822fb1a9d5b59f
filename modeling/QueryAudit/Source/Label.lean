import QueryAudit.Json.Basic

/-! Names that are only passed on and shown: paths of texts, ids of rules, words of a report. They
are texts as a rule, but nothing looks into them, so any value serves. -/
namespace QueryAudit

structure Label where
  value : Json
deriving DecidableEq, Repr

namespace Label

def ofString (text : String) : Label := ⟨.str text⟩

instance : Coe String Label := ⟨ofString⟩

instance : Inhabited Label := ⟨""⟩

/-- The text of a label that is one. -/
def text? (label : Label) : Option String := label.value.asString?

/-- How a label is written into running text. -/
def shown (label : Label) : String := label.value.display

/-- Whether a label says nothing. -/
def isBlank (label : Label) : Bool := label.value.isFalsy

/-- Whether something can be looked up by a label: by all but lists and objects. -/
def isKey (label : Label) : Bool :=
  match label.value with
  | .arr _ | .obj _ => false
  | _ => true

@[simp] theorem shown_ofString (text : String) : (ofString text).shown = text := rfl

@[simp] theorem isBlank_ofString (text : String) : (ofString text).isBlank = text.isEmpty := rfl

end Label

end QueryAudit
