import QueryAudit.Binding.Fields
import QueryAudit.Corpus.Index
import QueryAudit.UsedFields.Basic

/-! The fields that a corpus uses: a field is used if any operation or fragment selects it. -/
namespace QueryAudit.UsedFields

/-- All bound fields of a corpus, document by document. -/
def selections (schema : Schema) (index : CorpusIndex) : List BoundField :=
  index.documents.flatMap fun d => schema.boundFields d.node

def pair (bound : BoundField) : String × String := (bound.parent.name, bound.head.name.text)

def ofCorpus (schema : Schema) (index : CorpusIndex) : UsedFields :=
  ofPairs ((selections schema index).map pair)

def logged (schema : Schema) (index : CorpusIndex) : Logged UsedFields :=
  let used := ofCorpus schema index
  ⟨[.usedFieldsComputed index.size (selections schema index).length used.size], used⟩

end QueryAudit.UsedFields
