import QueryAudit.Corpus.Index

/-! Definitions of a corpus given by their names alone, for instances of general statements. -/
namespace QueryAudit.Sketch

def name (text : String) : Name := ⟨text, default⟩

def field (fieldName : String) (body : List Selection) : Selection :=
  .field ⟨none, name fieldName, [], [], default⟩ body

def spread (fragmentName : String) : Selection := .spread ⟨default, name fragmentName, []⟩

def inline (typeName : String) (body : List Selection) : Selection :=
  .inline ⟨default, some (name typeName), [], default⟩ body

def fragment (fragmentName : String) (body : List Selection) : Sourced Fragment :=
  ⟨⟨default, name fragmentName, name "Query", [], default, body⟩, .untracked, ""⟩

def query (body : List Selection) : Sourced Operation :=
  ⟨⟨default, .query, none, [], [], default, body⟩, .untracked, ""⟩

end QueryAudit.Sketch
