import QueryAudit.Depth.Walk

/-! Which documents of a corpus are checked for depth on their own: every operation, and enough
fragments that each fragment is checked on its own or through another document. Fragments that an
operation reaches are left to it. Of the others, those that no other one reaches come first in
line; what is still not reached then lies on cycles of spreads, each entered at its first
fragment. -/
namespace QueryAudit.Depth

def fragmentDocument (f : Sourced Fragment) : CorpusDocument := f.map .fragment

def reachedBy (index : CorpusIndex) (d : CorpusDocument) : List String :=
  (Closure.resolve index d).names

/-- A fragment's own name and the names it reaches. -/
def coveredBy (index : CorpusIndex) (f : Sourced Fragment) : List String :=
  f.node.name.text :: reachedBy index (fragmentDocument f)

def operationDocuments (index : CorpusIndex) : List CorpusDocument :=
  index.operations.map (·.map .operation)

def coveredByOperations (index : CorpusIndex) : List String :=
  (operationDocuments index).flatMap (reachedBy index)

/-- The fragments that no operation reaches. -/
def standalone (index : CorpusIndex) : List (Sourced Fragment) :=
  let covered := coveredByOperations index
  index.fragments.filter (·.node.name.text ∉ covered)

/-- The names that standalone fragments reach. -/
def spreadNames (index : CorpusIndex) : List String :=
  (standalone index).flatMap fun f => reachedBy index (fragmentDocument f)

/-- The standalone fragments that none of them reaches. -/
def sources (index : CorpusIndex) : List (Sourced Fragment) :=
  let spread := spreadNames index
  (standalone index).filter (·.node.name.text ∉ spread)

/-- The fragments of a list whose names are not covered, where each one taken covers more. -/
def uncovered (index : CorpusIndex) (covered : List String) :
    List (Sourced Fragment) → List (Sourced Fragment)
  | [] => []
  | f :: rest =>
    if f.node.name.text ∈ covered then uncovered index covered rest
    else f :: uncovered index (coveredBy index f ++ covered) rest

/-- The names covered by operations and sources. -/
def coveredBySources (index : CorpusIndex) : List String :=
  coveredByOperations index ++ (sources index).flatMap (coveredBy index)

/-- Fragments on cycles that nothing else enters. -/
def cycleEntries (index : CorpusIndex) : List (Sourced Fragment) :=
  uncovered index (coveredBySources index) (standalone index)

/-- Sources and cycle entries, in corpus order. -/
def chosen (index : CorpusIndex) (spread covered : List String) :
    List (Sourced Fragment) → List (Sourced Fragment)
  | [] => []
  | f :: rest =>
    if f.node.name.text ∉ spread then f :: chosen index spread covered rest
    else if f.node.name.text ∈ covered then chosen index spread covered rest
    else f :: chosen index spread (coveredBy index f ++ covered) rest

def fragmentTargets (index : CorpusIndex) : List (Sourced Fragment) :=
  chosen index (spreadNames index) (coveredBySources index) (standalone index)

def targets (index : CorpusIndex) : List CorpusDocument :=
  operationDocuments index ++ (fragmentTargets index).map fragmentDocument

/-- The documents whose closures are looked at to choose the targets, in that order. -/
def examined (index : CorpusIndex) : List CorpusDocument :=
  operationDocuments index ++
    (standalone index ++ sources index ++ cycleEntries index).map fragmentDocument

def loggedTargets (index : CorpusIndex) : Logged (List CorpusDocument) :=
  ⟨(examined index).flatMap fun d => (Closure.resolve index d).events, targets index⟩

end QueryAudit.Depth
