import QueryAudit.Proofs.Corpus.Documents
import QueryAudit.Proofs.Depth.Agreement

/-! What the closure of a root and the check of its depth depend on. The search for a closure looks
up the names that it finds and those that it misses, so corpora that agree on these names give the
same closure, down to the places of what is missing, and the same violations. Other documents may
come and go. -/
namespace QueryAudit

namespace Closure

/-- The names that the search for a closure has looked up. -/
def lookedUp (closure : Closure) : List String := closure.names ++ closure.missingNames

/-- A document bears a name that the search has looked up. -/
def asksFor (closure : Closure) (d : CorpusDocument) : Bool :=
  d.node.fragmentName?.any (· ∈ closure.lookedUp)

end Closure

namespace Depth

variable {root : CorpusDocument} {index other : CorpusIndex}
  {documents others : List CorpusDocument}

/-- Two corpora are the same to a root: in its closure, and in its violations, whether they are
looked for with the closure or with all fragments. -/
structure SameTo (root : CorpusDocument) (index other : CorpusIndex) : Prop where
  closure : Closure.resolve other root = Closure.resolve index root
  depth : ∀ limits, check limits root (Closure.resolve other root).fragments =
    check limits root (Closure.resolve index root).fragments
  depthWithAll : ∀ limits, check limits root other.fragments = check limits root index.fragments

theorem SameTo.of_closure (same : Closure.resolve other root = Closure.resolve index root) :
    SameTo root index other where
  closure := same
  depth _ := by rw [same]
  depthWithAll limits := by
    rw [check_eq, check_eq, ← rootHits_resolve, ← rootHits_resolve, same]

theorem SameTo.of_agree
    (agree : ∀ name ∈ (Closure.resolve index root).lookedUp,
      other.fragment? name = index.fragment? name) : SameTo root index other := by
  refine .of_closure (Closure.follow_eq_of_agree fun name found => ?_)
  exact agree name (List.mem_append.mpr found)

/-- Documents of which the search asks for the same ones, in the same order, agree on all names that
it looks up. -/
theorem fragment?_eq_of_asksFor {closure : Closure} {name : String}
    (same : others.filter closure.asksFor = documents.filter closure.asksFor)
    (looked : name ∈ closure.lookedUp) :
    (CorpusIndex.ofDocuments others).fragment? name =
      (CorpusIndex.ofDocuments documents).fragment? name := by
  have asked (d : CorpusDocument) (named : d.node.fragmentName? = some name) :
      closure.asksFor d = true := by
    simp [Closure.asksFor, named, looked]
  rw [← CorpusIndex.fragment?_filter fun d _ => asked d, same,
    CorpusIndex.fragment?_filter fun d _ => asked d]

/-- What a root depends on: the fragments that its search looks up by name. The order of documents
does not matter to it if their names are distinct, and documents that bear no name which was looked
up, operations among them, can be added and taken away anywhere. -/
structure DependsOnLookedUp (root : CorpusDocument) : Prop where
  agreeing : ∀ index other : CorpusIndex,
    (∀ name, name ∈ (Closure.resolve index root).names ∨
      name ∈ (Closure.resolve index root).missingNames →
        other.fragment? name = index.fragment? name) → SameTo root index other
  anyOrder : ∀ documents reordered : List CorpusDocument, reordered.Perm documents →
    (CorpusIndex.ofDocuments documents).DistinctNames →
      SameTo root (.ofDocuments documents) (.ofDocuments reordered)
  unrelated : ∀ documents others : List CorpusDocument,
    others.filter (Closure.resolve (.ofDocuments documents) root).asksFor =
      documents.filter (Closure.resolve (.ofDocuments documents) root).asksFor →
    SameTo root (.ofDocuments documents) (.ofDocuments others)

/-- Closures and violations depend only on what the root reaches. -/
theorem dependsOnLookedUp (root : CorpusDocument) : DependsOnLookedUp root where
  agreeing _ _ agree := .of_agree fun name looked => agree name (List.mem_append.mp looked)
  anyOrder _ _ perm distinct :=
    .of_agree fun name _ => CorpusIndex.fragment?_perm perm distinct name
  unrelated _ _ same := .of_agree fun _ looked => fragment?_eq_of_asksFor same looked

end Depth

end QueryAudit
