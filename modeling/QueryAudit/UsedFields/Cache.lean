import QueryAudit.UsedFields.Corpus

/-! A store of used fields, kept per schema and corpus. Both are told apart by identity, not by
content, and an entry keeps hold of what it was computed from. -/
namespace QueryAudit

/-- A value with its identity. -/
structure Ref (α : Type) where
  id : Nat
  value : α
deriving Repr, Inhabited

namespace UsedFields

structure CacheEntry where
  schema : Ref Schema
  index : Ref CorpusIndex
  used : Ref UsedFields
deriving Repr, Inhabited

structure Cache where
  entries : List CacheEntry := []
  /-- How often used fields were computed; each result takes the next number for its identity. -/
  builds : Nat := 0
deriving Repr, Inhabited

namespace Cache

def find? (cache : Cache) (schema : Ref Schema) (index : Ref CorpusIndex) : Option CacheEntry :=
  cache.entries.find? fun e => e.schema.id == schema.id && e.index.id == index.id

def contains (cache : Cache) (schema : Ref Schema) (index : Ref CorpusIndex) : Bool :=
  (cache.find? schema index).isSome

def size (cache : Cache) : Nat := cache.entries.length

/-- Fetches the used fields, or computes and keeps them. -/
def fetch (schema : Ref Schema) (index : Ref CorpusIndex) (cache : Cache) :
    Logged (Ref UsedFields × Cache) :=
  match cache.find? schema index with
  | some entry => ⟨[.usedFieldsCacheHit index.value.size], (entry.used, cache)⟩
  | none =>
    let computed := logged schema.value index.value
    let used : Ref UsedFields := ⟨cache.builds, computed.value⟩
    ⟨computed.events, (used, ⟨cache.entries ++ [⟨schema, index, used⟩], cache.builds + 1⟩)⟩

/-- Drops all entries. -/
def invalidate (cache : Cache) : Cache := { cache with entries := [] }

end Cache

end UsedFields

end QueryAudit
