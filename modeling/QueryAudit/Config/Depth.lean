import QueryAudit.Config.Error

/-! The options of the depth rule. -/
namespace QueryAudit

structure DepthOptions where
  maxDepth : Nat
  ignore : List String
deriving DecidableEq, Repr, Inhabited

namespace DepthOptions

/-- The limit that holds where none is given. -/
def defaultMaxDepth : Nat := 7

/-- What a value lists: nothing if it counts as absent, else its items, characters or keys. -/
def listed (value : Json) : Except ConfigFailure (List Json) :=
  if value.isFalsy then .ok []
  else
    match value with
    | .arr items => .ok items
    | .str s => .ok (s.toList.map fun c => .str (String.singleton c))
    | .obj members => .ok (members.map fun m => .str m.1)
    | _ => .error .notListable

/-- The limit in force; of its two spellings the first wins. -/
def limit (options : Members) : Json :=
  match Members.get? "maxDepth" options with
  | some value => value
  | none => (Members.get? "max_depth" options).getD (.ofNat defaultMaxDepth)

def read (options : Members) : Except ConfigFailure DepthOptions := do
  let ignore ← listed ((Members.get? "ignore" options).getD .null)
  match (limit options).asNat? with
  | none => throw (.reported (.maxDepth (limit options)))
  | some depth =>
    match ignore.mapM (·.asString?) with
    | none => throw (.reported .ignoreNames)
    | some names => return ⟨depth, names⟩

def toJson (options : DepthOptions) : Json :=
  .obj [("maxDepth", .ofNat options.maxDepth), ("ignore", .strings options.ignore)]

def limits (options : DepthOptions) : DepthLimits :=
  ⟨options.maxDepth, options.ignore.map .name⟩

/-- The limits that options state. They are checked once more, as limits given by hand are. -/
def readLimits (options : Members) : Except ConfigFailure DepthLimits := do
  let options ← read options
  let ignore := options.ignore.map fun name => .value (.str name)
  (DepthLimits.ofValues (.ofNat options.maxDepth) (some ignore)).mapError .ofLimits

end DepthOptions

end QueryAudit
