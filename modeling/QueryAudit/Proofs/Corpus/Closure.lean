import QueryAudit.Proofs.Corpus.Named
import QueryAudit.Proofs.Corpus.SpreadGraph

/-! The closure of a root is what the root reaches in the spread graph. The search settles every
name once: a name it has settled is one that later ways avoid, so each step of the search is a step
of `Reaches.settle`. -/
namespace QueryAudit.Closure

def missingNames (closure : Closure) : List String := closure.missing.map (·.name)

/-- What a root reaches along spreads: from its own body, through bodies of the index, and never
by way of its own name. -/
def Reachable (index : CorpusIndex) (root : CorpusDocument) : String → Prop :=
  index.Reaches root.node.fragmentName?.toList (SpreadIn · root.node.body)

/-- A closure holds what a start reaches, everything once. -/
structure Exact (index : CorpusIndex) (avoid : List String) (start : String → Prop)
    (closure : Closure) : Prop where
  fragments : ∀ f, f ∈ closure.fragments ↔
    ∃ name, index.Reaches avoid start name ∧ index.fragment? name = some f
  missing : ∀ name, name ∈ closure.missingNames ↔
    index.Reaches avoid start name ∧ index.fragment? name = none
  namesOnce : closure.names.Nodup
  missingOnce : closure.missingNames.Nodup

namespace Exact

variable {index : CorpusIndex} {avoid : List String} {start : String → Prop} {closure : Closure}

theorem congr {start' : String → Prop} (valid : Exact index avoid start closure)
    (same : ∀ name, start name ↔ start' name) : Exact index avoid start' closure := by
  have equal : start = start' := funext fun name => propext (same name)
  exact equal ▸ valid

theorem names (valid : Exact index avoid start closure) (name : String) :
    name ∈ closure.names ↔ index.Reaches avoid start name ∧ (index.fragment? name).isSome := by
  simp only [Closure.names, List.mem_map, valid.fragments]
  constructor
  · rintro ⟨f, ⟨other, reached, found⟩, rfl⟩
    rw [(lastNamed_some found).2]
    exact ⟨reached, by simp [found]⟩
  · rintro ⟨reached, isFound⟩
    obtain ⟨f, found⟩ := Option.isSome_iff_exists.mp isFound
    exact ⟨f, ⟨name, reached, found⟩, (lastNamed_some found).2⟩

theorem empty : Exact index avoid (fun _ => False) {} := by
  have nowhere (name : String) : ¬ index.Reaches avoid (fun _ => False) name := by
    intro reached
    induction reached with
    | start begun => exact begun
    | step _ _ _ ih => exact ih
  constructor <;> simp [missingNames, Closure.names, nowhere]

theorem skip (valid : Exact index avoid start closure) (avoided : name ∈ avoid) :
    Exact index avoid (fun n => n = name ∨ start n) closure where
  fragments f := by simp only [valid.fragments, CorpusIndex.Reaches.skip avoided]
  missing n := by simp only [valid.missing, CorpusIndex.Reaches.skip avoided]
  namesOnce := valid.namesOnce
  missingOnce := valid.missingOnce

/-- A fragment found at a fresh name stands before what is found behind it. -/
theorem found
    (behind : Exact index (name :: avoid) (fun n => index.SpreadsTo name n ∨ start n) closure)
    (fresh : name ∉ avoid) (found : index.fragment? name = some f) :
    Exact index avoid (fun n => n = name ∨ start n)
      { closure with fragments := f :: closure.fragments } := by
  constructor
  · intro g
    simp only [List.mem_cons, behind.fragments, CorpusIndex.Reaches.settle fresh]
    constructor
    · rintro (rfl | ⟨other, reached, known⟩)
      · exact ⟨name, .inl rfl, found⟩
      · exact ⟨other, .inr reached, known⟩
    · rintro ⟨other, rfl | reached, known⟩
      · exact .inl (Option.some.inj (known.symm.trans found))
      · exact .inr ⟨other, reached, known⟩
  · intro other
    rw [CorpusIndex.Reaches.settle fresh]
    refine (behind.missing other).trans (and_congr_left fun unknown => ?_)
    have apart : other ≠ name := by
      rintro rfl
      simp [found] at unknown
    simp [apart]
  · have away : name ∉ closure.names := by
      rw [behind.names]
      exact fun member => member.1.not_mem_avoid List.mem_cons_self
    rw [← (lastNamed_some found).2] at away
    exact List.nodup_cons.mpr ⟨away, behind.namesOnce⟩
  · exact behind.missingOnce

/-- A fresh name that no fragment bears is the only thing found there. -/
theorem missed
    (behind : Exact index (name :: avoid) (fun n => index.SpreadsTo name n ∨ start n) closure)
    (fresh : name ∉ avoid) (unknown : index.fragment? name = none)
    (location : Option Location) (sourcePath : Label) :
    Exact index avoid (fun n => n = name ∨ start n)
      { closure with missing := ⟨name, location, sourcePath⟩ :: closure.missing } := by
  constructor
  · intro g
    refine (behind.fragments g).trans (exists_congr fun other => and_congr_left fun known => ?_)
    have apart : other ≠ name := by
      rintro rfl
      simp [unknown] at known
    simp [CorpusIndex.Reaches.settle fresh, apart]
  · intro other
    rw [CorpusIndex.Reaches.settle fresh]
    refine List.mem_cons.trans ?_
    change other = name ∨ other ∈ closure.missingNames ↔ _
    rw [behind.missing other]
    constructor
    · rintro (rfl | ⟨reached, absent⟩)
      · exact ⟨.inl rfl, unknown⟩
      · exact ⟨.inr reached, absent⟩
    · rintro ⟨rfl | reached, absent⟩
      · exact .inl rfl
      · exact .inr ⟨reached, absent⟩
  · exact behind.namesOnce
  · have away : name ∉ closure.missingNames := by
      rw [behind.missing]
      exact fun member => member.1.not_mem_avoid List.mem_cons_self
    exact List.nodup_cons.mpr ⟨away, behind.missingOnce⟩

end Exact

/-- The search from any pending spreads, with any names settled before, is exact. -/
theorem follow_exact (index : CorpusIndex) (settled : List String)
    (spreads : List (Sourced SpreadHead)) :
    Exact index settled (· ∈ spreads.map (·.node.name.text)) (follow index settled spreads) := by
  fun_induction follow index settled spreads with
  | case1 settled => exact Exact.empty.congr (by simp)
  | case2 settled spread rest name old ih => exact (ih.skip old).congr (by simp [name])
  | case3 settled spread rest name fresh f found closure ih =>
    have behind : Exact index (name :: settled)
        (fun n => index.SpreadsTo name n ∨ n ∈ rest.map (·.node.name.text)) closure := by
      refine ih.congr fun n => ?_
      rw [List.map_append, List.mem_append, mem_pending, CorpusIndex.spreadsTo_iff found]
    exact (behind.found fresh found).congr (by simp [name])
  | case4 settled spread rest name fresh unknown closure missing ih =>
    have behind : Exact index (name :: settled)
        (fun n => index.SpreadsTo name n ∨ n ∈ rest.map (·.node.name.text)) closure :=
      ih.congr fun n => by simp [CorpusIndex.not_spreadsTo unknown]
    exact (behind.missed fresh unknown _ _).congr (by simp [name])

/-- The search looks up the names that it finds or misses, and no others. -/
theorem follow_eq_of_agree {index other : CorpusIndex} {settled : List String}
    {spreads : List (Sourced SpreadHead)}
    (agree : ∀ name, name ∈ (follow index settled spreads).names ∨
      name ∈ (follow index settled spreads).missingNames →
      other.fragment? name = index.fragment? name) :
    follow other settled spreads = follow index settled spreads := by
  fun_induction follow index settled spreads with
  | case1 => rw [follow]
  | case2 settled spread rest name old ih =>
    rw [follow, if_pos old]
    exact ih agree
  | case3 settled spread rest name fresh f found closure ih =>
    have named : f.node.name.text = name := (lastNamed_some found).2
    have same : other.fragment? name = some f :=
      (agree name (.inl (by simp [Closure.names, named]))).trans found
    have behind := ih fun next member => agree next (member.imp_left (List.mem_cons_of_mem _))
    rw [follow, if_neg fresh]
    split
    · next g known =>
      cases same.symm.trans known
      rw [behind]
    · next unknown => cases same.symm.trans unknown
  | case4 settled spread rest name fresh unknown closure missing ih =>
    have same : other.fragment? name = none :=
      (agree name (.inr (by simp [missingNames, missing]))).trans unknown
    have behind := ih fun next member => agree next (member.imp_right (List.mem_cons_of_mem _))
    rw [follow, if_neg fresh]
    split
    · next g known => cases same.symm.trans known
    · rw [behind]

theorem resolve_exact (index : CorpusIndex) (root : CorpusDocument) :
    Exact index root.node.fragmentName?.toList (SpreadIn · root.node.body) (resolve index root) :=
  (follow_exact ..).congr fun name => mem_pending root root.node.body name

/-- A fragment is in the closure under its own name. -/
theorem mem_resolve_fragments (index : CorpusIndex) (root : CorpusDocument) (f : Sourced Fragment) :
    f ∈ (resolve index root).fragments ↔
      index.fragment? f.node.name.text = some f ∧ Reachable index root f.node.name.text := by
  rw [(resolve_exact index root).fragments]
  constructor
  · rintro ⟨name, reached, found⟩
    rw [(lastNamed_some found).2]
    exact ⟨found, reached⟩
  · rintro ⟨found, reached⟩
    exact ⟨_, reached, found⟩

/-- A name is spread by what was found exactly if its last step leads from there. -/
theorem spread_by_resolved (index : CorpusIndex) (root : CorpusDocument) (name : String) :
    (∃ f ∈ (resolve index root).fragments, SpreadIn name f.node.body) ↔
      ∃ via, Reachable index root via ∧ index.SpreadsTo via name := by
  simp only [(resolve_exact index root).fragments, CorpusIndex.SpreadsTo]
  constructor
  · rintro ⟨f, ⟨via, reached, found⟩, spread⟩
    exact ⟨via, reached, f, found, spread⟩
  · rintro ⟨via, reached, f, found, spread⟩
    exact ⟨f, ⟨via, reached, found⟩, spread⟩

/-- The closure is exactly reachability: the fragments reached, each once and as its name stands
for it, and never the root's own name; and each name once that is spread where the search came by,
is not the root's and stands for nothing. -/
theorem resolve_reachability (index : CorpusIndex) (root : CorpusDocument) :
    (∀ f, f ∈ (resolve index root).fragments ↔
      index.fragment? f.node.name.text = some f ∧ Reachable index root f.node.name.text) ∧
    (resolve index root).names.Nodup ∧
    (∀ name ∈ (resolve index root).names, root.node.fragmentName? ≠ some name) ∧
    (∀ name, name ∈ (resolve index root).missingNames ↔
      (SpreadIn name root.node.body ∨
        ∃ f ∈ (resolve index root).fragments, SpreadIn name f.node.body) ∧
      index.fragment? name = none ∧ root.node.fragmentName? ≠ some name) ∧
    (resolve index root).missingNames.Nodup := by
  have valid := resolve_exact index root
  refine ⟨mem_resolve_fragments index root, valid.namesOnce, ?_, ?_, valid.missingOnce⟩
  · intro name member own
    exact ((valid.names name).mp member).1.not_mem_avoid (by simp [own])
  · intro name
    rw [valid.missing, CorpusIndex.Reaches.iff_last, spread_by_resolved, Option.mem_toList]
    constructor
    · rintro ⟨⟨spread, foreign⟩, unknown⟩
      exact ⟨spread, unknown, foreign⟩
    · rintro ⟨spread, unknown, foreign⟩
      exact ⟨⟨spread, foreign⟩, unknown⟩

/-- A root that no spread can name reaches all that the fragments it reaches lead to. -/
theorem Reachable.trans_of_unnamed {index : CorpusIndex} {root : CorpusDocument}
    (unnamed : root.node.fragmentName? = none) (reached : Reachable index root via)
    (leads : index.Leads via name) : Reachable index root name := by
  induction leads with
  | single edge => exact .step reached edge (by simp [unnamed])
  | tail _ edge ih => exact .step ih edge (by simp [unnamed])

/-- A fragment that its name stands for reaches what its name leads to, itself excepted: of a way
that comes back to the fragment, the last part alone is enough. -/
theorem reachable_fragment {index : CorpusIndex} {f : Sourced Fragment}
    (indexed : index.fragment? f.node.name.text = some f) (name : String) :
    Reachable index (f.map .fragment) name ↔
      index.Leads f.node.name.text name ∧ name ≠ f.node.name.text := by
  change index.Reaches [f.node.name.text] (SpreadIn · f.node.body) name ↔ _
  constructor
  · intro reached
    refine ⟨?_, by simpa using reached.not_mem_avoid⟩
    induction reached with
    | start spread => exact .single ⟨f, indexed, spread⟩
    | step _ edge _ ih => exact ih.tail edge
  · rintro ⟨leads, other⟩
    induction leads with
    | single edge =>
      exact .start ((CorpusIndex.spreadsTo_iff indexed).mp edge) (by simpa using other)
    | @tail via name _ edge ih =>
      by_cases back : via = f.node.name.text
      · subst back
        exact .start ((CorpusIndex.spreadsTo_iff indexed).mp edge) (by simpa using other)
      · exact .step (ih back) edge (by simpa using other)

theorem mem_resolve_names (index : CorpusIndex) (root : CorpusDocument) (name : String) :
    name ∈ (resolve index root).names ↔
      Reachable index root name ∧ (index.fragment? name).isSome :=
  (resolve_exact index root).names name

/-- Looking a name up in the closure: it is there if it is reached. -/
theorem lastNamed_resolve_iff (index : CorpusIndex) (root : CorpusDocument) (name : String)
    (f : Sourced Fragment) :
    lastNamed name (resolve index root).fragments = some f ↔
      Reachable index root name ∧ index.fragment? name = some f := by
  constructor
  · intro found
    obtain ⟨member, rfl⟩ := lastNamed_some found
    exact ((mem_resolve_fragments ..).mp member).symm
  · rintro ⟨reached, found⟩
    have member := ((resolve_exact index root).fragments f).mpr ⟨name, reached, found⟩
    rw [← (lastNamed_some found).2]
    exact lastNamed_of_mem (resolve_exact index root).namesOnce member

/-- In an acyclic corpus no way from a document comes back to it. -/
theorem Reachable.trans_of_acyclic {index : CorpusIndex} {d : CorpusDocument}
    (distinct : index.DistinctNames) (acyclic : index.Acyclic) (member : d ∈ index.documents)
    (reached : Reachable index d via) (leads : index.Leads via name) : Reachable index d name := by
  rcases List.mem_append.mp member with operation | fragment
  · obtain ⟨o, _, rfl⟩ := List.mem_map.mp operation
    exact reached.trans_of_unnamed rfl leads
  · obtain ⟨f, listed, rfl⟩ := List.mem_map.mp fragment
    rw [reachable_fragment (distinct.indexed listed)] at reached ⊢
    have leads := reached.1.trans leads
    refine ⟨leads, ?_⟩
    rintro rfl
    exact acyclic _ leads

end QueryAudit.Closure
