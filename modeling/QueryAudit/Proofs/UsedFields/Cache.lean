import Mathlib.Data.Set.Card
import QueryAudit.Proofs.Corpus.Sketch
import QueryAudit.Proofs.Document.DepthFirst
import QueryAudit.UsedFields.Cache

/-! Runs of a cache. What it answers depends on the calls before alone: it holds the pairs that were
got since it was last invalidated, each with the used fields that were computed when the pair was
got first. The only thing that is asked of a run is that identities tell objects apart that are
alive at the same time. -/
namespace QueryAudit.UsedFields.Cache

/-- A cache keeps what its entries refer to alive, so nothing else can take its identity: what is
held under the identity of the schema or of the index is that one. -/
def Identifies (cache : Cache) (schema : Ref Schema) (index : Ref CorpusIndex) : Prop :=
  ∀ e ∈ cache.entries, (e.schema.id = schema.id → e.schema = schema) ∧
    (e.index.id = index.id → e.index = index)

/-- A call, together with what it answered. -/
inductive Call where
  | got (schema : Ref Schema) (index : Ref CorpusIndex) (used : Ref UsedFields)
  | asked (schema : Ref Schema) (index : Ref CorpusIndex) (held : Bool)
  | invalidated
  | counted (size : Nat)

/-- One call, and the cache after it. Whatever it names is alive. -/
inductive Calls (cache : Cache) : Call → Cache → Prop where
  | get {schema index} : cache.Identifies schema index →
      Calls cache (.got schema index (cache.fetch schema index).value.1)
        (cache.fetch schema index).value.2
  | contains {schema index} : cache.Identifies schema index →
      Calls cache (.asked schema index (cache.contains schema index)) cache
  | invalidate : Calls cache .invalidated cache.invalidate
  | size : Calls cache (.counted cache.size) cache

variable {cache next : Cache} {call : Call} {past history : List Call}
  {schema : Ref Schema} {index : Ref CorpusIndex} {used : Ref UsedFields}

def pairs (cache : Cache) : List (Ref Schema × Ref CorpusIndex) :=
  cache.entries.map fun e => (e.schema, e.index)

theorem mem_pairs :
    (schema, index) ∈ cache.pairs ↔ ∃ used, ⟨schema, index, used⟩ ∈ cache.entries := by
  constructor
  · intro member
    obtain ⟨e, stands, same⟩ := List.mem_map.mp member
    obtain ⟨rfl, rfl⟩ := Prod.mk.inj same
    exact ⟨e.used, stands⟩
  · rintro ⟨used, stands⟩
    exact List.mem_map.mpr ⟨_, stands, rfl⟩

theorem find?_some {e : CacheEntry} (identified : cache.Identifies schema index)
    (found : cache.find? schema index = some e) :
    ∃ used, e = ⟨schema, index, used⟩ ∧ e ∈ cache.entries := by
  have member := List.mem_of_find?_eq_some found
  have ids : e.schema.id = schema.id ∧ e.index.id = index.id := by
    simpa using List.find?_some found
  obtain ⟨rfl, rfl⟩ : e.schema = schema ∧ e.index = index :=
    ⟨(identified e member).1 ids.1, (identified e member).2 ids.2⟩
  exact ⟨e.used, rfl, member⟩

theorem find?_none (missing : cache.find? schema index = none) :
    (schema, index) ∉ cache.pairs := by
  rw [mem_pairs]
  rintro ⟨used, member⟩
  simpa using List.find?_eq_none.mp missing _ member

theorem contains_iff (identified : cache.Identifies schema index) :
    cache.contains schema index = true ↔ (schema, index) ∈ cache.pairs := by
  rw [contains]
  cases found : cache.find? schema index with
  | none => simp [find?_none found]
  | some e =>
    obtain ⟨used, rfl, member⟩ := find?_some identified found
    simpa using mem_pairs.mpr ⟨used, member⟩

/-- The used fields that are computed for a pair, with the next number for their identity. -/
def built (cache : Cache) (schema : Ref Schema) (index : Ref CorpusIndex) : Ref UsedFields :=
  ⟨cache.builds, ofCorpus schema.value index.value⟩

/-- Used fields are either held, or computed and then held. -/
theorem fetch_cases (identified : cache.Identifies schema index) :
    (∃ used, ⟨schema, index, used⟩ ∈ cache.entries ∧
      (cache.fetch schema index).value = (used, cache)) ∨
    ((schema, index) ∉ cache.pairs ∧
      (cache.fetch schema index).value = (cache.built schema index,
        ⟨cache.entries ++ [⟨schema, index, cache.built schema index⟩], cache.builds + 1⟩)) := by
  rw [fetch]
  cases found : cache.find? schema index with
  | none => exact .inr ⟨find?_none found, rfl⟩
  | some e =>
    obtain ⟨used, rfl, member⟩ := find?_some identified found
    exact .inl ⟨used, member, rfl⟩

/-- All that a call can do: nothing, if it gets what is held or only asks; to compute what is not
held; or to drop everything. -/
theorem calls_cases (calls : Calls cache call next) :
    (next = cache ∧ call ≠ .invalidated ∧ ∀ schema index used, call = .got schema index used →
      ⟨schema, index, used⟩ ∈ cache.entries) ∨
    (∃ schema index, (schema, index) ∉ cache.pairs ∧
      call = .got schema index (cache.built schema index) ∧
      next = ⟨cache.entries ++ [⟨schema, index, cache.built schema index⟩], cache.builds + 1⟩) ∨
    (call = .invalidated ∧ next = ⟨[], cache.builds⟩) := by
  cases calls with
  | @get schema index identified =>
    obtain ⟨used, member, answer⟩ | ⟨absent, answer⟩ := fetch_cases identified
    · rw [answer]
      refine .inl ⟨rfl, by simp, fun _ _ _ same => ?_⟩
      cases same
      exact member
    · rw [answer]
      exact .inr (.inl ⟨schema, index, absent, rfl, rfl⟩)
  | contains => exact .inl ⟨rfl, by simp, by simp⟩
  | invalidate => exact .inr (.inr ⟨rfl, rfl⟩)
  | size => exact .inl ⟨rfl, by simp, by simp⟩

/-- A pair was got, and nothing was invalidated since. -/
def Got (past : List Call) (schema : Ref Schema) (index : Ref CorpusIndex) : Prop :=
  ∃ earlier used later, past = earlier ++ .got schema index used :: later ∧ .invalidated ∉ later

theorem not_got_nil : ¬ Got [] schema index := by
  rintro ⟨earlier, used, later, split, _⟩
  simp at split

theorem got_concat : Got (past ++ [call]) schema index ↔
    (∃ used, call = .got schema index used) ∨ call ≠ .invalidated ∧ Got past schema index := by
  constructor
  · rintro ⟨earlier, used, later, split, kept⟩
    rcases List.eq_nil_or_concat later with rfl | ⟨front, last, rfl⟩
    · obtain ⟨rfl, same⟩ := List.append_inj' split rfl
      exact .inl ⟨used, by simpa using same⟩
    · rw [List.concat_eq_append, ← List.cons_append, ← List.append_assoc] at split
      obtain ⟨rfl, same⟩ := List.append_inj' split rfl
      obtain rfl : call = last := by simpa using same
      simp only [List.concat_eq_append, List.mem_append, List.mem_singleton, not_or] at kept
      exact .inr ⟨fun same => kept.2 same.symm, earlier, used, front, rfl, kept.1⟩
  · rintro (⟨used, rfl⟩ | ⟨kept, earlier, used, later, rfl, quiet⟩)
    · exact ⟨past, used, [], rfl, by simp⟩
    · refine ⟨earlier, used, later ++ [call], by simp, ?_⟩
      simpa [quiet] using fun same => kept same.symm

/-- The call at a position got a pair that had not been got since the last invalidation. -/
def FirstGet (history : List Call) (k : Nat) : Prop :=
  ∃ schema index used, history[k]? = some (.got schema index used) ∧
    ¬ Got (history.take k) schema index

theorem firstGet_concat {k : Nat} : FirstGet (past ++ [call]) k ↔ FirstGet past k ∨
    k = past.length ∧ ∃ schema index used, call = .got schema index used ∧
      ¬ Got past schema index := by
  rcases Nat.lt_trichotomy k past.length with inside | rfl | beyond
  · simp [FirstGet, List.getElem?_append_left inside, List.take_append_of_le_length inside.le,
      inside.ne]
  · simp [FirstGet]
  · have outside : past.length + 1 ≤ k := beyond
    simp [FirstGet, List.getElem?_eq_none, outside, beyond.le, beyond.ne']

theorem finite_firstGet (history : List Call) : {k | FirstGet history k}.Finite := by
  refine (Set.finite_lt_nat history.length).subset ?_
  rintro k ⟨schema, index, used, stands, _⟩
  exact (List.getElem?_eq_some_iff.mp stands).1

/-- A call that gets no pair for the first time is not counted. -/
theorem ncard_firstGet_known
    (known : ∀ schema index used, call = .got schema index used → Got past schema index) :
    {k | FirstGet (past ++ [call]) k}.ncard = {k | FirstGet past k}.ncard := by
  congr 1
  ext k
  rw [Set.mem_ofPred_eq, firstGet_concat, or_iff_left]
  · rfl
  · rintro ⟨_, schema, index, used, same, fresh⟩
    exact fresh (known schema index used same)

theorem ncard_firstGet_fresh (fresh : ¬ Got past schema index) :
    {k | FirstGet (past ++ [.got schema index used]) k}.ncard =
      {k | FirstGet past k}.ncard + 1 := by
  have inserted : {k | FirstGet (past ++ [.got schema index used]) k} =
      insert past.length {k | FirstGet past k} := by
    ext k
    rw [Set.mem_ofPred_eq, firstGet_concat, Set.mem_insert_iff, Set.mem_ofPred_eq, or_comm]
    exact or_congr_left (and_iff_left ⟨schema, index, used, rfl, fresh⟩)
  have outside : past.length ∉ {k | FirstGet past k} := by
    rintro ⟨_, _, _, stands, _⟩
    simp at stands
  rw [inserted, Set.ncard_insert_of_notMem outside (finite_firstGet past)]

/-- How the state of a cache follows from the calls before. -/
structure Tracks (past : List Call) (cache : Cache) : Prop where
  held : ∀ schema index, (schema, index) ∈ cache.pairs ↔ Got past schema index
  distinct : cache.pairs.Nodup
  computed : ∀ e ∈ cache.entries, e.used.value = ofCorpus e.schema.value e.index.value
  builds : cache.builds = {k | FirstGet past k}.ncard

namespace Tracks

theorem start : Tracks [] {} where
  held _ _ := by simp [pairs, not_got_nil]
  distinct := List.nodup_nil
  computed := by simp
  builds := by simp [FirstGet]

theorem after (tracks : Tracks past cache) (calls : Calls cache call next) :
    Tracks (past ++ [call]) next := by
  obtain ⟨rfl, quiet, known⟩ | ⟨schema, index, absent, rfl, rfl⟩ | ⟨rfl, rfl⟩ := calls_cases calls
  · have got (schema index used) (same : call = .got schema index used) :
        Got past schema index :=
      (tracks.held schema index).mp (mem_pairs.mpr ⟨used, known schema index used same⟩)
    refine ⟨fun schema index => ?_, tracks.distinct, tracks.computed, ?_⟩
    · rw [tracks.held, got_concat]
      exact ⟨fun old => .inr ⟨quiet, old⟩, fun now => now.elim (fun ⟨used, same⟩ =>
        got schema index used same) And.right⟩
    · rw [tracks.builds, ncard_firstGet_known got]
  · have fresh : ¬ Got past schema index := fun got => absent ((tracks.held _ _).mpr got)
    refine ⟨fun schema' index' => ?_, ?_, ?_, ?_⟩
    · rw [got_concat, ← tracks.held]
      simp [pairs, or_comm, eq_comm]
    · simpa [pairs] using tracks.distinct.concat absent
    · exact List.forall_mem_append.mpr ⟨tracks.computed, List.forall_mem_singleton.mpr rfl⟩
    · rw [ncard_firstGet_fresh fresh, tracks.builds]
  · refine ⟨fun schema index => ?_, List.nodup_nil, by simp, ?_⟩
    · simp [pairs, got_concat]
    · rw [tracks.builds, ncard_firstGet_known (by simp)]

theorem run (tracks : Tracks past cache) (run : Steps Calls cache history next) :
    Tracks (past ++ history) next := by
  induction run generalizing past with
  | nil => simpa using tracks
  | cons calls _ ih => simpa using ih (tracks.after calls)

theorem of_start (run : Steps Calls {} history cache) : Tracks history cache := start.run run

theorem used_eq {again : Ref UsedFields} (tracks : Tracks past cache)
    (member : ⟨schema, index, used⟩ ∈ cache.entries)
    (other : ⟨schema, index, again⟩ ∈ cache.entries) : again = used := by
  have same := List.inj_on_of_nodup_map tracks.distinct other member rfl
  exact congrArg CacheEntry.used same

theorem size (tracks : Tracks past cache) :
    cache.size = {pair : Ref Schema × Ref CorpusIndex | Got past pair.1 pair.2}.ncard := by
  classical
  have pairs : {pair : Ref Schema × Ref CorpusIndex | Got past pair.1 pair.2} =
      (cache.pairs.toFinset : Set _) := by
    ext pair
    simp [tracks.held]
  rw [pairs, Set.ncard_coe_finset, List.toFinset_card_of_nodup tracks.distinct, Cache.pairs,
    List.length_map, Cache.size]

end Tracks

/-- What was got is held from then on. -/
theorem held_of_got (calls : Calls cache (.got schema index used) next) :
    ⟨schema, index, used⟩ ∈ next.entries := by
  obtain ⟨rfl, _, known⟩ | ⟨_, _, _, same, rfl⟩ | ⟨same, _⟩ := calls_cases calls
  · exact known _ _ _ rfl
  · cases same
    simp
  · cases same

theorem held_after {e : CacheEntry} (calls : Calls cache call next) (quiet : call ≠ .invalidated)
    (member : e ∈ cache.entries) : e ∈ next.entries := by
  obtain ⟨rfl, _, _⟩ | ⟨_, _, _, _, rfl⟩ | ⟨same, _⟩ := calls_cases calls
  · exact member
  · exact List.mem_append_left _ member
  · exact absurd same quiet

theorem held_run {e : CacheEntry} (run : Steps Calls cache history next)
    (quiet : .invalidated ∉ history) (member : e ∈ cache.entries) : e ∈ next.entries := by
  induction run with
  | nil => exact member
  | cons calls _ ih =>
    rw [List.mem_cons, not_or] at quiet
    exact ih quiet.2 (held_after calls (Ne.symm quiet.1) member)

theorem builds_le (calls : Calls cache call next) : cache.builds ≤ next.builds := by
  obtain ⟨rfl, _⟩ | ⟨_, _, _, _, rfl⟩ | ⟨_, rfl⟩ := calls_cases calls
  · exact Nat.le_refl _
  · exact Nat.le_succ _
  · exact Nat.le_refl _

theorem builds_le_run (run : Steps Calls cache history next) : cache.builds ≤ next.builds := by
  induction run with
  | nil => exact Nat.le_refl _
  | cons calls _ ih => exact Nat.le_trans (builds_le calls) ih

/-- The used fields that are held have numbers that were given out since a certain one. -/
structure Numbered (low : Nat) (cache : Cache) : Prop where
  given : low ≤ cache.builds
  since : ∀ e ∈ cache.entries, low ≤ e.used.id
  before : ∀ e ∈ cache.entries, e.used.id < cache.builds

theorem Numbered.start : Numbered 0 {} := ⟨Nat.le_refl _, by simp, by simp⟩

theorem Numbered.after {low : Nat} (numbered : Numbered low cache) (calls : Calls cache call next) :
    Numbered low next := by
  obtain ⟨rfl, _⟩ | ⟨_, _, _, _, rfl⟩ | ⟨_, rfl⟩ := calls_cases calls
  · exact numbered
  · refine ⟨Nat.le_succ_of_le numbered.given, ?_, ?_⟩
    · exact List.forall_mem_append.mpr
        ⟨numbered.since, List.forall_mem_singleton.mpr numbered.given⟩
    · refine List.forall_mem_append.mpr
        ⟨fun e member => ?_, List.forall_mem_singleton.mpr (Nat.lt_succ_self _)⟩
      exact Nat.lt_succ_of_lt (numbered.before e member)
  · exact ⟨numbered.given, by simp, by simp⟩

theorem Numbered.run {low : Nat} (numbered : Numbered low cache)
    (run : Steps Calls cache history next) : Numbered low next :=
  run.invariant (fun _ _ _ calls numbered => Numbered.after numbered calls) numbered

/-- Past an invalidation, only numbers are held that were given out later. -/
theorem numbered_of_invalidated (run : Steps Calls cache history next)
    (dropped : .invalidated ∈ history) : Numbered cache.builds next := by
  obtain ⟨front, back, rfl⟩ := List.append_of_mem dropped
  obtain ⟨before, first, rest⟩ := run.part
  have given := builds_le_run first
  cases rest with
  | cons calls rest =>
    cases calls with
    | invalidate =>
      have emptied : Numbered cache.builds before.invalidate :=
        ⟨given, by simp [invalidate], by simp [invalidate]⟩
      exact emptied.run rest

theorem Tracks.fetch_value (tracks : Tracks past cache)
    (identified : cache.Identifies schema index) :
    (cache.fetch schema index).value.1.value = ofCorpus schema.value index.value :=
  (tracks.after (.get identified)).computed _ (held_of_got (.get identified))

theorem Identifies.fetch (identified : cache.Identifies schema index) :
    (cache.fetch schema index).value.2.Identifies schema index := by
  obtain ⟨used, _, answer⟩ | ⟨_, answer⟩ := fetch_cases identified
  · rw [answer]
    exact identified
  · rw [answer]
    exact List.forall_mem_append.mpr
      ⟨identified, List.forall_mem_singleton.mpr ⟨fun _ => rfl, fun _ => rfl⟩⟩

/-- The answers of a cache are those of its past. -/
structure Faithful (history : List Call) (cache : Cache) : Prop where
  /-- What is got is what the schema and the corpus give. -/
  value : ∀ earlier schema index used later, history = earlier ++ .got schema index used :: later →
    used.value = ofCorpus schema.value index.value
  /-- A pair is got twice as one object unless the cache was invalidated in between. -/
  identity : ∀ earlier schema index used between again later,
    history = earlier ++ .got schema index used :: (between ++ .got schema index again :: later) →
    (again.id = used.id ↔ .invalidated ∉ between)
  /-- Every pair is computed when it is got first, and never else. -/
  builds : cache.builds = {k | FirstGet history k}.ncard
  /-- The size is the number of pairs got since the last invalidation. -/
  size : ∀ earlier size later, history = earlier ++ .counted size :: later →
    size = {pair : Ref Schema × Ref CorpusIndex | Got earlier pair.1 pair.2}.ncard
  contained : ∀ earlier schema index held later,
    history = earlier ++ .asked schema index held :: later →
    (held = true ↔ Got earlier schema index)

theorem run_faithful (run : Steps Calls {} history cache) : Faithful history cache where
  value := by
    rintro earlier schema index used later rfl
    obtain ⟨before, first, rest⟩ := run.part
    cases rest with
    | cons calls _ =>
      have tracks := (Tracks.of_start first).after calls
      exact tracks.computed _ (held_of_got calls)
  identity := by
    rintro earlier schema index used between again later rfl
    obtain ⟨before, first, rest⟩ := run.part
    cases rest with
    | cons got rest =>
      have numbered := (Numbered.start.run first).after got
      obtain ⟨middle, second, rest⟩ := rest.part
      have tracks := ((Tracks.of_start first).after got).run second
      cases rest with
      | cons regot _ =>
        have now := held_of_got regot
        constructor
        · intro same dropped
          have old := numbered.before _ (held_of_got got)
          have new := ((numbered_of_invalidated second dropped).after regot).since _ now
          exact absurd same.symm (Nat.lt_of_lt_of_le old new).ne
        · intro quiet
          have kept := held_after regot (by simp) (held_run second quiet (held_of_got got))
          exact congrArg Ref.id ((tracks.after regot).used_eq kept now)
  builds := (Tracks.of_start run).builds
  size := by
    rintro earlier size later rfl
    obtain ⟨before, first, rest⟩ := run.part
    cases rest with
    | cons calls _ =>
      cases calls
      exact (Tracks.of_start first).size
  contained := by
    rintro earlier schema index held later rfl
    obtain ⟨before, first, rest⟩ := run.part
    cases rest with
    | cons calls _ =>
      cases calls with
      | contains identified => rw [contains_iff identified, (Tracks.of_start first).held]

open Sketch in
/-- A schema is replaced by another one that comes to take its identity. -/
theorem run_faithful_reused :
    let index : Ref CorpusIndex := ⟨0, ⟨[query [field "a" []]], []⟩⟩
    let schema : Ref Schema := ⟨1, ⟨[], {}⟩⟩
    let reused : Ref Schema :=
      ⟨1, ⟨[⟨"Query", .object, [⟨"a", .named "String", none⟩], none⟩], ⟨some "Query", none, none⟩⟩⟩
    let history : List Call := [.got schema index ⟨0, ⟨[]⟩⟩, .got schema index ⟨0, ⟨[]⟩⟩,
      .invalidated, .asked reused index false, .got reused index ⟨1, ⟨[("Query", ["a"])]⟩⟩,
      .counted 1]
    ∃ cache, Steps Calls {} history cache ∧ Faithful history cache := by
  intro index schema reused history
  have empty (cache : Cache) (none : cache.entries = []) (schema index) :
      cache.Identifies schema index := by simp [Identifies, none]
  have held : (fetch schema index {}).value.2.Identifies schema index :=
    List.forall_mem_singleton.mpr ⟨fun _ => rfl, fun _ => rfl⟩
  have run := Steps.cons (Calls.get (empty {} rfl schema index)) (.cons (.get held)
    (.cons .invalidate (.cons (.contains (empty _ rfl reused index))
    (.cons (.get (empty _ rfl reused index)) (.cons .size .nil)))))
  exact ⟨_, run, run_faithful run⟩

end QueryAudit.UsedFields.Cache
