import QueryAudit.Proofs.Depth.Chains

/-! What a check of depth reports: every field that the walk hits, once, in the order in which the
first chains to these fields are met. A field is known by its address, since chains that come to
the same address come to the same field. -/
namespace QueryAudit.Depth

variable {limits : DepthLimits} {root : CorpusDocument} {fragments : List (Sourced Fragment)}
  {s t : Scope} {chain : List Link} {levels i : Nat} {trail : List Nat} {n m : FieldNode}

/-- What lies inside the selection that a path leads to. -/
def bodyAt (body : List Selection) (path : List Nat) : Option (List Selection) :=
  path.foldlM (fun body i => body[i]?.map (·.inner)) body

/-- The selections that addresses of an owner are counted from: of a fragment, or of the root. -/
def ownerBody (root : CorpusDocument) (fragments : List (Sourced Fragment)) :
    Option String → Option (Sourced (List Selection))
  | none => some (root.map (·.body))
  | some name => (lastNamed name fragments).map (·.map (·.body))

/-- A scope holds the selections that its place says. -/
def Scope.Stands (root : CorpusDocument) (fragments : List (Sourced Fragment)) (s : Scope) : Prop :=
  ∃ owner, ownerBody root fragments s.place.node.fragment = some owner ∧
    s.place = owner.map (fun _ => s.place.node) ∧
    bodyAt owner.node s.place.node.path = some s.body

theorem stands_ofRoot (root : CorpusDocument) (fragments : List (Sourced Fragment)) :
    (Scope.ofRoot root).Stands root fragments :=
  ⟨root.map (·.body), rfl, rfl, rfl⟩

theorem Scope.Stands.child (stands : s.Stands root fragments)
    (found : s.body[i]? = some selection) (crossed : List String) :
    Scope.Stands root fragments ⟨crossed, s.place.child i, selection.inner⟩ := by
  obtain ⟨owner, owned, placed, inside⟩ := stands
  refine ⟨owner, owned, ?_, ?_⟩
  · rw [placed]
    rfl
  · simp only [bodyAt, Place.child, Sourced.map] at inside ⊢
    simp [List.foldlM_append, inside, found]

theorem Enters.stands (enters : Enters fragments s link t)
    (stands : s.Stands root fragments) : t.Stands root fragments := by
  cases enters with
  | field found => exact stands.child found _
  | inline found => exact stands.child found _
  | @spread i head f _ _ known =>
    refine ⟨f.map (·.body), ?_, rfl, rfl⟩
    simp [Place.ofFragment, Sourced.map, ownerBody, (Closure.lastNamed_some known).2, known]

theorem Scope.Stands.along (stands : s.Stands root fragments)
    (steps : Chain fragments s chain t) : t.Stands root fragments :=
  Steps.invariant (fun _ _ _ enters => enters.stands) steps stands

theorem Scope.Stands.unique (first : s.Stands root fragments)
    (second : t.Stands root fragments) (same : s.place.node = t.place.node) :
    s.place = t.place ∧ s.body = t.body := by
  obtain ⟨owner, owned, placed, inside⟩ := first
  obtain ⟨other, ownedToo, placedToo, insideToo⟩ := second
  rw [same] at owned placed inside
  cases owned.symm.trans ownedToo
  exact ⟨placed.trans placedToo.symm, Option.some.inj (inside.symm.trans insideToo)⟩

theorem child_node_inj (p q : Place) (i j : Nat) :
    (p.child i).node = (q.child j).node ↔ p.node = q.node ∧ i = j := by
  rcases p with ⟨⟨owner, path⟩, _, _⟩
  rcases q with ⟨⟨owner', path'⟩, _, _⟩
  simp [Place.child, Sourced.map, and_assoc]

/-- Chains that come to the same address come to the same field. -/
theorem Exceeds.unique {levels' : Nat} {trail' : List Nat}
    (first : Exceeds limits fragments (.ofRoot root) levels trail n)
    (second : Exceeds limits fragments (.ofRoot root) levels' trail' m)
    (same : n.place.node = m.place.node) : n = m := by
  obtain ⟨chain, i, ⟨s, steps, found, placed⟩, _, _⟩ := first
  obtain ⟨chain', j, ⟨t, steps', found', placed'⟩, _, _⟩ := second
  rw [placed, placed', child_node_inj] at same
  -- What a chain has crossed on its way does not matter to where it ends.
  obtain ⟨places, bodies⟩ := ((stands_ofRoot root fragments).along steps).unique
    ((stands_ofRoot root fragments).along steps') same.1
  rw [bodies, same.2, found'] at found
  rw [places, same.2, ← placed'] at placed
  cases n
  cases m
  simp_all

section Firsts

variable [DecidableEq κ] {key : α → κ} {items : List α} {a b : α}

theorem firstsBy_sublist (key : α → κ) (items : List α) : (firstsBy key items).Sublist items := by
  induction items with
  | nil => exact .slnil
  | cons a rest ih => exact (List.filter_sublist.trans ih).cons_cons a

theorem firstsBy_keys_nodup (key : α → κ) (items : List α) :
    ((firstsBy key items).map key).Nodup := by
  induction items with
  | nil => exact .nil
  | cons a rest ih =>
    rw [firstsBy, List.map_cons, List.nodup_cons]
    refine ⟨?_, (List.filter_sublist.map key).nodup ih⟩
    simp

theorem exists_mem_firstsBy (key : α → κ) (member : a ∈ items) :
    ∃ b ∈ firstsBy key items, key b = key a := by
  induction items with
  | nil => simp at member
  | cons first rest ih =>
    by_cases same : key a = key first
    · exact ⟨first, List.mem_cons_self, same.symm⟩
    · rcases List.mem_cons.mp member with rfl | later
      · exact absurd rfl same
      · obtain ⟨b, kept, equal⟩ := ih later
        exact ⟨b, by simp [firstsBy, kept, equal, same], equal⟩

theorem firstsBy_eq_self (distinct : (items.map key).Nodup) : firstsBy key items = items := by
  induction items with
  | nil => rfl
  | cons a rest ih =>
    obtain ⟨fresh, distinct⟩ := List.nodup_cons.mp distinct
    rw [firstsBy, ih distinct, List.filter_eq_self.mpr]
    intro b member
    have apart : key b ≠ key a := fun same => fresh (List.mem_map.mpr ⟨b, member, same⟩)
    simp [apart]

/-- In an ordered list, what is kept comes before everything else with its key. -/
theorem firstsBy_first {before : α → α → Prop} (ordered : items.Pairwise before)
    (kept : a ∈ firstsBy key items) (member : b ∈ items) (same : key b = key a) :
    b = a ∨ before a b := by
  induction items with
  | nil => simp at member
  | cons first rest ih =>
    obtain ⟨front, ordered⟩ := List.pairwise_cons.mp ordered
    rcases List.mem_cons.mp kept with rfl | kept
    · rcases List.mem_cons.mp member with rfl | later
      · exact .inl rfl
      · exact .inr (front b later)
    · obtain ⟨kept, apart⟩ := List.mem_filter.mp kept
      rcases List.mem_cons.mp member with rfl | later
      · simp [same] at apart
      · exact ih ordered kept later

theorem firstsBy_map (key : β → κ) (f : α → β) (items : List α) :
    firstsBy key (items.map f) = (firstsBy (fun a => key (f a)) items).map f := by
  induction items with
  | nil => rfl
  | cons a rest ih => simp [firstsBy, ih, List.filter_map, Function.comp_def]

/-- Which items are kept depends only on which keys are equal. -/
theorem firstsBy_congr [DecidableEq ι] {other : α → ι}
    (same : ∀ a ∈ items, ∀ b ∈ items, key a = key b ↔ other a = other b) :
    firstsBy key items = firstsBy other items := by
  induction items with
  | nil => rfl
  | cons first rest ih =>
    simp only [List.forall_mem_cons] at same
    rw [firstsBy, firstsBy, ih fun a member => (same.2 a member).2]
    congr 1
    refine List.filter_congr fun a kept => ?_
    simp [(same.2 a ((firstsBy_sublist ..).subset kept)).1]

theorem firstsBy_filter (keep : α → Bool) (byKey : ∀ a b, key a = key b → keep a = keep b)
    (items : List α) :
    firstsBy key (items.filter keep) = (firstsBy key items).filter keep := by
  induction items with
  | nil => rfl
  | cons first rest ih =>
    rw [List.filter_cons, firstsBy, List.filter_cons]
    split
    · rw [firstsBy, ih, List.filter_filter, List.filter_filter]
      simp only [Bool.and_comm]
    · next dropped =>
      rw [ih, List.filter_filter]
      refine List.filter_congr fun a _ => ?_
      by_cases same : key a = key first
      · simp [byKey a first same, dropped]
      · simp [same]

theorem firstsBy_append (key : α → κ) (items later : List α) : firstsBy key (items ++ later) =
    firstsBy key items ++ firstsBy key (later.filter (key · ∉ items.map key)) := by
  induction items with
  | nil => simp [firstsBy]
  | cons a rest ih =>
    have apart : (later.filter (key · ∉ rest.map key)).filter (key · ≠ key a) =
        later.filter (key · ∉ (a :: rest).map key) := by
      rw [List.filter_filter]
      exact List.filter_congr fun b _ => by simp
    have kept : firstsBy key (later.filter (key · ∉ (a :: rest).map key)) =
        (firstsBy key (later.filter (key · ∉ rest.map key))).filter (key · ≠ key a) := by
      rw [← apart]
      exact firstsBy_filter _ (fun b c same => by rw [same]) _
    rw [List.cons_append, firstsBy, ih, List.filter_append, ← kept, firstsBy, List.cons_append]

/-- What has no key but itself is kept as in a list without duplicates. -/
theorem firstsBy_self [DecidableEq α] [BEq α] [LawfulBEq α] (items : List α) :
    firstsBy (fun a => a) items = items.eraseDups := by
  induction length : items.length using Nat.strongRecOn generalizing items with
  | ind size ih =>
    cases items with
    | nil => rfl
    | cons a rest =>
      have shorter : (rest.filter fun b => !b == a).length < size := by
        have := List.length_filter_le (fun b => !b == a) rest
        simp only [List.length_cons] at length
        omega
      rw [firstsBy, List.eraseDups_cons, ← ih _ shorter _ rfl,
        firstsBy_filter _ (fun b c same => by rw [same])]
      congr 1
      exact List.filter_congr fun b _ => by by_cases same : b = a <;> simp [same]

end Firsts

/-- The hits of a walk from a root, each trail's own. -/
def rootHits (limits : DepthLimits) (root : CorpusDocument) (fragments : List (Sourced Fragment)) :
    List Violation :=
  hits limits root.node.displayName (enterableFrom root fragments) (.ofRoot root) 0 0 root.node.body

theorem check_eq (limits : DepthLimits) (root : CorpusDocument)
    (fragments : List (Sourced Fragment)) :
    check limits root fragments =
      firstsBy (fun v => (v.address, v.depth)) (rootHits limits root fragments) := rfl

theorem rootHits_depthFirst (limits : DepthLimits) (root : CorpusDocument)
    (fragments : List (Sourced Fragment)) :
    DepthFirst (Reports limits root.node.displayName fragments (.ofRoot root) limits.maxDepth)
      (rootHits limits root fragments) :=
  (hits_depthFirst (s := .ofRoot root) (uncrossed_enterableFrom root fragments) (Nat.zero_le _)
    rfl).of_behind_zero fun _ => not_reports_nil

variable {v w : Violation}

/-- Hits at the same address are the same. -/
theorem rootHits_unique (first : v ∈ rootHits limits root fragments)
    (second : w ∈ rootHits limits root fragments) (same : v.address = w.address) : v = w := by
  obtain ⟨_, n, exceeds, rfl⟩ := ((rootHits_depthFirst ..).mem_iff v).mp first
  obtain ⟨_, m, exceedsToo, rfl⟩ := ((rootHits_depthFirst ..).mem_iff w).mp second
  rw [exceeds.unique exceedsToo same]

theorem rootHits_depth (hit : v ∈ rootHits limits root fragments) :
    v.depth = limits.maxDepth + 1 := by
  obtain ⟨_, n, _, rfl⟩ := ((rootHits_depthFirst ..).mem_iff v).mp hit
  rfl

/-- Every hit is reported, since what is kept in its place is the same. -/
theorem mem_check_iff : v ∈ check limits root fragments ↔ v ∈ rootHits limits root fragments := by
  rw [check_eq]
  refine ⟨(firstsBy_sublist ..).mem, fun hit => ?_⟩
  obtain ⟨w, kept, same⟩ := exists_mem_firstsBy (fun v => (v.address, v.depth)) hit
  rwa [← rootHits_unique ((firstsBy_sublist ..).mem kept) hit (congrArg Prod.fst same)]

/-- Telling of violations what tells them apart, once each, is telling the same of all hits and
leaving out what was told before. -/
theorem map_check [DecidableEq τ] [BEq τ] [LawfulBEq τ] {tell : Violation → τ}
    (apart : ∀ v w, tell v = tell w → v.address = w.address) :
    (check limits root fragments).map tell =
      ((rootHits limits root fragments).map tell).eraseDups := by
  rw [← firstsBy_self, firstsBy_map, check_eq]
  congr 1
  refine firstsBy_congr fun v first w second => ⟨fun same => ?_, fun same => ?_⟩
  · rw [rootHits_unique first second (congrArg Prod.fst same)]
  · rw [rootHits_unique first second (apart v w same)]

/-- The first trail that leads to a field which is to be reported. -/
def FirstTrail (limits : DepthLimits) (root : CorpusDocument) (fragments : List (Sourced Fragment))
    (address : Address) (trail : List Nat) : Prop :=
  (∃ n, Exceeds limits fragments (.ofRoot root) limits.maxDepth trail n ∧ n.place.node = address) ∧
    ∀ other n, Exceeds limits fragments (.ofRoot root) limits.maxDepth other n →
      n.place.node = address → other = trail ∨ Earlier trail other

/-- What is kept of hits that are listed with their trails stands with the first of them. -/
theorem firstTrail_of_kept {trailed : List (List Nat × Violation)}
    (members : ∀ trail v, (trail, v) ∈ trailed ↔
      Reports limits root.node.displayName fragments (.ofRoot root) limits.maxDepth trail v)
    (ordered : trailed.Pairwise fun x y => Earlier x.1 y.1)
    (kept : (trail, v) ∈ firstsBy (fun x => (x.2.address, x.2.depth)) trailed) :
    FirstTrail limits root fragments v.address trail := by
  obtain ⟨n, exceeds, rfl⟩ := (members trail v).mp ((firstsBy_sublist ..).mem kept)
  refine ⟨⟨n, exceeds, rfl⟩, fun other m reached same => ?_⟩
  have member := (members other _).mpr ⟨m, reached, rfl⟩
  refine (firstsBy_first ordered kept member ?_).imp_left (congrArg Prod.fst)
  exact Prod.ext same rfl

/-- Reported fields come in the order of the first trails to them. -/
theorem check_inOrder (limits : DepthLimits) (root : CorpusDocument)
    (fragments : List (Sourced Fragment)) :
    (check limits root fragments).Pairwise fun v w => ∃ first second,
      FirstTrail limits root fragments v.address first ∧
        FirstTrail limits root fragments w.address second ∧ Earlier first second := by
  -- The first hits are chosen from the hits with their trails, so that their order is at hand.
  obtain ⟨trailed, listed, members, ordered⟩ := rootHits_depthFirst limits root fragments
  rw [check_eq, ← listed, firstsBy_map, List.pairwise_map]
  refine (ordered.sublist (firstsBy_sublist ..)).imp_of_mem ?_
  intro x y first second earlier
  exact ⟨x.1, y.1, firstTrail_of_kept members ordered first,
    firstTrail_of_kept members ordered second, earlier⟩

/-- An address is reported once, as there is only one depth to report it with. -/
theorem check_addresses_nodup (limits : DepthLimits) (root : CorpusDocument)
    (fragments : List (Sourced Fragment)) :
    ((check limits root fragments).map (·.address)).Nodup := by
  have keys : ((check limits root fragments).map fun v => (v.address, v.depth)).Nodup :=
    firstsBy_keys_nodup ..
  have constant : ((check limits root fragments).map fun v => (v.address, v.depth)) =
      ((check limits root fragments).map (·.address)).map (·, limits.maxDepth + 1) := by
    rw [List.map_map]
    refine List.map_congr_left fun v reported => ?_
    simp [rootHits_depth (mem_check_iff.mp reported)]
  exact List.Nodup.of_map _ (constant ▸ keys)

/-- An account of the fields that nest too deep: all of them and nothing else, each once and with
the depth after the last one allowed, in the order in which their first chains are met. -/
structure Account (limits : DepthLimits) (root : CorpusDocument)
    (fragments : List (Sourced Fragment)) (violations : List Violation) : Prop where
  members : ∀ v, v ∈ violations ↔ ∃ trail n,
    Exceeds limits fragments (.ofRoot root) limits.maxDepth trail n ∧
      n.violation limits root.node.displayName = v
  once : (violations.map (·.address)).Nodup
  depth : ∀ v ∈ violations, v.depth = limits.maxDepth + 1
  inOrder : violations.Pairwise fun v w => ∃ first second,
    FirstTrail limits root fragments v.address first ∧
      FirstTrail limits root fragments w.address second ∧ Earlier first second

/-- Reported are exactly the fields at the end of a chain with as many counted fields on it as
there may be levels. -/
theorem check_account (limits : DepthLimits) (root : CorpusDocument)
    (fragments : List (Sourced Fragment)) :
    Account limits root fragments (check limits root fragments) where
  members v := mem_check_iff.trans ((rootHits_depthFirst ..).mem_iff v)
  once := check_addresses_nodup limits root fragments
  depth _ reported := rootHits_depth (mem_check_iff.mp reported)
  inOrder := check_inOrder limits root fragments

end QueryAudit.Depth
