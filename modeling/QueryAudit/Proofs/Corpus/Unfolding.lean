import QueryAudit.Proofs.Corpus.Closure

/-! The order in which a closure is found. The search settles a name for good where it first meets
it. Whoever unfolds every spread anew, and stops only where a fragment would come to stand inside
itself, meets the same names over and over again, but for the first time in the same order. -/
namespace QueryAudit.Closure

/-- The names met when the spreads of a body are unfolded in document order, each of them to its
end before the next. `path` holds the fragments that the body stands inside of; a spread of one of
these is cut. A name that stands for nothing is met and leads no further. -/
def unfolding (index : CorpusIndex) (path : List String) : List Selection → List String
  | [] => []
  | .field _ body :: rest => unfolding index path body ++ unfolding index path rest
  | .inline _ body :: rest => unfolding index path body ++ unfolding index path rest
  | .spread head :: rest =>
    let name := head.name.text
    let here :=
      if name ∈ path then []
      else
        match _found : index.fragment? name with
        | none => [name]
        | some f => name :: unfolding index (name :: path) f.node.body
    here ++ unfolding index path rest
termination_by selections =>
  total (fun f => sizeOf f.node.body) (unsettled index path) + sizeOf selections
decreasing_by
  all_goals first
    | exact Nat.lt_of_le_of_lt (total_unsettled_add_le (fun f => sizeOf f.node.body)
        (by assumption) _found) (Nat.lt_add_of_pos_right (by rw [List.cons.sizeOf_spec]; omega))
    | simp only [List.cons.sizeOf_spec, Selection.field.sizeOf_spec, Selection.inline.sizeOf_spec]
      omega

variable {index : CorpusIndex} {path settled other : List String} {body rest : List Selection}
  {f : Sourced Fragment} {name : String}

/-- Unfolding goes down a body and, at a spread, into a fragment that it is not inside of. -/
@[elab_as_elim]
theorem unfolding_induction (index : CorpusIndex) {motive : List String → List Selection → Prop}
    (nil : ∀ path, motive path [])
    (field : ∀ path head body rest, motive path body → motive path rest →
      motive path (.field head body :: rest))
    (inline : ∀ path head body rest, motive path body → motive path rest →
      motive path (.inline head body :: rest))
    (spread : ∀ path (head : SpreadHead) rest,
      (∀ f, head.name.text ∉ path → index.fragment? head.name.text = some f →
        motive (head.name.text :: path) f.node.body) →
      motive path rest → motive path (.spread head :: rest))
    (path : List String) (body : List Selection) : motive path body := by
  refine unfolding.induct index motive nil ?_ ?_ ?_ path body
  · exact fun path head body rest => field path head body rest
  · exact fun path head body rest => inline path head body rest
  · exact fun path head rest inside after => spread path head rest
      (fun f fresh found => inside fresh f found) after

theorem unfolding_spread (head : SpreadHead) :
    unfolding index path (.spread head :: rest) =
      (if head.name.text ∈ path then []
        else head.name.text :: (index.fragment? head.name.text).elim [] fun f =>
          unfolding index (head.name.text :: path) f.node.body) ++
      unfolding index path rest := by
  rw [unfolding]
  congr 1
  split
  · rfl
  · split
    · next unknown => rw [unknown, Option.elim_none]
    · next f found => rw [found, Option.elim_some]

theorem mem_unfolding_spread (head : SpreadHead) :
    name ∈ unfolding index path (.spread head :: rest) ↔
      (head.name.text ∉ path ∧ (name = head.name.text ∨
        ∃ f, index.fragment? head.name.text = some f ∧
          name ∈ unfolding index (head.name.text :: path) f.node.body)) ∨
      name ∈ unfolding index path rest := by
  rw [unfolding_spread, List.mem_append]
  refine or_congr_left ?_
  by_cases cut : head.name.text ∈ path
  · simp [cut]
  · cases index.fragment? head.name.text <;> simp [cut]

/-- No name is met inside of itself. -/
theorem not_mem_path_of_unfolding (met : name ∈ unfolding index path body) : name ∉ path := by
  induction path, body using unfolding_induction index with
  | nil path =>
    rw [unfolding] at met
    simp at met
  | field path head body rest inside after =>
    rw [unfolding, List.mem_append] at met
    exact met.elim inside after
  | inline path head body rest inside after =>
    rw [unfolding, List.mem_append] at met
    exact met.elim inside after
  | spread path head rest inside after =>
    rcases (mem_unfolding_spread head).mp met with ⟨fresh, rfl | ⟨f, found, below⟩⟩ | later
    · exact fresh
    · exact fun member => inside f fresh found below (List.mem_cons_of_mem _ member)
    · exact after later

/-- Names are settled for good unless they are on the path: what a settled name leads to next is
settled as well. -/
structure Explored (index : CorpusIndex) (path settled : List String) : Prop where
  entered : ∀ name ∈ path, name ∈ settled
  onward : ∀ name ∈ settled, name ∉ path → ∀ next, index.SpreadsTo name next → next ∈ settled

theorem explored_path (index : CorpusIndex) (path : List String) : Explored index path path :=
  ⟨fun _ member => member, fun _ member away => absurd member away⟩

/-- Going into a fragment puts its name on the path. -/
theorem Explored.enter (explored : Explored index path settled) (name : String) :
    Explored index (name :: path) (name :: settled) := by
  constructor
  · intro other member
    rcases List.mem_cons.mp member with rfl | member
    · exact List.mem_cons_self
    · exact List.mem_cons_of_mem _ (explored.entered other member)
  · intro other member away next edge
    rw [List.mem_cons, not_or] at away
    have old := (List.mem_cons.mp member).resolve_left away.1
    exact List.mem_cons_of_mem _ (explored.onward other old away.2 next edge)

/-- Where all spreads of a body are settled, unfolding it meets nothing but settled names. -/
theorem Explored.mem_of_unfolding (explored : Explored index path settled)
    (longer : ∀ name ∈ path, name ∈ other) (spreads : ∀ name, SpreadIn name body → name ∈ settled)
    (met : name ∈ unfolding index other body) : name ∈ settled := by
  induction other, body using unfolding_induction index with
  | nil other =>
    rw [unfolding] at met
    simp at met
  | field other head body rest inside after =>
    simp only [spreadIn_field, or_imp, forall_and] at spreads
    rw [unfolding, List.mem_append] at met
    exact met.elim (inside longer spreads.1) (after longer spreads.2)
  | inline other head body rest inside after =>
    simp only [spreadIn_inline, or_imp, forall_and] at spreads
    rw [unfolding, List.mem_append] at met
    exact met.elim (inside longer spreads.1) (after longer spreads.2)
  | spread other head rest inside after =>
    simp only [spreadIn_spread, or_imp, forall_and, forall_eq'] at spreads
    rcases (mem_unfolding_spread head).mp met with ⟨fresh, rfl | ⟨f, found, below⟩⟩ | later
    · exact spreads.1
    · have away : head.name.text ∉ path := fun member => fresh (longer _ member)
      refine inside f fresh found (fun name member => List.mem_cons_of_mem _ (longer name member))
        (fun next spread => ?_) below
      exact explored.onward _ spreads.1 away next ⟨f, found, spread⟩
    · exact after longer spreads.2 later

section Search

variable {spread : Sourced SpreadHead} {behind : List (Sourced SpreadHead)}

/-- What one search finds, and then another. -/
def append (first second : Closure) : Closure :=
  ⟨first.fragments ++ second.fragments, first.missing ++ second.missing⟩

/-- The names that are settled after a search. -/
def settledBy (closure : Closure) (settled : List String) : List String :=
  closure.names ++ closure.missingNames ++ settled

theorem mem_settledBy {closure : Closure} : name ∈ closure.settledBy settled ↔
    name ∈ closure.names ∨ name ∈ closure.missingNames ∨ name ∈ settled := by
  simp [settledBy]

theorem append_assoc (first second third : Closure) :
    (first.append second).append third = first.append (second.append third) := by
  simp [append]

theorem mem_settledBy_append (first second : Closure) (settled : List String) (name : String) :
    name ∈ second.settledBy (first.settledBy settled) ↔
      name ∈ (first.append second).settledBy settled := by
  simp only [mem_settledBy, append, names, missingNames, List.map_append, List.mem_append]
  grind

theorem follow_settled (old : spread.node.name.text ∈ settled) :
    follow index settled (spread :: behind) = follow index settled behind := by
  rw [follow, if_pos old]

theorem follow_found (fresh : spread.node.name.text ∉ settled)
    (found : index.fragment? spread.node.name.text = some f) :
    follow index settled (spread :: behind) = append ⟨[f], []⟩
      (follow index (spread.node.name.text :: settled) (pending f f.node.body ++ behind)) := by
  rw [follow]
  simp only [if_neg fresh]
  split
  · next g known =>
    cases found.symm.trans known
    rfl
  · next unknown => simp [found] at unknown

theorem follow_missing (fresh : spread.node.name.text ∉ settled)
    (unknown : index.fragment? spread.node.name.text = none) :
    follow index settled (spread :: behind) = append
      ⟨[], [⟨spread.node.name.text, spread.locate spread.node.position, spread.sourcePath⟩]⟩
      (follow index (spread.node.name.text :: settled) behind) := by
  rw [follow]
  simp only [if_neg fresh]
  split
  · next f found => simp [unknown] at found
  · rfl

/-- The order in which names were settled does not matter to the search. -/
theorem follow_congr (index : CorpusIndex) (settled : List String)
    (ahead : List (Sourced SpreadHead)) :
    ∀ other, (∀ name, name ∈ settled ↔ name ∈ other) →
      follow index settled ahead = follow index other ahead := by
  fun_induction follow index settled ahead with
  | case1 settled =>
    intro other same
    rw [follow]
  | case2 settled spread rest name old ih =>
    intro other same
    rw [follow_settled ((same _).mp old), ih other same]
  | case3 settled spread rest name fresh f found closure ih =>
    intro other same
    rw [follow_found (mt (same _).mpr fresh) found, ← ih _ fun n => by simp [name, same n]]
    rfl
  | case4 settled spread rest name fresh unknown closure missing ih =>
    intro other same
    rw [follow_missing (mt (same _).mpr fresh) unknown, ← ih _ fun n => by simp [name, same n]]
    rfl

/-- Spreads that stand behind others are followed once these are done with. -/
theorem follow_append (index : CorpusIndex) (settled : List String)
    (ahead behind : List (Sourced SpreadHead)) :
    follow index settled (ahead ++ behind) = append (follow index settled ahead)
      (follow index ((follow index settled ahead).settledBy settled) behind) := by
  fun_induction follow index settled ahead with
  | case1 settled => simp [append, settledBy, names, missingNames]
  | case2 settled spread rest name old ih => rw [List.cons_append, follow_settled old, ih]
  | case3 settled spread rest name fresh f found closure ih =>
    have named : settledBy ⟨[f], []⟩ settled = name :: settled := by
      rw [← (lastNamed_some found).2]
      rfl
    rw [List.cons_append, follow_found fresh found, ← List.append_assoc, ih, ← append_assoc,
      ← named, follow_congr _ _ _ _ (mem_settledBy_append _ _ _), named]
    rfl
  | case4 settled spread rest name fresh unknown closure missing ih =>
    have named : settledBy ⟨[], [missing]⟩ settled = name :: settled := rfl
    rw [List.cons_append, follow_missing fresh unknown, ih, ← append_assoc, ← named,
      follow_congr _ _ _ _ (mem_settledBy_append _ _ _)]
    rfl

/-- After a search, every name that came up in it is settled for good. -/
theorem Explored.follow (explored : Explored index path settled)
    (spreads : List (Sourced SpreadHead)) :
    Explored index path ((follow index settled spreads).settledBy settled) := by
  have reached : ∀ name, name ∈ (Closure.follow index settled spreads).settledBy settled ↔
      index.Reaches settled (· ∈ spreads.map (·.node.name.text)) name ∨ name ∈ settled := by
    intro name
    rw [mem_settledBy, (follow_exact ..).names, (follow_exact ..).missing]
    cases index.fragment? name <;> simp
  constructor
  · intro name member
    exact (reached name).mpr (.inr (explored.entered name member))
  · intro name member away next edge
    rw [reached]
    by_cases old : next ∈ settled
    · exact .inr old
    · rcases (reached name).mp member with met | before
      · exact .inl (.step met edge old)
      · exact .inr (explored.onward name before away next edge)

end Search

/-- The names of a list that are not settled yet, in the order of their first occurrences. -/
def news (settled met : List String) : List String := (met.filter (· ∉ settled)).eraseDups

theorem mem_news {met : List String} : name ∈ news settled met ↔ name ∈ met ∧ name ∉ settled := by
  simp [news]

theorem news_append {first second : List String}
    (after : ∀ name, name ∈ other ↔ name ∈ settled ∨ name ∈ first) :
    news settled (first ++ second) = news settled first ++ news other second := by
  rw [news, List.filter_append, List.eraseDups_append, List.removeAll, List.filter_filter]
  congr 2
  refine List.filter_congr fun name _ => ?_
  have settles := after name
  grind

theorem news_eq_nil {met : List String} (old : ∀ name ∈ met, name ∈ settled) :
    news settled met = [] := by
  rw [news, List.filter_eq_nil_iff.mpr (by simpa using old), List.eraseDups_nil]

theorem news_fresh (fresh : name ∉ settled) (met : List String) :
    news settled (name :: met) = name :: news (name :: settled) met := by
  have after : ∀ n, n ∈ name :: settled ↔ n ∈ settled ∨ n ∈ [name] := by simp [or_comm]
  have here : news settled [name] = [name] := by simp [news, fresh, List.eraseDups_cons]
  rw [← List.singleton_append, news_append after, here, List.singleton_append]

theorem news_congr {met : List String} (same : ∀ name ∈ met, name ∈ settled ↔ name ∈ other) :
    news settled met = news other met := by
  rw [news, news, List.filter_congr]
  intro name member
  simp [same name member]

theorem news_filter (keep : String → Bool) (met : List String) (settled : List String) :
    (news settled met).filter keep = news settled (met.filter keep) := by
  induction met generalizing settled with
  | nil => rfl
  | cons name rest ih =>
    by_cases old : name ∈ settled
    · have skipped (list : List String) : news settled (name :: list) = news settled list := by
        simp [news, old]
      rw [skipped, ih, List.filter_cons]
      split
      · rw [skipped]
      · rfl
    · rw [news_fresh old, List.filter_cons, List.filter_cons, ih]
      split
      · rw [news_fresh old]
      · next dropped =>
        refine news_congr fun n member => ?_
        have apart : n ≠ name := by
          rintro rfl
          exact dropped (List.mem_filter.mp member).2
        simp [apart]

/-- A closure lists the names of a list: apart those that stand for something and those that stand
for nothing. -/
structure Lists (index : CorpusIndex) (closure : Closure) (found : List String) : Prop where
  names : closure.names = found.filter fun name => (index.fragment? name).isSome
  missing : closure.missingNames = found.filter fun name => (index.fragment? name).isNone

theorem Lists.empty : Lists index {} [] := ⟨rfl, rfl⟩

theorem Lists.append {closure second : Closure} {found more : List String}
    (first : Lists index closure found) (next : Lists index second more) :
    Lists index (closure.append second) (found ++ more) := by
  constructor
  · rw [List.filter_append, ← first.names, ← next.names]
    exact List.map_append
  · rw [List.filter_append, ← first.missing, ← next.missing]
    exact List.map_append

theorem Lists.mem_settledBy {closure : Closure} {found : List String}
    (lists : Lists index closure found) :
    name ∈ closure.settledBy settled ↔ name ∈ found ∨ name ∈ settled := by
  rw [Closure.mem_settledBy, lists.names, lists.missing]
  cases known : index.fragment? name <;> simp [known]

/-- What is found one after the other, by searches and by unfolding. -/
theorem Explored.lists_append {ahead behind : List (Sourced SpreadHead)} {met more : List String}
    (explored : Explored index path settled)
    (first : Lists index (Closure.follow index settled ahead) (news settled met))
    (second : ∀ settled, Explored index path settled →
      Lists index (Closure.follow index settled behind) (news settled more)) :
    Lists index (Closure.follow index settled (ahead ++ behind)) (news settled (met ++ more)) := by
  have after : ∀ name, name ∈ (Closure.follow index settled ahead).settledBy settled ↔
      name ∈ settled ∨ name ∈ met := by
    intro name
    rw [first.mem_settledBy, mem_news]
    grind
  rw [follow_append, news_append after]
  exact first.append (second _ (explored.follow ahead))

/-- At a spread, the search and unfolding find the same. Unfolding goes into a fragment again that
the search is done with, but meets nothing new there. -/
theorem Explored.lists_spread (explored : Explored index path settled) (spread : Sourced SpreadHead)
    (inside : ∀ f, spread.node.name.text ∉ path →
      index.fragment? spread.node.name.text = some f →
      Lists index (Closure.follow index (spread.node.name.text :: settled) (pending f f.node.body))
        (news (spread.node.name.text :: settled)
          (unfolding index (spread.node.name.text :: path) f.node.body))) :
    Lists index (Closure.follow index settled [spread]) (news settled
      (if spread.node.name.text ∈ path then []
        else spread.node.name.text :: (index.fragment? spread.node.name.text).elim [] fun f =>
          unfolding index (spread.node.name.text :: path) f.node.body)) := by
  by_cases cut : spread.node.name.text ∈ path
  · rw [if_pos cut, follow_settled (explored.entered _ cut), Closure.follow]
    exact .empty
  rw [if_neg cut]
  by_cases old : spread.node.name.text ∈ settled
  · rw [follow_settled old, Closure.follow, news_eq_nil]
    · exact .empty
    · intro name met
      rcases List.mem_cons.mp met with rfl | below
      · exact old
      · cases found : index.fragment? spread.node.name.text with
        | none => simp [found] at below
        | some f =>
          rw [found, Option.elim_some] at below
          exact explored.mem_of_unfolding (fun n member => List.mem_cons_of_mem _ member)
            (fun next edge => explored.onward _ old cut next ⟨f, found, edge⟩) below
  · rw [news_fresh old]
    cases found : index.fragment? spread.node.name.text with
    | none =>
      rw [follow_missing old found, Closure.follow]
      constructor <;> simp [append, names, missingNames, news, found]
    | some f =>
      have here : Lists index ⟨[f], []⟩ [spread.node.name.text] := by
        constructor <;> simp [names, missingNames, found, (lastNamed_some found).2]
      rw [follow_found old found, List.append_nil, Option.elim_some]
      exact here.append (inside f cut found)

/-- The search from a body finds what unfolding it meets, everything where it is met first. -/
theorem lists_unfolding (index : CorpusIndex) (path : List String) (body : List Selection) :
    ∀ settled, Explored index path settled → ∀ {α : Type} (s : Sourced α),
      Lists index (follow index settled (pending s body))
        (news settled (unfolding index path body)) := by
  induction path, body using unfolding_induction index with
  | nil path =>
    intro settled explored α s
    have nothing : pending s [] = [] := rfl
    rw [unfolding, nothing, follow]
    exact .empty
  | field path head body rest inside after =>
    intro settled explored α s
    have split : pending s (.field head body :: rest) = pending s body ++ pending s rest :=
      List.map_append
    rw [unfolding, split]
    exact explored.lists_append (inside settled explored s) fun settled explored =>
      after settled explored s
  | inline path head body rest inside after =>
    intro settled explored α s
    have split : pending s (.inline head body :: rest) = pending s body ++ pending s rest :=
      List.map_append
    rw [unfolding, split]
    exact explored.lists_append (inside settled explored s) fun settled explored =>
      after settled explored s
  | spread path head rest inside after =>
    intro settled explored α s
    have split : pending s (.spread head :: rest) = pending s [.spread head] ++ pending s rest :=
      rfl
    rw [unfolding_spread, split]
    refine explored.lists_append ?_ fun settled explored => after settled explored s
    exact explored.lists_spread (s.map fun _ => head) fun f fresh found =>
      inside f fresh found _ (explored.enter _) f

/-- A closure lists what unfolding its root meets, in the order of the first meetings: the
fragments by their names, and apart from them the names that stand for nothing. Unfolding cuts a
spread only of a fragment that it is inside of, to begin with the root itself. -/
theorem resolve_eq_unfolding (index : CorpusIndex) (root : CorpusDocument) :
    (resolve index root).names =
      ((unfolding index root.node.fragmentName?.toList root.node.body).filter
        fun name => (index.fragment? name).isSome).eraseDups ∧
    (resolve index root).missingNames =
      ((unfolding index root.node.fragmentName?.toList root.node.body).filter
        fun name => (index.fragment? name).isNone).eraseDups := by
  have lists := lists_unfolding index _ root.node.body _
    (explored_path index root.node.fragmentName?.toList) root
  have first (keep : String → Bool) : (news root.node.fragmentName?.toList
      (unfolding index root.node.fragmentName?.toList root.node.body)).filter keep =
      ((unfolding index root.node.fragmentName?.toList root.node.body).filter keep).eraseDups := by
    rw [news_filter, news, List.filter_eq_self.mpr]
    intro name member
    simpa using not_mem_path_of_unfolding (List.mem_filter.mp member).1
  exact ⟨lists.names.trans (first _), lists.missing.trans (first _)⟩

end QueryAudit.Closure
