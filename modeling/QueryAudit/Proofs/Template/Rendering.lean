import QueryAudit.Proofs.Json.Members
import QueryAudit.Proofs.Json.Numbers
import QueryAudit.Proofs.Results
import QueryAudit.Template.Reader

/-! What comes of a template, node by node. A part that leaves whole lines for one item leaves the
lines of all items, one after the other; and a template that only puts values into a text fails for
nothing but a value under its own name or an integer that is too long. -/
namespace QueryAudit

/-- Lines as a text, each with its line break. -/
def unlines (lines : List String) : String := String.join (lines.map (· ++ "\n"))

section Lines

variable {lines : List String}

theorem toList_unlines (lines : List String) :
    (unlines lines).toList = lines.flatMap fun line => line.toList ++ ['\n'] := by
  simp [unlines, List.flatMap_def, List.map_map, Function.comp_def]

theorem unlines_append (lines others : List String) :
    unlines (lines ++ others) = unlines lines ++ unlines others := by
  rw [← String.toList_inj, String.toList_append]
  simp only [toList_unlines, List.flatMap_append]

theorem unlines_cons (line : String) (lines : List String) :
    unlines (line :: lines) = line ++ "\n" ++ unlines lines := by
  simp [unlines]

/-- Lines that hold no line break are found again in the text they make up. -/
theorem splitOn_unlines (single : ∀ line ∈ lines, '\n' ∉ line.toList) :
    (unlines lines).toList.splitOn '\n' = lines.map String.toList ++ [[]] := by
  rw [toList_unlines]
  induction lines with
  | nil => rfl
  | cons line lines ih =>
    obtain ⟨here, later⟩ := List.forall_mem_cons.mp single
    have inside : ∀ c ∈ line.toList, (c == '\n') = false := by
      intro c listed
      rw [beq_eq_false_iff_ne]
      rintro rfl
      exact here listed
    rw [List.flatMap_cons, List.append_assoc, List.singleton_append, List.splitOn_eq_splitOnP,
      List.splitOnP_append_cons_of_forall_mem inside '\n' rfl, ← List.splitOn_eq_splitOnP, ih later]
    rfl

end Lines

theorem Json.print_eq_ok_iff {value : Json} {text : String} :
    value.print = .ok text ↔ value.Short ∧ value.display = text := by
  rw [print, ← isShort_iff]
  cases value.isShort <;> simp

namespace Template

/-- Work that comes to a text exactly where something holds. -/
def Gives (work : Except PrintError String) (holds : Prop) (text : String) : Prop :=
  ∀ found, work = .ok found ↔ holds ∧ text = found

section Gives

variable {work : Except PrintError String} {holds holdsToo : Prop} {text textToo name : String}
  {scope : Members} {node : Node} {rest body : List Node} {items expr : Expr}

theorem Gives.congr (gives : Gives work holds text) (same : holds ↔ holdsToo)
    (sameText : text = textToo) : Gives work holdsToo textToo := by
  rw [← sameText]
  exact fun found => (gives found).trans (and_congr_left' same)

theorem Gives.ok (gives : Gives work holds text) (here : holds) : work = .ok text :=
  (gives text).mpr ⟨here, rfl⟩

/-- What comes first, and then what comes behind it. -/
theorem Gives.append {later : Except PrintError String} (first : Gives work holds text)
    (others : Gives later holdsToo textToo) :
    Gives (do let here ← work; return here ++ (← later)) (holds ∧ holdsToo) (text ++ textToo) := by
  intro found
  simp only [bind_eq_ok_iff, first _, others _, pure, Except.pure, Except.ok.injEq]
  constructor
  · rintro ⟨_, ⟨here, rfl⟩, _, ⟨behind, rfl⟩, rfl⟩
    exact ⟨⟨here, behind⟩, rfl⟩
  · rintro ⟨⟨here, behind⟩, rfl⟩
    exact ⟨text, ⟨here, rfl⟩, textToo, ⟨behind, rfl⟩, rfl⟩

theorem gives_nil : Gives (renderAll scope []) True "" := by
  simp [Gives, renderAll]

theorem Gives.cons (first : Gives (node.render scope) holds text)
    (others : Gives (renderAll scope rest) holdsToo textToo) :
    Gives (renderAll scope (node :: rest)) (holds ∧ holdsToo) (text ++ textToo) := by
  rw [renderAll]
  exact first.append others

theorem gives_text (content : String) : Gives ((Node.text content).render scope) True content := by
  simp [Gives, Node.render]

theorem gives_output {value : Json} (found : expr.eval scope = .ok (some value)) :
    Gives ((Node.output expr).render scope) value.Short value.display := by
  rw [Node.render, found]
  exact fun _ => Json.print_eq_ok_iff

/-- A value, or else a text, is given where the value can be written. -/
theorem gives_orElse {value : Json} (found : expr.eval scope = .ok (some value)) (other : String) :
    Gives ((Node.output (.orElse expr (.text other))).render scope) value.Short
      (if value.isFalsy then other else value.display) := by
  cases falsy : value.isFalsy with
  | true =>
    have chosen : (Expr.orElse expr (.text other)).eval scope = .ok (some (.str other)) := by
      simp [Expr.eval, found, ok_bind, isFalsy, falsy]
    refine (gives_output chosen).congr ?_ rfl
    exact iff_of_true (Json.short_str other) (Json.short_of_isFalsy falsy)
  | false =>
    have chosen : (Expr.orElse expr (.text other)).eval scope = .ok (some value) := by
      rw [Expr.eval, found, ok_bind, isFalsy, Option.all_some, falsy]
      rfl
    exact gives_output chosen

/-- If each item comes to whole lines where something holds of it, all items come to all their lines
where it holds of every one. -/
theorem gives_mapM {give : α → Except PrintError String} {holds : α → Prop}
    {lines : α → List String} (each : ∀ a, Gives (give a) (holds a) (unlines (lines a)))
    (sources : List α) : Gives (String.join <$> sources.mapM give) (∀ a ∈ sources, holds a)
      (unlines (sources.flatMap lines)) := by
  induction sources with
  | nil => simp [Gives, unlines, pure, Except.pure]
  | cons a rest ih =>
    have first : String.join <$> (a :: rest).mapM give =
        (do let here ← give a; return here ++ (← String.join <$> rest.mapM give)) := by
      simp [List.mapM_cons]
    rw [first, List.forall_mem_cons, List.flatMap_cons, unlines_append]
    exact (each a).append ih

/-- A part that leaves whole lines for one item leaves the lines of all of them. -/
theorem gives_each {sources : List α} {value : α → Json} {holds : α → Prop}
    {lines : α → List String} (given : items.eval scope = .ok (some (.arr (sources.map value))))
    (step : ∀ a, Gives (renderAll ((name, value a) :: scope) body) (holds a) (unlines (lines a))) :
    Gives ((Node.each name items body).render scope) (∀ a ∈ sources, holds a)
      (unlines (sources.flatMap lines)) := by
  have loop := gives_mapM step sources
  rwa [Node.render, given, ok_bind, parts, Members.parts?, Option.elim_some, ok_bind, List.mapM_map]

end Gives

variable {data : Members} {text : String}

/-- A node with a fixed text, or with a value of the data. -/
def Node.isPlain : Node → Bool
  | .text _ | .output (.name _) => true
  | _ => false

theorem exists_render_plain {node : Node} (plain : node.isPlain = true)
    (short : Json.Short (.obj data)) : ∃ text, node.render data = .ok text := by
  unfold Node.isPlain at plain
  split at plain
  · exact ⟨_, (gives_text _).ok trivial⟩
  next key =>
    cases found : Members.get? key data with
    | none =>
      refine ⟨"", ?_⟩
      rw [Node.render, Expr.eval, found]
      rfl
    | some value =>
      have eval : (Expr.name key).eval data = .ok (some value) := congrArg Except.ok found
      have here := Json.short_obj.mp short _ (Members.mem_of_get? found)
      exact ⟨_, (gives_output eval).ok here⟩
  · cases plain

theorem exists_renderAll_plain {template : Template} (plain : template.all Node.isPlain = true)
    (short : Json.Short (.obj data)) : ∃ text, renderAll data template = .ok text := by
  induction template with
  | nil => exact ⟨"", gives_nil.ok trivial⟩
  | cons node rest ih =>
    rw [List.all_cons, Bool.and_eq_true] at plain
    obtain ⟨here, first⟩ := exists_render_plain plain.1 short
    obtain ⟨later, others⟩ := ih plain.2
    exact ⟨here ++ later, by rw [renderAll, first, ok_bind, others]; rfl⟩

theorem contains_ownName : Members.contains ownName data = true ↔ "self" ∈ data.keys := by
  rw [Members.contains, Option.isSome_iff_ne_none, ne_eq, Members.get?_eq_none_iff, ownName, not_not]

theorem render_eq_of_fresh (fresh : "self" ∉ data.keys) (template : Template) :
    template.render data = renderAll data template :=
  if_neg (contains_ownName.not.mpr fresh)

theorem fresh_of_fill {settings : Settings} {source : String}
    (filled : fill settings source data = .ok text) : "self" ∉ data.keys := by
  intro own
  rw [fill] at filled
  split at filled
  · rw [render, if_pos (contains_ownName.mpr own)] at filled
    cases filled
  · cases filled

/-- The text of a template that only puts values of the data into a text. -/
def IsPlain (settings : Settings) (source : String) : Prop :=
  (read? settings source).map (·.all Node.isPlain) = some true

instance (settings : Settings) (source : String) : Decidable (IsPlain settings source) :=
  inferInstanceAs (Decidable (_ = _))

theorem IsPlain.exists_fill {settings : Settings} {source : String} (plain : IsPlain settings source)
    (fresh : "self" ∉ data.keys) (short : Json.Short (.obj data)) :
    ∃ text, fill settings source data = .ok text := by
  obtain ⟨template, read, plain⟩ := Option.map_eq_some_iff.mp plain
  obtain ⟨text, rendered⟩ := exists_renderAll_plain plain short
  refine ⟨text, ?_⟩
  rw [fill, read]
  exact (render_eq_of_fresh fresh template).trans rendered

end Template

end QueryAudit
