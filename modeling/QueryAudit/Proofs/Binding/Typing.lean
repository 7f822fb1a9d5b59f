import QueryAudit.Binding.Fields
import QueryAudit.Proofs.Document.DepthFirst

/-! Which fields bind. Types are carried inwards by rules: from the root of a definition, through
inline fragments and through the fields that the current type declares. Binding finds exactly the
fields that stand at the type of their selection set and are declared there, in document order. -/
namespace QueryAudit

/-- A type declares a field under a name. Only objects and interfaces declare any. -/
def TypeDef.Declares (t : TypeDef) (name : String) (field : FieldDef) : Prop :=
  (t.kind = .object ∨ t.kind = .interface) ∧ t.fields.find? (·.name = name) = some field

theorem TypeDef.declares_iff {t : TypeDef} {name : String} {field : FieldDef} :
    t.Declares name field ↔ t.field? name = some field := by
  rw [Declares, field?]
  cases t.kind <;> simp [TypeKind.hasFields]

theorem TypeDef.Declares.mem {t : TypeDef} {name : String} {field : FieldDef}
    (declares : t.Declares name field) : field ∈ t.fields :=
  List.mem_of_find?_eq_some declares.2

theorem TypeDef.Declares.name_eq {t : TypeDef} {name : String} {field : FieldDef}
    (declares : t.Declares name field) : field.name = name := by
  simpa using List.find?_some declares.2

/-- What a bound field says of its selection: the type that it is made on and the field of that
type. -/
structure Binding where
  head : FieldHead
  parent : TypeDef
  field : FieldDef

def BoundField.binding (b : BoundField) : Binding := ⟨b.head, b.parent, b.field⟩

namespace Schema

/-- A name stands for a type that selections can be made on. -/
def Composite (schema : Schema) (name : String) (t : TypeDef) : Prop :=
  schema.type? name = some t ∧ (t.kind = .object ∨ t.kind = .interface ∨ t.kind = .union)

theorem composite_iff {schema : Schema} {name : String} {t : TypeDef} :
    schema.Composite name t ↔ schema.composite? name = some t := by
  rw [Composite, composite?, Option.filter_eq_some_iff]
  refine and_congr_right fun _ => ?_
  cases t.kind <;> simp [TypeKind.isComposite]

/-- The type at which a definition starts. -/
inductive StartsAt (schema : Schema) : Executable → TypeDef → Prop where
  | operation {o name t} : schema.roots.get? o.kind = some name → schema.type? name = some t →
      StartsAt schema (.operation o) t
  | fragment {f t} : schema.Composite f.typeCondition.text t → StartsAt schema (.fragment f) t

theorem startsAt_iff {schema : Schema} {definition : Executable} {t : TypeDef} :
    schema.StartsAt definition t ↔ schema.rootType? definition = some t := by
  constructor
  · rintro (⟨named, known⟩ | composite)
    · simp [rootType?, root?, named, known]
    · exact composite_iff.mp composite
  · intro found
    cases definition with
    | operation o =>
      obtain ⟨name, named, known⟩ := Option.bind_eq_some_iff.mp found
      exact .operation named known
    | fragment f => exact .fragment (composite_iff.mpr found)

/-- Selections together with the type that they are made on. -/
structure TypedBody where
  type : TypeDef
  body : List Selection

/-- From typed selections to the typed selections inside one of them. There is no rule for a field
that is not declared, for a condition that names no composite type, and for a spread. -/
inductive Types (schema : Schema) (s : TypedBody) : Nat → TypedBody → Prop where
  | untyped {i head body} : s.body[i]? = some (.inline head body) → head.typeCondition = none →
      Types schema s i ⟨s.type, body⟩
  | conditioned {i head body condition t} : s.body[i]? = some (.inline head body) →
      head.typeCondition = some condition → schema.Composite condition.text t →
      Types schema s i ⟨t, body⟩
  | selected {i head body field t} : s.body[i]? = some (.field head body) →
      s.type.Declares head.name.text field → schema.Composite field.type.baseName t →
      Types schema s i ⟨t, body⟩

/-- A trail leads, through selections that are typed, to a field that its type declares. -/
def BindsBelow (schema : Schema) (s : TypedBody) (trail : List Nat) (b : Binding) : Prop :=
  ∃ outer t position inner, Steps schema.Types s outer t ∧
    t.body[position]? = some (.field b.head inner) ∧ b.parent = t.type ∧
    t.type.Declares b.head.name.text b.field ∧ trail = outer ++ [position]

/-- A trail leads from the root of a definition to a field that binds. -/
def Binds (schema : Schema) (definition : Executable) (trail : List Nat) (b : Binding) : Prop :=
  ∃ start, schema.StartsAt definition start ∧
    schema.BindsBelow ⟨start, definition.body⟩ trail b

variable {schema : Schema} {s : TypedBody} {i : Nat} {rest : List Nat} {b : Binding}
  {body : List Selection}

theorem not_bindsBelow_nil : ¬ schema.BindsBelow s [] b := by
  rintro ⟨outer, t, position, inner, _, _, _, _, split⟩
  simp at split

/-- A trail ends at a field of the selections, or enters one of them and goes on from there. -/
theorem bindsBelow_cons : schema.BindsBelow s (i :: rest) b ↔
    (rest = [] ∧ (∃ inner, s.body[i]? = some (.field b.head inner)) ∧ b.parent = s.type ∧
      s.type.Declares b.head.name.text b.field) ∨
    ∃ t, schema.Types s i t ∧ schema.BindsBelow t rest b := by
  constructor
  · rintro ⟨outer, t, position, inner, steps, stands, parent, declares, split⟩
    cases steps with
    | nil =>
      obtain ⟨rfl, rfl⟩ : i = position ∧ rest = [] := by simpa using split
      exact .inl ⟨rfl, ⟨inner, stands⟩, parent, declares⟩
    | @cons _ _ u more _ first steps =>
      obtain ⟨rfl, rfl⟩ := List.cons.inj split
      exact .inr ⟨u, first, more, t, position, inner, steps, stands, parent, declares, rfl⟩
  · rintro (⟨rfl, ⟨inner, stands⟩, parent, declares⟩ |
      ⟨u, first, outer, t, position, inner, steps, stands, parent, declares, rfl⟩)
    · exact ⟨[], s, i, inner, .nil, stands, parent, declares, rfl⟩
    · exact ⟨i :: outer, t, position, inner, .cons first steps, stands, parent, declares, rfl⟩

theorem bindsBelow_field {head : FieldHead} (stands : s.body[i]? = some (.field head body)) :
    schema.BindsBelow s (i :: rest) b ↔ ∃ field, s.type.Declares head.name.text field ∧
      ((rest = [] ∧ b = ⟨head, s.type, field⟩) ∨
        ∃ t, schema.Composite field.type.baseName t ∧ schema.BindsBelow ⟨t, body⟩ rest b) := by
  rw [bindsBelow_cons]
  constructor
  · rintro (⟨rfl, ⟨inner, same⟩, parent, declares⟩ | ⟨t, types, binds⟩)
    · obtain ⟨rfl, rfl⟩ : head = b.head ∧ body = inner := by simpa [stands] using same
      exact ⟨b.field, declares, .inl ⟨rfl, by rw [← parent]⟩⟩
    · cases types with
      | untyped same => simp [stands] at same
      | conditioned same => simp [stands] at same
      | selected same declares composite =>
        obtain ⟨rfl, rfl⟩ : head = _ ∧ body = _ := by simpa [stands] using same
        exact ⟨_, declares, .inr ⟨_, composite, binds⟩⟩
  · rintro ⟨field, declares, ⟨rfl, rfl⟩ | ⟨t, composite, binds⟩⟩
    · exact .inl ⟨rfl, ⟨body, stands⟩, rfl, declares⟩
    · exact .inr ⟨_, .selected stands declares composite, binds⟩

theorem bindsBelow_inline {head : InlineHead} (stands : s.body[i]? = some (.inline head body)) :
    schema.BindsBelow s (i :: rest) b ↔ ∃ t, ((head.typeCondition = none ∧ s.type = t) ∨
      ∃ condition, head.typeCondition = some condition ∧ schema.Composite condition.text t) ∧
      schema.BindsBelow ⟨t, body⟩ rest b := by
  rw [bindsBelow_cons]
  constructor
  · rintro (⟨_, ⟨inner, same⟩, _⟩ | ⟨t, types, binds⟩)
    · simp [stands] at same
    · cases types with
      | untyped same bare =>
        obtain ⟨rfl, rfl⟩ : head = _ ∧ body = _ := by simpa [stands] using same
        exact ⟨s.type, .inl ⟨bare, rfl⟩, binds⟩
      | conditioned same named composite =>
        obtain ⟨rfl, rfl⟩ : head = _ ∧ body = _ := by simpa [stands] using same
        exact ⟨_, .inr ⟨_, named, composite⟩, binds⟩
      | selected same => simp [stands] at same
  · rintro ⟨t, ⟨bare, rfl⟩ | ⟨condition, named, composite⟩, binds⟩
    · exact .inr ⟨_, .untyped stands bare, binds⟩
    · exact .inr ⟨_, .conditioned stands named composite, binds⟩

/-- Only fields and inline fragments lead anywhere. -/
theorem not_bindsBelow (field : ∀ head inner, s.body[i]? ≠ some (.field head inner))
    (inline : ∀ head inner, s.body[i]? ≠ some (.inline head inner)) :
    ¬ schema.BindsBelow s (i :: rest) b := by
  rw [bindsBelow_cons]
  rintro (⟨_, ⟨inner, stands⟩, _⟩ | ⟨t, types, _⟩)
  · exact field _ _ stands
  · cases types with
    | untyped stands => exact inline _ _ stands
    | conditioned stands => exact inline _ _ stands
    | selected stands => exact field _ _ stands

/-- What is told of the fields that bind below selections, at which trails and in which context, by
the rules of binding. -/
structure FollowsRules (schema : Schema) (tell : BoundField → α)
    (found : TypeContext → List Selection → List Nat → α → Prop) : Prop where
  nil : ∀ context body a, ¬ found context body [] a
  field : ∀ {context parent body i head inner} rest a, context.parent? = some parent →
    body[i]? = some (.field head inner) →
    (found context body (i :: rest) a ↔ ∃ field, parent.Declares head.name.text field ∧
      ((rest = [] ∧ a = tell ⟨head, parent, field, context⟩) ∨
        ∃ t, schema.Composite field.type.baseName t ∧
          found (context.push (some t) (some field)) inner rest a))
  inline : ∀ {context parent body i head inner} rest a, context.parent? = some parent →
    body[i]? = some (.inline head inner) →
    (found context body (i :: rest) a ↔
      (head.typeCondition = none ∧ found context inner rest a) ∨
      ∃ condition t, head.typeCondition = some condition ∧ schema.Composite condition.text t ∧
        found (context.push (some t) context.field?) inner rest a)
  other : ∀ {context body i} rest a, (∀ head inner, body[i]? ≠ some (.field head inner)) →
    (∀ head inner, body[i]? ≠ some (.inline head inner)) → ¬ found context body (i :: rest) a

namespace FollowsRules

variable {tell : BoundField → α} {found : TypeContext → List Selection → List Nat → α → Prop}
  {siblings : List Selection} {context : TypeContext} {parent : TypeDef}

/-- A field that binds is followed by what binds inside it. -/
theorem field_depthFirst {head : FieldHead} (follows : schema.FollowsRules tell found)
    (stands : siblings[i]? = some (.field head body)) (typed : context.parent? = some parent)
    (inside : ∀ t context, context.parent? = some t →
      DepthFirst (found context body) ((schema.bindSelections context body).map tell)) :
    DepthFirst (fun rest a => found context siblings (i :: rest) a)
      ((schema.bindSelection context (.field head body)).map tell) := by
  simp only [bindSelection, typed, follows.field _ _ typed stands, TypeDef.declares_iff,
    composite_iff]
  cases declared : parent.field? head.name.text with
  | none => exact .nothing (by simp)
  | some field =>
    have here := DepthFirst.single [] (tell ⟨head, parent, field, context⟩)
    cases composite : schema.composite? field.type.baseName with
    | none =>
      simp only [composite, List.map_cons, List.map_nil]
      exact here.congr fun trail a => by simp [composite]
    | some t =>
      have below := inside t (context.push (some t) (some field)) (by simp)
      simp only [composite, List.map_cons]
      refine (here.append below ?_).congr fun trail a => by simp [composite]
      rintro _ _ u c ⟨rfl, rfl⟩ binds
      cases u with
      | nil => exact absurd binds (follows.nil _ _ _)
      | cons position trail => exact earlier_nil position trail

/-- An inline fragment binds what its selections bind, at the type that its condition gives. -/
theorem inline_depthFirst {head : InlineHead} (follows : schema.FollowsRules tell found)
    (stands : siblings[i]? = some (.inline head body)) (typed : context.parent? = some parent)
    (inside : ∀ t context, context.parent? = some t →
      DepthFirst (found context body) ((schema.bindSelections context body).map tell)) :
    DepthFirst (fun rest a => found context siblings (i :: rest) a)
      ((schema.bindSelection context (.inline head body)).map tell) := by
  simp only [bindSelection, follows.inline _ _ typed stands, composite_iff]
  cases head.typeCondition with
  | none =>
    refine (inside parent context typed).congr fun trail a => ?_
    simp
  | some condition =>
    cases composite : schema.composite? condition.text with
    | none =>
      simp only [composite]
      exact .nothing (by simp [composite])
    | some t =>
      have below := inside t (context.push (some t) context.field?) (by simp)
      simp only [composite]
      exact below.congr fun trail a => by simp [composite]

/-- Selections bind from a position on what the rules derive there. -/
theorem behind_depthFirst (follows : schema.FollowsRules tell found) (ahead : List Selection) :
    ∀ (siblings : List Selection) (position : Nat) (context : TypeContext) (parent : TypeDef),
      siblings.drop position = ahead → context.parent? = some parent →
      DepthFirst (DepthFirst.Behind position (found context siblings))
        ((schema.bindSelections context ahead).map tell) := by
  induction ahead using selections_induction with
  | nil =>
    intro siblings position context parent split typed
    refine .nothing ?_
    rintro _ a ⟨⟨i, rest, rfl, behind⟩, binds⟩
    have beyond := Nat.le_trans (List.drop_eq_nil_iff.mp split) behind
    have missing : siblings[i]? = none := List.getElem?_eq_none beyond
    exact follows.other rest a (by simp [missing]) (by simp [missing]) binds
  | field head body rest inside after =>
    intro siblings position context parent split typed
    obtain ⟨stands, split⟩ := drop_eq_cons split
    rw [bindSelections, List.map_append]
    refine DepthFirst.siblings ?_ (after siblings (position + 1) context parent split typed)
    refine follows.field_depthFirst stands typed fun t inner known => ?_
    exact (inside body 0 inner t rfl known).of_behind_zero (follows.nil _ _)
  | inline head body rest inside after =>
    intro siblings position context parent split typed
    obtain ⟨stands, split⟩ := drop_eq_cons split
    rw [bindSelections, List.map_append]
    refine DepthFirst.siblings ?_ (after siblings (position + 1) context parent split typed)
    refine follows.inline_depthFirst stands typed fun t inner known => ?_
    exact (inside body 0 inner t rfl known).of_behind_zero (follows.nil _ _)
  | spread head rest after =>
    intro siblings position context parent split typed
    obtain ⟨stands, split⟩ := drop_eq_cons split
    rw [bindSelections, List.map_append]
    refine DepthFirst.siblings ?_ (after siblings (position + 1) context parent split typed)
    exact .nothing fun trail a => follows.other trail a (by simp [stands]) (by simp [stands])

/-- Binding lists what its rules derive, in document order. -/
theorem depthFirst (follows : schema.FollowsRules tell found) (typed : context.parent? = some parent) :
    DepthFirst (found context body) ((schema.bindSelections context body).map tell) :=
  (follows.behind_depthFirst body body 0 context parent rfl typed).of_behind_zero
    (follows.nil _ _)

end FollowsRules

/-- Of the context, bindings show no more than the type that selections are made on. -/
theorem followsRules_bindsBelow : schema.FollowsRules BoundField.binding
    fun context body trail b => ∃ t, context.parent? = some t ∧
      schema.BindsBelow ⟨t, body⟩ trail b where
  nil := by
    rintro context body b ⟨t, _, binds⟩
    exact not_bindsBelow_nil binds
  field rest b typed stands := by
    simp only [typed, Option.some.injEq, exists_eq_left', bindsBelow_field (s := ⟨_, _⟩) stands,
      TypeContext.parent?_push]
    rfl
  inline rest b typed stands := by
    simp only [typed, Option.some.injEq, exists_eq_left', bindsBelow_inline (s := ⟨_, _⟩) stands,
      TypeContext.parent?_push]
    constructor
    · rintro ⟨t, ⟨bare, rfl⟩ | ⟨condition, named, composite⟩, binds⟩
      · exact .inl ⟨bare, binds⟩
      · exact .inr ⟨condition, t, named, composite, binds⟩
    · rintro (⟨bare, binds⟩ | ⟨condition, t, named, composite, binds⟩)
      · exact ⟨_, .inl ⟨bare, rfl⟩, binds⟩
      · exact ⟨t, .inr ⟨condition, named, composite⟩, binds⟩
  other := by
    rintro context body i rest b field inline ⟨t, _, binds⟩
    exact not_bindsBelow field inline binds

theorem bindSelections_depthFirst {context : TypeContext} {t : TypeDef}
    (typed : context.parent? = some t) : DepthFirst (schema.BindsBelow ⟨t, body⟩)
      ((schema.bindSelections context body).map BoundField.binding) := by
  refine (followsRules_bindsBelow.depthFirst typed).congr fun trail b => ?_
  simp [typed]

theorem mem_of_type? {name : String} {t : TypeDef} (found : schema.type? name = some t) :
    t ∈ schema.types :=
  List.mem_of_find?_eq_some found

/-- A type that some name stands for is the one that its own name stands for. -/
theorem type?_name {name : String} {t : TypeDef} (found : schema.type? name = some t) :
    schema.type? t.name = some t := by
  have named : t.name = name := by simpa using List.find?_some found
  rwa [named]

/-- Whatever binds, binds on the type of the schema that the name of its type stands for. -/
theorem Binds.type?_parent {definition : Executable} {trail : List Nat}
    (binds : schema.Binds definition trail b) : schema.type? b.parent.name = some b.parent := by
  obtain ⟨start, starts, outer, t, position, inner, steps, _, parent, _⟩ := binds
  have known : schema.type? start.name = some start := by
    cases starts with
    | operation _ found => exact type?_name found
    | fragment composite => exact type?_name composite.1
  have onward (s : TypedBody) (i : Nat) (u : TypedBody) (types : schema.Types s i u)
      (known : schema.type? s.type.name = some s.type) :
      schema.type? u.type.name = some u.type := by
    cases types with
    | untyped => exact known
    | conditioned _ _ composite => exact type?_name composite.1
    | selected _ _ composite => exact type?_name composite.1
  have reached := Steps.invariant onward steps known
  rwa [parent]

theorem Binds.parent_mem {definition : Executable} {trail : List Nat}
    (binds : schema.Binds definition trail b) : b.parent ∈ schema.types :=
  mem_of_type? binds.type?_parent

theorem Binds.declares {definition : Executable} {trail : List Nat}
    (binds : schema.Binds definition trail b) : b.parent.Declares b.head.name.text b.field := by
  obtain ⟨start, starts, outer, t, position, inner, steps, _, parent, declares, _⟩ := binds
  rwa [parent]

theorem boundFields_of_root {definition : Executable} {start : TypeDef}
    (root : schema.rootType? definition = some start) : schema.boundFields definition =
      schema.bindSelections (TypeContext.push {} (some start)) definition.body := by
  simp [boundFields, rootContext, root, TypeContext.isEmpty, TypeContext.push]

theorem boundFields_of_no_root {definition : Executable} (root : schema.rootType? definition = none) :
    schema.boundFields definition = [] := by
  simp [boundFields, rootContext, root, TypeContext.isEmpty]

theorem mem_boundFields_iff {definition : Executable} :
    (∃ bound ∈ schema.boundFields definition, bound.binding = b) ↔
      ∃ trail, schema.Binds definition trail b := by
  cases root : schema.rootType? definition with
  | none =>
    rw [boundFields_of_no_root root]
    simp [root, Binds, startsAt_iff]
  | some start =>
    have listed : DepthFirst (schema.BindsBelow ⟨start, definition.body⟩) _ :=
      bindSelections_depthFirst (TypeContext.parent?_push {} (some start) none)
    rw [boundFields_of_root root, ← List.mem_map, listed.mem_iff]
    simp [Binds, startsAt_iff, root]

/-- The fields that bind are exactly those that the rules derive, each occurrence once and in
document order, with the type of its selections and the field that this type declares. -/
theorem boundFields_depthFirst (schema : Schema) (definition : Executable) :
    DepthFirst (schema.Binds definition)
      ((schema.boundFields definition).map BoundField.binding) := by
  cases root : schema.rootType? definition with
  | none =>
    rw [boundFields_of_no_root root]
    refine .nothing ?_
    rintro trail b ⟨start, starts, _⟩
    simp [startsAt_iff.mp starts] at root
  | some start =>
    rw [boundFields_of_root root]
    refine (bindSelections_depthFirst (TypeContext.parent?_push _ _ _)).congr fun trail b => ?_
    simp [Binds, startsAt_iff, root]

end Schema

end QueryAudit
