import QueryAudit.Proofs.Binding.Typing

/-! The contexts of bound fields. A field is bound in a context that tells the way to it: a frame for
the root, and then one frame for each field around it and for each inline fragment with a type
condition. Every frame follows from the one before and from the selection that it stands for, so the
context of a field has nothing to do with what was bound before. -/
namespace QueryAudit

/-- A selection around others, without what it holds. -/
inductive Enclosure where
  | field (head : FieldHead)
  | inline (head : InlineHead)

namespace Enclosure

def isField : Enclosure → Bool
  | field _ => true
  | inline _ => false

/-- An inline fragment with a type condition. -/
def isConditioned : Enclosure → Bool
  | field _ => false
  | inline head => head.typeCondition.isSome

end Enclosure

/-- A trail leads to a field, through the selections that enclose it from the outside in. -/
inductive Encloses : List Selection → List Nat → List Enclosure → FieldHead → Prop where
  | here {body i head inner} : body[i]? = some (.field head inner) → Encloses body [i] [] head
  | field {body i outer inner trail enclosing head} : body[i]? = some (.field outer inner) →
      Encloses inner trail enclosing head →
      Encloses body (i :: trail) (.field outer :: enclosing) head
  | inline {body i outer inner trail enclosing head} : body[i]? = some (.inline outer inner) →
      Encloses inner trail enclosing head →
      Encloses body (i :: trail) (.inline outer :: enclosing) head

namespace Schema

/-- The frames that enclosing selections add after a frame, from the outside in. -/
inductive Frames (schema : Schema) : TypeFrame → List Enclosure → List TypeFrame → Prop where
  | nil {frame} : Frames schema frame [] []
  | field {frame head enclosing frames parent field t} : frame.parent = some parent →
      parent.Declares head.name.text field → schema.Composite field.type.baseName t →
      Frames schema ⟨some t, some field⟩ enclosing frames →
      Frames schema frame (.field head :: enclosing) (⟨some t, some field⟩ :: frames)
  | conditioned {frame head enclosing frames condition t} : head.typeCondition = some condition →
      schema.Composite condition.text t → Frames schema ⟨some t, frame.field⟩ enclosing frames →
      Frames schema frame (.inline head :: enclosing) (⟨some t, frame.field⟩ :: frames)
  | bare {frame head enclosing frames} : head.typeCondition = none →
      Frames schema frame enclosing frames → Frames schema frame (.inline head :: enclosing) frames

variable {schema : Schema} {frame : TypeFrame} {enclosing : List Enclosure}
  {frames others : List TypeFrame} {context : TypeContext}

theorem Composite.unique {name : String} {t u : TypeDef} (first : schema.Composite name t)
    (second : schema.Composite name u) : t = u :=
  Option.some.inj (first.1.symm.trans second.1)

namespace Frames

theorem unique (first : schema.Frames frame enclosing frames)
    (second : schema.Frames frame enclosing others) : frames = others := by
  induction first generalizing others with
  | nil =>
    cases second
    rfl
  | field parent declares composite _ ih =>
    cases second with
    | field parent' declares' composite' rest =>
      cases parent.symm.trans parent'
      cases declares.2.symm.trans declares'.2
      cases composite.unique composite'
      rw [ih rest]
  | conditioned named composite _ ih =>
    cases second with
    | conditioned named' composite' rest =>
      cases named.symm.trans named'
      cases composite.unique composite'
      rw [ih rest]
    | bare none => simp [named] at none
  | bare none _ ih =>
    cases second with
    | conditioned named => simp [none] at named
    | bare _ rest => exact ih rest

theorem length_eq (derived : schema.Frames frame enclosing frames) : frames.length =
    enclosing.countP (·.isField) + enclosing.countP (·.isConditioned) := by
  induction derived with
  | nil => rfl
  | field _ _ _ _ ih =>
    rw [List.length_cons, ih, List.countP_cons_of_pos rfl,
      List.countP_cons_of_neg (by simp [Enclosure.isConditioned])]
    omega
  | conditioned named _ _ ih =>
    rw [List.length_cons, ih, List.countP_cons_of_neg (by simp [Enclosure.isField]),
      List.countP_cons_of_pos (by simp [Enclosure.isConditioned, named])]
    omega
  | bare none _ ih =>
    rw [ih, List.countP_cons_of_neg (by simp [Enclosure.isField]),
      List.countP_cons_of_neg (by simp [Enclosure.isConditioned, none])]

end Frames

/-- A trail leads to a field that binds, and the context of the field goes on from a given one by the
frames of the selections in between. -/
def BindsIn (schema : Schema) (context : TypeContext) (body : List Selection) (trail : List Nat)
    (b : BoundField) : Prop :=
  ∃ frame enclosing frames, context.frames.getLast? = some frame ∧
    Encloses body trail enclosing b.head ∧ schema.Frames frame enclosing frames ∧
    b.context.frames = context.frames ++ frames ∧ b.context.parent? = some b.parent ∧
    b.parent.Declares b.head.name.text b.field

section Rules

variable {body inner : List Selection} {i : Nat} {rest : List Nat} {b : BoundField}
  {parent : TypeDef}

theorem exists_last_frame (typed : context.parent? = some parent) :
    ∃ frame, context.frames.getLast? = some frame ∧ frame.parent = some parent :=
  Option.bind_eq_some_iff.mp typed

@[simp] theorem getLast?_frames_push (context : TypeContext) (type : Option TypeDef)
    (field : Option FieldDef) : (context.push type field).frames.getLast? = some ⟨type, field⟩ := by
  simp [TypeContext.push]

theorem bindsIn_field {head : FieldHead} (typed : context.parent? = some parent)
    (stands : body[i]? = some (.field head inner)) :
    schema.BindsIn context body (i :: rest) b ↔ ∃ field, parent.Declares head.name.text field ∧
      ((rest = [] ∧ b = ⟨head, parent, field, context⟩) ∨
        ∃ t, schema.Composite field.type.baseName t ∧
          schema.BindsIn (context.push (some t) (some field)) inner rest b) := by
  obtain ⟨frame, last, top⟩ := exists_last_frame typed
  constructor
  · rintro ⟨_, enclosing, frames, known, encloses, derived, grown, ends, declares⟩
    cases last.symm.trans known
    cases encloses with
    | here found =>
      cases stands.symm.trans found
      -- nothing lies in between, so the field is bound in the given context itself
      cases derived
      obtain ⟨head, on, field, ⟨held⟩⟩ := b
      obtain rfl : held = context.frames := by simpa using grown
      cases typed.symm.trans ends
      exact ⟨field, declares, .inl ⟨rfl, rfl⟩⟩
    | field found encloses =>
      cases stands.symm.trans found
      cases derived with
      | field above declared composite derived =>
        cases top.symm.trans above
        refine ⟨_, declared, .inr ⟨_, composite, _, _, _, getLast?_frames_push .., encloses, derived,
          ?_, ends, declares⟩⟩
        simpa [TypeContext.push] using grown
    | inline found => simp [stands] at found
  · rintro ⟨field, declared, ⟨rfl, rfl⟩ | ⟨t, composite, inside⟩⟩
    · exact ⟨frame, [], [], last, .here stands, .nil, (List.append_nil _).symm, typed, declared⟩
    · obtain ⟨_, enclosing, frames, known, encloses, derived, grown, ends, declares⟩ := inside
      cases (getLast?_frames_push ..).symm.trans known
      refine ⟨frame, _, _, last, .field stands encloses, .field top declared composite derived, ?_,
        ends, declares⟩
      simpa [TypeContext.push] using grown

theorem bindsIn_inline {head : InlineHead} (typed : context.parent? = some parent)
    (stands : body[i]? = some (.inline head inner)) :
    schema.BindsIn context body (i :: rest) b ↔
      (head.typeCondition = none ∧ schema.BindsIn context inner rest b) ∨
      ∃ condition t, head.typeCondition = some condition ∧ schema.Composite condition.text t ∧
        schema.BindsIn (context.push (some t) context.field?) inner rest b := by
  obtain ⟨frame, last, top⟩ := exists_last_frame typed
  -- a condition changes the type only, and its frame keeps the field that led there
  have led : context.field? = frame.field := by simp [TypeContext.field?, last]
  constructor
  · rintro ⟨_, enclosing, frames, known, encloses, derived, grown, ends, declares⟩
    cases last.symm.trans known
    cases encloses with
    | here found => simp [stands] at found
    | field found => simp [stands] at found
    | inline found encloses =>
      cases stands.symm.trans found
      cases derived with
      | conditioned named composite derived =>
        refine .inr ⟨_, _, named, composite, _, _, _, getLast?_frames_push .., encloses,
          led ▸ derived, ?_, ends, declares⟩
        simpa [TypeContext.push, led] using grown
      | bare none derived =>
        exact .inl ⟨none, frame, _, _, last, encloses, derived, grown, ends, declares⟩
  · rintro (⟨none, inside⟩ | ⟨condition, t, named, composite, inside⟩)
    · obtain ⟨_, enclosing, frames, known, encloses, derived, rest⟩ := inside
      cases last.symm.trans known
      exact ⟨frame, _, _, last, .inline stands encloses, .bare none derived, rest⟩
    · obtain ⟨_, enclosing, frames, known, encloses, derived, grown, ends, declares⟩ := inside
      cases (getLast?_frames_push ..).symm.trans known
      rw [led] at derived grown
      refine ⟨frame, _, _, last, .inline stands encloses, .conditioned named composite derived, ?_,
        ends, declares⟩
      simpa [TypeContext.push] using grown

/-- Contexts, too, are those that the rules of binding give. -/
theorem followsRules_bindsIn : schema.FollowsRules id schema.BindsIn where
  nil := by
    rintro context body b ⟨_, _, _, _, encloses, _⟩
    cases encloses
  field _ _ typed stands := bindsIn_field typed stands
  inline _ _ typed stands := bindsIn_inline typed stands
  other := by
    rintro context body i rest b field inline ⟨_, _, _, _, encloses, _⟩
    cases encloses with
    | here found => exact field _ _ found
    | field found => exact field _ _ found
    | inline found => exact inline _ _ found

end Rules

/-- The context that a field is bound in tells the way from a root through the selections around it:
one frame for the root, and one for each field and each type condition on the way. -/
structure ContextAlong (schema : Schema) (root : TypeDef) (enclosing : List Enclosure)
    (b : BoundField) : Prop where
  first : b.context.frames.head? = some ⟨some root, none⟩
  last : ∃ frame, b.context.frames.getLast? = some frame ∧ frame.parent = some b.parent
  depth : b.context.depth =
    1 + enclosing.countP (·.isField) + enclosing.countP (·.isConditioned)
  later : schema.Frames ⟨some root, none⟩ enclosing b.context.frames.tail

theorem contextAlong_iff {root : TypeDef} {b : BoundField} :
    schema.ContextAlong root enclosing b ↔ ∃ frames,
      schema.Frames ⟨some root, none⟩ enclosing frames ∧
      b.context.frames = ⟨some root, none⟩ :: frames ∧ b.context.parent? = some b.parent := by
  constructor
  · rintro ⟨first, last, _, later⟩
    obtain ⟨frames, split⟩ := List.head?_eq_some_iff.mp first
    rw [split, List.tail_cons] at later
    exact ⟨frames, later, split, Option.bind_eq_some_iff.mpr last⟩
  · rintro ⟨frames, derived, split, ends⟩
    refine ⟨by rw [split, List.head?_cons], Option.bind_eq_some_iff.mp ends, ?_, ?_⟩
    · rw [TypeContext.depth, split, List.length_cons, derived.length_eq]
      omega
    · rwa [split, List.tail_cons]

/-- From the same root and through the same selections, every way has the same context. -/
theorem ContextAlong.unique {root : TypeDef} {b b' : BoundField}
    (first : schema.ContextAlong root enclosing b) (second : schema.ContextAlong root enclosing b') :
    b.context = b'.context := by
  obtain ⟨frames, derived, split, _⟩ := contextAlong_iff.mp first
  obtain ⟨others, derived', split', _⟩ := contextAlong_iff.mp second
  have same : b.context.frames = b'.context.frames := by
    rw [split, split', derived.unique derived']
  exact congrArg TypeContext.mk same

theorem bindsIn_root {root : TypeDef} {body : List Selection} {trail : List Nat} {b : BoundField} :
    schema.BindsIn (TypeContext.push {} (some root)) body trail b ↔ ∃ enclosing,
      Encloses body trail enclosing b.head ∧ schema.ContextAlong root enclosing b ∧
      b.parent.Declares b.head.name.text b.field := by
  simp only [contextAlong_iff]
  constructor
  · rintro ⟨_, enclosing, frames, known, encloses, derived, grown, ends, declares⟩
    cases (getLast?_frames_push ..).symm.trans known
    exact ⟨enclosing, encloses, ⟨frames, derived, grown, ends⟩, declares⟩
  · rintro ⟨enclosing, encloses, ⟨frames, derived, split, ends⟩, declares⟩
    exact ⟨_, enclosing, frames, getLast?_frames_push .., encloses, derived, split, ends, declares⟩

/-- What the contexts of the bound fields of a definition are. -/
structure ContextsDerived (schema : Schema) (definition : Executable) : Prop where
  /-- Each field is bound in the context that tells the way to it, and nothing else is bound. -/
  listed : DepthFirst
    (fun trail b => ∃ root enclosing, schema.StartsAt definition root ∧
      Encloses definition.body trail enclosing b.head ∧ schema.ContextAlong root enclosing b ∧
      b.parent.Declares b.head.name.text b.field)
    (schema.boundFields definition)
  /-- From the same root and through the same selections, every way has the same context. -/
  determined : ∀ root enclosing b b', schema.ContextAlong root enclosing b →
    schema.ContextAlong root enclosing b' → b.context = b'.context

/-- The context of a bound field is derived from the selections around it, frame by frame, and from
nothing else. -/
theorem boundFields_contexts (schema : Schema) (definition : Executable) :
    schema.ContextsDerived definition := by
  refine ⟨?_, fun root enclosing b b' => ContextAlong.unique⟩
  cases root : schema.rootType? definition with
  | none =>
    rw [boundFields_of_no_root root]
    refine .nothing ?_
    rintro trail b ⟨start, enclosing, starts, _⟩
    simp [startsAt_iff.mp starts] at root
  | some start =>
    have typed := TypeContext.parent?_push {} (some start) none
    have listed : DepthFirst (schema.BindsIn _ definition.body) _ :=
      followsRules_bindsIn.depthFirst typed
    rw [List.map_id, ← boundFields_of_root root] at listed
    refine listed.congr fun trail b => ?_
    rw [bindsIn_root]
    simp [startsAt_iff, root]

end Schema

end QueryAudit
