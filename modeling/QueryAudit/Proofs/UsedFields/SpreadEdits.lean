import Mathlib.Logic.Relation
import QueryAudit.Proofs.Binding.Typing
import QueryAudit.Proofs.Corpus.Sketch
import QueryAudit.Proofs.UsedFields.Content

/-! Used fields do not depend on spreads. A spread binds to nothing where it stands, and the fields
of a fragment are bound with the fragment. So spreads can be put in and taken out, and an inline
fragment with the condition and the selections of a fragment of the corpus can stand for one, in a
cycle too and for a fragment that is shadowed. -/
namespace QueryAudit

/-- A change that is made at one place: among the selections or inside one of them. -/
inductive Selection.Somewhere (change : List Selection → List Selection → Prop) :
    List Selection → List Selection → Prop where
  | here {before after} : change before after → Somewhere change before after
  | among {before after} (front back) : Somewhere change before after →
      Somewhere change (front ++ before ++ back) (front ++ after ++ back)
  | field {before after} (head) : Somewhere change before after →
      Somewhere change [.field head before] [.field head after]
  | inline {before after} (head) : Somewhere change before after →
      Somewhere change [.inline head before] [.inline head after]

namespace CorpusIndex

/-- What may become of a spread, or of no selection at all. Positions and directives are free. -/
inductive SpreadEdit (index : CorpusIndex) : List Selection → List Selection → Prop where
  | inlined (f) {head inlineHead condition} : f ∈ index.fragments →
      head.name.text = f.node.name.text → inlineHead.typeCondition = some condition →
      condition.text = f.node.typeCondition.text →
      SpreadEdit index [.spread head] [.inline inlineHead f.node.body]
  | deleted (head) : SpreadEdit index [.spread head] []
  | added (head) : SpreadEdit index [] [.spread head]

/-- One edit of a spread in one operation or one fragment; all else stays as it is. -/
inductive Edits (index : CorpusIndex) : CorpusIndex → Prop where
  | operation (front o back) {body} : index.operations = front ++ o :: back →
      Selection.Somewhere index.SpreadEdit o.node.body body → Edits index
        { index with operations := front ++ { o with node := { o.node with body } } :: back }
  | fragment (front f back) {body} : index.fragments = front ++ f :: back →
      Selection.Somewhere index.SpreadEdit f.node.body body → Edits index
        { index with fragments := front ++ { f with node := { f.node with body } } :: back }

end CorpusIndex

namespace Schema

variable {schema : Schema} {context other : TypeContext} {before after : List Selection}

theorem bindSelections_append (front back : List Selection) :
    schema.bindSelections context (front ++ back) =
      schema.bindSelections context front ++ schema.bindSelections context back := by
  induction front with
  | nil => rfl
  | cons s rest ih => rw [List.cons_append, bindSelections, ih, bindSelections, List.append_assoc]

theorem mem_bindSelections_field {b : BoundField} {head : FieldHead} {body : List Selection} :
    b ∈ schema.bindSelections context [.field head body] ↔ ∃ parent field,
      context.parent? = some parent ∧ parent.field? head.name.text = some field ∧
      (b = ⟨head, parent, field, context⟩ ∨ ∃ t, schema.composite? field.type.baseName = some t ∧
        b ∈ schema.bindSelections (context.push (some t) (some field)) body) := by
  rw [bindSelections, bindSelections, List.append_nil, bindSelection]
  cases context.parent? with
  | none => simp
  | some parent =>
    cases declared : parent.field? head.name.text with
    | none => simp [declared]
    | some field => cases composite : schema.composite? field.type.baseName <;> simp [*]

theorem mem_bindSelections_inline {b : BoundField} {head : InlineHead} {body : List Selection} :
    b ∈ schema.bindSelections context [.inline head body] ↔
      (head.typeCondition = none ∧ b ∈ schema.bindSelections context body) ∨
      ∃ condition t, head.typeCondition = some condition ∧
        schema.composite? condition.text = some t ∧
        b ∈ schema.bindSelections (context.push (some t) context.field?) body := by
  rw [bindSelections, bindSelections, List.append_nil, bindSelection]
  cases head.typeCondition with
  | none => simp
  | some condition => cases composite : schema.composite? condition.text <;> simp [*]

/-- Of the context, only the type that selections are made on matters for what is used. -/
theorem exists_pair_eq {t : TypeDef} {body : List Selection} {b : BoundField}
    (typed : context.parent? = some t) (alike : other.parent? = some t)
    (binds : b ∈ schema.bindSelections context body) :
    ∃ b' ∈ schema.bindSelections other body, UsedFields.pair b' = UsedFields.pair b := by
  have derived := ((bindSelections_depthFirst typed).mem_iff b.binding).mp
    (List.mem_map_of_mem binds)
  have again := ((bindSelections_depthFirst alike).mem_iff b.binding).mpr derived
  obtain ⟨b', binds', same⟩ := List.mem_map.mp again
  obtain ⟨head, parent, _⟩ := Binding.mk.inj same
  exact ⟨b', binds', by rw [UsedFields.pair, UsedFields.pair, head, parent]⟩

/-- In every context, the second body binds what the first one binds, and besides only fields that
are used elsewhere. -/
structure Extends (schema : Schema) (elsewhere : String × String → Prop)
    (before after : List Selection) : Prop where
  kept : ∀ context b, b ∈ schema.bindSelections context before →
    b ∈ schema.bindSelections context after
  gained : ∀ context b, b ∈ schema.bindSelections context after →
    b ∈ schema.bindSelections context before ∨ elsewhere (UsedFields.pair b)

namespace Extends

variable {elsewhere : String × String → Prop}

theorem among (front back : List Selection) (more : schema.Extends elsewhere before after) :
    schema.Extends elsewhere (front ++ before ++ back) (front ++ after ++ back) := by
  constructor
  · intro context b
    simp only [bindSelections_append, List.mem_append]
    exact Or.imp_left (Or.imp_right (more.kept context b))
  · intro context b
    simp only [bindSelections_append, List.mem_append]
    rintro ((inFront | changed) | inBack)
    · exact .inl (.inl (.inl inFront))
    · exact (more.gained context b changed).imp_left fun old => .inl (.inr old)
    · exact .inl (.inr inBack)

theorem field (head : FieldHead) (more : schema.Extends elsewhere before after) :
    schema.Extends elsewhere [.field head before] [.field head after] := by
  constructor
  · intro context b
    simp only [mem_bindSelections_field]
    rintro ⟨parent, field, typed, declared, here | ⟨t, composite, inside⟩⟩
    · exact ⟨parent, field, typed, declared, .inl here⟩
    · exact ⟨parent, field, typed, declared, .inr ⟨t, composite, more.kept _ b inside⟩⟩
  · intro context b
    simp only [mem_bindSelections_field]
    rintro ⟨parent, field, typed, declared, here | ⟨t, composite, inside⟩⟩
    · exact .inl ⟨parent, field, typed, declared, .inl here⟩
    · exact (more.gained _ b inside).imp_left fun old =>
        ⟨parent, field, typed, declared, .inr ⟨t, composite, old⟩⟩

theorem inline (head : InlineHead) (more : schema.Extends elsewhere before after) :
    schema.Extends elsewhere [.inline head before] [.inline head after] := by
  constructor
  · intro context b
    simp only [mem_bindSelections_inline]
    rintro (⟨bare, inside⟩ | ⟨condition, t, named, composite, inside⟩)
    · exact .inl ⟨bare, more.kept _ b inside⟩
    · exact .inr ⟨condition, t, named, composite, more.kept _ b inside⟩
  · intro context b
    simp only [mem_bindSelections_inline]
    rintro (⟨bare, inside⟩ | ⟨condition, t, named, composite, inside⟩)
    · exact (more.gained _ b inside).imp_left fun old => .inl ⟨bare, old⟩
    · exact (more.gained _ b inside).imp_left fun old =>
        .inr ⟨condition, t, named, composite, old⟩

/-- What a change adds at its own place, it adds at any place around it. -/
theorem somewhere {change : List Selection → List Selection → Prop}
    (changed : ∀ before after, change before after → schema.Extends elsewhere before after)
    (place : Selection.Somewhere change before after) : schema.Extends elsewhere before after := by
  induction place with
  | here change => exact changed _ _ change
  | among front back _ ih => exact ih.among front back
  | field head _ ih => exact ih.field head
  | inline head _ ih => exact ih.inline head

end Extends

theorem mem_boundFields_root {definition : Executable} {b : BoundField} :
    b ∈ schema.boundFields definition ↔ (schema.rootContext definition).isEmpty = false ∧
      b ∈ schema.bindSelections (schema.rootContext definition) definition.body := by
  rw [boundFields]
  cases (schema.rootContext definition).isEmpty <;> simp

end Schema

namespace UsedFields

open Schema

variable {schema : Schema} {index index' : CorpusIndex} {before after : List Selection}

/-- A spread binds to nothing, and what the inline fragment in its place binds is bound with the
fragment. -/
theorem extends_spreadEdit (edit : index.SpreadEdit before after) :
    schema.Extends (UsedIn schema index.documents) before after := by
  cases edit with
  | deleted | added => exact ⟨fun _ _ binds => binds, fun _ _ binds => .inl binds⟩
  | @inlined f head inlineHead condition member named conditioned same =>
    refine ⟨fun _ _ binds => absurd binds List.not_mem_nil, fun context b binds => .inr ?_⟩
    rw [mem_bindSelections_inline, conditioned] at binds
    obtain ⟨⟨⟩, _⟩ | ⟨_, t, ⟨⟩, composite, inside⟩ := binds
    have root : schema.rootType? (.fragment f.node) = some t := by rwa [same] at composite
    obtain ⟨b', again, alike⟩ := exists_pair_eq (TypeContext.parent?_push ..)
      (TypeContext.parent?_push {} (some t) none) inside
    refine ⟨f.map .fragment, List.mem_append_right _ (List.mem_map_of_mem member), b', ?_, alike⟩
    exact (boundFields_of_root root).symm ▸ again

/-- Replacing a document changes nothing if its new body binds what the old one does, and besides
only what is used in any case. -/
theorem usedIn_replace {front back : List CorpusDocument} {d d' : CorpusDocument}
    {use : String × String} (start : schema.rootContext d'.node = schema.rootContext d.node)
    (more : schema.Extends (UsedIn schema (front ++ d :: back)) d.node.body d'.node.body) :
    UsedIn schema (front ++ d' :: back) use ↔ UsedIn schema (front ++ d :: back) use := by
  constructor
  · rintro ⟨e, member, b, binds, rfl⟩
    obtain inFront | rfl | inBack : e ∈ front ∨ e = d' ∨ e ∈ back := by simpa using member
    · exact ⟨e, by simp [inFront], b, binds, rfl⟩
    · obtain ⟨typed, binds⟩ := mem_boundFields_root.mp binds
      rw [start] at typed binds
      refine (more.gained _ b binds).elim (fun old => ?_) id
      exact ⟨d, by simp, b, mem_boundFields_root.mpr ⟨typed, old⟩, rfl⟩
    · exact ⟨e, by simp [inBack], b, binds, rfl⟩
  · rintro ⟨e, member, b, binds, rfl⟩
    obtain inFront | rfl | inBack : e ∈ front ∨ e = d ∨ e ∈ back := by simpa using member
    · exact ⟨e, by simp [inFront], b, binds, rfl⟩
    · obtain ⟨typed, binds⟩ := mem_boundFields_root.mp binds
      rw [← start] at typed binds
      exact ⟨d', by simp, b, mem_boundFields_root.mpr ⟨typed, more.kept _ b binds⟩, rfl⟩
    · exact ⟨e, by simp [inBack], b, binds, rfl⟩

/-- An edit replaces one document by one that starts at the same type. -/
theorem documents_edit (schema : Schema) (edit : index.Edits index') : ∃ front d d' back,
    index.documents = front ++ d :: back ∧ index'.documents = front ++ d' :: back ∧
    schema.rootContext d'.node = schema.rootContext d.node ∧
    Selection.Somewhere index.SpreadEdit d.node.body d'.node.body := by
  cases edit with
  | @operation front o back body split changed =>
    refine ⟨front.map (·.map .operation), o.map .operation,
      Sourced.map .operation { o with node := { o.node with body } },
      back.map (·.map .operation) ++ index.fragments.map (·.map .fragment), ?_, ?_, rfl, changed⟩
    · simp [CorpusIndex.documents, split]
    · simp [CorpusIndex.documents]
  | @fragment front f back body split changed =>
    refine ⟨index.operations.map (·.map .operation) ++ front.map (·.map .fragment),
      f.map .fragment, Sourced.map .fragment { f with node := { f.node with body } },
      back.map (·.map .fragment), ?_, ?_, rfl, changed⟩
    · simp [CorpusIndex.documents, split]
    · simp [CorpusIndex.documents]

theorem usedIn_edit (edit : index.Edits index') (use : String × String) :
    UsedIn schema index'.documents use ↔ UsedIn schema index.documents use := by
  obtain ⟨front, d, d', back, old, new, start, changed⟩ := documents_edit schema edit
  have more : schema.Extends (UsedIn schema index.documents) d.node.body d'.node.body :=
    .somewhere (fun _ _ => extends_spreadEdit) changed
  rw [old] at more
  rw [old, new]
  exact usedIn_replace start more

/-- However often spreads of a corpus are replaced by the selections of a fragment that they name,
taken out or put in, the used fields stay the same. -/
theorem ofCorpus_spreadEdits (schema : Schema)
    (edits : Relation.ReflTransGen CorpusIndex.Edits index index') :
    (ofCorpus schema index == ofCorpus schema index') = true ∧
      ∀ type field, (ofCorpus schema index).isUsed type field =
        (ofCorpus schema index').isUsed type field := by
  have alike (use) : UsedIn schema index.documents use ↔ UsedIn schema index'.documents use := by
    induction edits with
    | refl => rfl
    | tail _ edit ih => exact ih.trans (usedIn_edit edit use).symm
  refine ⟨beq_ofCorpus alike, fun type field => ?_⟩
  rw [Bool.eq_iff_iff, isUsed_ofCorpus, isUsed_ofCorpus]
  exact alike (type, field)

open Sketch in
/-- A fragment that spreads itself is inlined into itself, and a spread of nothing is taken out. -/
theorem ofCorpus_spreadEdits_cycle :
    let schema : Schema :=
      ⟨[⟨"Query", .object, [⟨"a", .named "Query", none⟩], none⟩], ⟨some "Query", none, none⟩⟩
    let index : CorpusIndex := ⟨[query [spread "Gone", spread "F"]],
      [fragment "F" [field "a" [spread "F"]]]⟩
    let edited : CorpusIndex := ⟨[query [spread "F"]],
      [fragment "F" [field "a" [inline "Query" [field "a" [spread "F"]]]]]⟩
    (ofCorpus schema index == ofCorpus schema edited) = true ∧
      ∀ type field, (ofCorpus schema index).isUsed type field =
        (ofCorpus schema edited).isUsed type field := by
  intro schema index edited
  let halfway : CorpusIndex := { index with fragments := edited.fragments }
  have itself : index.SpreadEdit [spread "F"] [inline "Query" [field "a" [spread "F"]]] :=
    .inlined (fragment "F" [field "a" [spread "F"]]) (List.mem_singleton_self _) rfl rfl rfl
  have gone : halfway.SpreadEdit [spread "Gone"] [] := .deleted _
  have first : index.Edits halfway :=
    .fragment [] (fragment "F" [field "a" [spread "F"]]) [] rfl (.field _ (.here itself))
  have second : halfway.Edits edited :=
    .operation [] (query [spread "Gone", spread "F"]) [] rfl
      (.among [] [spread "F"] (.here gone))
  exact ofCorpus_spreadEdits schema (.tail (.single first) second)

end UsedFields

end QueryAudit
