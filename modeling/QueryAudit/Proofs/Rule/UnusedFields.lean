import QueryAudit.Proofs.Binding.Typing
import QueryAudit.Proofs.Corpus.Sketch
import QueryAudit.Proofs.Rule.Check
import QueryAudit.Proofs.Schema.Keyed
import QueryAudit.Proofs.UsedFields.Cache
import QueryAudit.Proofs.UsedFields.Canonical

/-! The rule on unused fields reports exactly the fields that no document of the corpus binds, by
type and then as they are declared. It asks a store for the used fields at every type, and whatever
the store was used for before, it is told the used fields of its own schema and corpus. -/
namespace QueryAudit

open UsedFields

namespace Schema

variable {schema : Schema} {index later : CorpusIndex} {t : TypeDef} {f : FieldDef}

/-- A field that selections can be made of, and none is. -/
structure Unused (schema : Schema) (index : CorpusIndex) (t : TypeDef) (f : FieldDef) : Prop where
  type : t ∈ schema.types
  kind : t.kind = .object ∨ t.kind = .interface
  audited : t.name.startsWith "__" = false
  declared : f ∈ t.fields
  unbound : ∀ d ∈ index.documents, ∀ trail b, schema.Binds d.node trail b →
    ¬ (b.parent = t ∧ b.field = f)

/-- By the name of the type, and within a type as it declares its fields. -/
def Before (a b : TypeDef × FieldDef) : Prop :=
  a.1.name < b.1.name ∨ a.1 = b.1 ∧ [a.2, b.2].Sublist a.1.fields

/-- Among keyed types and fields, a use by names is a use of that field of that type. -/
theorem usedIn_iff (keyed : schema.Keyed) (member : t ∈ schema.types) (declared : f ∈ t.fields) :
    UsedIn schema index.documents (t.name, f.name) ↔
      ∃ d ∈ index.documents, ∃ trail b,
        schema.Binds d.node trail b ∧ b.parent = t ∧ b.field = f := by
  constructor
  · rintro ⟨d, stands, bound, binds, named⟩
    obtain ⟨typeName, fieldName⟩ := Prod.mk.inj named
    obtain ⟨trail, derived⟩ := mem_boundFields_iff.mp ⟨bound, binds, rfl⟩
    have parent : bound.parent = t := keyed.type_eq derived.parent_mem member typeName
    have own : bound.field ∈ t.fields := parent ▸ derived.declares.mem
    have same : bound.field.name = f.name := derived.declares.name_eq.trans fieldName
    exact ⟨d, stands, trail, bound.binding, derived, parent,
      keyed.field_eq member own declared same⟩
  · rintro ⟨d, stands, trail, b, derived, rfl, rfl⟩
    obtain ⟨bound, binds, rfl⟩ := mem_boundFields_iff.mpr ⟨trail, derived⟩
    have named : bound.field.name = bound.head.name.text := derived.declares.name_eq
    exact ⟨d, stands, bound, binds, by rw [pair, ← named]; rfl⟩

/-- The fields that the rule looks at, in its order. -/
def auditedFields (schema : Schema) : List (TypeDef × FieldDef) :=
  schema.auditedTypes.flatMap fun t => t.fields.map (t, ·)

theorem mem_auditedTypes : t ∈ schema.auditedTypes ↔
    t ∈ schema.types ∧ (t.kind = .object ∨ t.kind = .interface) ∧
      t.name.startsWith "__" = false := by
  have kinds : t.kind.hasFields = true ↔ t.kind = .object ∨ t.kind = .interface := by
    cases t.kind <;> simp [TypeKind.hasFields]
  simp [auditedTypes, kinds]

theorem mem_auditedFields :
    (t, f) ∈ schema.auditedFields ↔ t ∈ schema.auditedTypes ∧ f ∈ t.fields := by
  simp [auditedFields]

theorem pairwise_auditedTypes (keyed : schema.Keyed) :
    schema.auditedTypes.Pairwise fun t u => t.name < u.name := by
  have part := (List.filter_sublist (l := schema.types) (p := fun t =>
    t.kind.hasFields && !t.name.startsWith "__")).map (·.name)
  exact pairwise_sortedBy TypeDef.name (part.nodup keyed.types)

theorem pairwise_auditedFields (keyed : schema.Keyed) : schema.auditedFields.Pairwise Before := by
  refine List.pairwise_flatMap.mpr ⟨fun t _ => ?_, (pairwise_auditedTypes keyed).imp ?_⟩
  · refine List.pairwise_map.mpr (List.pairwise_iff_forall_sublist.mpr fun both => ?_)
    exact .inr ⟨rfl, both⟩
  · rintro t u less _ inFirst _ inSecond
    obtain ⟨f, _, rfl⟩ := List.mem_map.mp inFirst
    obtain ⟨g, _, rfl⟩ := List.mem_map.mp inSecond
    exact .inl less

theorem name_ne_of_before (keyed : schema.Keyed) {a b : TypeDef × FieldDef}
    (member : a.1 ∈ schema.types) (before : Before a b) :
    (a.1.name, a.2.name) ≠ (b.1.name, b.2.name) := by
  intro same
  obtain ⟨typeName, fieldName⟩ := Prod.mk.inj same
  rcases before with less | ⟨_, both⟩
  · rw [typeName] at less
    exact String.lt_irrefl _ less
  · have apart := List.pairwise_map.mp (keyed.fields _ member)
    exact List.pairwise_iff_forall_sublist.mp apart both fieldName

/-- The fields that the rule finds unused. -/
def unusedFields (schema : Schema) (used : UsedFields) : List (TypeDef × FieldDef) :=
  schema.auditedFields.filter fun (t, f) => !used.isUsed t.name f.name

theorem mem_unusedFields (keyed : schema.Keyed) :
    (t, f) ∈ schema.unusedFields (ofCorpus schema index) ↔ schema.Unused index t f := by
  rw [unusedFields, List.mem_filter, mem_auditedFields, mem_auditedTypes]
  constructor
  · rintro ⟨⟨⟨type, kind, audited⟩, declared⟩, fresh⟩
    refine ⟨type, kind, audited, declared, fun d member trail b binds same => ?_⟩
    have uses := isUsed_ofCorpus.mpr ((usedIn_iff keyed type declared).mpr
      ⟨d, member, trail, b, binds, same⟩)
    simp [uses] at fresh
  · rintro ⟨type, kind, audited, declared, unbound⟩
    refine ⟨⟨⟨type, kind, audited⟩, declared⟩, ?_⟩
    rw [Bool.not_eq_true', Bool.eq_false_iff, Ne, isUsed_ofCorpus, usedIn_iff keyed type declared]
    rintro ⟨d, member, trail, b, binds, same⟩
    exact unbound d member trail b binds same

theorem unusedFields_sublist (more : ∀ d ∈ index.documents, d ∈ later.documents) :
    (schema.unusedFields (ofCorpus schema later)).Sublist
      (schema.unusedFields (ofCorpus schema index)) := by
  refine List.monotone_filter_right _ ?_
  rintro ⟨t, f⟩ fresh
  rw [Bool.not_eq_true', Bool.eq_false_iff, Ne, isUsed_ofCorpus] at fresh ⊢
  rintro ⟨d, member, binds⟩
  exact fresh ⟨d, more d member, binds⟩

end Schema

namespace Session

open Cache

variable {session : Session} {cache : Cache}

/-- The store is as its past calls have left it, and knows the schema and the corpus of the session
by their identities. -/
def Ready (session : Session) (cache : Cache) : Prop :=
  (∃ past, Tracks past cache) ∧ cache.Identifies session.schema session.index

/-- At a type, the rule finds the fields that the corpus does not use, and the store stays ready. -/
theorem value_check_type (t : TypeDef) (ready : session.Ready cache) :
    ((Rule.unusedFields.check session t) cache).value.1 =
      .ok ((Rule.unusedFieldsOf (ofCorpus session.schema.value session.index.value) t).map
        (Rule.unusedDiagnostic t)) ∧
    session.Ready ((Rule.unusedFields.check session t) cache).value.2 := by
  obtain ⟨⟨past, tracks⟩, identified⟩ := ready
  constructor
  · rw [← tracks.fetch_value identified]
    rfl
  · exact ⟨⟨_, tracks.after (.get identified)⟩, identified.fetch⟩

theorem value_check_unusedFields (ready : session.Ready cache) :
    ((session.check Rule.unusedFields) cache).value.1 =
      .ok ((session.schema.value.unusedFields
        (ofCorpus session.schema.value session.index.value)).map fun (t, f) =>
          Rule.unusedDiagnostic t f) := by
  rw [value_check session session.Ready (fun t _ => value_check_type t) cache ready]
  simp only [Schema.unusedFields, Schema.auditedFields, List.filter_flatMap, List.map_flatMap,
    List.filter_map, List.map_map]
  rfl

/-- The names that a diagnostic gives for a type and its field. -/
def reportedField (d : Diagnostic) : Option Json × Option Json :=
  (Members.get? "typeName" d.data, Members.get? "fieldName" d.data)

/-- Diagnostics name exactly the unused fields, each once and in order. -/
def ListsUnused (schema : Schema) (index : CorpusIndex) (diagnostics : List Diagnostic) : Prop :=
  ∃ unused : List (TypeDef × FieldDef),
    diagnostics.map reportedField =
      unused.map (fun (t, f) => (some (.str t.name), some (.str f.name))) ∧
    (∀ t f, (t, f) ∈ unused ↔ schema.Unused index t f) ∧
    unused.Pairwise Schema.Before ∧ (unused.map fun (t, f) => (t.name, f.name)).Nodup

theorem listsUnused {schema : Schema} {index : CorpusIndex} (keyed : schema.Keyed) :
    ListsUnused schema index ((schema.unusedFields (ofCorpus schema index)).map fun (t, f) =>
      Rule.unusedDiagnostic t f) := by
  refine ⟨schema.unusedFields (ofCorpus schema index), ?_, ?_, ?_, ?_⟩
  · rw [List.map_map]
    rfl
  · exact fun t f => Schema.mem_unusedFields keyed
  · exact (Schema.pairwise_auditedFields keyed).filter _
  · refine List.pairwise_map.mpr (List.Pairwise.imp_of_mem ?_
      ((Schema.pairwise_auditedFields keyed).filter _))
    rintro ⟨t, f⟩ b member _ before
    exact Schema.name_ne_of_before keyed ((Schema.mem_unusedFields keyed).mp member).type before

/-- The rule on unused fields names exactly those, whatever its store was used for before. A corpus
that holds more documents gives no diagnostic that was not given without them. -/
theorem check_unusedFields (session : Session) (keyed : session.schema.value.Keyed)
    {history : List Call} (run : Steps Calls {} history cache)
    (identified : cache.Identifies session.schema session.index) :
    ∃ diagnostics, ((session.check Rule.unusedFields) cache).value.1 = .ok diagnostics ∧
      ListsUnused session.schema.value session.index.value diagnostics ∧
      ∀ (later : Session) (history' : List Call) (cache' : Cache),
        later.schema.value = session.schema.value →
        (∀ d ∈ session.index.value.documents, d ∈ later.index.value.documents) →
        Steps Calls {} history' cache' → cache'.Identifies later.schema later.index →
        ∃ fewer, ((later.check Rule.unusedFields) cache').value.1 = .ok fewer ∧
          fewer.Sublist diagnostics := by
  refine ⟨_, value_check_unusedFields ⟨⟨_, .of_start run⟩, identified⟩, listsUnused keyed, ?_⟩
  intro later history' cache' same more run' identified'
  refine ⟨_, value_check_unusedFields ⟨⟨_, .of_start run'⟩, identified'⟩, ?_⟩
  rw [same]
  exact (Schema.unusedFields_sublist more).map _

open Sketch in
/-- Of two fragments of one name, only the shadowed one selects the second field. -/
def shadowedUse : Session where
  schema := ⟨0, ⟨[⟨"Query", .object, [⟨"a", .named "Query", none⟩, ⟨"b", .named "ID", none⟩], none⟩,
    ⟨"Node", .interface, [⟨"id", .named "ID", none⟩], none⟩], ⟨some "Query", none, none⟩⟩⟩
  index := ⟨1, ⟨[query [field "a" []]], [fragment "F" [field "b" []], fragment "F" []]⟩⟩
  config := default

theorem shadowedUse_check : shadowedUse.schema.value.Keyed ∧
    ∃ diagnostics, ((shadowedUse.check Rule.unusedFields) {}).value.1 = .ok diagnostics ∧
      ListsUnused shadowedUse.schema.value shadowedUse.index.value diagnostics := by
  have keyed : shadowedUse.schema.value.Keyed := ⟨by decide, by decide⟩
  obtain ⟨diagnostics, done, lists, _⟩ :=
    check_unusedFields shadowedUse keyed .nil (by simp [Identifies])
  exact ⟨keyed, diagnostics, done, lists⟩

end Session

end QueryAudit
