import Mathlib.Data.List.Flatten
import Mathlib.Data.List.Nodup
import QueryAudit.Proofs.Results
import QueryAudit.Schema.Load

/-! Types go by their names, and so do the fields of a type. Every schema that is loaded is like
that: a text whose names repeat is refused, and a description keeps the last entry of a name. -/
namespace QueryAudit

structure Schema.Keyed (schema : Schema) : Prop where
  types : (schema.types.map (·.name)).Nodup
  fields : ∀ t ∈ schema.types, (t.fields.map (·.name)).Nodup

namespace Schema.Keyed

variable {schema : Schema} {t u : TypeDef} {f g : FieldDef}

theorem type_eq (keyed : schema.Keyed) (member : t ∈ schema.types) (other : u ∈ schema.types)
    (named : t.name = u.name) : t = u :=
  List.inj_on_of_nodup_map keyed.types member other named

theorem field_eq (keyed : schema.Keyed) (member : t ∈ schema.types) (here : f ∈ t.fields)
    (there : g ∈ t.fields) (named : f.name = g.name) : f = g :=
  List.inj_on_of_nodup_map (keyed.fields t member) here there named

end Schema.Keyed

theorem builtinTypes_names (named : List String) :
    ((SchemaBuild.builtinTypes named).map (·.name)).Sublist
      (Builtin.introspectionNames ++ Builtin.scalarNames) := by
  have names : (SchemaBuild.builtinTypes named).map (·.name) = Builtin.introspectionNames ++
      Builtin.scalarNames.filter (· ∈ "String" :: "Boolean" :: named) := by
    simp [SchemaBuild.builtinTypes, Builtin.introspectionNames, Builtin.scalar, Function.comp_def]
  rw [names]
  exact List.filter_sublist.append_left _

/-- Own types take no name of a built-in one, so both kinds can be looked at apart. -/
theorem Schema.keyed_of_own {own : List TypeDef} {named : List String} {roots : Roots}
    (types : (own.map (·.name)).Nodup) (foreign : ∀ t ∈ own, Builtin.isType t.name = false)
    (fields : ∀ t ∈ own, (t.fields.map (·.name)).Nodup) :
    Schema.Keyed ⟨own ++ SchemaBuild.builtinTypes named, roots⟩ := by
  have names := builtinTypes_names named
  have known : (Builtin.introspectionNames ++ Builtin.scalarNames).Nodup := by decide
  constructor
  · rw [List.map_append]
    refine List.nodup_append.mpr ⟨types, names.nodup known, ?_⟩
    intro name inOwn other inBuiltin same
    obtain ⟨t, member, rfl⟩ := List.mem_map.mp inOwn
    have builtin := names.subset (same ▸ inBuiltin)
    have taken : Builtin.isType t.name = true := by
      simpa [Builtin.isType, Builtin.typeNames, or_comm] using builtin
    simp [foreign t member] at taken
  · intro t member
    rcases List.mem_append.mp member with inOwn | inBuiltin
    · exact fields t inOwn
    · rcases List.mem_append.mp inBuiltin with described | scalar
      · have apart : ∀ t ∈ Builtin.introspectionTypes, (t.fields.map (·.name)).Nodup := by decide
        exact apart t described
      · obtain ⟨name, _, rfl⟩ := List.mem_map.mp scalar
        exact List.nodup_nil

/-- What is put in under its key, each key once, has distinct keys. -/
theorem nodup_foldl_put [DecidableEq κ] {put : List σ → ι → List σ} {key : σ → κ} {own : ι → κ}
    (step : ∀ known item, (put known item).map key =
      if own item ∈ known.map key then known.map key else known.map key ++ [own item])
    (items : List ι) : ((items.foldl put []).map key).Nodup := by
  suffices kept : ∀ known : List σ, (known.map key).Nodup → ((items.foldl put known).map key).Nodup
    from kept [] List.nodup_nil
  induction items with
  | nil => exact fun _ distinct => distinct
  | cons item rest ih =>
    refine fun known distinct => ih _ ?_
    rw [step]
    split
    · exact distinct
    · next fresh => simpa using distinct.concat fresh

/-- Nothing repeats exactly if all items are new and differ. -/
theorem repeats_eq_nil [DecidableEq α] {known items : List α} :
    repeats known items = [] ↔ items.Nodup ∧ ∀ a ∈ items, a ∉ known := by
  induction items generalizing known with
  | nil => simp [repeats]
  | cons a rest ih =>
    rw [repeats]
    split
    · next taken => simp [taken]
    · next fresh =>
      rw [ih]
      grind

namespace SchemaCheck

variable {declared : Declared} {earlier definitions : List Definition} {d : Definition}

/-- No two definitions are of one type, and all fields that definitions and extensions give to a
type differ in name. -/
structure Distinct (definitions : List Definition) : Prop where
  types : ((definitions.filterMap (·.type?)).map (·.name.text)).Nodup
  fields : ∀ name, ((declarationsOf name definitions).flatMap fieldNames).Nodup

theorem fields_of_typeDeclaration {isExtension : Bool} {t : TypeDeclaration}
    (clear : typeDeclaration declared earlier isExtension t = []) :
    (fieldNames t).Nodup ∧
      ∀ a ∈ fieldNames t, a ∉ (declarationsOf t.name.text earlier).flatMap fieldNames := by
  simp only [typeDeclaration, List.append_eq_nil_iff, List.map_eq_nil_iff] at clear
  exact repeats_eq_nil.mp clear.1.1.1.1.1.1.2

theorem declarationsOf_concat (name : String) : declarationsOf name (earlier ++ [d]) =
    declarationsOf name earlier ++ declarationsOf name [d] :=
  List.filterMap_append

/-- A definition or an extension that repeats no field keeps the fields of all types apart. -/
theorem Distinct.declare {isExtension : Bool} {t : TypeDeclaration} (distinct : Distinct earlier)
    (declares : d = .type t ∨ d = .typeExtension t)
    (clear : typeDeclaration declared earlier isExtension t = []) (name : String) :
    ((declarationsOf name (earlier ++ [d])).flatMap fieldNames).Nodup := by
  have added : declarationsOf name [d] = if t.name.text = name then [t] else [] := by
    by_cases same : t.name.text = name
    · rcases declares with rfl | rfl <;> simp [declarationsOf, same]
    · rcases declares with rfl | rfl <;> simp [declarationsOf, same]
  obtain ⟨own, fresh⟩ := fields_of_typeDeclaration clear
  rw [declarationsOf_concat, added, List.flatMap_append]
  split
  · next same =>
    subst same
    refine List.nodup_append.mpr ⟨distinct.fields _, by simpa using own, ?_⟩
    grind
  · simpa using distinct.fields name

theorem Distinct.definition (distinct : Distinct earlier)
    (clear : definition declared earlier d = []) : Distinct (earlier ++ [d]) := by
  cases d with
  | type t =>
    obtain ⟨single, clear⟩ := List.append_eq_nil_iff.mp clear
    refine ⟨?_, distinct.declare (.inl rfl) clear⟩
    have fresh : t.name.text ∉ (earlier.filterMap (·.type?)).map (·.name.text) := by
      intro member
      obtain ⟨u, listed, same⟩ := List.mem_map.mp member
      obtain ⟨other, stands, found⟩ := List.mem_filterMap.mp listed
      have taken : (earlier.any fun d => d.type?.any (·.name.text = t.name.text)) = true :=
        List.any_eq_true.mpr ⟨other, stands, by simp [found, same]⟩
      simp [taken] at single
    simpa [Definition.type?] using distinct.types.concat fresh
  | typeExtension t =>
    exact ⟨by simpa [Definition.type?] using distinct.types, distinct.declare (.inr rfl) clear⟩
  | operation | fragment | schema | schemaExtension | directive =>
    exact ⟨by simpa [Definition.type?] using distinct.types,
      fun name => by simpa [declarationsOf] using distinct.fields name⟩

theorem Distinct.definitionsFrom (distinct : Distinct earlier)
    (clear : definitionsFrom declared earlier definitions = []) :
    Distinct (earlier ++ definitions) := by
  induction definitions generalizing earlier with
  | nil => simpa using distinct
  | cons d rest ih =>
    obtain ⟨here, after⟩ := List.append_eq_nil_iff.mp clear
    simpa using ih (distinct.definition here) after

theorem distinct_of_problems (clear : problems definitions = []) : Distinct definitions := by
  have start : Distinct [] := ⟨List.nodup_nil, fun _ => List.nodup_nil⟩
  simpa using start.definitionsFrom clear

theorem fieldNames_eq (t : TypeDeclaration) :
    fieldNames t = (SchemaBuild.outputFields t.body).map (·.name.text) ++
      (SchemaBuild.inputFields t.body).map (·.name) := by
  rw [fieldNames]
  cases t.body <;> simp [SchemaBuild.outputFields, SchemaBuild.inputFields]

/-- Definitions and extensions of a type, apart from one another. -/
theorem declarationsOf_perm (name : String) (definitions : List Definition) :
    (declarationsOf name definitions).Perm
      ((SchemaBuild.Parts.ofDefinitions definitions).types.filter (·.name.text = name) ++
        (SchemaBuild.Parts.ofDefinitions definitions).extensions.filter (·.name.text = name)) := by
  induction definitions with
  | nil => exact .nil
  | cons d rest ih =>
    simp only [SchemaBuild.Parts.ofDefinitions, declarationsOf] at ih ⊢
    cases d with
    | type t =>
      by_cases same : t.name.text = name
      · simpa [Definition.type?, same] using ih
      · simpa [Definition.type?, same] using ih
    | typeExtension t =>
      by_cases same : t.name.text = name
      · simpa [Definition.type?, same] using (ih.cons t).trans List.perm_middle.symm
      · simpa [Definition.type?, same] using ih
    | operation | fragment | schema | schemaExtension | directive =>
      simpa [Definition.type?] using ih

end SchemaCheck

namespace SchemaBuild

open SchemaCheck

theorem fieldNames_typeDef (parts : Parts) (origin : Origin) (t : TypeDeclaration) :
    (typeDef parts origin t).fields.map (·.name) =
      (t :: parts.extensions.filter (·.name.text = t.name.text)).flatMap fieldNames := by
  have names : fieldNames = fun t => (outputFields t.body).map (·.name.text) ++
      (inputFields t.body).map (·.name) := funext fieldNames_eq
  simp [typeDef, Parts.bodies, List.map_flatMap, List.flatMap_map, names, Function.comp_def]

theorem keyed_schema {definitions : List Definition} (distinct : Distinct definitions)
    (origin : Origin) : (schema (Parts.ofDefinitions definitions) origin).Keyed := by
  have own : (Parts.ofDefinitions definitions).ownTypes.Sublist
      (Parts.ofDefinitions definitions).types := List.filter_sublist
  refine Schema.keyed_of_own ?_ ?_ ?_
  · rw [List.map_map]
    exact (own.map (·.name.text)).nodup distinct.types
  · intro t member
    obtain ⟨u, listed, rfl⟩ := List.mem_map.mp member
    simpa [typeDef] using (List.mem_filter.mp listed).2
  · intro t member
    obtain ⟨u, listed, rfl⟩ := List.mem_map.mp member
    rw [fieldNames_typeDef]
    have single : [u].Sublist
        ((Parts.ofDefinitions definitions).types.filter (·.name.text = u.name.text)) :=
      List.singleton_sublist.mpr (List.mem_filter.mpr ⟨own.subset listed, by simp⟩)
    have all := (declarationsOf_perm u.name.text definitions).flatMap_right fieldNames
    have part := (single.append_right ((Parts.ofDefinitions definitions).extensions.filter
      (·.name.text = u.name.text))).flatMap fieldNames
    exact part.nodup (all.nodup_iff.mp (distinct.fields _))

end SchemaBuild

namespace Introspection

theorem keys_setEntry (key : Json) (value : α) (known : List (Json × α)) :
    (setEntry key value known).map (·.1) =
      if key ∈ known.map (·.1) then known.map (·.1) else known.map (·.1) ++ [key] := by
  induction known with
  | nil => simp [setEntry]
  | cons entry rest ih =>
    obtain ⟨k, v⟩ := entry
    simp only [setEntry, List.map_cons]
    grind

theorem names_setDescribed (t : Described) (known : List Described) :
    (setDescribed t known).map (·.name) = if t.name ∈ known.map (·.name) then known.map (·.name)
      else known.map (·.name) ++ [t.name] := by
  induction known with
  | nil => simp [setDescribed]
  | cons other rest ih =>
    simp only [setDescribed, List.map_cons]
    grind

theorem nodup_entries {read : Json → Read α} {value : Json} {found : List (Json × α)}
    (done : entries read value = .ok found) : (found.map (·.1)).Nodup := by
  obtain ⟨items, _, done⟩ := ok_of_bind done
  obtain ⟨listed, _, done⟩ := ok_of_bind done
  cases done
  exact nodup_foldl_put (fun known item => keys_setEntry item.1 item.2 known) listed

theorem eq_of_name {key : Json} {s : String} (done : name key = .ok s) : key = .str s := by
  cases key with
  | str text =>
    simp only [name, nameOf] at done
    split at done
    · cases done
    · split at done
      · cases done
      · split at done
        · cases done
        · cases done
          rfl
  | null | bool | int | float | arr | obj => cases done

theorem ok_of_resolving {type part : String} {work : Read α} {a : α}
    (done : resolving type part work = .ok a) : work = .ok a := by
  cases work with
  | ok b => exact done
  | error failure =>
    simp only [resolving] at done
    split at done <;> cases done

/-- Entries are named by their own keys. -/
theorem nodup_named {unnamed : IntrospectionFault} {found : List (Json × α)}
    {results : List (String × α)} (distinct : (found.map (·.1)).Nodup)
    (done : named unnamed found = .ok results) : (results.map (·.1)).Nodup := by
  rw [named] at done
  split at done
  · cases done
  · have keys : (results.map fun entry => Json.str entry.1) = found.map (·.1) := by
      refine map_of_mapM ?_ done
      rintro ⟨key, entry⟩ result read
      obtain ⟨s, named, made⟩ := ok_of_bind read
      cases made
      exact (eq_of_name named).symm
    rw [← keys, ← Function.comp_def, ← List.map_map] at distinct
    exact distinct.of_map

theorem nodup_fields {types : List Described} {t : Described} {results : List FieldDef}
    (done : fields types t = .ok results) : (results.map (·.name)).Nodup := by
  obtain ⟨found, listed, done⟩ := ok_of_bind done
  obtain ⟨given, named, done⟩ := ok_of_bind done
  cases done
  obtain ⟨source, _, listed⟩ := ok_of_bind (ok_of_resolving listed)
  rw [List.map_map]
  refine nodup_named ?_ named
  split at listed
  · cases listed
  · exact nodup_entries listed

theorem nodup_slots {types : List Described} {fuel : Nat} {t : Described} {results : List InputSlot}
    (done : slots types fuel t = .ok results) : (results.map (·.name)).Nodup := by
  cases fuel with
  | zero =>
    rw [slots] at done
    cases done
    exact List.nodup_nil
  | succ fuel =>
    rw [slots] at done
    obtain ⟨found, listed, done⟩ := ok_of_bind done
    obtain ⟨given, named, done⟩ := ok_of_bind done
    cases done
    obtain ⟨source, _, listed⟩ := ok_of_bind (ok_of_resolving listed)
    rw [List.map_map]
    exact nodup_named (nodup_entries listed) named

theorem keyed_typeDef {types : List Described} {t : Described} {result : TypeDef}
    (done : typeDef types t = .ok result) :
    result.name = t.name ∧ (result.fields.map (·.name)).Nodup := by
  rw [typeDef] at done
  split at done
  · obtain ⟨_, _, done⟩ := ok_of_bind done
    obtain ⟨given, listed, done⟩ := ok_of_bind done
    cases done
    exact ⟨rfl, nodup_fields listed⟩
  · obtain ⟨_, _, done⟩ := ok_of_bind done
    obtain ⟨given, listed, done⟩ := ok_of_bind done
    cases done
    exact ⟨rfl, nodup_fields listed⟩
  · obtain ⟨_, _, done⟩ := ok_of_bind done
    cases done
    exact ⟨rfl, List.nodup_nil⟩
  · obtain ⟨given, listed, done⟩ := ok_of_bind done
    cases done
    refine ⟨rfl, ?_⟩
    rw [List.map_map]
    exact nodup_slots listed
  all_goals
    cases done
    exact ⟨rfl, List.nodup_nil⟩

theorem keyed_own {types : List Described} {own : List TypeDef} {named : List String}
    {roots : Roots} (distinct : (types.map (·.name)).Nodup)
    (done : (types.filter (!·.isBuiltin)).mapM (typeDef types) = .ok own) :
    Schema.Keyed ⟨own ++ SchemaBuild.builtinTypes named, roots⟩ := by
  refine Schema.keyed_of_own ?_ ?_ ?_
  · rw [map_of_mapM (fun _ _ made => (keyed_typeDef made).1) done]
    exact (List.filter_sublist.map _).nodup distinct
  · intro t member
    obtain ⟨source, listed, made⟩ := mem_of_mapM done member
    rw [(keyed_typeDef made).1]
    simpa [Described.isBuiltin] using (List.mem_filter.mp listed).2
  · intro t member
    obtain ⟨source, _, made⟩ := mem_of_mapM done member
    exact (keyed_typeDef made).2

theorem keyed_schema {value : Json} {result : Schema} (done : schema value = .ok result) :
    result.Keyed := by
  obtain ⟨_, _, done⟩ := ok_of_bind done
  obtain ⟨_, _, done⟩ := ok_of_bind done
  obtain ⟨listed, _, done⟩ := ok_of_bind done
  obtain ⟨query, _, done⟩ := ok_of_bind done
  obtain ⟨mutation, _, done⟩ := ok_of_bind done
  obtain ⟨subscription, _, done⟩ := ok_of_bind done
  obtain ⟨_, _, done⟩ := ok_of_bind done
  have distinct : ((listed.foldl (fun ts t => setDescribed t ts) []).map (·.name)).Nodup :=
    nodup_foldl_put (fun known t => names_setDescribed t known) listed
  dsimp only at done
  split at done
  · obtain ⟨_, _, done⟩ := ok_of_bind done
    obtain ⟨_, _, done⟩ := ok_of_bind done
    obtain ⟨_, _, done⟩ := ok_of_bind done
    obtain ⟨own, made, done⟩ := ok_of_bind done
    cases done
    exact keyed_own distinct made
  · obtain ⟨_, _, done⟩ := ok_of_bind done
    obtain ⟨own, made, done⟩ := ok_of_bind done
    cases done
    exact keyed_own distinct made

end Introspection

namespace Schema

variable {schema : Schema}

theorem keyed_ofDocument {name text : String} {document : Document}
    (loaded : ofDocument name text document = .ok schema) : schema.Keyed := by
  rw [ofDocument] at loaded
  split at loaded
  · next clear =>
    dsimp only at loaded
    split at loaded
    · cases loaded
      exact SchemaBuild.keyed_schema (SchemaCheck.distinct_of_problems clear) _
    · cases loaded
  · cases loaded

theorem keyed_ofText {name : Label} {text : String} (loaded : ofText name text = .ok schema) :
    schema.Keyed := by
  rw [ofText] at loaded
  split at loaded
  · exact keyed_ofDocument loaded
  · cases loaded
  · split at loaded <;> cases loaded

theorem keyed_ofIntrospection {name : Label} {value : Json}
    (loaded : ofIntrospection name value = .ok schema) : schema.Keyed := by
  simp only [ofIntrospection] at loaded
  split at loaded
  pick_goal 3
  split at loaded
  split at loaded
  -- Wherever the description is found, it is read in the same way.
  all_goals
    obtain ⟨description, _, loaded⟩ := ok_of_bind loaded
    split at loaded
    · split at loaded
      · next read =>
        cases loaded
        exact Introspection.keyed_schema read
      all_goals cases loaded
    · cases loaded

theorem keyed_ofDirectory {fs : FileSystem} {path : Path}
    (loaded : ofDirectory fs path = .ok schema) : schema.Keyed := by
  obtain ⟨files, _, loaded⟩ := ok_of_bind loaded
  dsimp only at loaded
  split at loaded
  · cases loaded
  · obtain ⟨texts, _, loaded⟩ := ok_of_bind loaded
    exact keyed_ofText loaded

theorem keyed_ofFile {fs : FileSystem} {path : Path} (loaded : ofFile fs path = .ok schema) :
    schema.Keyed := by
  obtain ⟨text, _, loaded⟩ := ok_of_bind loaded
  split at loaded
  · split at loaded
    · exact keyed_ofIntrospection loaded
    · split at loaded <;> cases loaded
  · exact keyed_ofText loaded

theorem value_logged {name : Label} {result : Except SchemaFailure Schema} :
    (Schema.logged name result).value = result := by
  cases result <;> rfl

/-- Every schema that is loaded has its types and their fields under distinct names. -/
theorem keyed_load {fs : FileSystem} {path : Path} (loaded : (load fs path).value = .ok schema) :
    schema.Keyed := by
  rw [load] at loaded
  split at loaded
  · cases loaded
  · cases loaded
  · exact keyed_ofDirectory (value_logged ▸ loaded)
  · exact keyed_ofFile (value_logged ▸ loaded)

end Schema

end QueryAudit
