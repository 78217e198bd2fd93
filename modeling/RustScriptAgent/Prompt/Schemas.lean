import Mathlib.Tactic.Common
import RustScriptAgent.Shared.Json

namespace RustScriptAgent.Prompt

open Option Json

mutual
def stripSchemaDescriptions : Json → Json
  | .obj fields => .obj (stripFields fields)
  | .arr items => .arr (stripItems items)
  | value => value

def stripItems : List Json → List Json
  | [] => []
  | item :: rest => stripSchemaDescriptions item :: stripItems rest

def stripFields : List (String × Json) → List (String × Json)
  | [] => []
  | (key, value) :: rest =>
    if key = "description" then stripFields rest else (key, stripSchemaDescriptions value) :: stripFields rest
end

def requiredNames (schema : Json) : List String :=
  ((schema.get? "required").bind asArr?).elim [] (List.filterMap asStr?)

def retainProperties (required : List String) : Json → Json
  | .obj properties => .obj (properties.filter fun property => property.1 ∈ required)
  | value => value

def stripOptionalProperties (schema : Json) : Json :=
  match schema with
  | .obj fields => .obj (fields.map fun field =>
      (field.1, if field.1 = "properties" then retainProperties (requiredNames schema) field.2 else field.2))
  | value => value

def trimSchema (schema : Json) : Option Json :=
  if stripSchemaDescriptions schema ≠ schema then some (stripSchemaDescriptions schema)
  else if stripOptionalProperties schema ≠ schema then some (stripOptionalProperties schema)
  else none

def shrinkSchemaOneStep (schema : Json) : Option Json :=
  match trimSchema schema with
  | some trimmed => some trimmed
  | none =>
    if schema ≠ .obj [("type", .str "object")] ∧ schema ≠ .obj [] then some (.obj [("type", .str "object")])
    else if schema ≠ .obj [] then some (.obj [])
    else none

def shrinkSteps : Nat → Json → Option Json
  | 0, schema => some schema
  | steps + 1, schema => (shrinkSteps steps schema).bind shrinkSchemaOneStep

def Unreplaced (steps : Nat) (schema : Json) : Prop :=
  ∀ earlier < steps, ∀ state, shrinkSteps earlier schema = some state → (trimSchema state).isSome

inductive Key where
  | name (key : String)
  | index (position : Nat)
  deriving DecidableEq

def child : Key → Json → Option Json
  | .name key, document => document.get? key
  | .index position, document => document.asArr?.bind (·[position]?)

def valueAt : List Key → Json → Option Json
  | [], document => some document
  | key :: rest, document => (child key document).bind (valueAt rest)

def property (name : String) (rest : List Key) : List Key := .name "properties" :: .name name :: rest

structure Keeps (schema shrunk : Json) : Prop where
  required : ∀ name ∈ requiredNames schema, valueAt (property name []) schema ≠ none →
    valueAt (property name []) shrunk ≠ none ∧
      valueAt (property name [.name "type"]) shrunk = valueAt (property name [.name "type"]) schema
  removed : ∀ path value, valueAt path schema = some value → valueAt path shrunk = none →
    (∃ above text, path = above ++ [.name "description"] ∧ value = .str text) ∨
      ∃ name rest, path = property name rest ∧ name ∉ requiredNames schema ∧ valueAt (property name []) shrunk = none

mutual
def Undescribed : Json → Prop
  | .obj fields => UndescribedFields fields
  | .arr items => UndescribedItems items
  | _ => True

def UndescribedItems : List Json → Prop
  | [] => True
  | item :: rest => Undescribed item ∧ UndescribedItems rest

def UndescribedFields : List (String × Json) → Prop
  | [] => True
  | (key, value) :: rest => key ≠ "description" ∧ Undescribed value ∧ UndescribedFields rest
end

structure Harmless (schema : Json) : Prop where
  required : ∀ name ∈ requiredNames schema, valueAt (property name []) schema ≠ none →
    name ≠ "description" ∧ ∀ type, valueAt (property name [.name "type"]) schema = some type → Undescribed type
  texts : ∀ above value, valueAt (above ++ [.name "description"]) schema = some value →
    (∃ text, value = .str text) ∨ "description" ∉ requiredNames schema ∧
      ∃ rest, above ++ [.name "description"] = property "description" rest

theorem get?_filter (keep : String → Bool) (fields : List (String × Json)) (key : String) :
    (obj (fields.filter fun field => keep field.1)).get? key =
      if keep key then (obj fields).get? key else none := by
  induction fields with
  | nil => simp [get?]
  | cons field rest ih =>
    by_cases here : field.1 = key <;> by_cases kept : keep field.1 <;>
      simp_all [get?]

theorem get?_map (change : String → Json → Json) (fields : List (String × Json)) (key : String) :
    (obj (fields.map fun field => (field.1, change field.1 field.2))).get? key =
      ((obj fields).get? key).map (change key) := by
  induction fields with
  | nil => simp [get?]
  | cons field rest ih =>
    by_cases here : field.1 = key <;> simp_all [get?]

theorem stripItems_eq (items : List Json) : stripItems items = items.map stripSchemaDescriptions := by
  induction items with
  | nil => rfl
  | cons item rest ih => rw [stripItems, ih, List.map_cons]

theorem stripFields_eq (fields : List (String × Json)) : stripFields fields =
    (fields.filter fun field => field.1 ≠ "description").map fun field =>
      (field.1, stripSchemaDescriptions field.2) := by
  induction fields with
  | nil => rfl
  | cons field rest ih =>
    obtain ⟨key, value⟩ := field
    by_cases description : key = "description" <;> simp [stripFields, description, ih]

mutual
theorem strip_eq_self_iff : ∀ document, stripSchemaDescriptions document = document ↔ Undescribed document
  | .obj fields => by simp [stripSchemaDescriptions, Undescribed, stripFields_eq_self_iff fields]
  | .arr items => by simp [stripSchemaDescriptions, Undescribed, stripItems_eq_self_iff items]
  | .null | .bool _ | .int _ | .float _ | .str _ => by simp [stripSchemaDescriptions, Undescribed]

theorem stripItems_eq_self_iff : ∀ items, stripItems items = items ↔ UndescribedItems items
  | [] => by simp [stripItems, UndescribedItems]
  | item :: rest => by simp [stripItems, UndescribedItems, strip_eq_self_iff item, stripItems_eq_self_iff rest]

theorem stripFields_eq_self_iff : ∀ fields, stripFields fields = fields ↔ UndescribedFields fields
  | [] => by simp [stripFields, UndescribedFields]
  | (key, value) :: rest => by
    have short : stripFields rest ≠ (key, value) :: rest := fun same => by
      have shorter := List.length_filter_le (fun field => decide (field.1 ≠ "description")) rest
      have lengths := congrArg List.length same
      simp only [stripFields_eq, List.length_map, List.length_cons] at lengths
      omega
    by_cases description : key = "description" <;>
      simp_all [stripFields, UndescribedFields, strip_eq_self_iff value, stripFields_eq_self_iff rest]
end

theorem child_strip (key : Key) (document : Json) : child key (stripSchemaDescriptions document) =
    if key = .name "description" then none else (child key document).map stripSchemaDescriptions := by
  cases key with
  | name key =>
    cases document with
    | obj fields =>
      rw [stripSchemaDescriptions, stripFields_eq, child, get?_map fun _ => stripSchemaDescriptions,
        get?_filter fun key => key ≠ "description"]
      split_ifs <;> simp_all [child]
    | _ => simp [child, stripSchemaDescriptions, get?]
  | index position => cases document <;> simp [child, stripSchemaDescriptions, asArr?, stripItems_eq]

theorem valueAt_strip (path : List Key) (document : Json) : valueAt path (stripSchemaDescriptions document) =
    if .name "description" ∈ path then none else (valueAt path document).map stripSchemaDescriptions := by
  induction path generalizing document with
  | nil => simp [valueAt]
  | cons key rest ih =>
    rw [valueAt, valueAt, child_strip]
    by_cases description : key = .name "description"
    · simp [description]
    · cases child key document <;> simp [description, Ne.symm description, ih]

theorem valueAt_append (above rest : List Key) (document : Json) :
    valueAt (above ++ rest) document = (valueAt above document).bind (valueAt rest) := by
  induction above generalizing document with
  | nil => rfl
  | cons key above ih => simp [valueAt, funext ih, bind_assoc]

theorem child_optional (key : Key) (schema : Json) : child key (stripOptionalProperties schema) =
    (child key schema).map fun value =>
      if key = .name "properties" then retainProperties (requiredNames schema) value else value := by
  cases key with
  | name key =>
    cases schema with
    | obj fields =>
      simpa [child, stripOptionalProperties] using get?_map (fun key value =>
        if key = "properties" then retainProperties (requiredNames (.obj fields)) value else value) fields key
    | _ => rfl
  | index position => cases schema <;> simp [child, stripOptionalProperties, asArr?]

theorem child_retain (required : List String) (value : Json) : ∀ key, child key (retainProperties required value) =
    match key with
    | .name name => if name ∈ required then child key value else none
    | .index _ => child key value
  | .name name => by
    cases value with
    | obj fields => simpa [child, retainProperties] using get?_filter (fun name => name ∈ required) fields name
    | _ => simp [child, retainProperties, get?]
  | .index position => by cases value <;> simp [child, retainProperties, asArr?]

theorem valueAt_optional_property (name : String) (rest : List Key) (schema : Json) :
    valueAt (property name rest) (stripOptionalProperties schema) =
      if name ∈ requiredNames schema then valueAt (property name rest) schema else none := by
  simp only [property, valueAt, child_optional]
  cases child (.name "properties") schema with
  | none => simp
  | some properties => by_cases required : name ∈ requiredNames schema <;> simp [child_retain, required]

theorem valueAt_optional_lost {path : List Key} {schema : Json}
    (lost : valueAt path (stripOptionalProperties schema) = none) :
    valueAt path schema = none ∨ ∃ name rest, path = property name rest ∧ name ∉ requiredNames schema := by
  rcases path with _ | ⟨first, rest⟩
  · simp [valueAt] at lost
  by_cases properties : first = .name "properties"
  · subst properties
    rcases rest with _ | ⟨name | position, rest⟩
    · simp_all [valueAt, child_optional]
    · rw [← property, valueAt_optional_property] at lost
      split_ifs at lost with required
      · exact .inl lost
      · exact .inr ⟨name, rest, rfl, required⟩
    · left
      simp only [valueAt, child_optional] at lost ⊢
      cases found : child (.name "properties") schema <;> simp_all [child_retain]
  · simp_all [valueAt, child_optional]

theorem requiredNames_strip (schema : Json) :
    requiredNames (stripSchemaDescriptions schema) = requiredNames schema := by
  have stripped := child_strip (.name "required") schema
  simp only [child, Key.name.injEq, String.reduceEq, if_false] at stripped
  have texts (item : Json) : (stripSchemaDescriptions item).asStr? = item.asStr? := by cases item <;> rfl
  simp only [requiredNames, stripped]
  cases schema.get? "required" with
  | none => rfl
  | some names => cases names <;> simp [stripSchemaDescriptions, asArr?, stripItems_eq, List.filterMap_map, texts]

theorem requiredNames_optional (schema : Json) :
    requiredNames (stripOptionalProperties schema) = requiredNames schema := by
  have kept := child_optional (.name "required") schema
  simp only [child, Key.name.injEq, String.reduceEq, if_false, map_id'] at kept
  rw [requiredNames, kept, requiredNames]

@[simp] theorem description_mem_property {name : String} {rest : List Key} :
    .name "description" ∈ property name rest ↔ "description" = name ∨ .name "description" ∈ rest := by
  simp [property]

theorem Harmless.on_path {schema value : Json} (harmless : Harmless schema) {path : List Key}
    (description : .name "description" ∈ path) (found : valueAt path schema = some value) :
    (∃ above text, path = above ++ [.name "description"] ∧ value = .str text) ∨
      "description" ∉ requiredNames schema ∧ ∃ rest, path = property "description" rest := by
  obtain ⟨above, rest, rfl⟩ := List.append_of_mem description
  rw [List.append_cons] at found ⊢
  rw [valueAt_append, bind_eq_some_iff] at found
  obtain ⟨entry, here, below⟩ := found
  rcases harmless.texts above entry here with ⟨text, rfl⟩ | ⟨optional, inside, same⟩
  · rcases rest with _ | ⟨key, rest⟩
    · exact .inl ⟨above, text, by simp, (some.inj below).symm⟩
    · cases key <;> simp [valueAt, child, get?, asArr?] at below
  · exact .inr ⟨optional, inside ++ rest, by rw [same]; rfl⟩

theorem Keeps.refl (schema : Json) : Keeps schema schema :=
  ⟨fun _ _ found => ⟨found, rfl⟩, fun _ _ found lost => by simp [found] at lost⟩

theorem Keeps.strip {schema shrunk : Json} (harmless : Harmless schema) (keeps : Keeps schema shrunk) :
    Keeps schema (stripSchemaDescriptions shrunk) := by
  refine ⟨fun name listed found => ?_, fun path value found lost => ?_⟩
  · obtain ⟨kept, type⟩ := keeps.required name listed found
    obtain ⟨named, plain⟩ := harmless.required name listed found
    refine ⟨by simpa [valueAt_strip, named.symm] using kept, ?_⟩
    cases found : valueAt (property name [.name "type"]) schema with
    | none => simp [valueAt_strip, type, found]
    | some word => simp [valueAt_strip, named.symm, type, found, (strip_eq_self_iff _).mpr (plain word found)]
  · rw [valueAt_strip] at lost
    split_ifs at lost with description
    · rcases harmless.on_path description found with text | ⟨optional, rest, rfl⟩
      · exact .inl text
      · exact .inr ⟨_, rest, rfl, optional, by simp [valueAt_strip, property]⟩
    · rcases keeps.removed path value found (by simpa using lost) with text | ⟨name, rest, same, optional, gone⟩
      · exact .inl text
      · exact .inr ⟨name, rest, same, optional, by simp [valueAt_strip, gone]⟩

theorem Keeps.optional {schema shrunk : Json} (keeps : Keeps schema shrunk)
    (same : requiredNames shrunk = requiredNames schema) : Keeps schema (stripOptionalProperties shrunk) := by
  refine ⟨fun name listed found => ?_, fun path value found lost => ?_⟩
  · simpa only [valueAt_optional_property, same, listed, if_true] using keeps.required name listed found
  · rcases valueAt_optional_lost lost with already | ⟨name, rest, here, optional⟩
    · rcases keeps.removed path value found already with text | ⟨name, rest, here, optional, gone⟩
      · exact .inl text
      · exact .inr ⟨name, rest, here, optional, by simp [valueAt_optional_property, gone]⟩
    · rw [same] at optional
      exact .inr ⟨name, rest, here, optional, by simp [valueAt_optional_property, same, optional]⟩

theorem trimSchema_eq {schema trimmed : Json} (step : trimSchema schema = some trimmed) :
    trimmed = stripSchemaDescriptions schema ∨ trimmed = stripOptionalProperties schema := by
  unfold trimSchema at step
  split_ifs at step <;> simp_all

theorem shrinkSteps_keeps {schema : Json} (harmless : Harmless schema) {steps : Nat} {state : Json}
    (unreplaced : Unreplaced steps schema) (reached : shrinkSteps steps schema = some state) :
    Keeps schema state ∧ requiredNames state = requiredNames schema := by
  induction steps generalizing state with
  | zero =>
    cases reached
    exact ⟨.refl schema, rfl⟩
  | succ steps ih =>
    obtain ⟨middle, before, step⟩ := bind_eq_some_iff.mp reached
    obtain ⟨keeps, same⟩ := ih (fun earlier early => unreplaced earlier (by omega)) before
    obtain ⟨trimmed, trim⟩ := isSome_iff_exists.mp (unreplaced steps (by omega) middle before)
    rw [shrinkSchemaOneStep, trim] at step
    cases step
    rcases trimSchema_eq trim with rfl | rfl
    · exact ⟨keeps.strip harmless, (requiredNames_strip middle).trans same⟩
    · exact ⟨keeps.optional same, (requiredNames_optional middle).trans same⟩

theorem Harmless.of_keeps {schema : Json} (keeps : Keeps schema (stripSchemaDescriptions schema)) :
    Harmless schema := by
  refine ⟨fun name listed found => ?_, fun above value found => ?_⟩
  · obtain ⟨kept, type⟩ := keeps.required name listed found
    have named : name ≠ "description" := by
      rintro rfl
      simp [valueAt_strip] at kept
    refine ⟨named, fun word here => (strip_eq_self_iff word).mp ?_⟩
    simpa [valueAt_strip, named.symm, here] using type
  · have gone : valueAt (above ++ [.name "description"]) (stripSchemaDescriptions schema) = none := by
      simp [valueAt_strip]
    rcases keeps.removed _ value found gone with ⟨_, text, _, same⟩ | ⟨name, rest, same, optional, lost⟩
    · exact .inl ⟨text, same⟩
    · rw [same, show property name rest = property name [] ++ rest from rfl, valueAt_append] at found
      have named : name = "description" := by
        by_contra other
        have gone : valueAt (property name []) schema = none := by simpa [valueAt_strip, Ne.symm other] using lost
        simp [gone] at found
      subst named
      exact .inr ⟨optional, rest, same⟩

theorem shrink_keeps_required_iff (schema : Json) :
    (∀ steps state, Unreplaced steps schema → shrinkSteps steps schema = some state → Keeps schema state) ↔
      Harmless schema := by
  refine ⟨fun keeps => .of_keeps ?_, fun harmless steps state unreplaced reached =>
    (shrinkSteps_keeps harmless unreplaced reached).1⟩
  by_cases same : stripSchemaDescriptions schema = schema
  · rw [same]
    exact .refl schema
  · have trim : trimSchema schema = some (stripSchemaDescriptions schema) := if_pos same
    refine keeps 1 _ (fun earlier early state reached => ?_) (by simp [shrinkSteps, shrinkSchemaOneStep, trim])
    obtain rfl : earlier = 0 := by omega
    cases reached
    simp [trim]

def issueSchema : Json :=
  .obj [("properties", .obj [("description", .obj [("type", .str "string")])]), ("required", .arr [.str "description"])]

theorem shrink_drops_description : ∃ state, Unreplaced 1 issueSchema ∧ shrinkSteps 1 issueSchema = some state ∧
    "description" ∈ requiredNames issueSchema ∧
    valueAt (property "description" []) issueSchema = some (.obj [("type", .str "string")]) ∧
    valueAt (property "description" []) state = none := by
  refine ⟨_, fun earlier early state reached => ?_, rfl, by decide, by decide, by decide⟩
  obtain rfl : earlier = 0 := by omega
  cases reached
  decide

end RustScriptAgent.Prompt
