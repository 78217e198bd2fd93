import RustScriptAgent.Gateway.Store
import RustScriptAgent.Shared.JsonTree

namespace RustScriptAgent.Registry

open List Json

variable {nodes : Nat}

def maxSchemaBytes : Nat := 65536
def maxSchemaNodes : Nat := 4096
def maxSchemaDepth : Nat := 128
def maxPointerBytes : Nat := 256

inductive SchemaPreflightError where
  | invalidRoot
  | unsupportedSchemaDialect (path : String)
  | schemaTooLarge (actual : Nat)
  | schemaTooComplex (actual : Nat)
  | schemaTooDeep (actual : Nat)
  deriving DecidableEq

inductive SchemaDraft where
  | draft4
  | draft6
  | draft7
  | draft201909
  | draft202012
  deriving DecidableEq

def maxSchemaDialectBytes : Nat := "https://json-schema.org/draft/2020-12/schema#".utf8ByteSize

def stripHash (uri : String) : String :=
  if uri.toList.getLast? = some '#' then String.ofList uri.toList.dropLast else uri

def supportedSchemaDraft (uri : String) : Option SchemaDraft :=
  let base := stripHash uri
  if maxSchemaDialectBytes < uri.utf8ByteSize then none
  else if base = "http://json-schema.org/draft-04/schema" then some .draft4
  else if base = "http://json-schema.org/draft-06/schema" then some .draft6
  else if base = "http://json-schema.org/draft-07/schema" then some .draft7
  else if base = "https://json-schema.org/draft/2019-09/schema" then some .draft201909
  else if base = "https://json-schema.org/draft/2020-12/schema" then some .draft202012
  else none

def isAsciiGraphic (character : Char) : Bool := 33 ≤ character.toNat && character.toNat ≤ 126

def pointerText (character : Char) : String :=
  if character = '~' then "~0"
  else if character = '/' then "~1"
  else if isAsciiGraphic character then character.toString
  else "?"

def pushCharacters (path : String) : List Char → String
  | [] => path
  | character :: rest =>
    if maxPointerBytes - path.utf8ByteSize < (pointerText character).utf8ByteSize then path
    else pushCharacters (path ++ pointerText character) rest

def pushPointerSegment (path segment : String) : String :=
  if maxPointerBytes ≤ path.utf8ByteSize then
    if maxPointerBytes < path.utf8ByteSize then String.ofList (Gateway.takeBytes maxPointerBytes path.toList) else path
  else pushCharacters (path ++ "/") segment.toList

structure Pending where
  value : Json
  depth : Nat
  path : String

def schemaStringSerializedLowerBound (value : String) : Option Nat :=
  let actual := value.utf8ByteSize + 2
  if maxSchemaBytes < actual then some actual else none

def Pending.children (entry : Pending) : List Pending :=
  match entry.value with
  | .obj fields =>
    fields.map fun field => ⟨field.2, entry.depth + 1, pushPointerSegment entry.path field.1⟩
  | .arr values =>
    values.zipIdx.map fun item => ⟨item.1, entry.depth + 1, pushPointerSegment entry.path (toString item.2)⟩
  | _ => []

def isContainer : Json → Bool
  | .obj _ | .arr _ => true
  | _ => false

def dialect? (value : Json) : Option String := (value.get? "$schema").bind asStr?

def Pending.checks (entry : Pending) (nodes waiting : Nat) : List (Option SchemaPreflightError) :=
  let children := entry.value.children.length
  [(entry.value.texts.findSome? schemaStringSerializedLowerBound).map .schemaTooLarge,
    if maxSchemaDepth < entry.depth then some (.schemaTooDeep entry.depth) else none,
    if maxSchemaNodes < nodes then some (.schemaTooComplex nodes) else none,
    (dialect? entry.value).bind fun uri =>
      if (supportedSchemaDraft uri).isNone then
        some (.unsupportedSchemaDialect (pushPointerSegment entry.path "$schema"))
      else none,
    if entry.depth = maxSchemaDepth ∧ children ≠ 0 then some (.schemaTooDeep (entry.depth + 1)) else none,
    -- only objects and arrays look at the frontier
    if isContainer entry.value ∧ maxSchemaNodes < nodes + waiting + children then
      some (.schemaTooComplex (nodes + waiting + children))
    else none]

def Pending.inspect (entry : Pending) (nodes waiting : Nat) : Option SchemaPreflightError :=
  (entry.checks nodes waiting).findSome? id

def remaining (pending : List Pending) : Nat := population (pending.map Pending.value)

theorem Pending.children_value (entry : Pending) : entry.children.map Pending.value = entry.value.children := by
  rcases entry with ⟨value, depth, path⟩
  cases value with
  | obj fields => simp [Pending.children, Json.children]
  | arr values =>
    simp only [Pending.children, children, map_map]
    exact zipIdx_map_fst 0 values
  | _ => rfl

theorem Pending.children_depth {entry child : Pending} (member : child ∈ entry.children) :
    child.depth = entry.depth + 1 := by
  rcases entry with ⟨value, depth, path⟩
  cases value with
  | obj fields =>
    obtain ⟨field, _, rfl⟩ := mem_map.mp member
    rfl
  | arr values =>
    obtain ⟨item, _, rfl⟩ := mem_map.mp member
    rfl
  | _ => cases member

theorem remaining_step (entry : Pending) (rest : List Pending) :
    remaining (entry :: rest) = remaining (entry.children ++ rest) + 1 := by
  unfold remaining
  rw [map_cons, map_append, entry.children_value, population_cons, population_append, nodes_eq]
  omega

def walk (nodes : Nat) : List Pending → Except SchemaPreflightError Unit
  | [] => .ok ()
  | entry :: rest =>
    match entry.inspect (nodes + 1) rest.length with
    | some error => .error error
    | none => walk (nodes + 1) (entry.children ++ rest)
termination_by pending => remaining pending
decreasing_by
  rw [remaining_step]
  exact Nat.lt_succ_self _

structure SizeLimitWriter where
  size : Nat
  limit : Nat
  overflowed : Bool

open SizeLimitWriter

def SizeLimitWriter.write (writer : SizeLimitWriter) (bytes : Nat) : Bool × SizeLimitWriter :=
  if writer.limit - writer.size < bytes then (false, { writer with size := writer.limit + 1, overflowed := true })
  else (true, { writer with size := writer.size + bytes })

def SizeLimitWriter.writeAll (writer : SizeLimitWriter) : List String → Bool × SizeLimitWriter
  | [] => (true, writer)
  | text :: rest =>
    match writer.write text.utf8ByteSize with
    | (true, next) => next.writeAll rest
    | (false, next) => (false, next)

/-- The serializer of documents, with the fragments that it writes: together they are the compact text. -/
structure Serializer where
  fragments : Json → List String
  complete : ∀ document, String.join (fragments document) = document.render

mutual
def compactPieces : Json → List String
  | .arr items => "[" :: (itemPieces items ++ ["]"])
  | .obj fields => "\x7b" :: (fieldPieces fields ++ ["\x7d"])
  | scalar => [scalar.render]

def itemPieces : List Json → List String
  | [] => []
  | [item] => compactPieces item
  | item :: rest => compactPieces item ++ "," :: itemPieces rest

def fieldPieces : List (String × Json) → List String
  | [] => []
  | [(key, value)] => quote key :: ":" :: compactPieces value
  | (key, value) :: rest => quote key :: ":" :: (compactPieces value ++ "," :: fieldPieces rest)
end

mutual
theorem join_compactPieces : ∀ document : Json, String.join (compactPieces document) = document.render
  | .arr items => by simp [compactPieces, render, join_itemPieces items, String.append_assoc]
  | .obj fields => by simp [compactPieces, render, join_fieldPieces fields, String.append_assoc]
  | .null | .bool _ | .int _ | .float _ | .str _ => by simp [compactPieces]

theorem join_itemPieces : ∀ items : List Json, String.join (itemPieces items) = renderItems items
  | [] => rfl
  | [item] => by simp [itemPieces, renderItems, join_compactPieces item]
  | item :: other :: rest => by
    simp [itemPieces, renderItems, join_compactPieces item, join_itemPieces (other :: rest), String.append_assoc]

theorem join_fieldPieces : ∀ fields : List (String × Json), String.join (fieldPieces fields) = renderFields fields
  | [] => rfl
  | [(key, value)] => by simp [fieldPieces, renderFields, join_compactPieces value, String.append_assoc]
  | (key, value) :: other :: rest => by
    simp [fieldPieces, renderFields, join_compactPieces value, join_fieldPieces (other :: rest),
      String.append_assoc]
end

def Serializer.compact : Serializer := ⟨compactPieces, join_compactPieces⟩

def isRoot : Json → Bool
  | .bool _ | .obj _ => true
  | _ => false

def inspectSchemaLimits (serializer : Serializer) (schema : Json) : Except SchemaPreflightError Unit :=
  if !isRoot schema then .error .invalidRoot
  else
    match walk 0 [⟨schema, 0, ""⟩] with
    | .error error => .error error
    | .ok () =>
      match writeAll ⟨0, maxSchemaBytes, false⟩ (serializer.fragments schema) with
      | (true, _) => .ok ()
      | (false, writer) =>
        if writer.overflowed then .error (.schemaTooLarge (maxSchemaBytes + 1)) else .error .invalidRoot

def Supported (value : Json) : Prop := ∀ uri, dialect? value = some uri → (supportedSchemaDraft uri).isSome

def Reaches (pending : List Pending) (depth : Nat) (node : Json) : Prop :=
  ∃ entry ∈ pending, ∃ below, Json.Node entry.value below node ∧ depth = entry.depth + below

variable {entry : Pending}

theorem reaches_step {rest : List Pending} {depth : Nat} {node : Json} :
    Reaches (entry :: rest) depth node ↔
      (depth = entry.depth ∧ node = entry.value) ∨ Reaches (entry.children ++ rest) depth node := by
  constructor
  · rintro ⟨other, member, below, stands, rfl⟩
    rcases mem_cons.mp member with rfl | later
    · cases stands with
      | root => exact .inl ⟨rfl, rfl⟩
      | @inside _ value _ below inner stands =>
        rw [← other.children_value] at inner
        obtain ⟨child, pushed, rfl⟩ := mem_map.mp inner
        refine .inr ⟨child, mem_append_left _ pushed, below, stands, ?_⟩
        rw [Pending.children_depth pushed]
        omega
    · exact .inr ⟨other, mem_append_right _ later, below, stands, rfl⟩
  · rintro (⟨rfl, rfl⟩ | ⟨other, member, below, stands, rfl⟩)
    · exact ⟨entry, mem_cons_self, 0, .root _, rfl⟩
    · rcases mem_append.mp member with inner | later
      · refine ⟨entry, mem_cons_self, below + 1, .inside ?_ stands, ?_⟩
        · rw [← entry.children_value]
          exact mem_map_of_mem inner
        · rw [Pending.children_depth inner]
          omega
      · exact ⟨other, mem_cons_of_mem _ later, below, stands, rfl⟩

def Judged (nodes : Nat) (pending : List Pending) : Except SchemaPreflightError Unit → Prop
  | .ok () => nodes + remaining pending ≤ maxSchemaNodes ∧
      ∀ depth node, Reaches pending depth node → depth ≤ maxSchemaDepth ∧ Supported node
  | .error (.schemaTooLarge actual) => maxSchemaBytes < actual ∧
      ∃ depth node, Reaches pending depth node ∧ ∃ text ∈ node.texts, actual = text.utf8ByteSize + 2
  | .error (.schemaTooDeep actual) => maxSchemaDepth < actual ∧ ∃ node, Reaches pending actual node
  | .error (.schemaTooComplex actual) => maxSchemaNodes < actual ∧ actual ≤ nodes + remaining pending
  | .error (.unsupportedSchemaDialect _) => ∃ depth node, Reaches pending depth node ∧ ¬ Supported node
  | .error .invalidRoot => False

theorem inspect_error {rest : List Pending} {error : SchemaPreflightError}
    (failed : entry.inspect (nodes + 1) rest.length = some error) :
    Judged nodes (entry :: rest) (.error error) := by
  -- an error of the loop body is true of the entry
  have here : Reaches (entry :: rest) entry.depth entry.value := reaches_step.mpr (.inl ⟨rfl, rfl⟩)
  have room : rest.length ≤ remaining rest := by
    have counted := length_le_population (rest.map Pending.value)
    rwa [length_map] at counted
  have counted : remaining (entry :: rest) = population entry.value.children + 1 + remaining rest := by
    unfold remaining
    rw [map_cons, population_cons, nodes_eq]
  have wide := length_le_population entry.value.children
  obtain ⟨check, member, fails⟩ := exists_of_findSome?_eq_some failed
  simp only [id_eq] at fails
  subst fails
  simp only [Pending.checks, mem_cons, not_mem_nil, or_false] at member
  rcases member with long | deep | many | unsupported | deeper | frontier
  · obtain ⟨actual, found, rfl⟩ := Option.map_eq_some_iff.mp long.symm
    obtain ⟨text, stands, bound⟩ := exists_of_findSome?_eq_some found
    unfold schemaStringSerializedLowerBound at bound
    dsimp only at bound
    split at bound
    next large =>
      cases bound
      exact ⟨large, _, _, here, text, stands, rfl⟩
    next => cases bound
  · split at deep
    next large =>
      cases deep
      exact ⟨large, _, here⟩
    next => cases deep
  · split at many
    next large =>
      cases many
      exact ⟨large, by omega⟩
    next => cases many
  · obtain ⟨uri, named, fails⟩ := Option.bind_eq_some_iff.mp unsupported.symm
    split at fails
    next missing =>
      cases fails
      refine ⟨_, _, here, fun supported => ?_⟩
      have known := supported uri named
      rw [Option.isNone_iff_eq_none] at missing
      rw [missing] at known
      cases known
    next => cases fails
  · split at deeper
    next both =>
      cases deeper
      obtain ⟨deepest, some⟩ := both
      obtain ⟨child, member⟩ := exists_mem_of_length_pos (Nat.pos_of_ne_zero some)
      have stands : Reaches (entry :: rest) (entry.depth + 1) child :=
        ⟨entry, mem_cons_self, 1, .inside member (.root child), rfl⟩
      exact ⟨by omega, child, stands⟩
    next => cases deeper
  · split at frontier
    next both =>
      cases frontier
      exact ⟨both.2, by omega⟩
    next => cases frontier

theorem inspect_passes {waiting : Nat} (passes : entry.inspect nodes waiting = none) :
    nodes ≤ maxSchemaNodes ∧ entry.depth ≤ maxSchemaDepth ∧ Supported entry.value := by
  have all := findSome?_eq_none_iff.mp passes
  simp only [Pending.checks, mem_cons, not_mem_nil, or_false, forall_eq_or_imp, forall_eq, id_eq] at all
  obtain ⟨_, shallow, few, supported, _, _⟩ := all
  refine ⟨?_, ?_, fun uri named => ?_⟩
  · split at few
    · cases few
    · omega
  · split at shallow
    · cases shallow
    · omega
  · have passes := Option.bind_eq_none_iff.mp supported uri named
    split at passes
    next => cases passes
    next known => simpa [Option.isNone_iff_eq_none, Option.isSome_iff_ne_none] using known

theorem judged_empty (nodes : Nat) (few : nodes ≤ maxSchemaNodes) : Judged nodes [] (.ok ()) := by
  refine ⟨few, fun depth node reaches => ?_⟩
  obtain ⟨entry, member, _⟩ := reaches
  cases member

theorem Judged.step {rest : List Pending} {outcome : Except SchemaPreflightError Unit}
    (passes : entry.inspect (nodes + 1) rest.length = none)
    (judged : Judged (nodes + 1) (entry.children ++ rest) outcome) : Judged nodes (entry :: rest) outcome := by
  have count := remaining_step entry rest
  obtain ⟨few, shallow, supported⟩ := inspect_passes passes
  have later : ∀ {depth node}, Reaches (entry.children ++ rest) depth node → Reaches (entry :: rest) depth node :=
    fun reaches => reaches_step.mpr (.inr reaches)
  match outcome with
  | .ok () =>
    refine ⟨by have := judged.1; omega, fun depth node reaches => ?_⟩
    rcases reaches_step.mp reaches with ⟨rfl, rfl⟩ | inner
    · exact ⟨shallow, supported⟩
    · exact judged.2 depth node inner
  | .error (.schemaTooLarge actual) =>
    obtain ⟨large, depth, node, reaches, text⟩ := judged
    exact ⟨large, depth, node, later reaches, text⟩
  | .error (.schemaTooDeep actual) =>
    obtain ⟨large, node, reaches⟩ := judged
    exact ⟨large, node, later reaches⟩
  | .error (.schemaTooComplex actual) =>
    obtain ⟨large, bound⟩ := judged
    exact ⟨large, by omega⟩
  | .error (.unsupportedSchemaDialect path) =>
    obtain ⟨depth, node, reaches, unsupported⟩ := judged
    exact ⟨depth, node, later reaches, unsupported⟩
  | .error .invalidRoot => exact judged

theorem walk_judged (nodes : Nat) (pending : List Pending) (few : nodes ≤ maxSchemaNodes) :
    Judged nodes pending (walk nodes pending) := by
  fun_induction walk nodes pending with
  | case1 nodes => exact judged_empty nodes few
  | case2 nodes entry rest error failed => exact inspect_error failed
  | case3 nodes entry rest passes ih => exact (ih (inspect_passes passes).1).step passes

theorem writeAll_spec (writer : SizeLimitWriter) (texts : List String) (fits : writer.size ≤ writer.limit) :
    ((writer.writeAll texts).1 ↔ writer.size + (String.join texts).utf8ByteSize ≤ writer.limit) ∧
    ((writer.writeAll texts).1 = false → (writer.writeAll texts).2.overflowed) := by
  induction texts generalizing writer with
  | nil => simpa [writeAll] using fits
  | cons text rest ih =>
    rw [String.join_cons, String.utf8ByteSize_append]
    by_cases exceeds : writer.limit - writer.size < text.utf8ByteSize
    · have refused : writer.writeAll (text :: rest) =
          (false, { writer with size := writer.limit + 1, overflowed := true }) := by
        rw [writeAll, write, if_pos exceeds]
      rw [refused]
      exact ⟨⟨nofun, fun small => by omega⟩, fun _ => rfl⟩
    · have taken : writer.writeAll (text :: rest) =
          ({ writer with size := writer.size + text.utf8ByteSize } : SizeLimitWriter).writeAll rest := by
        rw [writeAll, write, if_neg exceeds]
      have next := ih { writer with size := writer.size + text.utf8ByteSize } (by dsimp only; omega)
      rw [taken]
      rwa [Nat.add_assoc] at next

structure Within (schema : Json) : Prop where
  root : isRoot schema = true
  nodes : schema.nodes ≤ maxSchemaNodes
  depth : ∀ depth node, Json.Node schema depth node → depth ≤ maxSchemaDepth
  dialects : ∀ depth node, Json.Node schema depth node → Supported node
  bytes : schema.textSize ≤ maxSchemaBytes

def Justified (schema : Json) : SchemaPreflightError → Prop
  | .invalidRoot => isRoot schema = false
  | .unsupportedSchemaDialect _ => ∃ depth node, Json.Node schema depth node ∧ ¬ Supported node
  | .schemaTooLarge actual => maxSchemaBytes < actual ∧ actual ≤ schema.textSize
  | .schemaTooComplex actual => maxSchemaNodes < actual ∧ actual ≤ schema.nodes
  | .schemaTooDeep actual => maxSchemaDepth < actual ∧ ∃ node, Json.Node schema actual node

theorem Justified.not_within {schema : Json} {error : SchemaPreflightError} (justified : Justified schema error) :
    ¬ Within schema := by
  intro within
  cases error with
  | invalidRoot =>
    have root := within.root
    rw [justified] at root
    cases root
  | unsupportedSchemaDialect path =>
    obtain ⟨depth, node, stands, unsupported⟩ := justified
    exact unsupported (within.dialects depth node stands)
  | schemaTooLarge actual =>
    have := within.bytes
    have := justified
    unfold Justified at this
    omega
  | schemaTooComplex actual =>
    have := within.nodes
    have := justified
    unfold Justified at this
    omega
  | schemaTooDeep actual =>
    obtain ⟨large, node, stands⟩ := justified
    have := within.depth actual node stands
    omega

theorem reaches_schema {schema node : Json} {depth : Nat} :
    Reaches [⟨schema, 0, ""⟩] depth node ↔ Json.Node schema depth node := by
  constructor
  · rintro ⟨entry, member, below, stands, rfl⟩
    rw [mem_singleton.mp member] at stands ⊢
    rwa [Nat.zero_add]
  · exact fun stands => ⟨_, mem_singleton_self _, depth, stands, (Nat.zero_add depth).symm⟩

theorem walk_schema (schema : Json) (root : isRoot schema) : match walk 0 [⟨schema, 0, ""⟩] with
    | .ok () => schema.textSize ≤ maxSchemaBytes → Within schema
    | .error error => Justified schema error := by
  have judged := walk_judged 0 [⟨schema, 0, ""⟩] (Nat.zero_le _)
  have count : remaining [⟨schema, 0, ""⟩] = schema.nodes := by simp [remaining]
  generalize walk 0 [⟨schema, 0, ""⟩] = outcome at judged ⊢
  match outcome with
  | .ok () =>
    intro bytes
    obtain ⟨few, every⟩ := judged
    exact { root, bytes
            nodes := by omega
            depth := fun depth node stands => (every depth node (reaches_schema.mpr stands)).1
            dialects := fun depth node stands => (every depth node (reaches_schema.mpr stands)).2 }
  | .error (.schemaTooLarge actual) =>
    obtain ⟨large, depth, node, reaches, text, member, rfl⟩ := judged
    exact ⟨large, (textSize_text member).trans (reaches_schema.mp reaches).textSize_le⟩
  | .error (.schemaTooDeep actual) =>
    obtain ⟨large, node, reaches⟩ := judged
    exact ⟨large, node, reaches_schema.mp reaches⟩
  | .error (.schemaTooComplex actual) =>
    obtain ⟨large, bound⟩ := judged
    exact ⟨large, by omega⟩
  | .error (.unsupportedSchemaDialect path) =>
    obtain ⟨depth, node, reaches, unsupported⟩ := judged
    exact ⟨depth, node, reaches_schema.mp reaches, unsupported⟩
  | .error .invalidRoot => exact judged.elim

theorem inspectSchemaLimits_exact (serializer : Serializer) (schema : Json) :
    (inspectSchemaLimits serializer schema = .ok () ↔ Within schema) ∧
    ∀ error, inspectSchemaLimits serializer schema = .error error → Justified schema error := by
  have sound : match inspectSchemaLimits serializer schema with
      | .ok () => Within schema
      | .error error => Justified schema error := by
    unfold inspectSchemaLimits
    cases root : isRoot schema with
    | false => exact root
    | true =>
      have walked := walk_schema schema root
      have written := writeAll_spec ⟨0, maxSchemaBytes, false⟩ (serializer.fragments schema) (Nat.zero_le _)
      rw [serializer.complete, Nat.zero_add] at written
      generalize walk 0 [⟨schema, 0, ""⟩] = outcome at walked
      rcases outcome with error | ⟨⟩
      · exact walked
      · generalize writeAll _ _ = result at written
        rcases result with ⟨taken, writer⟩
        cases taken with
        | true => exact walked (written.1.mp rfl)
        | false =>
          have exceeds : ¬ schema.textSize ≤ maxSchemaBytes := fun fits => by cases written.1.mpr fits
          have overflowed : writer.overflowed = true := written.2 rfl
          simp only [Bool.not_true, Bool.false_eq_true, if_false, overflowed, if_true]
          exact ⟨Nat.lt_succ_self _, by omega⟩
  generalize inspectSchemaLimits serializer schema = outcome at sound
  rcases outcome with error | ⟨⟩
  · refine ⟨⟨nofun, fun within => absurd within sound.not_within⟩, fun other same => ?_⟩
    cases same
    exact sound
  · exact ⟨⟨fun _ => sound, fun _ => rfl⟩, nofun⟩

def streetSchema : Json :=
  .obj [("$schema", .str "http://json-schema.org/draft-07/schema#"),
    ("properties", .obj [("street", .obj [("items", .obj [("type", .str "string")]), ("type", .str "array")])]),
    ("required", .arr [.str "street"]), ("type", .str "object")]

theorem streetSchema_within : Within streetSchema :=
  (inspectSchemaLimits_exact Serializer.compact streetSchema).1.mp (by decide +kernel)

end RustScriptAgent.Registry
