import Mathlib
import RustScriptAgent.Shared.Checks
import RustScriptAgent.Shared.Worklist

namespace RustScriptAgent.Runtime

open Checks Worklists List Option

def maxCatalogFiles : Nat := 256
def maxCatalogDepth : Nat := 16
def maxCatalogFileBytes : Nat := 1024 * 1024
def maxCatalogTotalBytes : Nat := 8 * 1024 * 1024

inductive ClosedBundleError where
  | sourceTooLarge
  | sourceInvalid
  | importDenied
  | compileFailed
  deriving DecidableEq

inductive UsePathSegment where
  | self
  | super
  | ident (name : String)

inductive ImportClause where
  | allPublic
  | named (names : List String)
  | namespaced (name : String)

def ImportClause.whole : ImportClause → Bool
  | .named _ => false
  | _ => true

structure BundleImport where
  path : List UsePathSegment
  clause : ImportClause

/-- The names of the host's namespaces, the character classes of the standard library and the import scanner with its
prelude. -/
structure Parser where
  hostRoots : List String
  isControl : Char → Bool
  isAlphabetic : Char → Bool
  isAlphanumeric : Char → Bool
  scanImports : String → Except ClosedBundleError (List BundleImport)

namespace Parser

variable (parser : Parser) (maxDepth : Nat)

def validModuleIdentifier : List Char → Bool
  | [] => false
  | first :: rest =>
    (first == '_' || parser.isAlphabetic first) && rest.all fun c => c == '_' || parser.isAlphanumeric c

def validateBundlePath (path : List Char) : Except ClosedBundleError Unit := do
  refuseIf (path = [] ∨ path.head? = some '/' ∨ '\\' ∈ path ∨ path.any parser.isControl) .importDenied
  let components := path.splitOn '/'
  refuseIf (maxDepth < components.length ∨ ∃ component ∈ components, component ∈ [[], ['.'], ['.', '.']]) .importDenied
  let file := components.getLastD []
  refuseIf (¬ ".rss".toList <:+ file) .importDenied
  let names := components.dropLast ++ [file.take (file.length - 4)]
  refuseIf (¬ names.all parser.validModuleIdentifier) .importDenied

def firstImportIdentifier : List UsePathSegment → Nat → Except ClosedBundleError (String × Nat)
  | [], _ => .error .importDenied
  | .ident name :: _, index => .ok (name, index)
  | _ :: rest, index => firstImportIdentifier rest (index + 1)

def climb : List (List Char) → List UsePathSegment →
    Except ClosedBundleError (List (List Char) × List UsePathSegment)
  | _, [] => .error .importDenied
  | resolved, .self :: rest => climb resolved rest
  | resolved, .super :: rest => if resolved = [] then .error .importDenied else climb resolved.dropLast rest
  | resolved, .ident name :: rest =>
    if name = "crate" then .error .importDenied else .ok (resolved, .ident name :: rest)

def segmentName : UsePathSegment → Except ClosedBundleError (List Char)
  | .ident name => if parser.validModuleIdentifier name.toList then .ok name.toList else .error .importDenied
  | .self => .ok "self".toList
  | .super => .ok "super".toList

def resolveBundleImport (importer : String) (segments : List UsePathSegment) : Except ClosedBundleError String := do
  let (resolved, rest) ← climb (importer.toList.splitOn '/').dropLast segments
  let names ← rest.mapM parser.segmentName
  let target := ['/'].intercalate (resolved ++ names) ++ ".rss".toList
  parser.validateBundlePath maxDepth target
  return String.ofList target

/-- The module that an import names; there is none for a plain import of a host namespace. -/
def importTarget (importer : String) (declared : BundleImport) : Except ClosedBundleError (Option String) := do
  let (root, firstIndex) ← firstImportIdentifier declared.path 0
  if firstIndex = 0 ∧ root ∈ parser.hostRoots then
    if declared.path.length = 1 ∧ declared.clause.whole then return none else throw .importDenied
  else return some (← parser.resolveBundleImport maxDepth importer declared.path)

def presentTarget (present : String → Bool) (importer : String) (declared : BundleImport) :
    Except ClosedBundleError (Option String) := do
  match ← parser.importTarget maxDepth importer declared with
  | none => return none
  | some target => if present target then return some target else throw .importDenied

def presentTargets (present : String → Bool) (importer : String) (imports : List BundleImport) :
    Except ClosedBundleError (List String) := do
  let targets ← imports.mapM (parser.presentTarget maxDepth present importer)
  return targets.reduceOption

def preflightBundle (bundle : List String) (imports : List (String × List BundleImport)) :
    Except ClosedBundleError Unit := do
  let _ ← imports.mapM fun (importer, declared) => parser.presentTargets maxDepth (· ∈ bundle) importer declared

end Parser

def readCatalog : Nat → List String → List (String × String) → Except ClosedBundleError Unit
  | _, _, [] => .ok ()
  | bytes, keys, (key, source) :: rest => do
    refuseIf (maxCatalogFileBytes < source.utf8ByteSize) .sourceTooLarge
    refuseIf (maxCatalogTotalBytes < bytes + source.utf8ByteSize) .sourceTooLarge
    refuseIf (key ∈ keys) .importDenied
    readCatalog (bytes + source.utf8ByteSize) (key :: keys) rest

namespace Parser

variable (parser : Parser) (catalog : List (String × String)) (entryKey : String)

def moduleImports (key : String) : Except ClosedBundleError (List BundleImport) := do
  parser.validateBundlePath maxCatalogDepth key.toList
  match catalog.lookup key with
  | none => .error .importDenied
  | some source => parser.scanImports source

def moduleTargets (key : String) : Except ClosedBundleError (List String) := do
  let imports ← parser.moduleImports catalog key
  parser.presentTargets maxCatalogDepth (fun target => (catalog.lookup target).isSome) key imports

variable {parser catalog} in
theorem moduleImports_ok {key : String} {imports : List BundleImport}
    (ok : parser.moduleImports catalog key = .ok imports) :
    parser.validateBundlePath maxCatalogDepth key.toList = .ok () ∧
      ∃ source, catalog.lookup key = some source ∧ parser.scanImports source = .ok imports := by
  rw [moduleImports, andThen_ok] at ok
  refine ⟨ok.1, ?_⟩
  cases found : catalog.lookup key with
  | none => simp [found] at ok
  | some source => simpa [found] using ok.2

def catalogLinks : Links String ClosedBundleError where
  known := catalog.map Prod.fst
  successors := parser.moduleTargets catalog
  answers key targets ok := by
    obtain ⟨imports, scanned, _⟩ := passed_bind ok
    obtain ⟨_, source, found, _⟩ := moduleImports_ok scanned
    obtain ⟨before, after, rfl, _⟩ := List.lookup_eq_some_iff.mp found
    simp

def selectCatalogClosure : Except ClosedBundleError (List String) := do
  refuseIf (maxCatalogFiles < catalog.length) .sourceTooLarge
  readCatalog 0 [] catalog
  parser.validateBundlePath maxCatalogDepth entryKey.toList
  refuseIf (catalog.lookup entryKey = none) .importDenied
  let visited ← (parser.catalogLinks catalog).close [] [entryKey]
  return visited.mergeSort

def bundleImports (bundle : List String) : Except ClosedBundleError (List (String × List BundleImport)) :=
  bundle.mapM fun key => do return (key, ← parser.moduleImports catalog key)

inductive Reachable : String → Prop
  | entry : Reachable entryKey
  | imported {importer target source : String} {imports : List BundleImport} {declared : BundleImport}
      (reached : Reachable importer) (found : catalog.lookup importer = some source)
      (scanned : parser.scanImports source = .ok imports) (member : declared ∈ imports)
      (resolved : parser.importTarget maxCatalogDepth importer declared = .ok (some target)) : Reachable target

inductive Broken (key : String) : Prop
  | invalid (refused : parser.validateBundlePath maxCatalogDepth key.toList ≠ .ok ())
  | missing (absent : catalog.lookup key = none)
  | unparsed {source : String} {failure : ClosedBundleError} (found : catalog.lookup key = some source)
      (failed : parser.scanImports source = .error failure)
  | denied {source : String} {imports : List BundleImport} {declared : BundleImport} {failure : ClosedBundleError}
      (found : catalog.lookup key = some source) (scanned : parser.scanImports source = .ok imports)
      (member : declared ∈ imports)
      (refused : parser.importTarget maxCatalogDepth key declared = .error failure)

end Parser

structure WithinLimits (catalog : List (String × String)) : Prop where
  files : catalog.length ≤ maxCatalogFiles
  each : ∀ entry ∈ catalog, entry.2.utf8ByteSize ≤ maxCatalogFileBytes
  total : (catalog.map (·.2.utf8ByteSize)).sum ≤ maxCatalogTotalBytes

theorem readCatalog_ok {bytes : Nat} {keys : List String} {catalog : List (String × String)}
    (few : bytes ≤ maxCatalogTotalBytes) : readCatalog bytes keys catalog = .ok () ↔
      (∀ entry ∈ catalog, entry.2.utf8ByteSize ≤ maxCatalogFileBytes) ∧
        bytes + (catalog.map (·.2.utf8ByteSize)).sum ≤ maxCatalogTotalBytes ∧
        (catalog.map Prod.fst).Nodup ∧ keys.Disjoint (catalog.map Prod.fst) := by
  induction catalog generalizing bytes keys with
  | nil => simpa [readCatalog] using few
  | cons entry rest ih =>
    simp only [readCatalog, andThen_ok, refuseIf_ok, map_cons, sum_cons, nodup_cons, forall_mem_cons,
      disjoint_cons_right, Nat.not_lt]
    by_cases fits : bytes + entry.2.utf8ByteSize ≤ maxCatalogTotalBytes
    · rw [ih fits, disjoint_cons_left, Nat.add_assoc]
      tauto
    · have : ¬ bytes + (entry.2.utf8ByteSize + (rest.map (·.2.utf8ByteSize)).sum) ≤ maxCatalogTotalBytes := by omega
      tauto

namespace Parser

section Targets

variable {parser : Parser} {maxDepth : Nat} {present : String → Bool} {importer : String}

theorem presentTarget_ok {declared : BundleImport} {target : Option String} :
    parser.presentTarget maxDepth present importer declared = .ok target ↔
      parser.importTarget maxDepth importer declared = .ok target ∧ ∀ key, target = some key → present key := by
  unfold presentTarget
  cases parser.importTarget maxDepth importer declared with
  | error failure => simp [bind, Except.bind]
  | ok found =>
    cases found with
    | none => cases target <;> simp [bind, Except.bind, pure, Except.pure]
    | some key =>
      by_cases here : present key <;> simp [bind, Except.bind, pure, Except.pure, here] <;> rintro rfl <;> simp [here]

theorem presentTargets_ok {imports : List BundleImport} {targets : List String}
    (ok : parser.presentTargets maxDepth present importer imports = .ok targets) :
    (∀ declared ∈ imports, ∃ target, parser.presentTarget maxDepth present importer declared = .ok target ∧
        target.toList ⊆ targets) ∧
      ∀ key ∈ targets, ∃ declared ∈ imports,
        parser.presentTarget maxDepth present importer declared = .ok (some key) := by
  obtain ⟨found, all, ok⟩ := passed_bind ok
  cases ok
  refine ⟨fun declared member => ?_, fun key member => ?_⟩
  · obtain ⟨target, among, here⟩ := (mapM_passed all).1 declared member
    exact ⟨target, here, fun key same => reduceOption_mem_iff.mpr (mem_toList.mp same ▸ among)⟩
  · exact (mapM_passed all).2 _ (reduceOption_mem_iff.mp member)

theorem exists_presentTargets {imports : List BundleImport}
    (all : ∀ declared ∈ imports, ∃ target, parser.presentTarget maxDepth present importer declared = .ok target) :
    ∃ targets, parser.presentTargets maxDepth present importer imports = .ok targets := by
  obtain ⟨found, ok⟩ := exists_mapM all
  exact ⟨_, bind_of_ok ok rfl⟩

end Targets

variable {parser : Parser} {catalog : List (String × String)} {entryKey key : String}
  {targets closure : List String}

theorem Reachable.of_reach (reached : (parser.catalogLinks catalog).Reach entryKey key) :
    parser.Reachable catalog entryKey key := by
  induction reached with
  | start => exact .entry
  | step _ ok member ih =>
    obtain ⟨imports, scanned, ok⟩ := passed_bind ok
    obtain ⟨_, source, found, scanned⟩ := moduleImports_ok scanned
    obtain ⟨declared, here, target⟩ := (presentTargets_ok ok).2 _ member
    exact ih.imported found scanned here (presentTarget_ok.mp target).1

theorem moduleTargets_ok (ok : parser.moduleTargets catalog key = .ok targets) :
    parser.validateBundlePath maxCatalogDepth key.toList = .ok () ∧
      ∃ source, catalog.lookup key = some source ∧ ∃ imports, parser.scanImports source = .ok imports ∧
        ∀ declared ∈ imports, ∃ target,
          parser.importTarget maxCatalogDepth key declared = .ok target ∧ target.toList ⊆ targets := by
  obtain ⟨imports, scanned, ok⟩ := passed_bind ok
  obtain ⟨valid, source, found, scanned⟩ := moduleImports_ok scanned
  refine ⟨valid, source, found, imports, scanned, fun declared member => ?_⟩
  obtain ⟨target, present, inside⟩ := (presentTargets_ok ok).1 declared member
  exact ⟨target, (presentTarget_ok.mp present).1, inside⟩

theorem not_broken (ok : parser.moduleTargets catalog key = .ok targets) :
    ¬ parser.Broken catalog key := by
  obtain ⟨valid, source, found, imports, scanned, each⟩ := moduleTargets_ok ok
  rintro (refused | absent | ⟨here, failed⟩ | ⟨here, parsed, member, refused⟩)
  · exact refused valid
  · simp [found] at absent
  · obtain rfl := some.inj (found.symm.trans here)
    simp [scanned] at failed
  · obtain rfl := some.inj (found.symm.trans here)
    cases scanned.symm.trans parsed
    obtain ⟨target, resolved, _⟩ := each _ member
    simp [resolved] at refused

theorem exists_broken {failure : ClosedBundleError} (reached : parser.Reachable catalog entryKey key)
    (failed : parser.moduleTargets catalog key = .error failure) :
    ∃ other, parser.Reachable catalog entryKey other ∧ parser.Broken catalog other := by
  by_contra none
  simp only [not_exists, not_and] at none
  have whole := none key reached
  have valid : parser.validateBundlePath maxCatalogDepth key.toList = .ok () := by
    by_contra refused
    exact whole (.invalid refused)
  cases found : catalog.lookup key with
  | none => exact whole (.missing found)
  | some source =>
    cases scanned : parser.scanImports source with
    | error failure => exact whole (.unparsed found scanned)
    | ok imports =>
      have each : ∀ declared ∈ imports, ∃ target, parser.presentTarget maxCatalogDepth
          (fun target => (catalog.lookup target).isSome) key declared = .ok target := by
        intro declared member
        cases resolved : parser.importTarget maxCatalogDepth key declared with
        | error failure => exact absurd (.denied found scanned member resolved) whole
        | ok target =>
          refine ⟨target, presentTarget_ok.mpr ⟨resolved, ?_⟩⟩
          rintro other rfl
          by_contra absent
          have absent := not_isSome_iff_eq_none.mp absent
          exact none other (reached.imported found scanned member resolved) (.missing absent)
      obtain ⟨targets, ok⟩ := exists_presentTargets each
      have scan : parser.moduleImports catalog key = .ok imports := by simp [moduleImports, valid, found, scanned]
      simp [moduleTargets, scan, ok, bind, Except.bind] at failed

theorem preflight_ok {bundle : List String} (each : ∀ key ∈ closure, ∃ imports,
      parser.moduleImports catalog key = .ok imports ∧
        ∃ targets, parser.presentTargets maxCatalogDepth (· ∈ bundle) key imports = .ok targets) :
    ∃ imports, parser.bundleImports catalog closure = .ok imports ∧
      parser.preflightBundle maxCatalogDepth bundle imports = .ok () := by
  obtain ⟨imports, scanned⟩ : ∃ imports, parser.bundleImports catalog closure = .ok imports :=
    exists_mapM fun key member => (each key member).elim fun imports found => ⟨_, bind_of_ok found.1 rfl⟩
  have checked : ∀ entry ∈ imports, ∃ targets,
      parser.presentTargets maxCatalogDepth (· ∈ bundle) entry.1 entry.2 = .ok targets := by
    intro entry member
    obtain ⟨key, among, ok⟩ := (mapM_passed scanned).2 entry member
    obtain ⟨found, here, targets⟩ := each key among
    rw [here] at ok
    cases ok
    exact targets
  obtain ⟨_, done⟩ := exists_mapM checked
  exact ⟨imports, scanned, bind_of_ok done rfl⟩

theorem closed_bundle {visited : List String} (done : (parser.catalogLinks catalog).Halfway entryKey visited [])
    (same : ∀ key, key ∈ closure ↔ key ∈ visited) :
    (∀ key, key ∈ closure ↔ parser.Reachable catalog entryKey key) ∧
      (∀ key, parser.Reachable catalog entryKey key → ¬ parser.Broken catalog key) ∧
      ∃ imports, parser.bundleImports catalog closure = .ok imports ∧
        parser.preflightBundle maxCatalogDepth closure imports = .ok () := by
  have closed (key : String) (member : key ∈ closure) :
      ∃ targets, parser.moduleTargets catalog key = .ok targets ∧ targets ⊆ closure := by
    obtain ⟨targets, ok, inside⟩ := done.closed key ((same key).mp member)
    exact ⟨targets, ok, fun target among => (same target).mpr (by simpa using inside among)⟩
  have all (key : String) (reached : parser.Reachable catalog entryKey key) : key ∈ closure := by
    induction reached with
    | entry => exact (same _).mpr (by simpa using done.started)
    | imported _ found scanned member resolved ih =>
      obtain ⟨targets, ok, inside⟩ := closed _ ih
      obtain ⟨_, source, here, imports, parsed, each⟩ := moduleTargets_ok ok
      obtain rfl := some.inj (found.symm.trans here)
      cases scanned.symm.trans parsed
      obtain ⟨target, again, among⟩ := each _ member
      cases resolved.symm.trans again
      exact inside (among (by simp))
  refine ⟨fun key => ⟨fun member => .of_reach ((done.mem_iff key).mp ((same key).mp member)), all key⟩,
    fun key reached => ?_, preflight_ok fun key member => ?_⟩
  · obtain ⟨targets, ok, _⟩ := closed key (all key reached)
    exact not_broken ok
  · obtain ⟨targets, ok, inside⟩ := closed key member
    obtain ⟨imports, scanned, ok⟩ := passed_bind ok
    refine ⟨imports, scanned, exists_presentTargets fun declared declares => ?_⟩
    obtain ⟨target, present, among⟩ := (presentTargets_ok ok).1 declared declares
    refine ⟨target, presentTarget_ok.mpr ⟨(presentTarget_ok.mp present).1, ?_⟩⟩
    rintro other rfl
    simpa using inside (among (by simp))

theorem selectCatalogClosure_ok :
    parser.selectCatalogClosure catalog entryKey = .ok closure ↔
      WithinLimits catalog ∧ (catalog.map Prod.fst).Nodup ∧
        parser.validateBundlePath maxCatalogDepth entryKey.toList = .ok () ∧ catalog.lookup entryKey ≠ none ∧
        ∃ visited, (parser.catalogLinks catalog).close [] [entryKey] = .ok visited ∧
          visited.mergeSort = closure := by
  have sort : (∃ visited, (parser.catalogLinks catalog).close [] [entryKey] = .ok visited ∧
      visited.mergeSort = closure) ↔ (do
        let visited ← (parser.catalogLinks catalog).close [] [entryKey]
        return visited.mergeSort) = Except.ok closure := by
    cases (parser.catalogLinks catalog).close [] [entryKey] <;> simp [bind, Except.bind, pure, Except.pure]
  have limits : WithinLimits catalog ↔ ¬ maxCatalogFiles < catalog.length ∧
      (∀ entry ∈ catalog, entry.2.utf8ByteSize ≤ maxCatalogFileBytes) ∧
      (catalog.map (·.2.utf8ByteSize)).sum ≤ maxCatalogTotalBytes :=
    ⟨fun limits => ⟨by simpa using limits.files, limits.each, limits.total⟩,
      fun ⟨files, each, total⟩ => ⟨by omega, each, total⟩⟩
  simp [selectCatalogClosure, andThen_ok, refuseIf_ok, readCatalog_ok (Nat.zero_le _), sort, limits,
    disjoint_nil_left, and_assoc]

theorem selectCatalogClosure_spec (parser : Parser) (catalog : List (String × String))
    (entryKey : String) :
    (∀ closure, parser.selectCatalogClosure catalog entryKey = .ok closure →
      closure.Pairwise (· < ·) ∧ (∀ key, key ∈ closure ↔ parser.Reachable catalog entryKey key) ∧
        ∃ imports, parser.bundleImports catalog closure = .ok imports ∧
          parser.preflightBundle maxCatalogDepth closure imports = .ok ()) ∧
    ((∃ failure, parser.selectCatalogClosure catalog entryKey = .error failure) ↔
      ¬ WithinLimits catalog ∨ ¬ (catalog.map Prod.fst).Nodup ∨
        ∃ key, parser.Reachable catalog entryKey key ∧ parser.Broken catalog key) := by
  -- what comes back are the reachable modules in the order of their keys
  have search := (parser.catalogLinks catalog).close_spec (Links.halfway_start entryKey)
  refine ⟨fun closure ok => ?_, ⟨fun ⟨failure, failed⟩ => ?_, fun wrong => ?_⟩⟩
  · obtain ⟨_, _, _, _, visited, closed, rfl⟩ := selectCatalogClosure_ok.mp ok
    have done := search.1 visited closed
    obtain ⟨reachable, _, passes⟩ := closed_bundle done fun key => List.mem_mergeSort
    have nodup : visited.mergeSort.Nodup := (List.mergeSort_perm ..).nodup_iff.mpr done.nodup
    have sorted : visited.mergeSort.Pairwise (· ≤ ·) := List.pairwise_mergeSort' (· ≤ ·) visited
    exact ⟨sorted.imp₂ (fun _ _ => lt_of_le_of_ne) nodup, reachable, passes⟩
  · by_contra right
    simp only [not_or, not_not, not_exists, not_and] at right
    obtain ⟨limits, nodup, whole⟩ := right
    have valid : parser.validateBundlePath maxCatalogDepth entryKey.toList = .ok () := by
      by_contra refused
      exact whole entryKey .entry (.invalid refused)
    have present : catalog.lookup entryKey ≠ none := fun absent => whole entryKey .entry (.missing absent)
    cases closed : (parser.catalogLinks catalog).close [] [entryKey] with
    | ok visited => simp [selectCatalogClosure_ok.mpr ⟨limits, nodup, valid, present, visited, closed, rfl⟩] at failed
    | error failure =>
      obtain ⟨key, reached, stopped⟩ := search.2 failure closed
      obtain ⟨other, reached, broken⟩ := exists_broken (.of_reach reached) stopped
      exact whole other reached broken
  · cases result : parser.selectCatalogClosure catalog entryKey with
    | error failure => exact ⟨failure, rfl⟩
    | ok closure =>
      obtain ⟨limits, nodup, _, _, visited, ok, _⟩ := selectCatalogClosure_ok.mp result
      obtain ⟨_, whole, _⟩ := closed_bundle (search.1 visited ok) fun _ => Iff.rfl
      rcases wrong with beyond | twice | ⟨key, reached, broken⟩
      · exact absurd limits beyond
      · exact absurd nodup twice
      · exact absurd broken (whole key reached)

theorem selectCatalogClosure_repeated :
    let parser : Parser := ⟨[], fun _ => false, fun _ => true, fun _ => true, fun _ => .ok []⟩
    let catalog := [("main.rss", ""), ("spare.rss", ""), ("spare.rss", "")]
    parser.selectCatalogClosure catalog "main.rss" = .error .importDenied ∧ WithinLimits catalog ∧
      ∀ key, parser.Reachable catalog "main.rss" key → ¬ parser.Broken catalog key := by
  intro parser catalog
  refine ⟨rfl, ⟨by decide, by decide, by decide⟩, fun key reached => ?_⟩
  cases reached with
  | entry => exact not_broken (show parser.moduleTargets catalog "main.rss" = .ok [] from rfl)
  | imported _ _ scanned member _ =>
    cases scanned
    cases member

section Agreement

variable {other : List (String × String)}

theorem moduleTargets_congr
    (agree : ∀ key, parser.Reachable catalog entryKey key → other.lookup key = catalog.lookup key)
    (reached : parser.Reachable catalog entryKey key) :
    parser.moduleTargets other key = parser.moduleTargets catalog key := by
  have same : parser.moduleImports other key = parser.moduleImports catalog key := by
    simp only [moduleImports, agree key reached]
  rw [moduleTargets, moduleTargets, same]
  cases scan : parser.moduleImports catalog key with
  | error failure => rfl
  | ok imports =>
    obtain ⟨_, source, found, scanned⟩ := moduleImports_ok scan
    have each : ∀ declared ∈ imports,
        parser.presentTarget maxCatalogDepth (fun target => (other.lookup target).isSome) key declared =
          parser.presentTarget maxCatalogDepth (fun target => (catalog.lookup target).isSome) key declared := by
      intro declared member
      unfold presentTarget
      cases resolved : parser.importTarget maxCatalogDepth key declared with
      | error failure => rfl
      | ok target =>
        cases target with
        | none => rfl
        | some target =>
          have same := agree target (reached.imported found scanned member resolved)
          simp only [bind, Except.bind, same]
    simp only [presentTargets, bind, Except.bind, mapM_congr each]

theorem readCatalog_within (limits : WithinLimits catalog) (distinct : (catalog.map Prod.fst).Nodup) :
    readCatalog 0 [] catalog = .ok () :=
  (readCatalog_ok (Nat.zero_le _)).mpr ⟨limits.each, by simpa using limits.total, distinct, disjoint_nil_left _⟩

theorem selectCatalogClosure_congr (limits : WithinLimits catalog ∧ WithinLimits other)
    (distinct : (catalog.map Prod.fst).Nodup ∧ (other.map Prod.fst).Nodup)
    (agree : ∀ key, parser.Reachable catalog entryKey key → other.lookup key = catalog.lookup key) :
    parser.selectCatalogClosure other entryKey = parser.selectCatalogClosure catalog entryKey := by
  have closed : (parser.catalogLinks other).close [] [entryKey] = (parser.catalogLinks catalog).close [] [entryKey] :=
    Links.close_congr (fun key reached => moduleTargets_congr agree (.of_reach reached)) (Links.halfway_start entryKey)
  simp only [selectCatalogClosure, readCatalog_within limits.1 distinct.1, readCatalog_within limits.2 distinct.2,
    closed,
    agree entryKey .entry, refuseIf, if_neg (Nat.not_lt.mpr limits.1.files), if_neg (Nat.not_lt.mpr limits.2.files)]

theorem selectCatalogClosure_spare :
    let parser : Parser := ⟨[], fun _ => false, fun _ => true, fun _ => true, fun _ => .ok []⟩
    parser.selectCatalogClosure [("main.rss", ""), ("spare.rss", "")] "main.rss" =
      parser.selectCatalogClosure [("main.rss", "")] "main.rss" := by
  intro parser
  refine selectCatalogClosure_congr ⟨⟨by decide, by decide, by decide⟩, by decide, by decide, by decide⟩ (by decide) ?_
  intro key reached
  cases reached with
  | entry => rfl
  | imported _ _ scanned member _ =>
    cases scanned
    cases member

end Agreement

end Parser

end RustScriptAgent.Runtime
