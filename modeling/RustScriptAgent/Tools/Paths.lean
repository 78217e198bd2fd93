import Mathlib.Data.List.Induction
import Mathlib.Data.String.Basic
import Mathlib.Tactic.Common
import RustScriptAgent.Capabilities.Filesystem

namespace RustScriptAgent.Tools

open Checks Capabilities List

variable {text component : List Char} {path : String} {allowEmpty : Bool}

structure ToolError where
  code : String
  message : String
deriving DecidableEq

def denyPath (message : String) : ToolError := ⟨"path_denied", message⟩

def utf8Len (text : List Char) : Nat := (String.ofList text).utf8ByteSize

def charAt (text : List Char) (index : Nat) : List Char := (text.drop index).take 1

def startsWith (text start : List Char) : Bool := start.length ≤ text.length && text.take start.length == start

def scanChars (denied : List (Char × String)) : List Char → Except ToolError Unit
  | [] => .ok ()
  | c :: rest =>
    match denied.lookup c with
    | some message => .error (denyPath message)
    | none => scanChars denied rest

def pathHasSlash (path : List Char) : Bool := path.any (· == '/')

def checkComponent (component : List Char) : Except ToolError Unit := do
  refuseIf (component = []) (denyPath "empty path components are not permitted")
  refuseIf (component = ['.'] ∨ component = ['.', '.']) (denyPath "dot and parent components are not permitted")
  refuseIf (charAt component (component.length - 1) = ['.']) (denyPath "trailing-dot components are not permitted")
  refuseIf (255 < utf8Len component) (denyPath "path component exceeds the hard bound")

/-- The component loop; `component` is `path[start:index]` and the list is what is left from `index` on. -/
def scanComponents (component : List Char) : List Char → Except ToolError Unit
  | [] => checkComponent component
  | c :: rest =>
    if c = '/' then do
      checkComponent component
      scanComponents [] rest
    else scanComponents (component ++ [c]) rest

def validateSegments (path : List Char) : Except ToolError Unit := do
  refuseIf (4096 < utf8Len path) (denyPath "relative path exceeds the hard bound")
  scanChars [('\x00', "path contains a NUL byte")] path
  refuseIf (startsWith path ['/']) (denyPath "rooted or trailing-separator paths are not permitted")
  refuseIf (charAt path (path.length - 1) = ['/']) (denyPath "rooted or trailing-separator paths are not permitted")
  scanChars [('\\', "backslash is not a permitted path separator"),
    (':', "drive and prefix syntax is not permitted")] path
  scanComponents [] path

def validateLeafName (name : List Char) : Except ToolError Unit := do
  refuseIf (255 < utf8Len name) (denyPath "name exceeds the hard bound")
  scanChars [('\x00', "name contains a NUL byte"), ('\\', "path separators are not permitted in one name"),
    (':', "drive and prefix syntax is not permitted")] name
  refuseIf (name = ['.'] ∨ name = ['.', '.']) (denyPath "dot and parent names are not permitted")
  refuseIf (charAt name (name.length - 1) = ['.']) (denyPath "trailing-dot names are not permitted")

def Patch.validateToolPath (path : String) (allowEmpty : Bool) : Except ToolError Unit :=
  if path.toList.length = 0 then
    if allowEmpty = false then .error (denyPath "empty names are not permitted") else .ok ()
  else if pathHasSlash path.toList then validateSegments path.toList
  else validateLeafName path.toList

def WriteFile.validateToolPath : String → Bool → Except ToolError Unit := Patch.validateToolPath

def ReadFile.validateToolPath (path : String) (allowEmpty : Bool) : Except ToolError Unit :=
  if path.toList.length = 0 then
    if allowEmpty = false then .error (denyPath "empty paths are not valid file paths") else .ok ()
  else validateSegments path.toList

def SearchFiles.validateToolPath : String → Bool → Except ToolError Unit := ReadFile.validateToolPath

structure Component (component : List Char) : Prop where
  nonempty : component ≠ []
  no_dots : ¬ (component = ['.'] ∨ component = ['.', '.'])
  no_dot_last : component.getLast? ≠ some '.'
  short : utf8Len component ≤ 255

structure Grammar (path : List Char) : Prop where
  short : utf8Len path ≤ 4096
  no_nul : '\x00' ∉ path
  relative : path.head? ≠ some '/'
  unclosed : path.getLast? ≠ some '/'
  no_backslash : '\\' ∉ path
  no_colon : ':' ∉ path
  components : ∀ component ∈ path.splitOn '/', Component component

theorem charAt_last (text : List Char) (c : Char) : charAt text (text.length - 1) = [c] ↔ text.getLast? = some c := by
  induction text using reverseRecOn with
  | nil => simp [charAt]
  | append_singleton start last => simp [charAt]

theorem startsWith_slash (text : List Char) : startsWith text ['/'] ↔ text.head? = some '/' := by
  cases text with
  | nil => decide
  | cons c rest => simp [startsWith]

theorem scanChars_ok {denied : List (Char × String)} :
    scanChars denied text = .ok () ↔ ∀ entry ∈ denied, entry.1 ∉ text := by
  induction text with
  | nil => simp [scanChars]
  | cons c rest ih =>
    rw [scanChars]
    cases found : denied.lookup c with
    | some message =>
      have entry : (c, message) ∈ denied := by
        obtain ⟨before, after, rfl, -⟩ := lookup_eq_some_iff.mp found
        simp
      simp only [reduceCtorEq, false_iff]
      exact fun absent => absent _ entry mem_cons_self
    | none =>
      rw [lookup_eq_none_iff] at found
      simp only [ih, mem_cons, not_or]
      exact ⟨fun absent entry member => ⟨fun same => by simpa [same] using found entry member, absent entry member⟩,
        fun absent entry member => (absent entry member).2⟩

theorem checkComponent_ok : checkComponent component = .ok () ↔ Component component := by
  simp only [checkComponent, andThen_ok, refuseIf_ok, charAt_last, Nat.not_lt]
  constructor
  · rintro ⟨nonempty, dots, last, short⟩
    exact ⟨nonempty, dots, last, short⟩
  · intro component
    exact ⟨component.nonempty, component.no_dots, component.no_dot_last, component.short⟩

theorem splitOn_cons_separator (rest : List Char) : ('/' :: rest).splitOn '/' = [] :: rest.splitOn '/' := by
  rw [splitOn, splitOnP_cons_eq_if_modifyHead, if_pos (beq_self_eq_true '/'), splitOn]

theorem splitOn_cons_other {c : Char} (other : c ≠ '/') (rest : List Char) :
    (c :: rest).splitOn '/' = (rest.splitOn '/').modifyHead (c :: ·) := by
  rw [splitOn, splitOnP_cons_eq_if_modifyHead, if_neg (by simpa using other), splitOn]

theorem scanComponents_ok : scanComponents component text = .ok () ↔
      ∀ piece ∈ (text.splitOn '/').modifyHead (component ++ ·), Component piece := by
  induction text generalizing component with
  | nil => simp [scanComponents, checkComponent_ok]
  | cons c rest ih =>
    by_cases separator : c = '/'
    · subst separator
      have whole : (rest.splitOn '/').modifyHead ([] ++ ·) = rest.splitOn '/' := by
        cases rest.splitOn '/' <;> rfl
      rw [scanComponents, if_pos rfl, andThen_ok, checkComponent_ok, ih, whole, splitOn_cons_separator]
      simp
    · rw [scanComponents, if_neg separator, ih, splitOn_cons_other separator, modifyHead_modifyHead]
      simp [Function.comp_def]

theorem validateSegments_ok {path : List Char} : validateSegments path = .ok () ↔ Grammar path := by
  have whole : (path.splitOn '/').modifyHead ([] ++ ·) = path.splitOn '/' := by
    cases path.splitOn '/' <;> rfl
  simp only [validateSegments, andThen_ok, refuseIf_ok, scanChars_ok, scanComponents_ok, whole, charAt_last,
    startsWith_slash, Nat.not_lt, forall_mem_cons, not_mem_nil, IsEmpty.forall_iff, implies_true, and_true]
  constructor
  · rintro ⟨short, nul, head, last, ⟨slash, colon⟩, pieces⟩
    exact ⟨short, nul, head, last, slash, colon, pieces⟩
  · intro path
    exact ⟨path.short, path.no_nul, path.relative, path.unclosed, ⟨path.no_backslash, path.no_colon⟩, path.components⟩

theorem splitOn_of_not_mem {path : List Char} (single : '/' ∉ path) : path.splitOn '/' = [path] := by
  have joined : ['/'].intercalate [path] = path := by simp
  rw [← joined, splitOn_intercalate '/' (by simpa using single) (by simp), joined]

theorem validateLeafName_ok {name : List Char} (nonempty : name ≠ []) (single : '/' ∉ name) :
    validateLeafName name = .ok () ↔ Grammar name := by
  simp only [validateLeafName, andThen_ok, refuseIf_ok, scanChars_ok, charAt_last, Nat.not_lt,
    forall_mem_cons, not_mem_nil, IsEmpty.forall_iff, implies_true, and_true]
  constructor
  · rintro ⟨short, ⟨nul, backslash, colon⟩, dots, last⟩
    refine ⟨by omega, nul, ?_, ?_, backslash, colon, ?_⟩
    · exact fun head => single (mem_of_mem_head? head)
    · exact fun last => single (mem_of_mem_getLast? last)
    · rw [splitOn_of_not_mem single]
      simpa using Component.mk nonempty dots last short
  · intro grammar
    have component : Component name := grammar.components name (by simp [splitOn_of_not_mem single])
    exact ⟨component.short, ⟨grammar.no_nul, grammar.no_backslash, grammar.no_colon⟩, component.no_dots,
      component.no_dot_last⟩

def Accepted (path : String) (allowEmpty : Bool) : Prop :=
  if path = "" then allowEmpty = true else Grammar path.toList

theorem Patch.validateToolPath_ok : Patch.validateToolPath path allowEmpty = .ok () ↔ Accepted path allowEmpty := by
  rw [Patch.validateToolPath, Accepted]
  by_cases empty : path = ""
  · cases allowEmpty <;> simp [empty]
  · have nonempty : path.toList ≠ [] := by simpa using empty
    rw [if_neg (by simpa using empty), if_neg empty]
    by_cases slash : '/' ∈ path.toList
    · rw [if_pos (by simpa [pathHasSlash] using slash), validateSegments_ok]
    · rw [if_neg (by simpa [pathHasSlash] using slash), validateLeafName_ok nonempty slash]

theorem ReadFile.validateToolPath_ok :
    ReadFile.validateToolPath path allowEmpty = .ok () ↔ Accepted path allowEmpty := by
  rw [ReadFile.validateToolPath, Accepted]
  by_cases empty : path = ""
  · cases allowEmpty <;> simp [empty]
  · rw [if_neg (by simpa using empty), if_neg empty, validateSegments_ok]

theorem zero_mem_utf8EncodeChar {c : Char} : 0 ∈ String.utf8EncodeChar c ↔ c = '\x00' := by
  have zero : c = '\x00' ↔ c.val.toNat = 0 := by
    rw [← Char.toNat_inj]
    rfl
  have byte : ∀ n : Nat, n < 256 → (0 = UInt8.ofNat n ↔ n = 0) := by
    intro n small
    rw [← UInt8.toNat_inj, UInt8.toNat_ofNat']
    simp
    omega
  rw [zero, String.utf8EncodeChar]
  split
  · simp only [mem_singleton]
    exact byte _ (by omega)
  · split
    · simp only [mem_cons, not_mem_nil, or_false]
      rw [byte _ (by omega), byte _ (by omega)]
      omega
    · split
      · simp only [mem_cons, not_mem_nil, or_false]
        rw [byte _ (by omega), byte _ (by omega), byte _ (by omega)]
        omega
      · simp only [mem_cons, not_mem_nil, or_false]
        rw [byte _ (by omega), byte _ (by omega), byte _ (by omega), byte _ (by omega)]
        omega

theorem contains_zero : path.toUTF8.data.contains 0 ↔ '\x00' ∈ path.toList := by
  have bytes : path.toUTF8.data.toList = path.toList.flatMap String.utf8EncodeChar := by
    have encoded := String.toByteArray_ofList (l := path.toList)
    rw [String.ofList_toList] at encoded
    rw [String.toUTF8, encoded, utf8Encode, data_toByteArray]
  rw [Array.contains_iff_mem, ← Array.mem_toList_iff, bytes, mem_flatMap]
  simp [zero_mem_utf8EncodeChar]

section Accepts

variable {Failure : Type} {refuse : ConfinedFsErrorKind → String → Failure}

theorem acceptComponent_ok {component answer : String} :
    acceptComponent refuse component = .ok answer ↔ Component component.toList ∧ answer = component := by
  have dots : component = "." ∨ component = ".." ↔ component.toList = ['.'] ∨ component.toList = ['.', '.'] := by
    rw [← String.toList_inj, ← String.toList_inj]
    rfl
  have empty : component.isEmpty ↔ component.toList = [] := by
    rw [String.isEmpty_iff, String.toList_eq_nil_iff]
  have bytes : component.utf8ByteSize = utf8Len component.toList := by rw [utf8Len, String.ofList_toList]
  simp only [acceptComponent, andThen_ok, refuseIf_ok, empty, dots, bytes, maxComponentBytes, Nat.not_lt, pure,
    Except.pure, Except.ok.injEq]
  constructor
  · rintro ⟨nonempty, dots, last, short, same⟩
    exact ⟨⟨nonempty, dots, last, short⟩, same.symm⟩
  · rintro ⟨component, same⟩
    exact ⟨component.nonempty, component.no_dots, component.no_dot_last, component.short, same.symm⟩

theorem mapM_acceptComponent_ok {components answer : List String} :
    components.mapM (acceptComponent refuse) = .ok answer ↔
      (∀ component ∈ components, Component component.toList) ∧ answer = components := by
  induction components generalizing answer with
  | nil => simp [pure, Except.pure, eq_comm]
  | cons component rest ih =>
    rw [mapM_cons]
    constructor
    · intro accepted
      obtain ⟨first, ok, more⟩ := passed_bind accepted
      obtain ⟨others, all, last⟩ := passed_bind more
      obtain ⟨legal, rfl⟩ := acceptComponent_ok.mp ok
      obtain ⟨legals, rfl⟩ := ih.mp all
      cases last
      exact ⟨forall_mem_cons.mpr ⟨legal, legals⟩, rfl⟩
    · rintro ⟨legals, rfl⟩
      obtain ⟨legal, legals⟩ := forall_mem_cons.mp legals
      rw [acceptComponent_ok.mpr ⟨legal, rfl⟩, ih.mpr ⟨legals, rfl⟩]
      rfl

theorem acceptPath_ok {components : List String} : acceptPath refuse path allowEmpty = .ok components ↔
      Accepted path allowEmpty ∧ components = if path = "" then [] else splitComponents path := by
  have bytes : path.utf8ByteSize = utf8Len path.toList := by rw [utf8Len, String.ofList_toList]
  rw [acceptPath, Accepted]
  by_cases empty : path = ""
  · subst empty
    cases allowEmpty with
    | false => simp
    | true =>
      constructor
      · intro ok
        exact ⟨rfl, (Except.ok.inj ok).symm⟩
      · rintro ⟨-, same⟩
        exact same ▸ rfl
  · rw [if_neg (by simpa using empty), if_neg empty, if_neg empty]
    simp only [andThen_ok, refuseIf_ok, contains_zero, bytes, maxPathBytes, Nat.not_lt, contains_iff_mem, not_or,
      mapM_acceptComponent_ok, splitComponents, forall_mem_map, String.toList_ofList]
    constructor
    · rintro ⟨short, nul, ⟨head, last⟩, slash, colon, pieces, same⟩
      exact ⟨⟨short, nul, head, last, slash, colon, pieces⟩, same⟩
    · rintro ⟨path, same⟩
      exact ⟨path.short, path.no_nul, ⟨path.relative, path.unclosed⟩, path.no_backslash, path.no_colon,
        path.components, same⟩

end Accepts

def enter (place : List (List Char)) (component : List Char) : List (List Char) :=
  let base := if component.head? = some '/' then [] else place
  (component.splitOn '/').foldl (fun place name =>
    if name = [] ∨ name = ['.'] then place else if name = ['.', '.'] then place.dropLast else place ++ [name]) base

structure PlainName (component : List Char) : Prop where
  nonempty : component ≠ []
  no_dot : component ≠ ['.']
  no_parent : component ≠ ['.', '.']
  no_separator : '/' ∉ component ∧ '\\' ∉ component
  no_nul : '\x00' ∉ component

theorem PlainName.enter (plain : PlainName component) (place : List (List Char)) :
    enter place component = place ++ [component] := by
  have relative : component.head? ≠ some '/' := fun head => plain.no_separator.1 (mem_of_mem_head? head)
  rw [Tools.enter, splitOn_of_not_mem plain.no_separator.1]
  simp [relative, plain.nonempty, plain.no_dot, plain.no_parent]

theorem PlainName.walk {components : List (List Char)} (plain : ∀ component ∈ components, PlainName component)
    (root : List (List Char)) : components.foldl Tools.enter root = root ++ components := by
  induction components generalizing root with
  | nil => simp
  | cons component rest ih =>
    obtain ⟨first, others⟩ := forall_mem_cons.mp plain
    rw [foldl_cons, first.enter, ih others, append_assoc, singleton_append]

theorem mem_of_mem_splitOn {piece : List Char} (member : piece ∈ text.splitOn '/') :
    '/' ∉ piece ∧ ∀ c ∈ piece, c ∈ text := by
  induction text generalizing piece with
  | nil =>
    obtain rfl : piece = [] := by simpa using member
    simp
  | cons c rest ih =>
    by_cases separator : c = '/'
    · rw [separator, splitOn_cons_separator, mem_cons] at member
      rcases member with rfl | later
      · simp
      · exact ⟨(ih later).1, fun x within => mem_cons_of_mem _ ((ih later).2 x within)⟩
    · rw [splitOn_cons_other separator] at member
      cases pieces : rest.splitOn '/' with
      | nil => simp [pieces] at member
      | cons first others =>
        rw [pieces, modifyHead_cons, mem_cons] at member
        rcases member with rfl | later
        · have head : first ∈ rest.splitOn '/' := by simp [pieces]
          obtain ⟨single, within⟩ := ih head
          simp only [mem_cons, not_or, forall_eq_or_imp, true_or, true_and]
          exact ⟨⟨Ne.symm separator, single⟩, fun x member => .inr (within x member)⟩
        · have tail : piece ∈ rest.splitOn '/' := by simp [pieces, later]
          obtain ⟨single, within⟩ := ih tail
          exact ⟨single, fun x member => mem_cons_of_mem _ (within x member)⟩

theorem Grammar.plain {path : List Char} (grammar : Grammar path) :
    ∀ component ∈ path.splitOn '/', PlainName component := by
  intro component member
  obtain ⟨single, within⟩ := mem_of_mem_splitOn member
  have legal := grammar.components component member
  exact ⟨legal.nonempty, fun dot => legal.no_dots (.inl dot), fun parent => legal.no_dots (.inr parent),
    ⟨single, fun c => grammar.no_backslash (within _ c)⟩, fun c => grammar.no_nul (within _ c)⟩

theorem path_grammars_agree (path : String) (allowEmpty : Bool) (operation : String) :
    (∀ validateToolPath ∈ [Patch.validateToolPath, WriteFile.validateToolPath, ReadFile.validateToolPath,
        SearchFiles.validateToolPath],
      validateToolPath path allowEmpty = .ok () ↔
        ∃ components, validatePath path allowEmpty operation = .ok components) ∧
    (∀ components, validateComponents path allowEmpty = .ok components ↔
      validatePath path allowEmpty operation = .ok components) ∧
    ∀ components, validatePath path allowEmpty operation = .ok components →
      ['/'].intercalate (components.map String.toList) = path.toList ∧
      (∀ component ∈ components, PlainName component.toList) ∧
      ∀ root start, start <+: components →
        (start.map String.toList).foldl enter root = root ++ start.map String.toList := by
  -- an accepted path is a chain of plain names, and every place reached on it is below the root
  have native : (∃ components, validatePath path allowEmpty operation = .ok components) ↔ Accepted path allowEmpty := by
    simp [validatePath, acceptPath_ok]
  refine ⟨?_, ?_, ?_⟩
  · simp [native, WriteFile.validateToolPath, SearchFiles.validateToolPath, Patch.validateToolPath_ok,
      ReadFile.validateToolPath_ok]
  · intro components
    rw [validateComponents, validatePath, acceptPath_ok, acceptPath_ok]
  · intro components ok
    obtain ⟨accepted, rfl⟩ := acceptPath_ok.mp ok
    by_cases empty : path = ""
    · simp [empty]
    · rw [Accepted, if_neg empty] at accepted
      have plain : ∀ component ∈ splitComponents path, PlainName component.toList := by
        simpa [splitComponents] using accepted.plain
      rw [if_neg empty]
      refine ⟨by simp [splitComponents, Function.comp_def], plain, fun root start begins => ?_⟩
      refine PlainName.walk (fun component member => ?_) root
      obtain ⟨name, within, rfl⟩ := List.mem_map.mp member
      exact plain name (begins.subset within)

end RustScriptAgent.Tools
