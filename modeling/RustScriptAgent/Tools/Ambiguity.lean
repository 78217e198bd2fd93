import RustScriptAgent.Tools.Replacement

namespace RustScriptAgent.Tools.Patch

open Capabilities Checks Occurrences String

variable {text : List Char} {config : Config} {host : Host} {source hash : String}

def Separated (needle text : List Char) : Prop :=
  ∀ first, OccursAt needle text first → (∀ earlier < first, ¬ OccursAt needle text earlier) →
    (∀ other, OccursAt needle text other → other = first) ∨
      ∃ other, OccursAt needle text other ∧ first + needle.length ≤ other

theorem single_of_replaced {needle fresh out : List Char} (replaced : Replaced needle fresh ⊤ 1 text out) :
    ∃ first, OccursAt needle text first ∧ (∀ earlier < first, ¬ OccursAt needle text earlier) ∧
      ∀ other, OccursAt needle text other → other < first + needle.length := by
  obtain ⟨limit, before, after, out', limited, rfl, first, rfl, rest⟩ := replaced.of_succ
  obtain rfl : limit = ⊤ := by simpa using limited.symm
  have clear := (rest.of_none (by simp)).1
  refine ⟨before.length, occursAt_middle, first, fun other occurs => ?_⟩
  by_contra past
  refine clear (other - (before.length + needle.length)) ?_
  have tail : (before ++ needle ++ after).drop (before.length + needle.length) = after := by
    rw [← List.length_append, List.drop_left]
  rw [← tail, occursAt_drop, Nat.add_sub_cancel' (by omega)]
  exact occurs

theorem replaced_one_of_overlapping {needle : List Char} (fresh : List Char) {first : Nat} (nonempty : needle ≠ [])
    (occurs : OccursAt needle text first) (clear : ∀ earlier < first, ¬ OccursAt needle text earlier)
    (near : ∀ other, OccursAt needle text other → other < first + needle.length) :
    Replaced needle fresh ⊤ 1 text (text.take first ++ fresh ++ text.drop (first + needle.length)) := by
  have fits := occurs.fits nonempty
  have split := occurs.split
  have taken : (text.take first).length = first := by
    rw [List.length_take]
    omega
  have rest : ∀ position, ¬ OccursAt needle (text.drop (first + needle.length)) position := by
    intro position occurs
    have := near _ (occursAt_drop.mp occurs)
    omega
  generalize text.take first = before at split taken
  generalize text.drop (first + needle.length) = after at split rest
  subst split taken
  have next : Replaced needle fresh (⊤ + 1) 1 (before ++ needle ++ after) (before ++ fresh ++ after) :=
    .next clear (.none rest)
  rwa [top_add] at next

theorem readSource_size
    (read : readSource config host = .ok (source, hash)) : (source.utf8ByteSize : Int) ≤ config.maxPatchBytes := by
  unfold readSource at read
  obtain ⟨entry, -, read⟩ := passed_bind read
  obtain ⟨-, read⟩ := andThen_ok.mp read
  obtain ⟨-, read⟩ := andThen_ok.mp read
  split at read
  · obtain ⟨room, read⟩ := andThen_ok.mp read
    cases read
    simpa using room
  · obtain ⟨answer, -, read⟩ := passed_bind read
    obtain ⟨-, read⟩ := andThen_ok.mp read
    obtain ⟨room, read⟩ := andThen_ok.mp read
    obtain ⟨-, read⟩ := andThen_ok.mp read
    obtain ⟨-, read⟩ := andThen_ok.mp read
    cases read
    rw [refuseIf_ok, Int.not_lt] at room
    cases decoded : fromUTF8? answer.bytes with
    | none =>
      rw [Option.getD_none]
      exact Int.le_trans (Int.natCast_nonneg _) room
    | some text =>
      have bytes : text.toByteArray = answer.bytes := by
        unfold fromUTF8? at decoded
        split at decoded
        · cases decoded
          rfl
        · cases decoded
      rw [Option.getD_some, utf8ByteSize, bytes]
      exact room

def Host.unhindered (host : Host) : Host :=
  { host with opening := .ok (), counting := fun _ => .ok (), replacing := fun _ => .ok (), publishing := .ok () }

theorem Yields.of_unhindered {Answer : Type} {answer : Except ToolError Answer} {value : Answer}
    (yields : Yields (fun _ => .ok ()) answer value) : answer = .ok value := by
  rcases yields with ok | ⟨check, error, checked, -⟩
  · exact ok
  · cases checked

theorem request_of_replaced {old new : String}
    (read : readSource config host = .ok (source, hash)) (nonempty : old ≠ "")
    (replaced : Replaced old.toList new.toList ⊤ 1 source.toList text)
    (room : ((ofList text).utf8ByteSize : Int) ≤ config.maxPatchBytes) :
    request config host.unhindered ⟨"f", old, new, false⟩ = .ok ⟨source, hash, ofList text, 1⟩ := by
  have nonempty' : old.toList ≠ [] := by simpa using nonempty
  have counted : countMatches host.unhindered.counting source.toList old.toList = .ok 1 :=
    (countMatches_yields nonempty' replaced).of_unhindered
  have edited : replaceText host.unhindered.replacing source.toList old.toList new.toList 1 = .ok text :=
    (replaceText_yields nonempty' (by decide) replaced.at_count).of_unhindered
  have path : validateToolPath "f" false = .ok () := by decide +kernel
  have same : readSource config host.unhindered = .ok (source, hash) := read
  have chosen : chooseLimit false 1 = .ok 1 := rfl
  unfold request
  refine andThen_ok.mpr ⟨rfl, andThen_ok.mpr ⟨orUnpublished_ok.mpr path, andThen_ok.mpr ⟨refuseIf_ok.mpr nonempty, ?_⟩⟩⟩
  refine bind_of_ok same (bind_of_ok (orUnpublished_ok.mpr counted) (bind_of_ok chosen ?_))
  exact bind_of_ok (orUnpublished_ok.mpr edited) (andThen_ok.mpr ⟨refuseIf_ok.mpr (by omega), rfl⟩)

def openDestination (content : ByteArray) (hash : String) (room : Nat) : Destination where
  content := some content
  authorize := .ok ()
  maxWriteBytes := room
  metadata := if hash = "" then .error ⟨.notFound, "metadata", "entry was not found"⟩ else .ok .file
  readFile := .ok content
  contentHash := fun _ => hash
  writeFile := ConfinedWrite.through (some content)
  afterPublishForcesIndeterminate := fun _ => false

theorem openDestination_writeAtomic {content bytes : ByteArray} {room : Nat} (fits : bytes.size ≤ room) :
    ((openDestination content hash room).writeAtomic hash bytes).2 = some bytes := by
  have checked : (openDestination content hash room).checkWrite hash bytes = .ok () := by
    unfold Destination.checkWrite
    refine andThen_ok.mpr ⟨rfl, andThen_ok.mpr ⟨refuseIf_ok.mpr (Nat.not_lt.mpr fits), ?_⟩⟩
    split
    · rfl
    · by_cases empty : hash = ""
      · simp [Destination.validateExpectedHash, openDestination, empty]
      · simp [Destination.validateExpectedHash, openDestination, empty]
  rw [Destination.writeAtomic, checked]
  rfl

theorem execute_changes {old : String} {first : Nat}
    (read : readSource config host = .ok (source, hash)) (nonempty : old ≠ "")
    (occurs : OccursAt old.toList source.toList first)
    (clear : ∀ earlier < first, ¬ OccursAt old.toList source.toList earlier)
    (near : ∀ other, OccursAt old.toList source.toList other → other < first + old.toList.length) :
    ∃ destination, (execute config host.unhindered destination none ⟨"f", old, "", false⟩).2 ≠ destination.content := by
  -- deleting the one occurrence counted changes the file
  have replaced := replaced_one_of_overlapping "".toList (by simpa using nonempty) occurs clear near
  generalize edited : source.toList.take first ++ "".toList ++ source.toList.drop (first + old.toList.length) = text
    at replaced
  -- the edit takes away the bytes of `old` and no others
  have size : (ofList text).utf8ByteSize + old.utf8ByteSize = source.utf8ByteSize := by
    have whole : source = ofList (source.toList.take first) ++ old ++
        ofList (source.toList.drop (first + old.toList.length)) := by
      rw [← toList_inj]
      simpa using occurs.split
    have kept : ofList text = ofList (source.toList.take first) ++
        ofList (source.toList.drop (first + old.toList.length)) := by
      rw [← edited, ← toList_inj]
      simp
    rw [kept, utf8ByteSize_append]
    have total := congrArg utf8ByteSize whole
    rw [utf8ByteSize_append, utf8ByteSize_append] at total
    omega
  have bytes : 0 < old.utf8ByteSize := by
    rw [Nat.pos_iff_ne_zero]
    simpa using nonempty
  have room := readSource_size read
  have asked := request_of_replaced read nonempty replaced (by omega)
  refine ⟨openDestination source.toUTF8 hash source.utf8ByteSize, ?_⟩
  rw [execute, asked]
  change (Destination.writeAtomic _ hash (ofList text).toUTF8).2 ≠ some source.toUTF8
  rw [openDestination_writeAtomic (show (ofList text).toUTF8.size ≤ source.utf8ByteSize from by
    change (ofList text).utf8ByteSize ≤ _
    omega)]
  intro same
  have equal : (ofList text).utf8ByteSize = source.utf8ByteSize :=
    congrArg ByteArray.size (Option.some.inj same)
  omega

theorem patch_unique_iff (config : Config) (host : Host) (source hash old : String)
    (read : readSource config host = .ok (source, hash)) :
    (∀ opening counting replacing publishing destination put path new,
      (execute config { host with opening, counting, replacing, publishing } destination put
        ⟨path, old, new, false⟩).2 ≠ destination.content →
      ∃! position, OccursAt old.toList source.toList position) ↔
    Separated old.toList source.toList := by
  -- the scan goes on behind an occurrence, so that one overlapping the first is not counted
  constructor
  · intro unique first occurs clear
    by_cases nonempty : old = ""
    · exact .inr ⟨first, occurs, by simp [nonempty]⟩
    · by_contra ambiguous
      rw [not_or, not_exists] at ambiguous
      obtain ⟨destination, changed⟩ := execute_changes read nonempty occurs clear fun other occurs =>
        Nat.lt_of_not_le fun far => ambiguous.2 other ⟨occurs, far⟩
      obtain ⟨position, -, only⟩ := unique _ _ _ _ destination none "f" "" changed
      exact ambiguous.1 fun other occurs' => (only other occurs').trans (only first occurs).symm
  · intro separated opening counting replacing publishing destination put path new changed
    rw [execute] at changed
    cases asked : request config { host with opening, counting, replacing, publishing } ⟨path, old, new, false⟩ with
    | error result =>
      rw [asked] at changed
      exact absurd rfl changed
    | ok request =>
      have call := requested asked
      obtain ⟨count, chosen, replaced⟩ := call.replaced
      obtain ⟨-, single⟩ := chooseLimit_ok chosen
      obtain rfl : source = request.source := by
        have same : readSource config host = .ok (request.source, request.expectedHash) := call.read
        exact congrArg Prod.fst (Except.ok.inj (read.symm.trans same))
      obtain ⟨first, occurs, clear, near⟩ := single_of_replaced (single rfl ▸ replaced)
      rcases separated first occurs clear with only | ⟨other, occurs', far⟩
      · exact ⟨first, occurs, only⟩
      · exact absurd (near other occurs') (Nat.not_lt.mpr far)

def fileHost (text : String) : Host where
  opening := .ok ()
  metadata := .ok ⟨.file, text.utf8ByteSize⟩
  readRange := fun _ => .ok ⟨text.toUTF8, false, "hash"⟩
  counting := fun _ => .ok ()
  replacing := fun _ => .ok ()
  publishing := .ok ()
  metadata_classified := nofun
  readRange_classified := nofun

theorem readSource_fileHost {text : String} (short : 0 < text.utf8ByteSize ∧ text.utf8ByteSize ≤ 1048576)
    (textual : bytesContainsNul text.toUTF8.data.toList = false) (valid : utf8IsValid text.toUTF8.data.toList) :
    readSource {} (fileHost text) = .ok (text, "hash") := by
  have decoded : fromUTF8? text.toUTF8 = some text := by
    rw [fromUTF8?, dif_pos (show text.toUTF8.IsValidUTF8 from text.isValidUTF8)]
    rfl
  have size : text.toUTF8.data.toList.length = text.utf8ByteSize := rfl
  unfold readSource
  refine bind_of_ok rfl (andThen_ok.mpr ⟨refuseIf_ok.mpr (by simp), andThen_ok.mpr ⟨refuseIf_ok.mpr ?_, ?_⟩⟩)
  · change ¬ (1048576 : Int) < text.utf8ByteSize
    omega
  · rw [if_neg (show text.utf8ByteSize ≠ 0 by omega)]
    refine bind_of_ok rfl (andThen_ok.mpr ⟨refuseIf_ok.mpr (by simp), andThen_ok.mpr ⟨refuseIf_ok.mpr ?_, ?_⟩⟩)
    · change ¬ (8388608 : Int) < text.toUTF8.data.toList.length
      omega
    · refine andThen_ok.mpr ⟨refuseIf_ok.mpr (by simpa using textual), andThen_ok.mpr ⟨refuseIf_ok.mpr ?_, ?_⟩⟩
      · simpa using valid
      · change Except.ok ((fromUTF8? text.toUTF8).getD "", "hash") = _
        rw [decoded]
        rfl

theorem patch_unique_iff_of_dash : (∀ opening counting replacing publishing destination put path new,
      (execute {} { fileHost "a-b" with opening, counting, replacing, publishing } destination put
        ⟨path, "-", new, false⟩).2 ≠ destination.content → ∃! position, OccursAt "-".toList "a-b".toList position) ↔
    Separated "-".toList "a-b".toList :=
  patch_unique_iff {} (fileHost "a-b") "a-b" "hash" "-"
    (readSource_fileHost (by decide +kernel) (by decide +kernel) (by decide +kernel))

theorem overlapping_edit_published :
    ∃ config host destination put arguments, arguments.replaceAll = false ∧ arguments.oldString = "aa" ∧
      readSource config host = .ok ("aaa", "hash") ∧
        (execute config host destination put arguments).2 ≠ destination.content ∧
      OccursAt "aa".toList "aaa".toList 0 ∧ OccursAt "aa".toList "aaa".toList 1 := by
  have read : readSource {} (fileHost "aaa") = .ok ("aaa", "hash") :=
    readSource_fileHost (by decide +kernel) (by decide +kernel) (by decide +kernel)
  have near : ∀ other, OccursAt "aa".toList "aaa".toList other → other < 0 + "aa".toList.length := by
    intro other occurs
    have fits := occurs.fits (by decide)
    simp at fits ⊢
    omega
  obtain ⟨destination, changed⟩ := execute_changes read (by decide) (by decide) (by omega) near
  exact ⟨_, _, destination, none, _, rfl, rfl, read, changed, by decide, by decide⟩

end RustScriptAgent.Tools.Patch
