import RustScriptAgent.Tools.Paths

namespace RustScriptAgent.Tools

open Capabilities Json

structure ToolResult where
  ok : Bool
  content : String
  data : List (String × Json)
  error : Option ToolError
  truncated : Bool
  artifacts : List String
deriving DecidableEq

def unpublished : List (String × Json) := [("publication", .str "not_published")]

def fail (code message : String) (data : List (String × Json)) : ToolResult :=
  { ok := false
    content := ""
    data
    error := some
      { code
        message :=
          if code = "deadline_elapsed" then "tool deadline elapsed"
          else if code = "cancelled" then "tool execution was cancelled"
          else message }
    truncated := false
    artifacts := [] }

def succeed (content : String) (data : List (String × Json)) (truncated : Bool)
    (artifacts : List String) : ToolResult :=
  { ok := true, content, data, error := none, truncated, artifacts }

def orUnpublished {Answer : Type} (answer : Except ToolError Answer) : Except ToolResult Answer :=
  answer.mapError fun error => fail error.code error.message unpublished

def failHost (error : CapabilityError) : ToolResult :=
  let message := if error.message = "symlinks are not followed" then "operating-system operation failed"
    else error.message
  let code := if error.code = "wrong_type" then "path_denied" else error.code
  let message :=
    if code = "budget_exceeded" ∧ message = "requested write exceeds the configured bound" then "write budget exceeded"
    else message
  fail code message
    (if code = "publication_indeterminate" then [("publication", .str "indeterminate")] else unpublished)

def ToolResult.encode (result : ToolResult) : Json :=
  .obj [("ok", .bool result.ok), ("content", .str result.content), ("data", .obj result.data),
    ("error", match result.error with
      | some error => .obj [("code", .str error.code), ("message", .str error.message)]
      | none => .null),
    ("truncated", .bool result.truncated), ("artifacts", .arr (result.artifacts.map .str))]

def encodedLen (result : ToolResult) : Int := result.encode.render.utf8ByteSize

def truncateToUtf8Bytes (text : List Char) (limit : Int) (used : Nat) : List Char :=
  match text with
  | [] => []
  | c :: rest =>
    if limit < used + utf8Len [c] then [] else c :: truncateToUtf8Bytes rest limit (used + utf8Len [c])

def fitLoop (fitted : ToolResult) (content : String) (cap : Int) : (fuel budget : Nat) → ToolResult
  | 0, _ => { fitted with content := "" }
  | fuel + 1, budget =>
    let shorter := { fitted with content := String.ofList (truncateToUtf8Bytes content.toList budget 0) }
    if encodedLen shorter ≤ cap then shorter
    else if budget = 0 then { fitted with content := "" }
    else fitLoop fitted content cap fuel (budget / 2)

def fitContentToBudget (result : ToolResult) (cap : Int) : ToolResult :=
  let fitted := { result with content := "", truncated := true }
  if encodedLen fitted ≤ cap then
    let budget := (cap - encodedLen fitted).toNat
    fitLoop fitted result.content cap (budget + 1) budget
  else fitted

def artifactSummary (id : String) (bytes maxOutputBytes : Int) : String :=
  let full := "artifact " ++ id ++ " (" ++ toString bytes ++ " bytes)"
  let named := "artifact " ++ id
  if (full.utf8ByteSize : Int) ≤ maxOutputBytes then full
  else if (named.utf8ByteSize : Int) ≤ maxOutputBytes then named
  else if ("artifact".utf8ByteSize : Int) ≤ maxOutputBytes then "artifact"
  else String.ofList (truncateToUtf8Bytes "artifact".toList maxOutputBytes 0)

structure StoredArtifact where
  id : String
  len : Int
deriving DecidableEq

def outputTruncated (message : String) : ToolResult :=
  { fail "output_truncated" message unpublished with truncated := true }

/-- The result with its content in the artifact store; `put` is what the store answers when it is given the content. -/
def storeContent (result : ToolResult) (maxOutputBytes : Int) (put : Option StoredArtifact) : ToolResult :=
  match put with
  | some artifact =>
    if result.content = "" then result
    else succeed (artifactSummary artifact.id artifact.len maxOutputBytes) result.data true [artifact.id]
  | none => result

def shrinkResult (result : ToolResult) (maxOutputBytes : Int) (put : Option StoredArtifact) : ToolResult :=
  if maxOutputBytes < encodedLen result then
    let stored := storeContent result maxOutputBytes put
    let fitted := if maxOutputBytes < encodedLen stored then fitContentToBudget stored maxOutputBytes else stored
    if maxOutputBytes < encodedLen fitted then
      if encodedLen (outputTruncated "tool result exceeds the configured bound") ≤ maxOutputBytes then
        outputTruncated "tool result exceeds the configured bound"
      else if encodedLen (outputTruncated "bounded") ≤ maxOutputBytes then outputTruncated "bounded"
      else outputTruncated ""
    else fitted
  else result

theorem orUnpublished_ok {Answer : Type} {answer : Except ToolError Answer} {value : Answer} :
    orUnpublished answer = .ok value ↔ answer = .ok value := by
  cases answer <;> simp [orUnpublished, Except.mapError]

def ToolResult.emptied (result : ToolResult) : ToolResult := { result with content := "", truncated := true }

theorem fitLoop_data (fitted : ToolResult) (content : String) (cap : Int) (fuel budget : Nat) :
    (fitLoop fitted content cap fuel budget).data = fitted.data := by
  fun_induction fitLoop fitted content cap fuel budget with
  | case1 => rfl
  | case2 => rfl
  | case3 => rfl
  | case4 fuel budget shorter large more ih => exact ih

theorem fitLoop_fits {fitted : ToolResult} (content : String) {cap : Int} (fuel budget : Nat)
    (fits : encodedLen { fitted with content := "" } ≤ cap) :
      encodedLen (fitLoop fitted content cap fuel budget) ≤ cap := by
  fun_induction fitLoop fitted content cap fuel budget with
  | case1 => exact fits
  | case2 fuel budget shorter short => exact short
  | case3 => exact fits
  | case4 fuel budget shorter large more ih => exact ih

variable (result : ToolResult)

theorem fitContentToBudget_data (cap : Int) :
    (fitContentToBudget result cap).data = result.data := by
  rw [fitContentToBudget]
  split
  · exact fitLoop_data _ _ _ _ _
  · rfl

theorem fitContentToBudget_fits {result : ToolResult} {cap : Int} :
    encodedLen (fitContentToBudget result cap) ≤ cap ↔ encodedLen result.emptied ≤ cap := by
  rw [fitContentToBudget]
  split
  next fits => exact ⟨fun _ => fits, fun _ => fitLoop_fits _ _ _ fits⟩
  next => rfl

theorem storeContent_data (maxOutputBytes : Int) (put : Option StoredArtifact) :
    (storeContent result maxOutputBytes put).data = result.data := by
  unfold storeContent
  split
  · split <;> rfl
  · rfl

theorem encodedLen_emptied_le : encodedLen result.emptied ≤ encodedLen result := by
  have content : (str "").render.utf8ByteSize ≤ (str result.content).render.utf8ByteSize := by
    change (quote "").utf8ByteSize ≤ (quote result.content).utf8ByteSize
    simp only [quote, String.utf8ByteSize_append]
    exact Nat.add_le_add_right (Nat.add_le_add_left (Nat.zero_le _) _) _
  have truncated : (bool true).render.utf8ByteSize ≤ (bool result.truncated).render.utf8ByteSize := by
    cases result.truncated <;> decide +kernel
  have object : ∀ fields, (obj fields).render = "\x7b" ++ renderFields fields ++ "\x7d" := fun _ => rfl
  unfold encodedLen ToolResult.emptied ToolResult.encode
  rw [object, object]
  simp only [renderFields, String.utf8ByteSize_append]
  omega

def Fits (result : ToolResult) (maxOutputBytes : Int) (put : Option StoredArtifact) : Prop :=
  encodedLen result ≤ maxOutputBytes ∨ encodedLen (storeContent result maxOutputBytes put).emptied ≤ maxOutputBytes

theorem shrinkResult_data (maxOutputBytes : Int) (put : Option StoredArtifact) :
    (Fits result maxOutputBytes put → (shrinkResult result maxOutputBytes put).data = result.data) ∧
    (¬ Fits result maxOutputBytes put → (shrinkResult result maxOutputBytes put).data = unpublished) := by
  have least := encodedLen_emptied_le (storeContent result maxOutputBytes put)
  have stored := storeContent_data result maxOutputBytes put
  unfold shrinkResult Fits
  generalize storeContent result maxOutputBytes put = kept at *
  by_cases small : encodedLen result ≤ maxOutputBytes
  · rw [if_neg (by omega)]
    exact ⟨fun _ => rfl, fun large => absurd (.inl small) large⟩
  · rw [if_pos (by omega)]
    by_cases fits : encodedLen kept.emptied ≤ maxOutputBytes
    · -- whichever of the two is returned, it fits and has the data of the result
      refine ⟨fun _ => ?_, fun large => absurd (.inr fits) large⟩
      dsimp only
      split
      next large =>
        have := fitContentToBudget_fits.mpr fits
        rw [if_neg (by omega), fitContentToBudget_data, stored]
      next => exact stored
    · refine ⟨fun either => ?_, fun _ => ?_⟩
      · exact absurd either (by simp [small, fits])
      · have long : maxOutputBytes < encodedLen kept := by omega
        have unfit : maxOutputBytes < encodedLen (fitContentToBudget kept maxOutputBytes) := by
          have := mt fitContentToBudget_fits.mp fits
          omega
        dsimp only
        rw [if_pos long, if_pos unfit]
        split
        · rfl
        · split <;> rfl

end RustScriptAgent.Tools
