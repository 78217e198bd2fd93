import RustScriptAgent.Capabilities.Lifecycle
import RustScriptAgent.Shared.Checks

namespace RustScriptAgent.Capabilities

open Checks

inductive ConfinedFsErrorKind
  | invalidPath
  | emptyPath
  | absolutePath
  | parentTraversal
  | nulByte
  | pathTooLong
  | componentTooLong
  | invalidSeparator
  | pathPrefix
  | unsupportedPlatform
  | notFound
  | permissionDenied
  | symlinkDenied
  | hardlinkDenied
  | wrongType
  | budgetExceeded
  | tempCollision
  | raceDetected
  | alreadyExists
  | tempCompleted
  | invalidConfiguration
  | capabilityMismatch
  | invalidData
  | io
deriving DecidableEq

def ConfinedFsErrorKind.asStr : ConfinedFsErrorKind → String
  | .invalidPath => "invalid_path"
  | .emptyPath => "empty_path"
  | .absolutePath => "absolute_path"
  | .parentTraversal => "parent_traversal"
  | .nulByte => "nul_byte"
  | .pathTooLong => "path_too_long"
  | .componentTooLong => "component_too_long"
  | .invalidSeparator => "invalid_separator"
  | .pathPrefix => "path_prefix"
  | .unsupportedPlatform => "unsupported_platform"
  | .notFound => "not_found"
  | .permissionDenied => "permission_denied"
  | .symlinkDenied => "symlink_denied"
  | .hardlinkDenied => "hardlink_denied"
  | .wrongType => "wrong_type"
  | .budgetExceeded => "budget_exceeded"
  | .tempCollision => "temp_collision"
  | .raceDetected => "race_detected"
  | .alreadyExists => "already_exists"
  | .tempCompleted => "temp_completed"
  | .invalidConfiguration => "invalid_configuration"
  | .capabilityMismatch => "capability_mismatch"
  | .invalidData => "invalid_data"
  | .io => "io"

structure ConfinedFsError where
  kind : ConfinedFsErrorKind
  operation : String
  message : String
deriving DecidableEq

structure CapabilityError where
  code : String
  message : String
deriving DecidableEq

def CapabilityError.Classified (error : CapabilityError) : Prop := error.code ≠ "publication_indeterminate"

def mapFsError (error : ConfinedFsError) : CapabilityError :=
  match error.kind with
  | .parentTraversal | .absolutePath | .emptyPath | .nulByte | .pathTooLong | .componentTooLong | .symlinkDenied
  | .hardlinkDenied | .pathPrefix | .invalidSeparator | .invalidPath | .raceDetected | .capabilityMismatch =>
    ⟨"path_denied", error.message⟩
  | .budgetExceeded => ⟨"budget_exceeded", error.message⟩
  | other => ⟨other.asStr, error.message⟩

def maxPathBytes : Nat := 4096
def maxComponentBytes : Nat := 255

section Native

variable {Failure : Type} (refuse : ConfinedFsErrorKind → String → Failure)

def acceptComponent (component : String) : Except Failure String := do
  refuseIf component.isEmpty (refuse .invalidPath "empty path components are not permitted")
  refuseIf (component = "." ∨ component = "..")
    (refuse .parentTraversal "dot and parent components are not permitted")
  refuseIf (component.toList.getLast? = some '.') (refuse .invalidPath "trailing-dot components are not permitted")
  refuseIf (maxComponentBytes < component.utf8ByteSize)
    (refuse .componentTooLong "path component exceeds the hard bound")
  return component

def splitComponents (path : String) : List String := (path.toList.splitOn '/').map String.ofList

def acceptPath (path : String) (allowEmpty : Bool) : Except Failure (List String) :=
  if path.isEmpty then
    if allowEmpty then .ok [] else .error (refuse .emptyPath "empty paths are not valid file paths")
  else do
    refuseIf (maxPathBytes < path.utf8ByteSize) (refuse .pathTooLong "relative path exceeds the hard bound")
    refuseIf (path.toUTF8.data.contains 0) (refuse .nulByte "path contains a NUL byte")
    refuseIf (path.toList.head? = some '/' ∨ path.toList.getLast? = some '/')
      (refuse .absolutePath "rooted or trailing-separator paths are not permitted")
    refuseIf (path.toList.contains '\\') (refuse .invalidSeparator "backslash is not a permitted path separator")
    refuseIf (path.toList.contains ':') (refuse .pathPrefix "drive and prefix syntax is not permitted")
    (splitComponents path).mapM (acceptComponent refuse)

end Native

def validatePath (path : String) (allowEmpty : Bool) (operation : String) : Except ConfinedFsError (List String) :=
  acceptPath (fun kind message => ⟨kind, operation, message⟩) path allowEmpty

def validateComponents (path : String) (allowEmpty : Bool) : Except CapabilityError (List String) :=
  acceptPath (fun kind message => ⟨if kind = .emptyPath then "invalid_path" else "path_denied", message⟩)
    path allowEmpty

inductive AuthorizeError
  | workspaceDenied
  | ownerMismatch (expected actual : String)
  | cancelled
  | duplicateClose
  | interrupted
  | tokenUnknown
  | deadlineElapsed
  | approvalCeiling (requested ceiling : CapabilityRisk)
deriving DecidableEq

def AuthorizeError.toCapabilityError : AuthorizeError → CapabilityError
  | .workspaceDenied => ⟨"workspace_denied", "workspace is unavailable"⟩
  | .ownerMismatch expected actual => ⟨"owner_mismatch", "owner mismatch: expected " ++ expected ++ ", got " ++ actual⟩
  | .cancelled => ⟨"cancelled", "run was cancelled"⟩
  | .duplicateClose => ⟨"duplicate_close", "execution token is already closed"⟩
  | .interrupted => ⟨"interrupted", "execution was interrupted"⟩
  | .tokenUnknown => ⟨"token_unknown", "execution token is unknown"⟩
  | .deadlineElapsed => ⟨"deadline_elapsed", "deadline elapsed"⟩
  | .approvalCeiling requested ceiling =>
    ⟨"approval_ceiling", "requested risk " ++ requested.asStr ++ " exceeds approved ceiling " ++ ceiling.asStr⟩

inductive ConfinedFileType
  | file
  | directory
  | symlink
  | other
deriving DecidableEq

structure ConfinedPublication where
  durable : Bool
  stagingCleaned : Bool
deriving DecidableEq

inductive ConfinedPublicationState
  | notPublished
  | published (publication : ConfinedPublication)
  | indeterminate
deriving DecidableEq

abbrev ConfinedAnswer := Except (ConfinedFsError × ConfinedPublicationState) ConfinedPublication

def ConfinedAnswer.state : ConfinedAnswer → ConfinedPublicationState
  | .ok publication => .published publication
  | .error (_, state) => state

/-- A write of the confined layer: its answer and what it left at the destination, which the state in the answer
describes. -/
structure ConfinedWrite (before : Option ByteArray) (bytes : ByteArray) where
  answer : ConfinedAnswer
  after : Option ByteArray
  kept : answer.state = .notPublished → after = before
  placed : ∀ publication, answer.state = .published publication → after = some bytes

def ConfinedWrite.through (before : Option ByteArray) (bytes : ByteArray) : ConfinedWrite before bytes :=
  ⟨.ok ⟨true, true⟩, some bytes, nofun, fun _ _ => rfl⟩

structure FsWrite where
  hash : String
  len : Nat
  durable : Bool
  stagingCleaned : Bool
deriving DecidableEq

/-- What a write at one path meets: the token's claims, the destination as the confined layer reports and changes
it, and the hook that may call a publication unclassified. -/
structure Destination where
  content : Option ByteArray
  authorize : Except AuthorizeError Unit
  maxWriteBytes : Nat
  metadata : Except ConfinedFsError ConfinedFileType
  readFile : Except ConfinedFsError ByteArray
  contentHash : ByteArray → String
  writeFile : (bytes : ByteArray) → ConfinedWrite content bytes
  afterPublishForcesIndeterminate : ByteArray → Bool

namespace Destination

variable (destination : Destination)

def validateExpectedHash (expectedHash : String) : Except CapabilityError Unit :=
  match destination.metadata with
  | .ok type => do
    refuseIf (type = .symlink) ⟨"path_denied", "symlinks are not followed"⟩
    refuseIf expectedHash.isEmpty ⟨"cas_mismatch", "destination already exists"⟩
    refuseIf (type ≠ .file) ⟨"wrong_type", "destination is not a regular file"⟩
    match destination.readFile with
    | .error error => .error (mapFsError error)
    | .ok current =>
      refuseIf (destination.contentHash current ≠ expectedHash) ⟨"cas_mismatch", "content hash does not match"⟩
  | .error error =>
    if error.kind = .notFound then
      refuseIf (expectedHash.isEmpty = false) ⟨"cas_mismatch", "content hash does not match"⟩
    else .error (mapFsError error)

def checkWrite (expectedHash : String) (bytes : ByteArray) : Except CapabilityError Unit := do
  destination.authorize.mapError AuthorizeError.toCapabilityError
  refuseIf (destination.maxWriteBytes < bytes.size) ⟨"budget_exceeded", "requested write exceeds the configured bound"⟩
  if expectedHash = "*" then .ok () else destination.validateExpectedHash expectedHash

def publicationIndeterminateError : CapabilityError :=
  ⟨"publication_indeterminate", "write publication could not be classified"⟩

def reportPublication (bytes : ByteArray) (publication : ConfinedPublication) : Except CapabilityError FsWrite :=
  if destination.afterPublishForcesIndeterminate bytes then .error publicationIndeterminateError
  else .ok ⟨destination.contentHash bytes, bytes.size, publication.durable, publication.stagingCleaned⟩

def report (bytes : ByteArray) : ConfinedAnswer → Except CapabilityError FsWrite
  | .ok publication => destination.reportPublication bytes publication
  | .error (_, .published publication) => destination.reportPublication bytes publication
  | .error (_, .indeterminate) => .error publicationIndeterminateError
  | .error (error, .notPublished) => .error (mapFsError error)

def writeAtomic (expectedHash : String) (bytes : ByteArray) : Except CapabilityError FsWrite × Option ByteArray :=
  match destination.checkWrite expectedHash bytes with
  | .error error => (.error error, destination.content)
  | .ok () =>
    let write := destination.writeFile bytes
    (destination.report bytes write.answer, write.after)

end Destination

open CapabilityError

theorem mapFsError_classified (error : ConfinedFsError) : Classified (mapFsError error) := by
  rcases error with ⟨kind, operation, message⟩
  cases kind <;> simp [Classified, mapFsError, ConfinedFsErrorKind.asStr]

variable (destination : Destination)

theorem validateExpectedHash_classified (expectedHash : String) :
    FailsWith Classified (destination.validateExpectedHash expectedHash) := by
  unfold Destination.validateExpectedHash
  split
  · refine failsWith_bind (failsWith_refuseIf (by simp [Classified])) fun _ => ?_
    refine failsWith_bind (failsWith_refuseIf (by simp [Classified])) fun _ => ?_
    refine failsWith_bind (failsWith_refuseIf (by simp [Classified])) fun _ => ?_
    split
    · exact failsWith_error (mapFsError_classified _)
    · exact failsWith_refuseIf (by simp [Classified])
  · split
    · exact failsWith_refuseIf (by simp [Classified])
    · exact failsWith_error (mapFsError_classified _)

theorem checkWrite_classified (expectedHash : String) (bytes : ByteArray) :
    FailsWith Classified (destination.checkWrite expectedHash bytes) := by
  unfold Destination.checkWrite
  refine failsWith_bind ?_ fun _ => failsWith_bind (failsWith_refuseIf (by simp [Classified])) fun _ => ?_
  · cases destination.authorize with
    | error error => exact failsWith_error (by cases error <;> simp [Classified, AuthorizeError.toCapabilityError])
    | ok granted => exact failsWith_ok granted
  · split
    · exact failsWith_ok ()
    · exact validateExpectedHash_classified destination expectedHash

theorem writeAtomic_cases (expectedHash : String) (bytes : ByteArray) :
    (∃ error, destination.writeAtomic expectedHash bytes = (.error error, destination.content) ∧ Classified error) ∨
    (∃ written, destination.writeAtomic expectedHash bytes = (.ok written, some bytes)) ∨
    (destination.writeAtomic expectedHash bytes).1 = .error Destination.publicationIndeterminateError := by
  rw [Destination.writeAtomic]
  cases checked : destination.checkWrite expectedHash bytes with
  | error error => exact .inl ⟨error, rfl, checkWrite_classified destination expectedHash bytes error checked⟩
  | ok passed =>
    have kept := (destination.writeFile bytes).kept
    have placed := (destination.writeFile bytes).placed
    have publication : ∀ publication, (destination.writeFile bytes).answer.state = .published publication →
        (∃ written, (destination.reportPublication bytes publication, (destination.writeFile bytes).after) =
          (.ok written, some bytes)) ∨
        destination.reportPublication bytes publication = .error Destination.publicationIndeterminateError := by
      intro publication state
      rw [placed publication state, Destination.reportPublication]
      split
      · exact .inr rfl
      · exact .inl ⟨_, rfl⟩
    dsimp only
    rcases answer : (destination.writeFile bytes).answer with ⟨error, _ | done | _⟩ | done
    · rw [kept (by rw [answer]; rfl)]
      exact .inl ⟨_, rfl, mapFsError_classified error⟩
    · exact .inr (publication done (by rw [answer]; rfl))
    · exact .inr (.inr rfl)
    · exact .inr (publication done (by rw [answer]; rfl))

end RustScriptAgent.Capabilities
