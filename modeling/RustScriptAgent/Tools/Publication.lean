import RustScriptAgent.Tools.Patch

namespace RustScriptAgent.Tools

open Capabilities Checks WriteFile

namespace WriteFile

structure Arguments where
  path : String
  content : String
deriving DecidableEq

structure Config where
  maxWriteBytes : Int := 1048576
  maxToolOutputBytes : Int := 65536
deriving DecidableEq

structure Host where
  opening : Except ToolError Unit
  publishing : Except ToolError Unit

def request (config : Config) (host : Host) (arguments : Arguments) : Except ToolResult Unit := do
  orUnpublished host.opening
  orUnpublished (validateToolPath arguments.path false)
  refuseIf (config.maxWriteBytes < arguments.content.utf8ByteSize)
    (fail "write_too_large" "write exceeds the configured byte budget" unpublished)
  orUnpublished host.publishing

def publishedResult (content : String) (written : FsWrite) : ToolResult :=
  succeed ("wrote " ++ toString content.utf8ByteSize ++ " bytes")
    [("publication", .str "published"), ("durable", .bool written.durable),
      ("staging_cleaned", .bool written.stagingCleaned), ("bytes", .int written.len)]
    false []

def respond (config : Config) (content : String) (put : Option StoredArtifact) :
    Except CapabilityError FsWrite → ToolResult
  | .error error => failHost error
  | .ok written => shrinkResult (publishedResult content written) config.maxToolOutputBytes put

def execute (config : Config) (host : Host) (destination : Destination) (put : Option StoredArtifact)
    (arguments : Arguments) : ToolResult × Option ByteArray :=
  match request config host arguments with
  | .error result => (result, destination.content)
  | .ok () =>
    let (answer, content) := destination.writeAtomic "*" arguments.content.toUTF8
    (respond config arguments.content put answer, content)

end WriteFile

inductive Publication
  | notPublished
  | published
  | indeterminate
deriving DecidableEq

def Publication.asStr : Publication → String
  | .notPublished => "not_published"
  | .published => "published"
  | .indeterminate => "indeterminate"

def ToolResult.Reports (result : ToolResult) (publication : Publication) : Prop :=
  result.data.lookup "publication" = some (.str publication.asStr)

def Honest (result : ToolResult) (before after new : Option ByteArray) : Prop :=
  result.Reports .notPublished ∧ after = before ∨ result.Reports .published ∧ new.isSome ∧ after = new ∨
    result.Reports .indeterminate

theorem ToolResult.Reports.unique {result : ToolResult} {first second : Publication} (reports : result.Reports first)
    (reports' : result.Reports second) : first = second := by
  have same : first.asStr = second.asStr := by
    simpa using reports.symm.trans reports'
  cases first <;> cases second <;> first | rfl | (revert same; decide)

theorem failHost_reports {error : CapabilityError} (classified : error.Classified) :
    (failHost error).Reports .notPublished := by
  have kept : (if error.code = "wrong_type" then "path_denied" else error.code) ≠ "publication_indeterminate" := by
    split
    · decide
    · exact classified
  simp only [failHost, fail, ToolResult.Reports, if_neg kept]
  rfl

section Respond

variable {destination : Destination} {expectedHash : String} {bytes : ByteArray} {maxOutputBytes : Int}
  {put : Option StoredArtifact} {published : FsWrite → ToolResult}
  (reports : ∀ written, (published written).Reports .published)
include reports

theorem shrunk_reports (written : FsWrite) :
    (Fits (published written) maxOutputBytes put →
      (shrinkResult (published written) maxOutputBytes put).Reports .published) ∧
    (¬ Fits (published written) maxOutputBytes put →
      (shrinkResult (published written) maxOutputBytes put).Reports .notPublished) := by
  have shrunk := shrinkResult_data (published written) maxOutputBytes put
  refine ⟨fun fits => ?_, fun large => ?_⟩
  · rw [ToolResult.Reports, shrunk.1 fits]
    exact reports written
  · rw [ToolResult.Reports, shrunk.2 large]
    rfl

theorem respond_honest_iff :
    Honest
      (match (destination.writeAtomic expectedHash bytes).1 with
        | .error error => failHost error
        | .ok written => shrinkResult (published written) maxOutputBytes put)
      destination.content (destination.writeAtomic expectedHash bytes).2 (some bytes) ↔
    ∀ written, (destination.writeAtomic expectedHash bytes).1 = .ok written →
      Fits (published written) maxOutputBytes put ∨ destination.content = some bytes := by
  -- what a tool makes of the answer to its write is honest exactly when a published result still fits without its
  -- content, or the write changed nothing
  rcases writeAtomic_cases destination expectedHash bytes with ⟨error, answer, classified⟩ | ⟨written, answer⟩ | answer
  · rw [answer]
    exact ⟨nofun, fun _ => .inl ⟨failHost_reports classified, rfl⟩⟩
  · rw [answer]
    by_cases fits : Fits (published written) maxOutputBytes put
    · exact ⟨fun _ _ same => .inl (Except.ok.inj same ▸ fits),
        fun _ => .inr (.inl ⟨(shrunk_reports reports written).1 fits, rfl, rfl⟩)⟩
    · have lost := (shrunk_reports reports written).2 fits
      constructor
      · rintro (⟨-, same⟩ | ⟨other, -⟩ | other) written' -
        · exact .inr same.symm
        · cases lost.unique other
        · cases lost.unique other
      · exact fun condition => .inl ⟨lost, ((condition written rfl).resolve_left fits).symm⟩
  · rw [answer]
    exact ⟨nofun, fun _ => .inr (.inr rfl)⟩

theorem respond_indeterminate (unknown : ToolResult.Reports
      (match (destination.writeAtomic expectedHash bytes).1 with
        | .error error => failHost error
        | .ok written => shrinkResult (published written) maxOutputBytes put) .indeterminate) :
    (destination.writeAtomic expectedHash bytes).1 = .error Destination.publicationIndeterminateError := by
  rcases writeAtomic_cases destination expectedHash bytes with ⟨error, answer, classified⟩ | ⟨written, answer⟩ | answer
  · rw [answer] at unknown
    cases (failHost_reports classified).unique unknown
  · rw [answer] at unknown
    by_cases fits : Fits (published written) maxOutputBytes put
    · cases ((shrunk_reports reports written).1 fits).unique unknown
    · cases ((shrunk_reports reports written).2 fits).unique unknown
  · exact answer

end Respond

theorem orUnpublished_reports {Answer : Type} (answer : Except ToolError Answer) :
    FailsWith (·.Reports .notPublished) (orUnpublished answer) := by
  cases answer with
  | error error => exact failsWith_error rfl
  | ok value => exact failsWith_ok value

theorem WriteFile.request_reports (config : WriteFile.Config) (host : WriteFile.Host)
    (arguments : WriteFile.Arguments) :
    FailsWith (·.Reports .notPublished) (request config host arguments) := by
  unfold request
  refine failsWith_bind (orUnpublished_reports _) fun _ => failsWith_bind (orUnpublished_reports _) fun _ => ?_
  exact failsWith_bind (failsWith_refuseIf rfl) fun _ => orUnpublished_reports _

namespace Patch

theorem mapError_reports {Answer : Type} {answer : Except CapabilityError Answer}
    (classified : FailsWith CapabilityError.Classified answer) :
    FailsWith (·.Reports .notPublished) (answer.mapError failHost) := by
  cases answer with
  | error error => exact failsWith_error (failHost_reports (classified error rfl))
  | ok value => exact failsWith_ok value

theorem readSource_reports (config : Config) (host : Host) :
    FailsWith (·.Reports .notPublished) (readSource config host) := by
  unfold readSource
  refine failsWith_bind (mapError_reports host.metadata_classified) fun entry => ?_
  refine failsWith_bind (failsWith_refuseIf rfl) fun _ => failsWith_bind (failsWith_refuseIf rfl) fun _ => ?_
  split
  · exact failsWith_bind (failsWith_refuseIf rfl) fun _ => failsWith_ok _
  · refine failsWith_bind (mapError_reports (host.readRange_classified _)) fun read => ?_
    refine failsWith_bind (failsWith_refuseIf rfl) fun _ => failsWith_bind (failsWith_refuseIf rfl) fun _ => ?_
    refine failsWith_bind (failsWith_refuseIf rfl) fun _ => failsWith_bind (failsWith_refuseIf rfl) fun _ => ?_
    exact failsWith_ok _

theorem chooseLimit_reports (replaceAll : Bool) (count : Nat) :
    FailsWith (·.Reports .notPublished) (chooseLimit replaceAll count) := by
  unfold chooseLimit
  split
  · exact failsWith_error rfl
  · split
    · exact failsWith_error rfl
    · exact failsWith_ok _

theorem request_reports (config : Config) (host : Host) (arguments : Arguments) :
    FailsWith (·.Reports .notPublished) (request config host arguments) := by
  unfold request
  refine failsWith_bind (orUnpublished_reports _) fun _ => failsWith_bind (orUnpublished_reports _) fun _ => ?_
  refine failsWith_bind (failsWith_refuseIf rfl) fun _ => failsWith_bind (readSource_reports config host) fun read => ?_
  refine failsWith_bind (orUnpublished_reports _) fun _ => failsWith_bind (chooseLimit_reports _ _) fun _ => ?_
  refine failsWith_bind (orUnpublished_reports _) fun _ => failsWith_bind (failsWith_refuseIf rfl) fun _ => ?_
  exact failsWith_bind (orUnpublished_reports _) fun _ => failsWith_ok _

def newBytes (config : Config) (host : Host) (arguments : Arguments) : Option ByteArray :=
  (request config host arguments).toOption.map fun asked => asked.updated.toUTF8

end Patch

theorem publication_honest_iff (destination : Destination) (put : Option StoredArtifact) :
    (∀ config host arguments,
      (Honest (execute config host destination put arguments).1 destination.content
          (execute config host destination put arguments).2 (some arguments.content.toUTF8) ↔
        ∀ written, request config host arguments = .ok () →
          (destination.writeAtomic "*" arguments.content.toUTF8).1 = .ok written →
          Fits (publishedResult arguments.content written) config.maxToolOutputBytes put ∨
            destination.content = some arguments.content.toUTF8) ∧
      ((execute config host destination put arguments).1.Reports .indeterminate →
        (destination.writeAtomic "*" arguments.content.toUTF8).1 = .error Destination.publicationIndeterminateError)) ∧
    ∀ config host arguments,
      (Honest (Patch.execute config host destination put arguments).1 destination.content
          (Patch.execute config host destination put arguments).2 (Patch.newBytes config host arguments) ↔
        ∀ asked written, Patch.request config host arguments = .ok asked →
          (destination.writeAtomic asked.expectedHash asked.updated.toUTF8).1 = .ok written →
          Fits (Patch.publishedResult config arguments.path asked written) config.maxToolOutputBytes put ∨
            destination.content = some asked.updated.toUTF8) ∧
      ((Patch.execute config host destination put arguments).1.Reports .indeterminate →
        ∃ asked, Patch.request config host arguments = .ok asked ∧
          (destination.writeAtomic asked.expectedHash asked.updated.toUTF8).1 =
            .error Destination.publicationIndeterminateError) := by
  -- a published result that does not fit the budget is replaced by a failure that says nothing was written
  constructor
  · intro config host arguments
    rw [execute]
    cases asked : request config host arguments with
    | error result =>
      have reports := request_reports config host arguments result asked
      exact ⟨⟨nofun, fun _ => .inl ⟨reports, rfl⟩⟩, fun unknown => nomatch reports.unique unknown⟩
    | ok passed =>
      have reports : ∀ written, (publishedResult arguments.content written).Reports .published := fun _ => rfl
      exact ⟨(respond_honest_iff reports).trans ⟨fun all written _ => all written, fun all written => all written rfl⟩,
        respond_indeterminate reports⟩
  · intro config host arguments
    rw [Patch.execute, Patch.newBytes]
    cases asked : Patch.request config host arguments with
    | error result =>
      have reports := Patch.request_reports config host arguments result asked
      exact ⟨⟨nofun, fun _ => .inl ⟨reports, rfl⟩⟩, fun unknown => nomatch reports.unique unknown⟩
    | ok request =>
      have reports : ∀ written, (Patch.publishedResult config arguments.path request written).Reports .published :=
        fun _ => rfl
      refine ⟨(respond_honest_iff reports).trans ⟨?_, fun all written => all request written rfl⟩, fun unknown => ?_⟩
      · rintro all _ written ⟨⟩
        exact all written
      · exact ⟨request, rfl, respond_indeterminate reports unknown⟩

def newFile : Destination where
  content := none
  authorize := .ok ()
  maxWriteBytes := 1048576
  metadata := .error ⟨.notFound, "metadata", "entry was not found"⟩
  readFile := .error ⟨.notFound, "read_file", "entry was not found"⟩
  contentHash := fun _ => "hash"
  writeFile := ConfinedWrite.through none
  afterPublishForcesIndeterminate := fun _ => false

theorem published_write_reported_unpublished :
    (execute { maxToolOutputBytes := 1 } ⟨.ok (), .ok ()⟩ newFile none ⟨"f", "x"⟩).1.Reports .notPublished ∧
    (execute { maxToolOutputBytes := 1 } ⟨.ok (), .ok ()⟩ newFile none ⟨"f", "x"⟩).2 = some "x".toUTF8 ∧
    newFile.content = none := by
  have asked : request { maxToolOutputBytes := 1 } ⟨.ok (), .ok ()⟩ ⟨"f", "x"⟩ = .ok () := by decide +kernel
  have large : ¬ Fits (publishedResult "x" ⟨"hash", "x".toUTF8.size, true, true⟩) 1 none := by
    unfold Fits
    decide +kernel
  have wrote : newFile.writeAtomic "*" "x".toUTF8 = (.ok ⟨"hash", "x".toUTF8.size, true, true⟩, some "x".toUTF8) := by
    have checked : newFile.checkWrite "*" "x".toUTF8 = .ok () := by
      unfold Destination.checkWrite
      exact andThen_ok.mpr ⟨rfl, andThen_ok.mpr ⟨refuseIf_ok.mpr (by decide +kernel), if_pos rfl⟩⟩
    rw [Destination.writeAtomic, checked]
    rfl
  have shrunk : (respond { maxToolOutputBytes := 1 } "x" none
      (.ok ⟨"hash", "x".toUTF8.size, true, true⟩)).Reports .notPublished := by
    rw [respond, ToolResult.Reports, (shrinkResult_data _ _ _).2 large]
    rfl
  rw [execute, asked]
  dsimp only
  rw [wrote]
  exact ⟨shrunk, rfl, rfl⟩

end RustScriptAgent.Tools
