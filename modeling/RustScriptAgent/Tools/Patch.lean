import RustScriptAgent.Tools.Results

namespace RustScriptAgent.Tools.Patch

open Capabilities Checks

-- Whether the n-th control check passes: it fails once the run is cancelled or its deadline is over.
abbrev Controls := Nat → Except ToolError Unit

/-- The loops run on fuel here. This is no answer of the tool: `source.length + 1` turns are enough for each of them. -/
def outOfFuel : ToolError := ⟨"out_of_fuel", ""⟩

def canScan (index needleLen sourceLen : Nat) : Bool := needleLen ≤ sourceLen && index ≤ sourceLen - needleLen

def slice (text : List Char) (start stop : Nat) : List Char := (text.drop start).take (stop - start)

def countLoop (control : Controls) (source needle : List Char) :
    (fuel index count scanned checks : Nat) → Except ToolError Nat
  | 0, _, _, _, _ => .error outOfFuel
  | fuel + 1, index, count, scanned, checks =>
    if canScan index needle.length source.length then
      let found := slice source index (index + needle.length) = needle
      let count := if found then count + 1 else count
      let index := if found then index + needle.length else index + 1
      if scanned + 1 = 64 then do
        control checks
        countLoop control source needle fuel index count 0 (checks + 1)
      else countLoop control source needle fuel index count (scanned + 1) checks
    else .ok count

def countMatches (control : Controls) (source needle : List Char) : Except ToolError Nat :=
  countLoop control source needle (source.length + 1) 0 0 0 0

def chunkBound (limit : Nat) : Option Nat := if limit ≤ 2147483646 then some (limit * 2 + 1) else none

def joinPairs : List (List Char) → List (List Char)
  | left :: right :: rest => (left ++ right) :: joinPairs rest
  | rest => rest

def joinLoop : Nat → List (List Char) → List (List Char)
  | 0, current => current
  | fuel + 1, current => if 1 < current.length then joinLoop fuel (joinPairs current) else current

def joinStringChunks (chunks : List (List Char)) : List Char :=
  match joinLoop chunks.length chunks with
  | [text] => text
  | _ => []

def pushChunk (maxChunks : Nat) (chunks : List (List Char)) (chunk : List Char) : Except ToolError (List (List Char)) :=
  if chunk.length = 0 then .ok chunks
  else if maxChunks ≤ chunks.length then .error ⟨"internal_error", "replacement chunk bound exceeded"⟩
  else .ok (chunks ++ [chunk])

structure Scan where
  chunks : List (List Char)
  start : Nat
  index : Nat
  replaced : Nat
  scanned : Nat
  checks : Nat
deriving DecidableEq

section Replace

variable (control : Controls) (source old new : List Char) (limit maxChunks : Nat)

def replaceTurn (scan : Scan) : Except ToolError Scan :=
  if scan.replaced = limit then .ok { scan with index := source.length }
  else if slice source scan.index (scan.index + old.length) = old then do
    let chunks ← pushChunk maxChunks scan.chunks (slice source scan.start scan.index)
    let chunks ← pushChunk maxChunks chunks new
    return { scan with
      chunks
      index := scan.index + old.length
      start := scan.index + old.length
      replaced := scan.replaced + 1 }
  else .ok { scan with index := scan.index + 1 }

def replaceLoop : (fuel : Nat) → Scan → Except ToolError Scan
  | 0, _ => .error outOfFuel
  | fuel + 1, scan =>
    if canScan scan.index old.length source.length then
      let turn := replaceTurn source old new limit maxChunks scan
      -- every 64th turn asks whether to go on, and a refusal replaces what the turn came to
      if scan.scanned + 1 = 64 then do
        control scan.checks
        let scan ← turn
        replaceLoop fuel { scan with scanned := 0, checks := scan.checks + 1 }
      else do
        let scan ← turn
        replaceLoop fuel { scan with scanned := scan.scanned + 1 }
    else .ok scan

def replaceText : Except ToolError (List Char) :=
  match chunkBound limit with
  | none => .error ⟨"internal_error", "replacement chunk bound overflow"⟩
  | some maxChunks => do
    let scan ← replaceLoop control source old new limit maxChunks (source.length + 1) ⟨[], 0, 0, 0, 0, 0⟩
    let chunks ← pushChunk maxChunks scan.chunks (slice source scan.start source.length)
    control scan.checks
    return joinStringChunks chunks

end Replace

def splitInclusiveNewline (text : List Char) : List (List Char) :=
  match text with
  | [] => []
  | c :: rest =>
    if c = '\n' then [c] :: splitInclusiveNewline rest
    else
      match splitInclusiveNewline rest with
      | [] => [[c]]
      | line :: lines => (c :: line) :: lines

def trimEndNewline (line : List Char) : List Char := if line.getLast? = some '\n' then line.dropLast else line

def finishTruncated (preview : List Char) (maxBytes : Int) : List Char :=
  if (utf8Len preview : Int) ≤ maxBytes then preview
  else if maxBytes < 3 then truncateToUtf8Bytes preview maxBytes 0
  else truncateToUtf8Bytes preview (maxBytes - 3) 0 ++ ['…']

def pushDiffLine (preview : List Char) (marker : Char) (line : List Char) (maxBytes : Int) : List Char × Bool :=
  let next := preview ++ marker :: trimEndNewline line ++ ['\n']
  if (utf8Len next : Int) ≤ maxBytes then (next, true) else (finishTruncated next maxBytes, false)

def pushCommonLines (maxBytes : Int) (preview : List Char) : List (List Char) → List (List Char) → List Char × Bool
  | old :: before, new :: after =>
    if old = new then pushCommonLines maxBytes preview before after
    else
      match pushDiffLine preview '-' old maxBytes with
      | (preview, false) => (preview, false)
      | (preview, true) =>
        match pushDiffLine preview '+' new maxBytes with
        | (preview, false) => (preview, false)
        | (preview, true) => pushCommonLines maxBytes preview before after
  | _, _ => (preview, true)

def pushExtraLines (maxBytes : Int) (marker : Char) (preview : List Char) : List (List Char) → List Char × Bool
  | [] => (preview, true)
  | line :: rest =>
    match pushDiffLine preview marker line maxBytes with
    | (preview, false) => (preview, false)
    | (preview, true) => pushExtraLines maxBytes marker preview rest

def boundedDiff (path : String) (before after : List Char) (maxBytes : Int) : List Char :=
  let header :=
    ("diff --git a/" ++ path ++ " b/" ++ path ++ "\n--- a/" ++ path ++ "\n+++ b/" ++ path ++ "\n").toList
  if maxBytes < utf8Len header then finishTruncated header maxBytes
  else
    let old := splitInclusiveNewline before
    let new := splitInclusiveNewline after
    match pushCommonLines maxBytes header old new with
    | (preview, false) => preview
    | (preview, true) =>
      match if old.length < new.length then pushExtraLines maxBytes '+' preview (new.drop old.length)
        else pushExtraLines maxBytes '-' preview (old.drop new.length) with
      | (preview, false) => preview
      | (preview, true) => finishTruncated preview maxBytes

structure Arguments where
  path : String
  oldString : String
  newString : String
  replaceAll : Bool
deriving DecidableEq

structure Config where
  maxReadBytes : Int := 1048576
  maxPatchBytes : Int := 8388608
  maxPatchPreviewBytes : Int := 16384
  maxToolOutputBytes : Int := 65536
deriving DecidableEq

structure FsMetadata where
  fileType : ConfinedFileType
  len : Nat
deriving DecidableEq

structure FsRead where
  bytes : ByteArray
  truncated : Bool
  hash : String

structure Host where
  opening : Except ToolError Unit
  metadata : Except CapabilityError FsMetadata
  readRange : Nat → Except CapabilityError FsRead
  counting : Controls
  replacing : Controls
  publishing : Except ToolError Unit
  metadata_classified : FailsWith CapabilityError.Classified metadata
  readRange_classified : ∀ limit, FailsWith CapabilityError.Classified (readRange limit)

def bytesContainsNul (data : List UInt8) : Bool := data.contains 0

def continuation (byte : UInt8) : Bool := 128 ≤ byte && byte ≤ 191

def utf8IsValid : List UInt8 → Bool
  | [] => true
  | byte :: rest =>
    if byte ≤ 127 then utf8IsValid rest
    else if 194 ≤ byte && byte ≤ 223 then
      match rest with
      | c :: rest => continuation c && utf8IsValid rest
      | _ => false
    else if 224 ≤ byte && byte ≤ 239 then
      match rest with
      | c₁ :: c₂ :: rest =>
        continuation c₁ && continuation c₂ && !(byte == 224 && c₁ < 160) && !(byte == 237 && 159 < c₁)
          && utf8IsValid rest
      | _ => false
    else if 240 ≤ byte && byte ≤ 244 then
      match rest with
      | c₁ :: c₂ :: c₃ :: rest =>
        continuation c₁ && continuation c₂ && continuation c₃ && !(byte == 240 && c₁ < 144)
          && !(byte == 244 && 143 < c₁) && utf8IsValid rest
      | _ => false
    else false

def readSource (config : Config) (host : Host) : Except ToolResult (String × String) := do
  let entry ← host.metadata.mapError failHost
  refuseIf (entry.fileType = .directory ∨ entry.fileType = .other)
    (fail "path_denied" "read-only open requires a regular file" unpublished)
  refuseIf (config.maxReadBytes < entry.len) (fail "budget_exceeded" "read budget exceeded" unpublished)
  if entry.len = 0 then
    refuseIf (config.maxPatchBytes < 0)
      (fail "patch_too_large" "source exceeds the configured patch budget" unpublished)
    return ("", "")
  else
    let read ← (host.readRange entry.len).mapError failHost
    refuseIf read.truncated (fail "budget_exceeded" "read budget exceeded" unpublished)
    refuseIf (config.maxPatchBytes < read.bytes.data.toList.length)
      (fail "patch_too_large" "source exceeds the configured patch budget" unpublished)
    refuseIf (bytesContainsNul read.bytes.data.toList) (fail "binary_file" "file contains binary content" unpublished)
    refuseIf (utf8IsValid read.bytes.data.toList = false) (fail "invalid_utf8" "file is not valid UTF-8" unpublished)
    return ((String.fromUTF8? read.bytes).getD "", read.hash)

def chooseLimit (replaceAll : Bool) (count : Nat) : Except ToolResult Nat :=
  if count = 0 then .error (fail "patch_no_match" "old_string was not found" unpublished)
  else if 1 < count ∧ replaceAll = false then
    .error (fail "patch_multiple_matches" "old_string matches more than once"
      [("publication", .str "not_published"), ("matches", .int count)])
  else .ok (if replaceAll then count else 1)

structure Request where
  source : String
  expectedHash : String
  updated : String
  replacements : Nat
deriving DecidableEq

def request (config : Config) (host : Host) (arguments : Arguments) : Except ToolResult Request := do
  orUnpublished host.opening
  orUnpublished (validateToolPath arguments.path false)
  refuseIf (arguments.oldString = "") (fail "invalid_arguments" "patch old_string must be non-empty" unpublished)
  let (source, expectedHash) ← readSource config host
  let count ← orUnpublished (countMatches host.counting source.toList arguments.oldString.toList)
  let replacements ← chooseLimit arguments.replaceAll count
  let text ← orUnpublished (replaceText host.replacing source.toList arguments.oldString.toList
    arguments.newString.toList replacements)
  let updated := String.ofList text
  refuseIf (config.maxPatchBytes < updated.utf8ByteSize)
    (fail "patch_too_large" "result exceeds the configured patch budget" unpublished)
  orUnpublished host.publishing
  return { source, expectedHash, updated, replacements }

def publishedResult (config : Config) (path : String) (request : Request) (written : FsWrite) : ToolResult :=
  succeed (String.ofList (boundedDiff path request.source.toList request.updated.toList config.maxPatchPreviewBytes))
    [("publication", .str "published"), ("durable", .bool written.durable),
      ("staging_cleaned", .bool written.stagingCleaned), ("bytes", .int written.len),
      ("replacements", .int request.replacements)]
    false []

def respond (config : Config) (path : String) (request : Request) (put : Option StoredArtifact) :
    Except CapabilityError FsWrite → ToolResult
  | .error error => failHost error
  | .ok written => shrinkResult (publishedResult config path request written) config.maxToolOutputBytes put

def execute (config : Config) (host : Host) (destination : Destination) (put : Option StoredArtifact)
    (arguments : Arguments) : ToolResult × Option ByteArray :=
  match request config host arguments with
  | .error result => (result, destination.content)
  | .ok request =>
    let (answer, content) := destination.writeAtomic request.expectedHash request.updated.toUTF8
    (respond config arguments.path request put answer, content)

end RustScriptAgent.Tools.Patch
