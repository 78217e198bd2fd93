import RustScriptAgent.Gateway.BoundedContent
import RustScriptAgent.Gateway.ToolFidelity
import RustScriptAgent.Gateway.ToolPair
import RustScriptAgent.Gateway.ProviderReplay
import RustScriptAgent.Gateway.ContentCodec
import RustScriptAgent.Gateway.AdmissionBudget
import RustScriptAgent.Telegram.Epochs
import RustScriptAgent.Capabilities.Approvals
import RustScriptAgent.Runtime.Cancellation
import RustScriptAgent.Telegram.Streaming
import RustScriptAgent.Agent.CompactedContext
import RustScriptAgent.Agent.CompactionIntegrity
import RustScriptAgent.Capabilities.CompareAndSwap
import RustScriptAgent.Capabilities.ProcessShutdown
import RustScriptAgent.Tools.Ambiguity
import RustScriptAgent.Tools.Publication
import RustScriptAgent.Tools.Glob
import RustScriptAgent.Tools.Utf8
import RustScriptAgent.Transport.EventSource
import RustScriptAgent.Registry.Digest
import RustScriptAgent.Registry.Preflight
import RustScriptAgent.Storage.UsageLedger
import RustScriptAgent.Storage.ClaimExclusion
import RustScriptAgent.Storage.LoadAll
import RustScriptAgent.Storage.RetentionFloor
import RustScriptAgent.Agent.Backoff
import RustScriptAgent.Prompt.Civil
import RustScriptAgent.Prompt.Schemas
import RustScriptAgent.Runtime.ClosedBundle
