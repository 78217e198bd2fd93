import RustScriptAgent.Storage.Schema

namespace RustScriptAgent.Gateway

open Storage

structure GatewayEvent where
  eventId : String
  seq : Int
  event : EventType
  runId : String
  timestamp : Int
  data : Json
  deriving DecidableEq

structure SessionMessage where
  id : String
  sessionId : String
  role : String
  content : Json
  createdAt : Int
  runId : Option String := none
  finishReason : Option String := none
  name : Option String := none
  toolCallId : Option String := none
  parentMessageId : Option String := none
  tokenEstimate : Option Int := none
  metadata : Json := .null
  ordinal : Option Int := none
  deriving DecidableEq

end RustScriptAgent.Gateway
