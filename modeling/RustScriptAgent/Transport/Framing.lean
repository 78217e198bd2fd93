import Mathlib.Data.List.Basic

namespace RustScriptAgent.Transport

abbrev Bytes := List UInt8

def bom : Bytes := [0xEF, 0xBB, 0xBF]

def carriageReturn : UInt8 := 13

def lineFeed : UInt8 := 10

def colon : UInt8 := 58

def space : UInt8 := 32

def dataField : Bytes := [100, 97, 116, 97]

/-- `std::str::from_utf8` accepts the bytes. The separators below are ASCII, so the text is split as its bytes are. -/
def validUtf8 (bytes : Bytes) : Bool := (ByteArray.mk bytes.toArray).validateUTF8

inductive FrameError where
  | lineTooLong
  | dataTooLong
  | invalidUtf8
  deriving DecidableEq

def splitField (text : Bytes) : Bytes × Bytes :=
  (text.takeWhile (· != colon), (text.dropWhile (· != colon)).tail)

def stripSpace : Bytes → Bytes
  | [] => []
  | byte :: rest => if byte = space then rest else byte :: rest

structure SseFramer where
  maxLineBytes : Nat
  maxDataBytes : Nat
  pending : Bytes := []
  bomDecided : Bool := false
  afterCr : Bool := false
  line : Bytes := []
  data : Bytes := []
  hasData : Bool := false
  deriving DecidableEq

namespace SseFramer

def new (maxLineBytes maxDataBytes : Nat) : SseFramer := { maxLineBytes, maxDataBytes }

abbrev Step := Except FrameError (Option Bytes × SseFramer)

def processLine (framer : SseFramer) : Step :=
  let text := framer.line
  let framer := { framer with line := [] }
  if validUtf8 text = false then .error .invalidUtf8
  else if text = [] then
    if framer.hasData then .ok (some framer.data, { framer with hasData := false, data := [] })
    else .ok (none, framer)
  else if text.head? = some colon then .ok (none, framer)
  else
    let value := stripSpace (splitField text).2
    if (splitField text).1 = dataField then
      let total := framer.data.length + (value.length + framer.hasData.toNat)
      if framer.maxDataBytes < total then .error .dataTooLong
      else
        let data := if framer.hasData then framer.data ++ [lineFeed] else framer.data
        .ok (none, { framer with data := data ++ value, hasData := true })
    else .ok (none, framer)

def processPlain (framer : SseFramer) (byte : UInt8) : Step :=
  if byte = carriageReturn then { framer with afterCr := true }.processLine
  else if byte = lineFeed then framer.processLine
  else if framer.maxLineBytes ≤ framer.line.length then .error .lineTooLong
  else .ok (none, { framer with line := framer.line ++ [byte] })

def processByte (framer : SseFramer) (byte : UInt8) : Step :=
  if framer.afterCr then
    if byte = lineFeed then .ok (none, { framer with afterCr := false })
    else { framer with afterCr := false }.processPlain byte
  else framer.processPlain byte

def processPending (framer : SseFramer) : Bytes → Step
  | [] => .ok (none, framer)
  | byte :: rest =>
    match framer.processByte byte with
    | .error error => .error error
    | .ok (some record, framer) => .ok (some record, framer)
    | .ok (none, framer) => framer.processPending rest

def pushByte (framer : SseFramer) (byte : UInt8) : Step :=
  if framer.bomDecided then framer.processByte byte
  else
    let pending := framer.pending ++ [byte]
    if pending = bom then .ok (none, { framer with pending := [], bomDecided := true })
    else if pending.isPrefixOf bom then .ok (none, { framer with pending })
    else { framer with pending := [], bomDecided := true }.processPending pending

end SseFramer

structure Framed where
  records : List Bytes := []
  error : Option FrameError := none
  deriving DecidableEq

/-- The bytes one by one, up to the first error. At the end of the stream an unterminated item is discarded. -/
def SseFramer.feed (framer : SseFramer) : Bytes → Framed
  | [] => {}
  | byte :: rest =>
    match framer.pushByte byte with
    | .error error => { error := some error }
    | .ok (record, framer) =>
      let later := framer.feed rest
      { later with records := record.toList ++ later.records }

end RustScriptAgent.Transport
