import RemoteFiles.Digest.Basic
import RemoteFiles.Frame.Payload

/-!
# Response frames

A response on the wire is a header of fixed length and a body. The header says how long the body
is, so a response can be cut out of a stream (`expectedLength`). The body is a message behind its
length in one byte, the digest of a file if the request was a download, and the payload, which
reaches to the end.
-/

namespace RemoteFiles

open Wire

/-! ## 1. Header -/

/-- The header of a response. -/
structure ResponseHeader where
  code : UInt8
  reserved : UInt8
  session : UInt32
  payloadLength : UInt64
  deriving DecidableEq, Repr

namespace ResponseHeader

/-- The length of every header. -/
def length : Nat := 1 + 1 + 4 + 8

/-- No larger body is accepted, whatever a header promises. -/
def maxPayload : UInt64 := 4 * 1024 * 1024 * 1024

instance : Writable ResponseHeader where
  encode header := do
    encode header.code
    encode header.reserved
    encode header.session
    encode header.payloadLength

instance : Readable ResponseHeader where
  decode := do
    let code ← decode
    let reserved ← decode
    let session ← decode
    let payloadLength ← decode
    return ⟨code, reserved, session, payloadLength⟩

instance : Inspect ResponseHeader where
  inspect header := Inspect.record "ResponseHeader"
    [("code", inspect header.code), ("reserved", inspect header.reserved),
      ("session_id", inspect header.session), ("payload_len", inspect header.payloadLength)]

end ResponseHeader

/-! ## 2. Body -/

/-- What the header's length covers. -/
structure ResponseBody where
  message : String
  /-- Present in the answer to a download that carries a file. -/
  digest : Option Digest
  payload : Bytes
  deriving DecidableEq

namespace ResponseBody

/-- The longest message, in bytes. -/
def maxMessage : Nat := 255

instance : Writable ResponseBody where
  encode body := do
    let message := Utf8.encode body.message
    if maxMessage < message.length then throw (.message message.length)
    encode (UInt8.ofNat message.length)
    push message
    encode body.digest
    push body.payload

instance : Readable ResponseBody where
  decode := do
    let messageLength : UInt8 ← decode
    let bytes ← Decoder.take messageLength.toNat
    match Utf8.decode? bytes with
    | none => throw .badString
    | some message =>
      if (← get).expectDigest && 0 < (← Decoder.remaining) then
        let digest ← decode
        let payload ← Decoder.takeRest
        return ⟨message, some digest, payload⟩
      else
        let payload ← Decoder.takeRest
        return ⟨message, none, payload⟩

instance : Inspect ResponseBody where
  inspect body := Inspect.record "ResponseBody"
    [("message", inspect body.message),
      ("digest", inspect (body.digest.map fun digest => digest.bytes)),
      ("payload", inspect body.payload)]

end ResponseBody

/-- The whole frame of a response, as a server writes it. -/
def ResponseBody.frame (code : UInt8) (session : UInt32) (body : ResponseBody) :
    Except Oversize Bytes := do
  let length ← lengthOf body
  let header ← bytesOf (ResponseHeader.mk code 0 session (UInt64.ofNat length))
  return header ++ (← bytesOf body)

end RemoteFiles
