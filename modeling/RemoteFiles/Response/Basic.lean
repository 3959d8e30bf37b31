import RemoteFiles.Frame.Response
import RemoteFiles.Request
import RemoteFiles.Status

/-!
# Responses

A `Response` is a response frame that has been read as the answer to a request. Only the answer to
a download may carry a digest, so the same bytes may read differently for another request.

* `Response.read` -- the response that a frame is, or the `Rejection` that says why it is none;
* `Response.parse` -- the same as a step of the client, told to the log;
* `expectedLength` -- how long the frame is that starts with a header. A stream is cut by it.
-/

namespace RemoteFiles

open Wire

/-- A response, with the request that it answers. -/
structure Response where
  request : Request
  header : ResponseHeader
  message : String
  digest : Option Digest
  /-- Absent if the frame ends behind the message. -/
  payload : Option Bytes
  deriving DecidableEq

/-! ## 1. Rejections -/

/-- Why bytes are no response. -/
inductive Rejection where
  | malformed (cause : Malformed)
  /-- The header promises more than is ever accepted. -/
  | oversized (size : UInt64)
  /-- The header promises more than there is. -/
  | short (available : Nat) (promised : UInt64)
  /-- There is more than the header promises. -/
  | overlong
  deriving DecidableEq, Repr

namespace Rejection

/-- The error that it counts as. -/
def toError : Rejection → Error
  | malformed cause => cause.toError
  | oversized size => .bigPacket size
  | short _ _ => .ranOut
  | overlong => .wrongPacketLength

/-- What the log says about it. -/
def notice : Rejection → Log
  | malformed cause => cause.notice
  | oversized size => [⟨.debug, "response payload " ++ size.toNat.repr ++ " exceeds limit"⟩]
  | short available promised =>
    [⟨.trace, "response has " ++ available.repr ++ " of " ++ promised.toNat.repr ++
      " payload bytes"⟩]
  | overlong => []

end Rejection

/-- The result of reading a response. -/
def ClientM.accepted {α : Type} (result : Except Rejection α) : ClientM Error α :=
  match result with
  | .ok a => pure a
  | .error rejection => do
    ClientM.tell rejection.notice
    throw rejection.toError

namespace ResponseHeader

/-- The header at the front of a frame; what it promises must be acceptable. -/
def read (frame : Bytes) : Except Rejection ResponseHeader := do
  let header : ResponseHeader ← (readPrefixed frame false).mapError .malformed
  if maxPayload < header.payloadLength then throw (.oversized header.payloadLength)
  return header

end ResponseHeader

/-- The length of the frame that starts with a header. -/
def expectedLength (header : Bytes) : Except Rejection Nat := do
  return (← ResponseHeader.read header).payloadLength.toNat + ResponseHeader.length

namespace Response

/-! ## 2. Reading -/

/-- The response that a frame is, as the answer to a request. -/
def read (request : Request) (frame : Bytes) : Except Rejection Response := do
  let header ← ResponseHeader.read frame
  let rest := frame.drop ResponseHeader.length
  if rest.length < header.payloadLength.toNat then
    throw (.short rest.length header.payloadLength)
  if header.payloadLength.toNat < rest.length then throw .overlong
  let body : ResponseBody ← (readFrame rest request.expectsDigest).mapError .malformed
  let payload := if body.payload.isEmpty && body.digest.isNone then none else some body.payload
  return ⟨request, header, body.message, body.digest, payload⟩

/-! ## 3. Parts -/

/-- What the return code means. -/
def status (response : Response) : Status := .ofCode response.header.code

/-- The action was carried out. -/
def successful (response : Response) : Bool := response.status.isSuccess

/-- The length of the message, in bytes. -/
def messageLength (response : Response) : UInt8 :=
  UInt8.ofNat (Utf8.encode response.message).length

/-- The payload as text, broken parts replaced. -/
def payloadText (response : Response) : Option String := response.payload.map Utf8.decodeLossy

/-- A digest has come, and it is the digest of the payload. -/
def validHash (response : Response) : Bool :=
  match response.digest with
  | some digest => digest.verifies (response.payload.getD [])
  | none => false

/-- The kind of action that is answered: what a login was for, and otherwise the operation code. -/
def action (response : Response) : ActionKind :=
  match response.request.opcode with
  | .localOp => response.request.action.kind
  | opcode => opcode

instance : Inspect Response where
  inspect response := Inspect.record "Response"
    [("action", inspect response.action), ("code", inspect response.header.code),
      ("session_id", inspect response.header.session),
      ("payload_len", inspect response.header.payloadLength),
      ("message", inspect response.message), ("digest", inspect response.digest.isSome),
      ("payload", inspect (response.payload.map List.length)),
      ("valid_hash", inspect response.validHash)]

/-! ## 4. Reading, told to the log -/

/-- How much of a frame the log shows. -/
def dumpLimit : Nat := 256

/-- The response that a frame is, as a step of the client. -/
def parse (request : Request) (frame : Bytes) : ClientM Error Response := do
  ClientM.say .trace ("response " ++ frame.length.repr ++ " bytes\n" ++
    HexDump.render (frame.take dumpLimit))
  let response ← ClientM.accepted (read request frame)
  if response.digest.isSome && !response.validHash then
    ClientM.say .warn ("digest mismatch for " ++ (response.payload.getD []).length.repr ++
      " byte payload")
  ClientM.say .debug (inspect response)
  return response

end Response

end RemoteFiles
