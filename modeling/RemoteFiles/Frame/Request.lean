import RemoteFiles.Frame.Payload

/-!
# Request frames

A request on the wire is a header, the length of the payload in eight bytes, and the payload.

| bytes | field |
|---|---|
| 1 | operation code |
| 1 | flag |
| 2 | reserved, zero |
| 2 | length of the username |
| 2 | length of the password |
| 4 | session |
| | username, password |

Both lengths stand before both strings. The payload is read in a second step, since its layout
depends on the operation (`RequestFrame.accountPayload`, `RequestFrame.pathPayload`).
-/

namespace RemoteFiles

open Wire

/-- The header of a request, up to and including the password. -/
structure RequestHeader where
  opcode : ActionKind
  userFlag : ActionKind
  username : ShortString
  password : ShortString
  session : UInt32
  deriving DecidableEq, Repr

namespace RequestHeader

/-- The number of bytes before the username. -/
def fixedLength : Nat := 12

instance : Writable RequestHeader where
  encode header := do
    encode header.opcode
    encode header.userFlag
    encode (0 : UInt16)
    pushShortLength header.username.bytes
    pushShortLength header.password.bytes
    encode header.session
    push header.username.bytes
    push header.password.bytes

instance : Readable RequestHeader where
  decode := do
    let opcode ← decode
    let userFlag ← decode
    let _reserved : UInt16 ← decode
    let usernameLength : UInt16 ← decode
    let passwordLength : UInt16 ← decode
    let session ← decode
    let username ← Decoder.take usernameLength.toNat
    let password ← Decoder.take passwordLength.toNat
    return ⟨opcode, userFlag, ⟨username⟩, ⟨password⟩, session⟩

instance : Inspect RequestHeader where
  inspect header := Inspect.record "RequestHeader"
    [("opcode", inspect header.opcode), ("user_flag", inspect header.userFlag),
      ("username", inspect header.username), ("password", inspect header.password),
      ("session_id", inspect header.session)]

end RequestHeader

/-- A whole request, its payload not read yet. -/
structure RequestFrame where
  header : RequestHeader
  payload : Bytes
  deriving DecidableEq, Repr

namespace RequestFrame

instance : Readable RequestFrame where
  decode := do
    let header ← decode
    let length : UInt64 ← decode
    let payload ← Decoder.take length.toNat
    return ⟨header, payload⟩

instance : Inspect RequestFrame where
  inspect frame := Inspect.record "RequestFrame"
    [("header", inspect frame.header), ("payload", inspect frame.payload)]

/-- The frame that the input is. -/
def parse (input : Bytes) : Except Malformed RequestFrame :=
  readFrame input false

/-- The frame is a request about an account. -/
def isAboutAccount (frame : RequestFrame) : Bool := frame.header.opcode == .userOp

/-- The payload of a request about an account; `none` for any other request. -/
def accountPayload? (frame : RequestFrame) : Option (Except Malformed AccountPayload) :=
  if frame.isAboutAccount then some (readFrame frame.payload false) else none

/-- The payload of a request about a remote path. Only an upload carries a file. -/
def pathPayload (frame : RequestFrame) : Except Malformed PathPayload :=
  readFrame frame.payload (frame.header.opcode == .put)

end RequestFrame

end RemoteFiles
