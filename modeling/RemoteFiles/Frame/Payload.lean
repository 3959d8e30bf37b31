import RemoteFiles.Action.Basic
import RemoteFiles.Action.Permission
import RemoteFiles.Digest.Basic
import RemoteFiles.Wire.Decode

/-!
# Payloads of requests

What a request carries behind its header depends on its operation: nothing for a login, an
`AccountPayload` for the management of accounts, and a `PathPayload` for the rest, to which an
upload adds the digest and the contents of its file.
-/

namespace RemoteFiles

open Wire

/-! ## 1. Codes and digests on the wire -/

instance : Writable ActionKind := ⟨fun kind => encode kind.code⟩

instance : Readable ActionKind where
  decode := do
    let code : UInt8 ← decode
    match ActionKind.ofCode? code with
    | some kind => return kind
    | none => throw (.unknownAction code)

instance : Writable Permission := ⟨fun tier => encode tier.code⟩

instance : Readable Permission where
  decode := do
    let code : UInt8 ← decode
    match Permission.ofCode? code with
    | some tier => return tier
    | none => throw .badNumber

instance : Writable Digest := ⟨fun digest => push digest.bytes⟩

instance : Readable Digest where
  decode := do
    let bytes ← Decoder.takeExactly Digest.size
    return ⟨bytes.val, bytes.property⟩

/-! ## 2. Payloads -/

/-- The payload of a request that only logs in. -/
structure EmptyPayload where
  deriving DecidableEq, Repr

instance : Writable EmptyPayload := ⟨fun _ => pure ()⟩

/-- The payload of a request about an account. -/
structure AccountPayload where
  action : ActionKind
  permission : Permission
  username : ShortString
  /-- Written only when the account is created. -/
  password : Option ShortString
  deriving DecidableEq, Repr

instance : Writable AccountPayload where
  encode payload := do
    encode payload.action
    encode payload.permission
    encode payload.username
    if payload.action = .createUser then encode payload.password

instance : Readable AccountPayload where
  decode := do
    let action ← decode
    let permission ← decode
    let username ← decode
    if action = .createUser && 0 < (← Decoder.remaining) then
      return ⟨action, permission, username, some (← decode)⟩
    else return ⟨action, permission, username, none⟩

instance : Inspect AccountPayload where
  inspect payload := Inspect.record "UserPayload"
    [("action", inspect payload.action), ("perm", inspect payload.permission),
      ("username", inspect payload.username), ("password", inspect payload.password)]

/-- The file of an upload. -/
structure FileContents where
  digest : Digest
  content : Bytes
  deriving DecidableEq

instance : Inspect FileContents where
  inspect file := Inspect.tuple "FileData"
    ["len=" ++ file.content.length.repr, "digest=" ++ HexDump.render file.digest.bytes]

/-- The payload of a request about a remote path. -/
structure PathPayload where
  path : ShortString
  /-- Present in an upload only. -/
  file : Option FileContents
  deriving DecidableEq

instance : Writable PathPayload where
  encode payload := do
    encode payload.path
    match payload.file with
    | some file => do
      encode file.digest
      push file.content
    | none => pure ()

instance : Readable PathPayload where
  decode := do
    let path ← decode
    if (← get).expectDigest then
      let digest ← decode
      let content ← Decoder.takeRest
      return ⟨path, some ⟨digest, content⟩⟩
    else return ⟨path, none⟩

instance : Inspect PathPayload where
  inspect payload := Inspect.record "StdPayload"
    [("path", inspect payload.path), ("file", inspect payload.file)]

end RemoteFiles
