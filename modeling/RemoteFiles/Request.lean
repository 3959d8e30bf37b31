import RemoteFiles.Client
import RemoteFiles.Frame.Request
import RemoteFiles.Operation

/-!
# Sessions and requests

A `Session` is what the requests to one server have in common: where it is, who asks, and the
session id that the server has handed out. A `Request` is an operation under a session, and a
request that has been built is fit to be sent, as far as the disk does not change.

* `Request.ofParams` -- from the flags and fields of a command line;
* `Session.request` and the functions after it -- for one operation at a time;
* `Request.toBytes` -- the frame that is sent.
-/

namespace RemoteFiles

/-- What the requests to one server have in common. -/
structure Session where
  host : String
  port : UInt16
  username : String
  password : Secret
  id : UInt32
  deriving DecidableEq

instance : Inspect Session where
  inspect session := Inspect.openRecord "Session"
    [("host", inspect session.host), ("port", inspect session.port),
      ("username", inspect session.username), ("session_id", inspect session.id)]

/-- An operation under a session. -/
structure Request where
  session : Session
  operation : Operation
  deriving DecidableEq

instance : Inspect Request where
  inspect request := Inspect.openRecord "Request"
    [("host", inspect request.session.host), ("port", inspect request.session.port),
      ("username", inspect request.session.username),
      ("session_id", inspect request.session.id), ("op", inspect request.operation)]

/-- What a command line supplies for a request. -/
structure Request.Params where
  session : Session
  flags : Flags
  fields : Fields
  /-- The password of an account that is created. -/
  newPassword : Option Secret
  deriving DecidableEq

/-! ## 1. Building -/

/-- The action of a kind, told to the log. -/
def Action.resolve (kind : ActionKind) (fields : Fields) : ClientM Error Action := do
  let action ← ClientM.require (Action.ofSelected kind fields)
  ClientM.say .debug ("resolved " ++ kind.name ++ " to opcode " ++ action.opcode.name ++
    " flag " ++ action.userFlag.name)
  return action

/-- The action that flags and fields select, told to the log. -/
def Flags.resolve (flags : Flags) (fields : Fields) : ClientM Error Action := do
  let selection ← ClientM.require flags.select
  Action.resolve selection.kind fields

/-- The request that flags and fields ask for. Whatever is wrong with them is found here. -/
def Request.ofParams (params : Params) : ClientM Error Request := do
  let selection ← ClientM.require params.flags.select
  let action ← Action.resolve selection.kind params.fields
  let operation ← ClientM.ask fun disk =>
    Operation.resolve disk action selection.account params.newPassword params.fields
  return ⟨params.session, operation⟩

namespace Session

/-- A request for an operation, as it is. -/
def build (session : Session) (operation : Operation) : Request := ⟨session, operation⟩

/-- A request for an operation that is checked first. -/
def request (session : Session) (operation : Operation) : ClientM Error Request := do
  ClientM.ask operation.check
  return session.build operation

/-- Logs in. -/
def authenticate (session : Session) : Request := session.build .authenticate

/-- Lists a remote directory. -/
def ls (session : Session) (path : String) : Request := session.build (.ls path)

/-- Creates a remote directory. -/
def mkdir (session : Session) (path : String) : Request := session.build (.mkdir path)

/-- Deletes a remote file or directory. -/
def delete (session : Session) (path : String) : Request := session.build (.delete path)

/-- Downloads a remote file into a local directory. -/
def get (session : Session) (path : String) (directory : Path) : ClientM Error Request := do
  session.request (← ClientM.ask fun disk => Operation.ofDownload disk path directory)

/-- Uploads a local file into a remote directory. -/
def put (session : Session) (source : Path) (directory : String) : ClientM Error Request := do
  session.request (← ClientM.require (Operation.ofUpload source directory))

/-- Logs in for an action on the local disk. -/
def onDisk (session : Session) (action : LocalAction) (path : Path) : Request :=
  session.build (.onDisk action path)

/-- The session of the next request: the id is the one that the server has handed out. -/
def update {ε : Type} (session : Session) (id : UInt32) : ClientM ε Session := do
  if id ≠ session.id then
    ClientM.say .debug ("session id " ++ session.id.toNat.repr ++ " -> " ++ id.toNat.repr)
  return { session with id := id }

end Session

namespace Request

/-! ## 2. Parts -/

/-- What the request does. -/
def action (request : Request) : Action := request.operation.action

/-- The operation code that is sent. -/
def opcode (request : Request) : ActionKind := request.action.opcode

/-- The flag that is sent. -/
def userFlag (request : Request) : ActionKind := request.action.userFlag

/-- The request opens the shell. -/
def opensShell (request : Request) : Bool := request.operation == .shell

/-- The local path, for an action that has one. -/
def source? (request : Request) : Option Path :=
  match request.operation with
  | .get _ target => target.parent?
  | .put source _ => some source
  | .onDisk _ path => some path
  | _ => none

/-- The remote path, for an action that has one. -/
def destination? (request : Request) : Option String :=
  match request.operation with
  | .ls path | .mkdir path | .delete path | .get path _ => some path
  | .put _ directory => some directory
  | _ => none

/-- The account that the request is about, if it is about one. -/
def account? (request : Request) : Option String :=
  match request.operation with
  | .account change => some change.username
  | _ => none

/-- A password for the other account should be supplied. -/
def needsNewPassword (request : Request) : Bool :=
  match request.operation with
  | .account change => change.action == .create
  | _ => false

/-- Where a download is saved. -/
def target? (request : Request) : Option Path :=
  match request.operation with
  | .get _ target => some target
  | _ => none

/-- The answer may carry a digest: it is the answer to a download. -/
def expectsDigest (request : Request) : Bool := request.target?.isSome

/-! ## 3. The frame -/

/-- The header that is sent. -/
def header (request : Request) : RequestHeader :=
  { opcode := request.opcode
    userFlag := request.userFlag
    username := .ofString request.session.username
    password := .ofString request.session.password.text
    session := request.session.id }

/-- The payload of a request about an account. -/
def accountPayload (change : AccountChange) : AccountPayload :=
  { action := change.action.kind
    permission := change.permission
    username := .ofString change.username
    password := change.password.map fun password => .ofString password.text }

/-- The payload of an upload, with the file as it is now. -/
def uploadPayload (source : Path) (directory : String) : ClientM Error PathPayload := do
  let path ← ClientM.require (Operation.uploadPath source directory)
  let content ← ClientM.ask fun disk => (disk.contents source).mapError .disk
  ClientM.say .debug ("put " ++ source.display ++ " (" ++ content.length.repr ++ " bytes) to " ++
    path)
  return ⟨.ofString path, some ⟨Digest.of content, content⟩⟩

/-- The payload behind its length. -/
def payload (request : Request) : ClientM Error Bytes :=
  match request.operation with
  | .authenticate | .shell | .onDisk _ _ =>
    ClientM.encoded (Wire.bytesOf (Wire.Blob.mk EmptyPayload.mk))
  | .account change => ClientM.encoded (Wire.bytesOf (Wire.Blob.mk (accountPayload change)))
  | .ls path | .mkdir path | .delete path | .get path _ =>
    ClientM.encoded (Wire.bytesOf (Wire.Blob.mk (PathPayload.mk (.ofString path) none)))
  | .put source directory => do
    let payload ← uploadPayload source directory
    ClientM.encoded (Wire.bytesOf (Wire.Blob.mk payload))

/-- How much of a frame the log shows. -/
def dumpLimit : Nat := 512

/-- The bytes with those from `start` on replaced by asterisks, `count` of them. -/
def mask (start count : Nat) (bytes : Bytes) : Bytes :=
  bytes.take start ++ List.replicate (bytes.drop start |>.take count).length 0x2A ++
    bytes.drop (start + count)

/-- The front of a frame as the log shows it, the password masked. -/
def masked (request : Request) (frame : Bytes) : Bytes :=
  mask (RequestHeader.fixedLength + (Utf8.encode request.session.username).length)
    (Utf8.encode request.session.password.text).length (frame.take dumpLimit)

/-- The frame that is sent. An upload reads its file here. -/
def toBytes (request : Request) : ClientM Error Bytes := do
  ClientM.ask request.operation.check
  let header ← ClientM.encoded (Wire.bytesOf request.header)
  let frame := header ++ (← request.payload)
  ClientM.say .trace ("request " ++ frame.length.repr ++ " bytes\n" ++
    HexDump.render (request.masked frame))
  return frame

end Request

/-! ## 4. Reading a frame back -/

namespace RequestFrame

/-- The payload of a request about an account, read by whoever has received the frame. -/
def readAccountPayload (frame : RequestFrame) : ClientM Error AccountPayload :=
  match frame.accountPayload? with
  | some result => ClientM.decoded result
  | none => throw (.badUsage "not a user request")

/-- The payload of a request about a remote path, read by whoever has received the frame. -/
def readPathPayload (frame : RequestFrame) : ClientM Error PathPayload :=
  ClientM.decoded frame.pathPayload

end RequestFrame

end RemoteFiles
