import RemoteFiles.Proofs.Digest
import RemoteFiles.Proofs.Frame.Request
import RemoteFiles.Request

/-!
# Requests as their receiver reads them

A request is turned into a frame by one side and read by the other. `Carries` says what a receiver
must find behind the header, operation by operation, in terms of the operation and of the disk as it
was when the frame was made.

* `payload_eq_ok` -- the payload that is sent: nothing, an account, a path, or a path and a file;
* `toBytes_eq_ok` -- a frame is a header and a payload, and the operation has passed its check;
* `parse_toBytes` -- every frame that is sent is read back, with all that it was made from.
-/

namespace RemoteFiles

open Wire

/-! ## 1. What is sent -/

/-- The bytes that an operation puts behind the header, the disk being as it is. -/
def Operation.Sends (disk : Disk) (body : Bytes) : Operation → Prop
  | .authenticate | .shell | .onDisk _ _ => body = []
  | .account change => written (Request.accountPayload change) = .all body
  | .ls path | .mkdir path | .delete path | .get path _ =>
    written (PathPayload.mk (.ofString path) none) = .all body
  | .put source directory =>
    ∃ path content, Operation.uploadPath source directory = .ok path ∧
      disk.contents source = .ok content ∧
      written (PathPayload.mk (.ofString path) (some ⟨Digest.of content, content⟩)) = .all body

namespace Request

/-- The bytes behind their length, once they have been written. -/
theorem encoded_blob_eq_ok {α : Type} [Writable α] [LawfulWritable α] (content : α)
    {client after : Client} {bytes : Bytes}
    (h : (ClientM.encoded (bytesOf (Blob.mk content)) : ClientM Error Bytes) client =
      .ok bytes after) :
    ∃ body, written content = .all body ∧ body.length < UInt64.size ∧
      bytes = Bytes.bigEndian 8 body.length ++ body := by
  obtain ⟨hbytes, -⟩ := ClientM.encoded_eq_ok_iff.mp h
  exact written_blob_eq_all_iff.mp (bytesOf_eq_ok_iff.mp hbytes)

/-- The payload of an upload holds the file as it is on the disk, and its digest. -/
theorem uploadPayload_eq_ok {source : Path} {directory : String} {client after : Client}
    {payload : PathPayload} (h : uploadPayload source directory client = .ok payload after) :
    ∃ path content, Operation.uploadPath source directory = .ok path ∧
      client.disk.contents source = .ok content ∧
      payload = ⟨.ofString path, some ⟨Digest.of content, content⟩⟩ := by
  obtain ⟨path, hpath, hrest⟩ := ClientM.require_bind_eq_ok_iff.mp h
  obtain ⟨content, hcontent, htold⟩ := ClientM.ask_bind_eq_ok_iff.mp hrest
  rw [ClientM.say_bind] at htold
  cases htold
  refine ⟨path, content, hpath, ?_, rfl⟩
  cases hread : client.disk.contents source with
  | ok found =>
    rw [hread] at hcontent
    cases hcontent
    rfl
  | error fault =>
    rw [hread] at hcontent
    cases hcontent

/-- **The payload is what the operation sends**, behind its length. -/
theorem payload_eq_ok {request : Request} {client after : Client} {bytes : Bytes}
    (h : request.payload client = .ok bytes after) :
    ∃ body, request.operation.Sends client.disk body ∧ body.length < UInt64.size ∧
      bytes = Bytes.bigEndian 8 body.length ++ body := by
  obtain ⟨session, operation⟩ := request
  cases operation with
  | authenticate | shell | onDisk =>
    have hempty : ClientM.encoded (bytesOf (Blob.mk EmptyPayload.mk)) client = .ok bytes after := h
    obtain ⟨body, hbody, hfits⟩ := encoded_blob_eq_ok _ hempty
    exact ⟨body, (Written.all_inj.mp hbody).symm, hfits⟩
  | account change => exact encoded_blob_eq_ok (accountPayload change) h
  | ls path | mkdir path | delete path | get path =>
    exact encoded_blob_eq_ok (PathPayload.mk (.ofString path) none) h
  | put source directory =>
    obtain ⟨payload, _, hpayload, hencoded⟩ := Step.bind_eq_ok_iff.mp h
    obtain ⟨path, content, hpath, hcontent, rfl⟩ := uploadPayload_eq_ok hpayload
    obtain ⟨body, hbody, hfits⟩ := encoded_blob_eq_ok _ hencoded
    exact ⟨body, ⟨path, content, hpath, hcontent, hbody⟩, hfits⟩

/-- **A frame is a header and a payload**, and the operation has passed its check. -/
theorem toBytes_eq_ok {request : Request} {client after : Client} {bytes : Bytes}
    (h : request.toBytes client = .ok bytes after) :
    request.operation.check client.disk = .ok () ∧
      ∃ header body, written request.header = .all header ∧
        request.operation.Sends client.disk body ∧ body.length < UInt64.size ∧
        bytes = header ++ (Bytes.bigEndian 8 body.length ++ body) := by
  obtain ⟨_, hcheck, hrest⟩ := ClientM.ask_bind_eq_ok_iff.mp h
  obtain ⟨header, hheader, hbehind⟩ := ClientM.encoded_bind_eq_ok_iff.mp hrest
  obtain ⟨payload, _, hpayload, htold⟩ := Step.bind_eq_ok_iff.mp hbehind
  obtain ⟨body, hsends, hfits, rfl⟩ := payload_eq_ok hpayload
  rw [ClientM.say_bind] at htold
  cases htold
  exact ⟨hcheck, header, body, bytesOf_eq_ok_iff.mp hheader, hsends, hfits, rfl⟩

end Request

/-! ## 2. What is received -/

/-- What a receiver finds in a frame that was made for the operation, the disk being as it was. -/
def Operation.Carries (disk : Disk) (frame : RequestFrame) : Operation → Prop
  | .authenticate | .shell | .onDisk _ _ => frame.payload = []
  | .account change =>
    change.username ≠ "" ∧ frame.header.userFlag = change.action.kind ∧
      frame.accountPayload? = some (.ok
        { action := frame.header.userFlag
          permission := change.permission
          username := .ofString change.username
          password :=
            match change.action with
            | .create => change.password.map fun password => .ofString password.text
            | .delete => none })
  | .ls path | .mkdir path | .delete path | .get path _ =>
    frame.pathPayload = .ok ⟨.ofString path, none⟩
  | .put source directory =>
    ∃ path content digest, Operation.uploadPath source directory = .ok path ∧
      disk.contents source = .ok content ∧ digest.bytes = Sha256.hash content ∧
      frame.pathPayload = .ok ⟨.ofString path, some ⟨digest, content⟩⟩

/-- A payload about a path is read back under an operation code that agrees with it on whether there
    is a file. -/
theorem Request.pathPayload_of_written {request : Request} {payload : PathPayload} {body : Bytes}
    (h : written payload = .all body) (hfile : (request.opcode == .put) = payload.file.isSome) :
    RequestFrame.pathPayload ⟨request.header, body⟩ = .ok payload := by
  have hexpects : RequestFrame.pathPayload ⟨request.header, body⟩ =
      readFrame body (request.opcode == .put) := rfl
  rw [hexpects, hfile]
  exact readFrame_pathPayload h

/-- **What the operation sends is what its receiver finds.** -/
theorem Request.carries_of_sends {request : Request} {disk : Disk} {body : Bytes}
    (hcheck : request.operation.check disk = .ok ()) (h : request.operation.Sends disk body) :
    request.operation.Carries disk ⟨request.header, body⟩ := by
  obtain ⟨session, operation⟩ := request
  cases operation with
  | authenticate | shell | onDisk => exact h
  | ls | mkdir | delete | get => exact pathPayload_of_written h rfl
  | account change =>
    have hname : change.username ≠ "" := by
      intro hempty
      have hrefused : change.username.isEmpty = true := by rw [hempty]; rfl
      rw [Operation.check, Operation.checkAccount, if_pos hrefused] at hcheck
      cases hcheck
    refine ⟨hname, rfl, ?_⟩
    have hread := readFrame_accountPayload h
    have hwrapped : RequestFrame.isAboutAccount ⟨header ⟨session, .account change⟩, body⟩ = true :=
      rfl
    rw [RequestFrame.accountPayload?, if_pos hwrapped, hread]
    obtain ⟨action, permission, username, password⟩ := change
    cases action <;> rfl
  | put source directory =>
    obtain ⟨path, content, hpath, hcontent, hbody⟩ := h
    exact ⟨path, content, Digest.of content, hpath, hcontent, Digest.bytes_of content,
      pathPayload_of_written hbody rfl⟩

namespace Request

/-- **Every frame that is sent is read back**: its header is that of the request, and behind it is
    all that the operation needs. -/
theorem parse_toBytes {request : Request} {client after : Client} {bytes : Bytes}
    (h : request.toBytes client = .ok bytes after) :
    ∃ frame, RequestFrame.parse bytes = .ok frame ∧
      frame.header.opcode = request.opcode ∧ frame.header.userFlag = request.userFlag ∧
      frame.header.session = request.session.id ∧
      frame.header.username.bytes = Utf8.encode request.session.username ∧
      frame.header.password.bytes = Utf8.encode request.session.password.text ∧
      request.operation.Carries client.disk frame := by
  obtain ⟨hcheck, header, body, hheader, hsends, hfits, rfl⟩ := toBytes_eq_ok h
  exact ⟨⟨request.header, body⟩, RequestFrame.parse_append hheader hfits, rfl, rfl, rfl, rfl, rfl,
    carries_of_sends hcheck hsends⟩

/-- An account is created with an empty password, which is not the same as none. -/
theorem parse_toBytes_create :
    ∃ bytes after frame,
      toBytes ⟨⟨"host", 4000, "ann", ⟨"secret"⟩, 5⟩, .account ⟨.create, .admin, "bob", some ⟨""⟩⟩⟩
        ⟨⟨[], [], []⟩, "", []⟩ = .ok bytes after ∧
      RequestFrame.parse bytes = .ok frame ∧ frame.header.username.bytes = Utf8.encode "ann" ∧
      frame.accountPayload? =
        some (.ok ⟨.createUser, .admin, .ofString "bob", some (.ofString "")⟩) := by
  obtain ⟨bytes, after, h⟩ : ∃ bytes after,
      toBytes ⟨⟨"host", 4000, "ann", ⟨"secret"⟩, 5⟩, .account ⟨.create, .admin, "bob", some ⟨""⟩⟩⟩
        ⟨⟨[], [], []⟩, "", []⟩ = .ok bytes after := ⟨_, _, rfl⟩
  obtain ⟨frame, hparse, -, -, -, husername, -, -, hflag, hpayload⟩ := parse_toBytes h
  rw [hflag] at hpayload
  exact ⟨bytes, after, frame, h, hparse, husername, hpayload⟩

end Request

end RemoteFiles
