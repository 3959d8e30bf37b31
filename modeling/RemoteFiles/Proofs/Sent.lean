import RemoteFiles.Proofs.Built
import RemoteFiles.Proofs.Confinement
import RemoteFiles.Proofs.Digest
import RemoteFiles.Proofs.Frame.Layout
import RemoteFiles.Request

/-!
# Exactly what is sent

`Request.spell` says what a request is sent as, from the strings of the request and the disk alone:
the checks in their order, and then one string of bytes, every code in it a number and every number
cut into its bytes. The header that a request has and the encoders of the library are compared with
it, limits included.

* `Operation.codes`, `Operation.layout` -- the two codes in front, and what stands behind the header,
  operation by operation;
* `Request.layout_header` -- the header of a request is the one that is spelled;
* `Request.answers_toBytes` -- a request that has been built is sent as it is spelled, and sending
  it leaves the disk alone;
* `Request.hindered_of_spell` -- there are three failures, and no others;
* `Request.tells_of_spell` -- no length is cut to fit its field;
* `Request.outcome_toBytes` -- the three together.
-/

namespace RemoteFiles

open Wire

/-! ## 1. The reference -/

/-- A number in so many bytes, its digits to the base 256, the highest first. -/
def Bytes.digits (width n : Nat) : Bytes :=
  (List.range width).reverse.map fun place => UInt8.ofNat (n / Nat.pow 256 place)

/-- There is room for strings behind lengths of two bytes each. -/
def roomFor (strings : List Bytes) : Except Error Unit :=
  if Fit strings then .ok () else .error .noRoom

namespace Operation

/-- The code of an operation and its flag. -/
def codes : Operation → Bytes
  | .authenticate | .shell => [7, 0]
  | .ls _ => [3, 0]
  | .mkdir _ => [5, 0]
  | .delete _ => [2, 0]
  | .get _ _ => [4, 0]
  | .put _ _ => [6, 0]
  | .account change =>
    match change.action with
    | .create => [1, 10]
    | .delete => [1, 20]
  | .onDisk .ls _ => [7, 22]
  | .onDisk .delete _ => [7, 23]
  | .onDisk .mkdir _ => [7, 24]

/-- The remote path of an upload: the directory, a slash unless there is one, and the last name of
    the source. -/
def remotePath (source : Path) (directory : String) : Bytes :=
  Utf8.encode directory ++ joint directory ++
    match source.components.getLast? with
    | some (.name name) => name
    | _ => []

/-- What stands behind the header: codes and strings, and in an upload the digest and the bytes of
    the file as it is on the disk. -/
def layout (disk : Disk) : Operation → Except Error Layout
  | .authenticate | .shell | .onDisk _ _ => .ok ⟨[], [], []⟩
  | .account change => .ok
    { codes :=
        [match change.action with
          | .create => 10
          | .delete => 20,
        match change.permission with
          | .read => 1
          | .readWrite => 2
          | .admin => 3]
      strings := Utf8.encode change.username ::
        match change.action with
        | .create => (change.password.map fun password => Utf8.encode password.text).toList
        | .delete => []
      rest := [] }
  | .ls path | .mkdir path | .delete path | .get path _ => .ok ⟨[], [Utf8.encode path], []⟩
  | .put source directory => do
    let content ← (disk.contents source).mapError .disk
    return ⟨[], [remotePath source directory], Sha256.hash content ++ content⟩

end Operation

/-- The bytes of a layout, every string behind its length. -/
def Layout.spelled (layout : Layout) : Bytes :=
  layout.codes ++ layout.strings.flatMap (fun string => Bytes.digits 2 string.length ++ string) ++
    layout.rest

/-- What a request is sent as: first the target of a download must be free, then there must be room
    for the two strings of the header, then the file of an upload is read, and then there must be
    room for the strings of the payload. -/
def Request.spell (request : Request) (disk : Disk) : Except Error Bytes := do
  let username := Utf8.encode request.session.username
  let password := Utf8.encode request.session.password.text
  request.operation.targetFree disk
  roomFor [username, password]
  let layout ← request.operation.layout disk
  roomFor layout.strings
  return request.operation.codes ++ [0, 0] ++ Bytes.digits 2 username.length ++
    Bytes.digits 2 password.length ++ Bytes.digits 4 request.session.id.toNat ++ username ++
    password ++ Bytes.digits 8 layout.spelled.length ++ layout.spelled

/-! ## 2. Strings and their room -/

namespace Bytes

/-- **Numbers are written by their digits.** -/
theorem bigEndian_eq_digits (width n : Nat) : bigEndian width n = digits width n := by
  induction width generalizing n with
  | zero => rfl
  | succ width ih =>
    have hplace (place : Nat) : n / Nat.pow 256 (place + 1) = n / 256 / Nat.pow 256 place := by
      rw [Nat.div_div_eq_div_mul, Nat.mul_comm 256]
      rfl
    have hlast : n / Nat.pow 256 0 = n := Nat.div_one n
    rw [bigEndian, ih, digits, digits, List.range_succ_eq_map, List.reverse_cons, List.map_append,
      ← List.map_reverse, List.map_map]
    simp only [Function.comp_def, Nat.succ_eq_add_one, hplace, List.map_cons, List.map_nil, hlast]

end Bytes

namespace Wire

/-- A header is written if there is room for its strings. -/
theorem bytesOf_header (header : RequestHeader) :
    (bytesOf header).mapError Oversize.toError =
      (roomFor header.strings >>= fun _ => pure (header.layout [0, 0])) := by
  rw [bytesOf_eq, roomFor]
  by_cases hfit : Fit header.strings
  · rw [if_pos hfit, RequestHeader.written_of_fit hfit]
    rfl
  · obtain ⟨oversize, hrefused⟩ := RequestHeader.refused_of_long hfit
    rw [if_neg hfit, hrefused]
    rfl

end Wire

namespace Layout

/-- A layout is written as it is spelled. -/
theorem bytes_eq_spelled (layout : Layout) : layout.bytes = layout.spelled := by
  have hprefixed : Bytes.prefixed = fun string => Bytes.digits 2 string.length ++ string :=
    funext fun string => congrArg (· ++ string) (Bytes.bigEndian_eq_digits 2 string.length)
  rw [bytes, spelled, hprefixed, List.append_assoc]

/-- The bytes behind their length, if there is room for the strings. -/
def framed (layout : Layout) : Except Error Bytes := do
  roomFor layout.strings
  return Bytes.bigEndian 8 layout.bytes.length ++ layout.bytes

/-- A payload of some layout is written behind its length. -/
theorem bytesOf_blob {α : Type} [Writable α] [LawfulWritable α] {content : α} {layout : Layout}
    (hcontent : Wire.written content = layout.written)
    (hlength : Fit layout.strings → layout.bytes.length < UInt64.size) :
    (bytesOf (Blob.mk content)).mapError Oversize.toError = layout.framed := by
  have hblob : Wire.written (Blob.mk content) = writtenBlob content := rfl
  rw [bytesOf_eq, hblob, writtenBlob, hcontent, framed, roomFor]
  by_cases hfit : Fit layout.strings
  · rw [if_pos hfit, written_of_fits hfit, Written.result_all]
    simp only [if_pos (hlength hfit)]
    rfl
  · obtain ⟨oversize, hrefused⟩ := refused_of_long hfit
    rw [if_neg hfit, hrefused]
    rfl

theorem length_flatMap_prefixed {strings : List Bytes} (h : Fit strings) :
    (strings.flatMap Bytes.prefixed).length ≤ strings.length * (2 + maxShortString) := by
  induction strings with
  | nil => exact Nat.zero_le _
  | cons string strings ih =>
    obtain ⟨hstring, hlater⟩ := fit_cons.mp h
    have hbehind := ih hlater
    rw [List.flatMap_cons, List.length_append, List.length_cons, Bytes.prefixed, List.length_append,
      Bytes.length_bigEndian]
    rw [Nat.add_mul]
    omega

/-- A payload of few codes and few short strings is as long as its length can say. -/
theorem length_bytes_lt {layout : Layout} (hcodes : layout.codes.length ≤ 2)
    (hstrings : layout.strings.length ≤ 2) (hrest : layout.rest.length ≤ 32 + Disk.maxFile)
    (h : Fit layout.strings) : layout.bytes.length < UInt64.size := by
  have hprefixed := length_flatMap_prefixed h
  have hfew : layout.strings.length * (2 + maxShortString) ≤ 2 * (2 + maxShortString) :=
    Nat.mul_le_mul_right _ hstrings
  rw [bytes, List.length_append, List.length_append]
  simp only [maxShortString, Disk.maxFile, UInt64.size] at *
  omega

end Layout

/-! ## 3. One operation after the other -/

/-- No file that can be read is longer than the length of an upload can say. -/
theorem Disk.length_le_of_contents {disk : Disk} {path : Path} {content : Bytes}
    (h : disk.contents path = .ok content) : content.length ≤ maxFile := by
  obtain ⟨place, -, hread⟩ := Step.result_bind_eq_ok_iff.mp h
  cases hentry : disk.peek place with
  | none =>
    rw [hentry] at hread
    cases hread
  | some entry =>
    rw [hentry] at hread
    cases entry with
    | directory | link => cases hread
    | file found =>
      by_cases hfits : found.length ≤ maxFile
      · simp only [if_pos hfits] at hread
        cases hread
        exact hfits
      · simp only [if_neg hfits] at hread
        cases hread

namespace Operation

theorem layout_accountPayload (change : AccountChange) (disk : Disk) :
    layout disk (.account change) = .ok (Request.accountPayload change).layout := by
  obtain ⟨action, permission, username, password⟩ := change
  cases action <;> cases permission <;> cases password <;> rfl

/-- A layout is small: what is long is only the file of an upload, and that has been read. -/
theorem length_bytes_layout {operation : Operation} {disk : Disk} {layout : Layout}
    (h : operation.layout disk = .ok layout) (hfit : Fit layout.strings) :
    layout.bytes.length < UInt64.size := by
  cases operation with
  | authenticate | shell | onDisk | ls | mkdir | delete | get =>
    cases h
    exact Layout.length_bytes_lt (by simp) (by simp) (Nat.zero_le _) hfit
  | account change =>
    rw [layout_accountPayload] at h
    cases h
    obtain ⟨action, permission, username, password⟩ := change
    refine Layout.length_bytes_lt (Nat.le_refl _) ?_ (Nat.zero_le _) hfit
    cases action with
    | create => cases password <;> simp [Request.accountPayload, AccountPayload.layout]
    | delete => exact Nat.succ_le_succ (Nat.zero_le 1)
  | put source directory =>
    obtain ⟨content, hcontent, hlayout⟩ := Step.result_bind_eq_ok_iff.mp h
    cases hlayout
    refine Layout.length_bytes_lt (Nat.zero_le _) (by simp) ?_ hfit
    cases hfound : disk.contents source with
    | error fault =>
      rw [hfound] at hcontent
      cases hcontent
    | ok found =>
      rw [hfound] at hcontent
      cases hcontent
      have hlength := Disk.length_le_of_contents hfound
      simp only [List.length_append, Sha256.length_hash]
      omega

/-- A path that an upload is sent under is the remote path of its source. -/
theorem encode_uploadPath {source : Path} {directory path : String}
    (h : uploadPath source directory = .ok path) :
    Utf8.encode path = remotePath source directory := by
  obtain ⟨name, hlast, rfl⟩ := uploadPath_eq_ok_iff.mp h
  rw [encode_remoteJoin, remotePath, Path.fileName?_eq_some_iff.mp hlast]

/-- The source of an upload ends with a name, and the name is text. -/
def sourceNamed : Operation → Except Error Unit
  | .put source directory => (uploadPath source directory).map fun _ => ()
  | _ => .ok ()

end Operation

namespace Request

/-- What is written as the layout of an operation says is sent as it says. -/
theorem bytesOf_payload {α : Type} [Writable α] [LawfulWritable α] (content : α)
    {operation : Operation} {disk : Disk} {layout : Layout}
    (hnamed : operation.sourceNamed = .ok ()) (hlayout : operation.layout disk = .ok layout)
    (hcontent : written content = layout.written) :
    (bytesOf (Blob.mk content)).mapError Oversize.toError =
      (operation.sourceNamed >>= fun _ => operation.layout disk >>= Layout.framed) := by
  rw [hnamed, hlayout,
    Layout.bytesOf_blob hcontent (Operation.length_bytes_layout hlayout)]
  rfl

/-- The payload of an upload is that of the file as it is. -/
theorem answers_uploadPayload (source : Path) (directory : String) :
    ClientM.Answers (uploadPayload source directory) fun disk => do
      let path ← Operation.uploadPath source directory
      let content ← (disk.contents source).mapError .disk
      return ⟨.ofString path, some ⟨Digest.of content, content⟩⟩ := by
  refine (ClientM.answers_require _).bind fun path => ?_
  refine (ClientM.answers_ask _).bind fun content => ?_
  exact (ClientM.answers_say _ _).bind fun _ => ClientM.answers_pure _

/-- What an upload writes is what its layout says, once its path is known and its file read. -/
theorem bytesOf_upload (source : Path) (directory : String) (disk : Disk) :
    (do
      let path ← Operation.uploadPath source directory
      let content ← (disk.contents source).mapError .disk
      (bytesOf (Blob.mk (PathPayload.mk (.ofString path) (some ⟨Digest.of content, content⟩)))
        ).mapError Oversize.toError) =
      ((Operation.put source directory).sourceNamed >>= fun _ =>
        (Operation.put source directory).layout disk >>= Layout.framed) := by
  cases hpath : Operation.uploadPath source directory with
  | error e =>
    rw [Operation.sourceNamed, hpath]
    rfl
  | ok path =>
    have hnamed : (Operation.put source directory).sourceNamed = .ok () := by
      rw [Operation.sourceNamed, hpath]
      rfl
    cases hcontent : disk.contents source with
    | error fault =>
      rw [hnamed, Operation.layout, hcontent]
      rfl
    | ok content =>
      have hlayout : (Operation.put source directory).layout disk =
          .ok ⟨[], [Operation.remotePath source directory], Sha256.hash content ++ content⟩ := by
        rw [Operation.layout, hcontent]
        rfl
      have hwritten : written (PathPayload.mk (.ofString path)
          (some ⟨Digest.of content, content⟩)) = Layout.written
            ⟨[], [Operation.remotePath source directory], Sha256.hash content ++ content⟩ := by
        rw [PathPayload.written_eq_layout, ← Digest.bytes_of, ← Operation.encode_uploadPath hpath]
        rfl
      exact bytesOf_payload _ hnamed hlayout hwritten

/-- **The payload is sent as its layout says**, once an upload has a name. -/
theorem answers_payload (request : Request) :
    ClientM.Answers request.payload fun disk => request.operation.sourceNamed >>= fun _ =>
      request.operation.layout disk >>= Layout.framed := by
  obtain ⟨session, operation⟩ := request
  cases operation with
  | authenticate | shell | onDisk =>
    exact (ClientM.answers_encoded _).congr fun disk => bytesOf_payload EmptyPayload.mk rfl rfl rfl
  | ls path | mkdir path | delete path | get path =>
    exact (ClientM.answers_encoded _).congr fun disk =>
      bytesOf_payload (PathPayload.mk (.ofString path) none) rfl rfl
        (PathPayload.written_eq_layout _)
  | account change =>
    exact (ClientM.answers_encoded _).congr fun disk =>
      bytesOf_payload (accountPayload change) rfl (Operation.layout_accountPayload change disk)
        (AccountPayload.written_eq_layout _)
  | put source directory =>
    have hread := (answers_uploadPayload source directory).bind fun payload =>
      ClientM.answers_encoded (bytesOf (Blob.mk payload))
    refine hread.congr fun disk => ?_
    rw [← bytesOf_upload]
    simp only [bind_assoc, pure_bind]

/-- Sending a request is checking it, writing its header and writing its payload. -/
theorem answers_toBytes_parts (request : Request) :
    ClientM.Answers request.toBytes fun disk => do
      request.operation.check disk
      let header ← (bytesOf request.header).mapError Oversize.toError
      let payload ← request.operation.layout disk >>= Layout.framed
      return header ++ payload := by
  have hparts : ClientM.Answers request.toBytes fun disk => do
      request.operation.check disk
      let header ← (bytesOf request.header).mapError Oversize.toError
      let payload ← request.operation.sourceNamed >>= fun _ =>
        request.operation.layout disk >>= Layout.framed
      return header ++ payload := by
    refine (ClientM.answers_ask _).bind fun _ => ?_
    refine (ClientM.answers_encoded _).bind fun header => ?_
    refine request.answers_payload.bind fun payload => ?_
    exact (ClientM.answers_say _ _).bind fun _ => ClientM.answers_pure _
  refine hparts.congr fun disk => ?_
  -- the name of an upload is looked for a second time, so it is found
  cases hoperation : request.operation with
  | authenticate | shell | ls | mkdir | delete | get | account | onDisk => rfl
  | put source directory =>
    rw [Operation.check, Operation.sourceNamed]
    cases Operation.uploadPath source directory with
    | error e => rfl
    | ok path => rfl

/-- **The header of a request is the one that is spelled.** -/
theorem layout_header (request : Request) :
    request.header.layout [0, 0] = request.operation.codes ++ [0, 0] ++
      Bytes.digits 2 (Utf8.encode request.session.username).length ++
      Bytes.digits 2 (Utf8.encode request.session.password.text).length ++
      Bytes.digits 4 request.session.id.toNat ++ Utf8.encode request.session.username ++
      Utf8.encode request.session.password.text := by
  have hcodes : [request.header.opcode.code, request.header.userFlag.code] =
      request.operation.codes := by
    obtain ⟨session, operation⟩ := request
    cases operation with
    | authenticate | shell | ls | mkdir | delete | get | put => rfl
    | account change =>
      obtain ⟨action, permission, username, password⟩ := change
      cases action <;> rfl
    | onDisk action path => cases action <;> rfl
  rw [RequestHeader.layout, hcodes]
  simp only [Bytes.bigEndian_eq_digits, List.append_assoc]
  rfl

/-- **A request that has been built is sent as it is spelled**, and sending it leaves the disk
    alone. -/
theorem answers_toBytes {request : Request} (h : request.Built) :
    ClientM.Answers request.toBytes request.spell := by
  refine request.answers_toBytes_parts.congr fun disk => ?_
  rw [Operation.check_of_sound h.sound, bytesOf_header, spell]
  simp only [Layout.framed, bind_assoc, pure_bind, layout_header, Layout.bytes_eq_spelled,
    Bytes.bigEndian_eq_digits, List.append_assoc]
  rfl

/-! ## 4. Failures, and lengths -/

theorem roomFor_eq_ok_iff {strings : List Bytes} : roomFor strings = .ok () ↔ Fit strings := by
  rw [roomFor]
  by_cases hfit : Fit strings
  · rw [if_pos hfit]
    exact ⟨fun _ => hfit, fun _ => rfl⟩
  · rw [if_neg hfit]
    constructor
    · intro h
      cases h
    · intro h
      exact absurd h hfit

theorem error_of_roomFor {strings : List Bytes} {error : Error}
    (h : roomFor strings = .error error) : error = .noRoom := by
  rw [roomFor] at h
  by_cases hfit : Fit strings
  · rw [if_pos hfit] at h
    cases h
  · rw [if_neg hfit] at h
    cases h
    rfl

/-- Why a request is not sent: the target of a download is there, a string is too long, or the file
    of an upload cannot be read. -/
inductive Hindered (disk : Disk) : Operation → Error → Prop
  | fileExists {path : String} {target : Path} (h : disk.reaches target = true) :
    Hindered disk (.get path target) (.fileExists target)
  | noRoom {operation : Operation} : Hindered disk operation .noRoom
  | unreadable {source : Path} {directory : String} {fault : Disk.Fault}
    (h : disk.contents source = .error fault) :
    Hindered disk (.put source directory) (.disk fault)

theorem hindered_of_targetFree {operation : Operation} {disk : Disk} {error : Error}
    (h : operation.targetFree disk = .error error) : Hindered disk operation error := by
  cases operation with
  | authenticate | shell | ls | mkdir | delete | put | account | onDisk => cases h
  | get path target =>
    rw [Operation.targetFree] at h
    by_cases hreaches : disk.reaches target = true
    · rw [if_pos hreaches] at h
      cases h
      exact .fileExists hreaches
    · rw [if_neg hreaches] at h
      cases h

theorem hindered_of_layout {operation : Operation} {disk : Disk} {error : Error}
    (h : operation.layout disk = .error error) : Hindered disk operation error := by
  cases operation with
  | authenticate | shell | ls | mkdir | delete | get | account | onDisk => cases h
  | put source directory =>
    rw [Operation.layout] at h
    cases hcontent : disk.contents source with
    | ok content =>
      rw [hcontent] at h
      cases h
    | error fault =>
      rw [hcontent] at h
      cases h
      exact .unreadable hcontent

/-- **There are no failures but these three.** -/
theorem hindered_of_spell {request : Request} {disk : Disk} {error : Error}
    (h : request.spell disk = .error error) : Hindered disk request.operation error := by
  rcases Step.result_bind_eq_error_iff.mp h with htarget | ⟨_, -, hheader⟩
  · exact hindered_of_targetFree htarget
  rcases Step.result_bind_eq_error_iff.mp hheader with hroom | ⟨_, -, hpayload⟩
  · rw [error_of_roomFor hroom]
    exact .noRoom
  rcases Step.result_bind_eq_error_iff.mp hpayload with hlayout | ⟨layout, -, hbytes⟩
  · exact hindered_of_layout hlayout
  rcases Step.result_bind_eq_error_iff.mp hbytes with hroom | ⟨_, -, hreturn⟩
  · rw [error_of_roomFor hroom]
    exact .noRoom
  · cases hreturn

/-- A length is whole in a field of so many bytes: it has no digit that the field does not show. -/
def Tells (width length : Nat) : Prop := length < Nat.pow 256 width

theorem tells_of_fit {strings : List Bytes} (h : Fit strings) :
    ∀ string ∈ strings, Tells 2 string.length :=
  fun string hmem => Nat.lt_succ_of_le (h string hmem)

/-- **No length is cut to fit its field.** -/
theorem tells_of_spell {request : Request} {disk : Disk} {layout : Layout} {bytes : Bytes}
    (hlayout : request.operation.layout disk = .ok layout)
    (h : request.spell disk = .ok bytes) :
    (∀ string ∈ [Utf8.encode request.session.username,
        Utf8.encode request.session.password.text] ++ layout.strings, Tells 2 string.length) ∧
      Tells 8 layout.spelled.length := by
  obtain ⟨_, -, hheader⟩ := Step.result_bind_eq_ok_iff.mp h
  obtain ⟨_, hstrings, hpayload⟩ := Step.result_bind_eq_ok_iff.mp hheader
  obtain ⟨found, hfound, hbytes⟩ := Step.result_bind_eq_ok_iff.mp hpayload
  obtain ⟨_, hroom, -⟩ := Step.result_bind_eq_ok_iff.mp hbytes
  rw [hlayout] at hfound
  cases hfound
  have hfit := roomFor_eq_ok_iff.mp hroom
  refine ⟨fun string hmem => ?_, ?_⟩
  · rcases List.mem_append.mp hmem with hmem | hmem
    · exact tells_of_fit (roomFor_eq_ok_iff.mp hstrings) string hmem
    · exact tells_of_fit hfit string hmem
  · rw [← Layout.bytes_eq_spelled]
    exact Operation.length_bytes_layout hlayout hfit

/-- **Exactly what is sent.** The outcome is the one that is spelled, checks first; the only
    failures are an existing target, a string that is too long and a file that cannot be read; and in
    what is sent every length is whole. -/
theorem outcome_toBytes {request : Request} (h : request.Built) (client : Client) :
    Step.outcome (request.toBytes client) = request.spell client.disk ∧
      (∀ error, request.spell client.disk = .error error →
        Hindered client.disk request.operation error) ∧
      ∀ layout bytes, request.operation.layout client.disk = .ok layout →
        request.spell client.disk = .ok bytes →
          (∀ string ∈ [Utf8.encode request.session.username,
              Utf8.encode request.session.password.text] ++ layout.strings,
            Tells 2 string.length) ∧
            Tells 8 layout.spelled.length := by
  obtain ⟨houtcome, -⟩ := answers_toBytes h client
  refine ⟨houtcome, ?_, ?_⟩
  · intro error hspell
    exact hindered_of_spell hspell
  · intro layout bytes hlayout hspell
    exact tells_of_spell hlayout hspell

/-- An account is created, with a password of one letter. -/
theorem outcome_toBytes_create :
    Step.outcome (toBytes ⟨⟨"host", 4000, "ann", ⟨"pw"⟩, 5⟩,
        .account ⟨.create, .admin, "bob", some ⟨"x"⟩⟩⟩ ⟨⟨[], [], []⟩, "", []⟩) =
      .ok [1, 10, 0, 0, 0, 3, 0, 2, 0, 0, 0, 5, 97, 110, 110, 112, 119, 0, 0, 0, 0, 0, 0, 0, 10,
        10, 3, 0, 3, 98, 111, 98, 0, 1, 120] ∧ Tells 8 10 := by
  have hrequest : Session.request ⟨"host", 4000, "ann", ⟨"pw"⟩, 5⟩
      (.account ⟨.create, .admin, "bob", some ⟨"x"⟩⟩) ⟨⟨[], [], []⟩, "", []⟩ =
        .ok ⟨⟨"host", 4000, "ann", ⟨"pw"⟩, 5⟩,
          .account ⟨.create, .admin, "bob", some ⟨"x"⟩⟩⟩ ⟨⟨[], [], []⟩, "", []⟩ := rfl
  obtain ⟨houtcome, -, htells⟩ := outcome_toBytes (.request hrequest) ⟨⟨[], [], []⟩, "", []⟩
  obtain ⟨-, hlength⟩ := htells _ _ rfl rfl
  exact ⟨houtcome, hlength⟩

end Request

end RemoteFiles
