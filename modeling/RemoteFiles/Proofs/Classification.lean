import RemoteFiles.Proofs.Delimiting
import RemoteFiles.Proofs.Download
import RemoteFiles.Proofs.Routes
import RemoteFiles.Proofs.Sent

/-!
# Whose fault an error is

`Error.isProtocol` tells the errors that the data of the other side is to blame for. Readings of such
data (`Reading`) fail with no others. What is done with local data alone (`LocalCall`) should fail
with none of them, and does so but for one: an upload of a file whose name is not text, which is
refused by the error for bytes of the other side that are not text.

* `isProtocol_of_reading` -- the readings, by the ways in which bytes are malformed;
* `blamesData_bind_iff` -- a computation blames the data if one of its parts does; the calls are taken
  apart by it;
* `isProtocol_exact_iff` -- the classes of all readings and all calls.
-/

namespace RemoteFiles

/-! ## 1. What is read from the other side -/

/-- The ways to read what the other side has sent. -/
inductive Reading where
  /-- The response to a request. -/
  | response (asked : Request) (frame : Bytes)
  /-- The length of the frame that starts with a header. -/
  | length (header : Bytes)
  | request (input : Bytes)
  /-- The payload of a request about a path. -/
  | path (frame : RequestFrame)

/-- The reading fails with this error. -/
def Reading.FailsWith (client : Client) (error : Error) : Reading → Prop
  | response asked frame => Step.outcome (Response.parse asked frame client) = .error error
  | length header => (expectedLength header).mapError Rejection.toError = .error error
  | request input => (RequestFrame.parse input).mapError Wire.Malformed.toError = .error error
  | path frame => Step.outcome (frame.readPathPayload client) = .error error

/-- **Malformed data is to blame**, in whichever way it is malformed. -/
theorem Wire.Malformed.isProtocol_toError (malformed : Wire.Malformed) :
    malformed.toError.isProtocol = true := by
  cases malformed <;> rfl

theorem Rejection.isProtocol_toError (rejection : Rejection) :
    rejection.toError.isProtocol = true := by
  cases rejection with
  | malformed cause => exact cause.isProtocol_toError
  | oversized | short | overlong => rfl

/-- Whatever is wrong with a result, if it is told by an error of a class, it is of that class. -/
theorem isProtocol_of_mapError {ε α : Type} {f : ε → Error} (hf : ∀ e, (f e).isProtocol = true)
    {result : Except ε α} {error : Error} (h : result.mapError f = .error error) :
    error.isProtocol = true := by
  cases result with
  | ok a => cases h
  | error e =>
    cases h
    exact hf e

/-- **Readings fail with protocol errors only.** -/
theorem isProtocol_of_reading {reading : Reading} {client : Client} {error : Error}
    (h : reading.FailsWith client error) : error.isProtocol = true := by
  cases reading with
  | response asked frame =>
    cases hread : Response.read asked frame with
    | ok response =>
      rw [Reading.FailsWith, Response.parse_of_read_ok hread] at h
      cases h
    | error rejection =>
      rw [Reading.FailsWith, Response.parse_of_read_error hread] at h
      cases h
      exact rejection.isProtocol_toError
  | length header => exact isProtocol_of_mapError Rejection.isProtocol_toError h
  | request input => exact isProtocol_of_mapError Wire.Malformed.isProtocol_toError h
  | path frame =>
    rw [Reading.FailsWith, RequestFrame.readPathPayload] at h
    cases hpayload : frame.pathPayload with
    | ok payload =>
      rw [hpayload] at h
      cases h
    | error malformed =>
      rw [hpayload] at h
      cases h
      exact malformed.isProtocol_toError

/-! ## 2. Results that blame the data -/

/-- The result is an error that blames the data of the other side. -/
def BlamesData {α : Type} (result : Except Error α) : Prop :=
  ∃ error, result = .error error ∧ error.isProtocol = true

section Results

variable {α β : Type}

theorem not_blamesData_ok (a : α) : ¬ BlamesData (.ok a : Except Error α) := by
  rintro ⟨error, h, -⟩
  cases h

theorem blamesData_error_iff {error : Error} :
    BlamesData (.error error : Except Error α) ↔ error.isProtocol = true := by
  constructor
  · rintro ⟨found, h, hprotocol⟩
    cases h
    exact hprotocol
  · exact fun h => ⟨error, rfl, h⟩

theorem not_blamesData_error {error : Error} (h : error.isProtocol = false) :
    ¬ BlamesData (.error error : Except Error α) := by
  rw [blamesData_error_iff, h]
  exact Bool.false_ne_true

/-- **A computation blames the data if one of its parts does.** -/
theorem blamesData_bind_iff {x : Except Error α} {f : α → Except Error β} :
    BlamesData (x >>= f) ↔ BlamesData x ∨ ∃ a, x = .ok a ∧ BlamesData (f a) := by
  constructor
  · rintro ⟨error, h, hprotocol⟩
    rcases Step.result_bind_eq_error_iff.mp h with hfirst | ⟨a, ha, hsecond⟩
    · exact .inl ⟨error, hfirst, hprotocol⟩
    · exact .inr ⟨a, ha, error, hsecond, hprotocol⟩
  · rintro (⟨error, hfirst, hprotocol⟩ | ⟨a, ha, error, hsecond, hprotocol⟩)
    · exact ⟨error, Step.result_bind_eq_error_iff.mpr (.inl hfirst), hprotocol⟩
    · exact ⟨error, Step.result_bind_eq_error_iff.mpr (.inr ⟨a, ha, hsecond⟩), hprotocol⟩

theorem blamesData_map_iff {x : Except Error α} {f : α → β} :
    BlamesData (x.map f) ↔ BlamesData x := by
  cases x with
  | ok a => exact iff_of_false (not_blamesData_ok _) (not_blamesData_ok _)
  | error error => exact blamesData_error_iff.trans blamesData_error_iff.symm

/-- What is told by an error of the other class does not blame the data. -/
theorem not_blamesData_mapError {ε : Type} {f : ε → Error} (hf : ∀ e, (f e).isProtocol = false)
    (result : Except ε α) : ¬ BlamesData (result.mapError f) := by
  cases result with
  | ok a => exact not_blamesData_ok a
  | error e => exact not_blamesData_error (hf e)

end Results

/-! ## 3. Operations -/

/-- The last name of the path is not text. -/
def Path.HasRawName (path : Path) : Prop :=
  ∃ name, path.fileName? = some name ∧ ¬ ByteArray.IsValidUTF8 name.toByteArray

/-- The fields name a local file and a remote directory for an upload. -/
def Fields.ForUpload (fields : Fields) (source : Path) : Prop :=
  fields.source = some source ∧ ∃ directory, fields.destination = some directory

namespace Operation

/-- The operation is the upload of a local file. -/
def Uploads (operation : Operation) (source : Path) : Prop :=
  ∃ directory, operation = .put source directory

variable {disk : Disk}

/-- **The one local error that blames the data**: the name of an upload is not text. -/
theorem blamesData_uploadPath_iff {source : Path} {directory : String} :
    BlamesData (uploadPath source directory) ↔ source.HasRawName := by
  unfold uploadPath Path.HasRawName
  cases hname : source.fileName? with
  | none => exact iff_of_false (not_blamesData_error rfl) nofun
  | some name =>
    simp only [Option.some.injEq, exists_eq_left', ← Utf8.decode?_isSome_iff]
    cases htext : Utf8.decode? name with
    | none => exact ⟨fun _ => by decide, fun _ => blamesData_error_iff.mpr rfl⟩
    | some text => exact ⟨fun h => absurd h (not_blamesData_ok _), fun h => absurd rfl h⟩

theorem blamesData_ofUpload_iff {source : Path} {directory : String} :
    BlamesData (ofUpload source directory) ↔ source.HasRawName := by
  rw [ofUpload, blamesData_bind_iff, blamesData_uploadPath_iff]
  refine or_iff_left ?_
  rintro ⟨path, -, h⟩
  exact not_blamesData_ok _ h

theorem not_blamesData_checkTarget (target : Path) : ¬ BlamesData (checkTarget disk target) := by
  unfold checkTarget
  split
  · exact not_blamesData_error rfl
  · exact not_blamesData_ok ()

theorem not_blamesData_checkAccount (change : AccountChange) :
    ¬ BlamesData (checkAccount change) := by
  unfold checkAccount
  split
  · exact not_blamesData_error rfl
  · exact not_blamesData_ok ()

theorem not_blamesData_ofDownload (path : String) (directory : Path) :
    ¬ BlamesData (ofDownload disk path directory) := by
  cases hallowed : disk.isDirectory directory with
  | false =>
    rw [ofDownload_of_not_directory hallowed]
    exact not_blamesData_error rfl
  | true =>
    rw [ofDownload_of_directory hallowed]
    split
    · exact not_blamesData_error rfl
    · split
      · exact not_blamesData_error rfl
      · exact not_blamesData_ok _

theorem not_blamesData_ofAccount (action : AccountAction) (username : String)
    (permission : Permission) (password : Option Secret) :
    ¬ BlamesData (ofAccount action username permission password) := by
  intro h
  unfold ofAccount at h
  obtain hchecked | ⟨_, -, hmade⟩ := blamesData_bind_iff.mp h
  · exact not_blamesData_checkAccount _ hchecked
  · exact not_blamesData_ok _ hmade

/-- Checking an operation again blames the data no more than building it did. -/
theorem blamesData_check_iff {operation : Operation} :
    BlamesData (operation.check disk) ↔
      ∃ source, operation.Uploads source ∧ source.HasRawName := by
  cases operation with
  | authenticate | shell | ls | mkdir | delete | onDisk =>
    exact iff_of_false (not_blamesData_ok ()) nofun
  | get path target => exact iff_of_false (not_blamesData_checkTarget target) nofun
  | account change => exact iff_of_false (not_blamesData_checkAccount change) nofun
  | put source directory =>
    rw [check, blamesData_bind_iff, blamesData_uploadPath_iff]
    constructor
    · rintro (h | ⟨_, -, h⟩)
      · exact ⟨source, ⟨directory, rfl⟩, h⟩
      · exact absurd h (not_blamesData_ok ())
    · rintro ⟨_, ⟨_, ⟨⟩⟩, h⟩
      exact .inl h

theorem not_blamesData_field {α : Type} (value : Option α) : ¬ BlamesData (field value) := by
  cases value with
  | none => exact not_blamesData_error rfl
  | some a => exact not_blamesData_ok a

theorem not_blamesData_dependency (rule : Dependency) (kind : ActionKind) (fields : Fields) :
    ¬ BlamesData (rule.check kind fields) := by
  unfold Dependency.check
  split
  · exact not_blamesData_error rfl
  · exact not_blamesData_ok ()

theorem field_eq_ok_iff {α : Type} {value : Option α} {a : α} :
    field value = .ok a ↔ value = some a := by
  cases value with
  | none => exact ⟨nofun, nofun⟩
  | some b => rw [field, Except.ok.injEq, Option.some.injEq]

/-- Resolving an action blames the data only if the action is an upload. -/
theorem blamesData_resolve_iff {action : Action} {username : Option String}
    {password : Option Secret} {fields : Fields} :
    BlamesData (resolve disk action username password fields) ↔
      action = .put ∧ ∃ source, fields.ForUpload source ∧ source.HasRawName := by
  constructor
  · intro h
    unfold resolve at h
    obtain hchecked | ⟨_, -, hmade⟩ := blamesData_bind_iff.mp h
    · exact absurd hchecked (not_blamesData_dependency _ _ _)
    cases action with
    | authenticate | shell => exact absurd hmade (not_blamesData_ok _)
    | ls | mkdir | delete | onDisk =>
      obtain hfield | ⟨path, -, hpath⟩ := blamesData_bind_iff.mp hmade
      · exact absurd hfield (not_blamesData_field _)
      · exact absurd hpath (not_blamesData_ok _)
    | get =>
      obtain hfield | ⟨path, -, hpath⟩ := blamesData_bind_iff.mp hmade
      · exact absurd hfield (not_blamesData_field _)
      obtain hfield | ⟨directory, -, hdownload⟩ := blamesData_bind_iff.mp hpath
      · exact absurd hfield (not_blamesData_field _)
      · exact absurd hdownload (not_blamesData_ofDownload path directory)
    | put =>
      obtain hfield | ⟨source, hsource, hrest⟩ := blamesData_bind_iff.mp hmade
      · exact absurd hfield (not_blamesData_field _)
      obtain hfield | ⟨directory, hdirectory, hupload⟩ := blamesData_bind_iff.mp hrest
      · exact absurd hfield (not_blamesData_field _)
      · exact ⟨rfl, source, ⟨field_eq_ok_iff.mp hsource, directory, field_eq_ok_iff.mp hdirectory⟩,
          blamesData_ofUpload_iff.mp hupload⟩
    | account change => exact absurd hmade (not_blamesData_ofAccount _ _ _ _)
  · rintro ⟨rfl, source, ⟨hsource, directory, hdirectory⟩, hraw⟩
    rw [resolve_put hsource hdirectory]
    exact blamesData_ofUpload_iff.mpr hraw

theorem not_blamesData_layout (operation : Operation) : ¬ BlamesData (operation.layout disk) := by
  cases operation with
  | authenticate | shell | ls | mkdir | delete | get | account | onDisk =>
    exact not_blamesData_ok _
  | put source directory =>
    intro h
    obtain hread | ⟨_, -, hmade⟩ := blamesData_bind_iff.mp h
    · exact not_blamesData_mapError (fun _ => rfl) _ hread
    · exact not_blamesData_ok _ hmade

end Operation

/-! ## 4. Requests and responses -/

namespace Request

variable {client : Client}

/-- A command line blames the data only if it asks for an upload. -/
theorem blamesData_ofParams_iff {params : Params} :
    BlamesData (Step.outcome (ofParams params client)) ↔
      params.flags.Selects .put ∧ ∃ source, params.fields.ForUpload source ∧
        source.HasRawName := by
  constructor
  · rintro ⟨error, herror, hprotocol⟩
    cases outcome_eq_iff_judged.mp herror with
    | notText source directory name hkind hsource hdirectory hname hbroken =>
      refine ⟨hkind, source, ⟨hsource, directory, hdirectory⟩, name, hname, ?_⟩
      rw [← Utf8.decode?_isSome_iff, hbroken]
      exact Bool.false_ne_true
    | several | unset | lacking | noDirectory | noRemoteName | occupied | noLocalName =>
      cases hprotocol
  · rintro ⟨hkind, source, ⟨hsource, directory, hdirectory⟩, hraw⟩
    rw [ofParams_put hkind hsource hdirectory, blamesData_map_iff]
    exact Operation.blamesData_ofUpload_iff.mpr hraw

theorem not_blamesData_roomFor (strings : List Bytes) : ¬ BlamesData (roomFor strings) := by
  rintro ⟨error, h, hprotocol⟩
  rw [error_of_roomFor h] at hprotocol
  cases hprotocol

/-- Sending a request blames the data no more than checking it does. -/
theorem blamesData_toBytes_iff {request : Request} :
    BlamesData (Step.outcome (request.toBytes client)) ↔
      ∃ source, request.operation.Uploads source ∧ source.HasRawName := by
  rw [(request.answers_toBytes_parts client).1, blamesData_bind_iff,
    Operation.blamesData_check_iff]
  refine or_iff_left_of_imp ?_
  rintro ⟨_, -, hsent⟩
  obtain hheader | ⟨_, -, hrest⟩ := blamesData_bind_iff.mp hsent
  · exact absurd hheader (not_blamesData_mapError (fun _ => rfl) _)
  obtain hpayload | ⟨_, -, hmade⟩ := blamesData_bind_iff.mp hrest
  · obtain hlayout | ⟨layout, -, hframed⟩ := blamesData_bind_iff.mp hpayload
    · exact absurd hlayout (Operation.not_blamesData_layout _)
    obtain hroom | ⟨_, -, hmade⟩ := blamesData_bind_iff.mp hframed
    · exact absurd hroom (not_blamesData_roomFor _)
    · exact absurd hmade (not_blamesData_ok _)
  · exact absurd hmade (not_blamesData_ok _)

end Request

/-- What cannot be saved is not the fault of what was sent. -/
theorem Response.not_blamesData_save (response : Response) (client : Client) :
    ¬ BlamesData (Step.outcome (response.save client)) := by
  cases htarget : response.request.target? with
  | none =>
    rw [save_of_no_target htarget]
    exact not_blamesData_error rfl
  | some target =>
    cases hfile : response.file? with
    | none =>
      rw [save_of_no_file htarget hfile]
      exact not_blamesData_ok _
    | some content =>
      by_cases hvalid : response.validHash = true
      · rw [save_of_match htarget hfile hvalid]
        cases Disk.createWith writeSize target content client.disk with
        | ok _ disk => exact not_blamesData_ok _
        | error fault disk => exact not_blamesData_error rfl
      · rw [save_of_mismatch htarget hfile hvalid]
        exact not_blamesData_ok _

/-! ## 5. What is done here -/

/-- The calls that read nothing the other side has sent: those that build an operation or a request,
    and those that send a request and save a download. -/
inductive LocalCall where
  | ofParams (params : Request.Params)
  | resolve (action : Action) (username : Option String) (password : Option Secret)
    (fields : Fields)
  | ofDownload (path : String) (directory : Path)
  | ofUpload (source : Path) (directory : String)
  | ofAccount (action : AccountAction) (username : String) (permission : Permission)
    (password : Option Secret)
  | request (session : Session) (operation : Operation)
  | get (session : Session) (path : String) (directory : Path)
  | put (session : Session) (source : Path) (directory : String)
  | toBytes (sent : Request)
  | save (response : Response)

namespace LocalCall

/-- The call fails with this error. -/
def FailsWith (client : Client) (error : Error) : LocalCall → Prop
  | ofParams params => Step.outcome (Request.ofParams params client) = .error error
  | resolve action username password fields =>
    Operation.resolve client.disk action username password fields = .error error
  | ofDownload path directory => Operation.ofDownload client.disk path directory = .error error
  | ofUpload source directory => Operation.ofUpload source directory = .error error
  | ofAccount action username permission password =>
    Operation.ofAccount action username permission password = .error error
  | request session operation => Step.outcome (session.request operation client) = .error error
  | get session path directory => Step.outcome (session.get path directory client) = .error error
  | put session source directory =>
    Step.outcome (session.put source directory client) = .error error
  | toBytes sent => Step.outcome (sent.toBytes client) = .error error
  | save response => Step.outcome (response.save client) = .error error

/-- The call is about the upload of a local file, and has all it takes to look at its name. -/
def Uploads (source : Path) : LocalCall → Prop
  | ofParams params => params.flags.Selects .put ∧ params.fields.ForUpload source
  | resolve action _ _ fields => action = .put ∧ fields.ForUpload source
  | request _ operation => operation.Uploads source
  | toBytes sent => sent.operation.Uploads source
  | ofUpload path _ | put _ path _ => path = source
  | ofDownload _ _ | ofAccount _ _ _ _ | get _ _ _ | save _ => False

/-- **A call blames the data exactly if it is about an upload whose name is not text.** -/
theorem blamesData_iff (call : LocalCall) (client : Client) :
    (∃ error, call.FailsWith client error ∧ error.isProtocol = true) ↔
      ∃ source, call.Uploads source ∧ source.HasRawName := by
  cases call with
  | ofParams params =>
    refine Request.blamesData_ofParams_iff.trans ?_
    simp only [Uploads, and_assoc, exists_and_left]
  | resolve action username password fields =>
    refine Operation.blamesData_resolve_iff.trans ?_
    simp only [Uploads, and_assoc, exists_and_left]
  | ofUpload path directory =>
    refine Operation.blamesData_ofUpload_iff.trans ?_
    simp only [Uploads, exists_eq_left']
  | put session path directory =>
    have hanswer := (session.answers_put path directory client).1
    show BlamesData (Step.outcome (session.put path directory client)) ↔ _
    rw [hanswer, blamesData_map_iff, Operation.blamesData_ofUpload_iff]
    simp only [Uploads, exists_eq_left']
  | request session operation =>
    have hanswer := (session.answers_request operation client).1
    show BlamesData (Step.outcome (session.request operation client)) ↔ _
    rw [hanswer, blamesData_map_iff]
    exact Operation.blamesData_check_iff
  | toBytes sent => exact Request.blamesData_toBytes_iff
  | ofDownload path directory =>
    exact iff_of_false (Operation.not_blamesData_ofDownload path directory) nofun
  | ofAccount action username permission password =>
    exact iff_of_false (Operation.not_blamesData_ofAccount _ _ _ _) nofun
  | get session path directory =>
    refine iff_of_false ?_ nofun
    have hanswer := (session.answers_get path directory client).1
    show ¬ BlamesData (Step.outcome (session.get path directory client))
    rw [hanswer, blamesData_map_iff]
    exact Operation.not_blamesData_ofDownload path directory
  | save response => exact iff_of_false (response.not_blamesData_save client) nofun

end LocalCall

/-- **The classes of errors.** Whatever is read from the other side, an error says that its data is
    to blame. Whatever is done here, an error says so exactly if the last name of a file to be
    uploaded is not text. -/
theorem isProtocol_exact_iff (client : Client) (reading : Reading) (call : LocalCall) :
    (∀ error, reading.FailsWith client error → error.isProtocol = true) ∧
      ((∃ error, call.FailsWith client error ∧ error.isProtocol = true) ↔
        ∃ source, call.Uploads source ∧ source.HasRawName) :=
  ⟨fun _ h => isProtocol_of_reading h, call.blamesData_iff client⟩

/-- A request of no bytes blames the data, and the upload of a file with a proper name does not. -/
theorem isProtocol_exact_iff_no_bytes :
    Error.ranOut.isProtocol = true ∧
      ¬ ∃ error, (LocalCall.ofUpload ⟨[0x61]⟩ "up").FailsWith ⟨⟨[], [], []⟩, "", []⟩ error ∧
        error.isProtocol = true := by
  obtain ⟨hreading, hcall⟩ := isProtocol_exact_iff ⟨⟨[], [], []⟩, "", []⟩ (.request [])
    (.ofUpload ⟨[0x61]⟩ "up")
  refine ⟨hreading .ranOut rfl, ?_⟩
  rw [hcall]
  rintro ⟨source, hsource, name, hname, hraw⟩
  cases hsource
  cases hname
  exact hraw (Utf8.decode?_isSome_iff.mp (by decide +kernel))

/-- The name of this file is one byte that is no text, and no data has come from anywhere. -/
theorem isProtocol_of_raw_name :
    (LocalCall.ofUpload ⟨[0xFF]⟩ "up").FailsWith ⟨⟨[], [], []⟩, "", []⟩ .badString ∧
      Error.badString.isProtocol = true := by
  refine ⟨?_, rfl⟩
  have hname : Path.fileName? ⟨[0xFF]⟩ = some [0xFF] := by decide +kernel
  have htext : Utf8.decode? [0xFF] = none := by decide +kernel
  rw [LocalCall.FailsWith, Operation.ofUpload_eq, hname]
  simp only [htext]

end RemoteFiles
