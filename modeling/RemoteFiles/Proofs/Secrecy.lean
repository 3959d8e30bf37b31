import RemoteFiles.Proofs.Dump
import RemoteFiles.Proofs.Shell.Steps

/-!
# The password of a login stays out of the log

Two sessions are alike if only their passwords tell them apart, and these have the same length. Two
runs under such sessions are set beside each other, step by step (`Step.Parallel`): they leave the
same client behind them, with the same disk, console and log, be they successful or not.

* `Request.Alike.parallel_toBytes` -- the frames differ in the password, which is masked;
* `Response.parallel_parse`, `Response.parallel_present` -- answers are read and shown the same;
* `Shell.parallel_report`, `Shell.parallel_runLines` -- so are the lines of a shell, one at a time
  and then in a row;
* `Session.indistinct_of_alike` -- all of it in one statement.
-/

namespace RemoteFiles

open Step Wire

/-- Only the password tells the sessions apart, and its length does not. -/
structure Session.Alike (first second : Session) : Prop where
  host : first.host = second.host
  port : first.port = second.port
  username : first.username = second.username
  id : first.id = second.id
  length : (Utf8.encode first.password.text).length = (Utf8.encode second.password.text).length

/-- The same operation under sessions that are alike. -/
structure Request.Alike (first second : Request) : Prop where
  session : first.session.Alike second.session
  operation : first.operation = second.operation

/-- The same answer to requests that are alike. -/
structure Response.Alike (first second : Response) : Prop where
  request : first.request.Alike second.request
  header : first.header = second.header
  message : first.message = second.message
  digest : first.digest = second.digest
  payload : first.payload = second.payload

/-! ## 1. Building -/

namespace Session.Alike

variable {first second : Session}

theorem inspect_eq (h : first.Alike second) : inspect first = inspect second := by
  show Inspect.openRecord _ _ = Inspect.openRecord _ _
  rw [h.host, h.port, h.username, h.id]

theorem build (h : first.Alike second) (operation : Operation) :
    (first.build operation).Alike (second.build operation) := ⟨h, rfl⟩

theorem parallel_request (h : first.Alike second) (operation : Operation) :
    Parallel Request.Alike Eq (first.request operation) (second.request operation) :=
  parallel_after _ fun _ => parallel_pure (h.build operation)

theorem parallel_get (h : first.Alike second) (path : String) (directory : Path) :
    Parallel Request.Alike Eq (first.get path directory) (second.get path directory) :=
  parallel_after _ h.parallel_request

theorem parallel_put (h : first.Alike second) (source : Path) (directory : String) :
    Parallel Request.Alike Eq (first.put source directory) (second.put source directory) :=
  parallel_after _ h.parallel_request

theorem parallel_ofParams (h : first.Alike second) (flags : Flags) (fields : Fields)
    (newPassword : Option Secret) :
    Parallel Request.Alike Eq (Request.ofParams ⟨first, flags, fields, newPassword⟩)
      (Request.ofParams ⟨second, flags, fields, newPassword⟩) :=
  parallel_after _ fun _ => parallel_after _ fun _ => parallel_after _ fun operation =>
    parallel_pure (h.build operation)

theorem parallel_update (h : first.Alike second) (id : UInt32) :
    Parallel (ε := Failure) Session.Alike Eq (first.update id) (second.update id) := by
  have hrenewed : Session.Alike { first with id := id } { second with id := id } :=
    ⟨h.host, h.port, h.username, rfl, h.length⟩
  unfold Session.update
  rw [h.id]
  by_cases hother : id ≠ second.id
  · rw [if_pos hother, if_pos hother]
    exact parallel_after _ fun _ => parallel_pure hrenewed
  · rw [if_neg hother, if_neg hother]
    exact parallel_pure hrenewed

end Session.Alike

/-! ## 2. Sending -/

namespace Request

/-- **The mask covers the password and nothing else.** The frame holds the password behind the
    username, and the dump shows the front of the frame with each byte of it replaced. -/
def MasksPassword (request : Request) (frame : Bytes) : Prop :=
  ∃ front back, frame = front ++ Utf8.encode request.session.password.text ++ back ∧
    front.length = RequestHeader.fixedLength + (Utf8.encode request.session.username).length ∧
    request.masked frame =
      (front ++ List.replicate (Utf8.encode request.session.password.text).length 0x2A ++
        back).take dumpLimit

namespace Alike

variable {first second : Request}

theorem inspect_eq (h : first.Alike second) : inspect first = inspect second := by
  show Inspect.openRecord _ _ = Inspect.openRecord _ _
  rw [h.session.host, h.session.port, h.session.username, h.session.id, h.operation]

theorem payload_eq (h : first.Alike second) : first.payload = second.payload := by
  obtain ⟨session, operation⟩ := first
  obtain ⟨session', operation'⟩ := second
  obtain rfl : operation = operation' := h.operation
  rfl

theorem header_eq (h : first.Alike second) :
    second.header =
      { first.header with password := .ofString second.session.password.text } := by
  unfold header opcode userFlag action
  rw [h.operation, h.session.username, h.session.id]

/-- **The frames are the same but for the password**, if there are any. -/
theorem parallel_assemble (h : first.Alike second) :
    Parallel
      (Bytes.SameBut
        (RequestHeader.fixedLength + (Utf8.encode first.session.username).length)
        (Utf8.encode first.session.password.text) (Utf8.encode second.session.password.text))
      Eq first.assemble second.assemble := by
  unfold assemble
  -- check and payload know nothing of the session
  rw [h.payload_eq, h.operation, bytesOf_eq, bytesOf_eq, h.header_eq]
  refine parallel_after _ fun _ => ?_
  refine (first.header.partAt h.session.length).parallel.bind ?_
  intro header header' hheader
  exact parallel_after _ fun payload => parallel_pure (hheader.append_right payload)

/-- **The log is told the same of both frames**, or of none. -/
theorem parallel_toBytes (h : first.Alike second) :
    Parallel (fun frame frame' => frame.length = frame'.length) Eq first.toBytes
      second.toBytes := by
  rw [toBytes_eq, toBytes_eq]
  refine h.parallel_assemble.bind ?_
  intro frame frame' hframe
  have hlength := hframe.length_eq h.session.length
  have hmasked : first.masked frame = second.masked frame' := by
    unfold masked
    rw [← h.session.username]
    exact hframe.masked_eq h.session.length dumpLimit
  rw [(told_eq_iff hlength).mpr hmasked]
  exact parallel_after _ fun _ => parallel_pure hlength

end Alike

/-- Whatever is sent, the log shows it with the password masked. -/
theorem masksPassword {request : Request} {client after : Client} {frame : Bytes}
    (h : request.toBytes client = .ok frame after) : request.MasksPassword frame := by
  obtain ⟨-, header, body, hheader, -, -, rfl⟩ := toBytes_eq_ok h
  rcases (request.header.partAt rfl).cases with ⟨front, hlength, hall, -⟩ | ⟨oversize, herror, -⟩
  · obtain rfl := Written.all_inj.mp (hheader.symm.trans hall)
    refine ⟨front, Bytes.bigEndian 8 body.length ++ body, rfl, hlength, ?_⟩
    exact (mask_take _ _ _ _).trans (congrArg (List.take dumpLimit) (mask_part hlength rfl _))
  · rw [hheader] at herror
    cases herror

/-- The log is told of a frame last. -/
theorem told_of_toBytes {request : Request} {client after : Client} {frame : Bytes}
    (h : request.toBytes client = .ok frame after) :
    after.log.getLast? = some (request.told frame) := by
  rw [toBytes_eq] at h
  obtain ⟨_, _, -, htold⟩ := Step.bind_eq_ok_iff.mp h
  cases htold
  exact List.getLast?_concat

end Request

/-! ## 3. Reading and showing the answer -/

namespace Response

theorem verdict_eq {first second : Response} (h : first.Alike second) :
    verdict first = verdict second := by
  obtain ⟨⟨session, operation⟩, header, message, digest, payload⟩ := first
  obtain ⟨⟨session', operation'⟩, header', message', digest', payload'⟩ := second
  obtain ⟨⟨-, rfl⟩, rfl, rfl, rfl, rfl⟩ := h
  rfl

theorem present_eq {first second : Response} (h : first.Alike second) :
    first.present = second.present := by
  obtain ⟨⟨session, operation⟩, header, message, digest, payload⟩ := first
  obtain ⟨⟨session', operation'⟩, header', message', digest', payload'⟩ := second
  obtain ⟨⟨-, rfl⟩, rfl, rfl, rfl, rfl⟩ := h
  rfl

/-- The same frame is a response to both requests or to neither. -/
theorem read_cases {first second : Request} (h : first.Alike second) (frame : Bytes) :
    (∃ rejection, read first frame = .error rejection ∧ read second frame = .error rejection) ∨
      ∃ response response', read first frame = .ok response ∧
        read second frame = .ok response' ∧ response.Alike response' := by
  have hexpects : first.expectsDigest = second.expectsDigest := by
    unfold Request.expectsDigest Request.target?
    rw [h.operation]
  cases hheader : ResponseHeader.read frame with
  | error rejection =>
    exact .inl ⟨rejection, read_of_header_error hheader, read_of_header_error hheader⟩
  | ok header =>
    rw [read_of_header hheader, read_of_header hheader, hexpects]
    split
    · exact .inl ⟨_, rfl, rfl⟩
    split
    · exact .inl ⟨_, rfl, rfl⟩
    cases (readFrame (frame.drop ResponseHeader.length) second.expectsDigest :
      Except Malformed ResponseBody) with
    | error malformed => exact .inl ⟨_, rfl, rfl⟩
    | ok body =>
      exact .inr ⟨ofParts first header body, ofParts second header body, rfl, rfl,
        ⟨h, rfl, rfl, rfl, rfl⟩⟩

/-- **The log is told the same of an answer**, whichever of the two requests it is for. -/
theorem parallel_parse {first second : Request} (h : first.Alike second) (frame : Bytes) :
    Parallel Response.Alike Eq (parse first frame) (parse second frame) := by
  intro client client' hsame
  obtain rfl := hsame
  rcases read_cases h frame with ⟨rejection, hread, hread'⟩ |
    ⟨response, response', hread, hread', halike⟩
  · rw [parse_of_read_error hread, parse_of_read_error hread']
    exact .error rfl
  · rw [parse_of_read_ok hread, parse_of_read_ok hread', verdict_eq halike]
    exact .ok halike rfl

theorem parallel_present {first second : Response} (h : first.Alike second) :
    Parallel Eq Eq first.present second.present := by
  rw [present_eq h]
  exact parallel_same _

end Response

/-! ## 4. Running the shell -/

/-- The same client, sessions that are alike, and the same answers to come. -/
structure Shell.Alike (first second : Shell) : Prop where
  client : first.client = second.client
  session : first.session.Alike second.session
  replies : first.link.replies = second.link.replies

/-- A command gets as far in both runs. -/
inductive Begun.Alike : Begun → Begun → Prop where
  | done (flow : Flow) : Alike (.done flow) (.done flow)
  | asks {first second : Request} (h : first.Alike second) : Alike (.asks first) (.asks second)

namespace Shell

variable {α : Type} {values : α → α → Prop}

theorem parallel_onClient {x y : ClientM Failure α} (h : Parallel values Eq x y) :
    Parallel values Shell.Alike (onClient x) (onClient y) := by
  intro shell shell' halike
  have hends := h shell.client shell'.client halike.client
  unfold onClient
  generalize x shell.client = result at hends ⊢
  generalize y shell'.client = result' at hends ⊢
  cases hends with
  | ok hvalues hclient => exact .ok hvalues ⟨hclient, halike.session, halike.replies⟩
  | error hclient => exact .error ⟨hclient, halike.session, halike.replies⟩

theorem parallel_onRequest {x y : ClientM Error α} (h : Parallel values Eq x y) :
    Parallel values Shell.Alike (onRequest x) (onRequest y) :=
  parallel_onClient (ClientM.parallel_mapError h Failure.request)

theorem parallel_requestOf {first second : Session} (h : first.Alike second)
    (command : RemoteCommand) :
    Parallel Request.Alike Eq (requestOf first command) (requestOf second command) := by
  cases command with
  | ls path => exact parallel_pure (h.build (.ls path))
  | mkdir path => exact parallel_pure (h.build (.mkdir path))
  | delete path => exact parallel_pure (h.build (.delete path))
  | get path directory => exact h.parallel_get path directory
  | put source directory => exact h.parallel_put source directory

theorem parallel_begin (line : String) :
    Parallel Begun.Alike Shell.Alike (begin line) (begin line) := by
  refine (parallel_onClient (parallel_same _)).bind ?_
  intro command command' hcommand
  obtain rfl := hcommand
  cases command with
  | nothing => exact parallel_pure (.done .goOn)
  | help =>
    refine (parallel_onClient (parallel_same _)).bind fun _ _ _ => ?_
    exact parallel_pure (.done .goOn)
  | leave => exact parallel_pure (.done .exit)
  | onDisk action path =>
    refine (parallel_onClient (parallel_same _)).bind ?_
    intro text text' htext
    obtain rfl := htext
    refine (parallel_onClient (parallel_same _)).bind fun _ _ _ => ?_
    exact parallel_pure (.done .goOn)
  | remote command =>
    refine parallel_get.bind fun shell shell' halike => ?_
    refine (parallel_onRequest (parallel_requestOf halike.session command)).bind ?_
    intro request request' hrequest
    exact parallel_pure (.asks hrequest)

theorem parallel_exchange {first second : Request} (h : first.Alike second) :
    Parallel Eq Shell.Alike (exchange first) (exchange second) := by
  have hhand : ∀ shell shell' : Shell, shell.Alike shell' →
      Shell.Alike { shell with link.requests := shell.link.requests ++ [first] }
        { shell' with link.requests := shell'.link.requests ++ [second] } :=
    fun _ _ halike => ⟨halike.client, halike.session, halike.replies⟩
  refine (parallel_modify hhand).bind fun _ _ _ => ?_
  refine (parallel_onRequest h.parallel_toBytes).bind fun frame frame' _ => ?_
  have hsend : ∀ shell shell' : Shell, shell.Alike shell' →
      Shell.Alike { shell with link.sent := shell.link.sent ++ [frame] }
        { shell' with link.sent := shell'.link.sent ++ [frame'] } :=
    fun _ _ halike => ⟨halike.client, halike.session, halike.replies⟩
  refine (parallel_modify hsend).bind fun _ _ _ => ?_
  refine parallel_get.bind fun shell shell' halike => ?_
  rw [halike.replies]
  cases shell'.link.replies with
  | nil => exact parallel_throw _
  | cons reply later =>
    have htake : ∀ shell shell' : Shell, shell.Alike shell' →
        Shell.Alike { shell with link.replies := later } { shell' with link.replies := later } :=
      fun _ _ halike => ⟨halike.client, halike.session, rfl⟩
    exact (parallel_modify htake).bind fun _ _ _ => parallel_onClient (parallel_same _)

theorem parallel_settle {first second : Request} (h : first.Alike second) (reply : Bytes) :
    Parallel Eq Shell.Alike (settle first reply) (settle second reply) := by
  refine (parallel_onRequest (Response.parallel_parse h reply)).bind ?_
  intro response response' hresponse
  refine parallel_get.bind fun shell shell' halike => ?_
  rw [← hresponse.header]
  refine (parallel_onClient (halike.session.parallel_update _)).bind ?_
  intro session session' hsession
  have hrenew : ∀ shell shell' : Shell, shell.Alike shell' →
      Shell.Alike { shell with session := session } { shell' with session := session' } :=
    fun _ _ halike => ⟨halike.client, hsession, halike.replies⟩
  refine (parallel_modify hrenew).bind fun _ _ _ => ?_
  refine (parallel_onClient (Response.parallel_present hresponse)).bind fun _ _ _ => ?_
  have hstatus : response.status = response'.status := by
    unfold Response.status
    rw [hresponse.header]
  rw [hstatus, hsession.id]
  by_cases hends : response'.status.endsSession = true
  · rw [if_pos hends]
    refine (parallel_onClient (parallel_same _)).bind fun _ _ _ => ?_
    refine (parallel_onClient (parallel_same _)).bind fun _ _ _ => ?_
    exact parallel_pure rfl
  · rw [if_neg hends]
    exact parallel_pure rfl

theorem parallel_command (line : String) :
    Parallel Eq Shell.Alike (command line) (command line) := by
  refine (parallel_begin line).bind fun begun begun' hbegun => ?_
  cases hbegun with
  | done flow => exact parallel_pure rfl
  | asks hrequest =>
    refine (parallel_exchange hrequest).bind ?_
    intro reply reply' hreply
    obtain rfl := hreply
    exact parallel_settle hrequest reply

/-- **The step lemma**: a line leaves the same behind it in both runs, its failure included. -/
theorem parallel_report (line : String) :
    Parallel Eq Shell.Alike (report line) (report line) := by
  intro shell shell' halike
  have hends := parallel_command line shell shell' halike
  unfold report
  generalize command line shell = result at hends ⊢
  generalize command line shell' = result' at hends ⊢
  cases hends with
  | ok hflow hafter => exact .ok hflow hafter
  | @error failure after after' hafter =>
    have hprint : Parallel Eq Shell.Alike
        (do onClient (ClientM.print (badLine failure.message)); return .goOn : ShellM Flow)
        (do onClient (ClientM.print (badLine failure.message)); return .goOn : ShellM Flow) :=
      (parallel_onClient (parallel_same _)).bind fun _ _ _ => parallel_pure rfl
    exact hprint after after' hafter

/-- **The run lemma**: so do any lines, one after the other. The induction is on the lines; the
    sessions stay alike since both take the id that the same answer hands out. -/
theorem parallel_runLines (lines : List Bytes) :
    Parallel Eq Shell.Alike (runLines lines) (runLines lines) := by
  induction lines with
  | nil => exact parallel_onClient (parallel_same _)
  | cons line later ih =>
    refine (parallel_onClient (parallel_same _)).bind fun _ _ _ => ?_
    cases Utf8.decode? line with
    | none => exact parallel_throw _
    | some text =>
      refine (parallel_report text).bind ?_
      intro flow flow' hflow
      obtain rfl := hflow
      cases flow with
      | goOn => exact ih
      | exit => exact parallel_pure rfl

end Shell

/-! ## 5. All of it -/

/-- What cannot tell two sessions from each other: the diagnostic forms, and every step of the
    client and of the shell. Successful or not, a step leaves the same client behind it under both
    sessions: the same disk, the same console and the same log. -/
structure Session.Indistinct (first second : Session) : Prop where
  inspect_session : inspect first = inspect second
  inspect_request : ∀ operation, inspect (first.build operation) = inspect (second.build operation)
  inspect_operation : ∀ operation,
    inspect (first.build operation).operation = inspect (second.build operation).operation
  ofParams : ∀ flags fields newPassword,
    Parallel Request.Alike Eq (Request.ofParams ⟨first, flags, fields, newPassword⟩)
      (Request.ofParams ⟨second, flags, fields, newPassword⟩)
  request : ∀ operation,
    Parallel Request.Alike Eq (first.request operation) (second.request operation)
  get : ∀ path directory,
    Parallel Request.Alike Eq (first.get path directory) (second.get path directory)
  put : ∀ source directory,
    Parallel Request.Alike Eq (first.put source directory) (second.put source directory)
  update : ∀ id, Parallel (ε := Failure) Session.Alike Eq (first.update id) (second.update id)
  toBytes : ∀ operation,
    Parallel (fun frame frame' => frame.length = frame'.length) Eq
      (first.build operation).toBytes (second.build operation).toBytes
  parse : ∀ operation reply,
    Parallel Response.Alike Eq (Response.parse (first.build operation) reply)
      (Response.parse (second.build operation) reply)
  present : ∀ response : Response, response.request.session = first →
    Parallel Eq Eq response.present
      (Response.present { response with request.session := second })
  command : ∀ line client link link', link.replies = link'.replies →
    Step.Alike Eq Shell.Alike (Shell.command line ⟨client, first, link⟩)
      (Shell.command line ⟨client, second, link'⟩)
  run : ∀ script client link link', link.replies = link'.replies →
    Step.Alike Eq Shell.Alike (Shell.run script ⟨client, first, link⟩)
      (Shell.run script ⟨client, second, link'⟩)

namespace Session

/-- **The password of the login makes no difference to the log.** Two sessions that only a password
    of the same length tells apart leave the same log behind them, whatever is built, sent, read,
    shown or run under them, and whether it succeeds or not. What the log shows of a frame is its
    front, with the bytes of the password replaced and no others. -/
theorem indistinct_of_alike {first second : Session} (h : first.Alike second) :
    first.Indistinct second ∧
      ∀ operation client frame after, (first.build operation).toBytes client = .ok frame after →
        (first.build operation).MasksPassword frame ∧
          after.log.getLast? = some ((first.build operation).told frame) := by
  refine ⟨?_, ?_⟩
  · exact {
      inspect_session := h.inspect_eq
      inspect_request := fun operation => (h.build operation).inspect_eq
      inspect_operation := fun _ => rfl
      ofParams := h.parallel_ofParams
      request := h.parallel_request
      get := h.parallel_get
      put := h.parallel_put
      update := h.parallel_update
      toBytes := fun operation => (h.build operation).parallel_toBytes
      parse := fun operation => Response.parallel_parse (h.build operation)
      present := by
        rintro response rfl
        exact Response.parallel_present ⟨⟨h, rfl⟩, rfl, rfl, rfl, rfl⟩
      command := fun line client link link' hreplies =>
        Shell.parallel_command line _ _ ⟨rfl, h, hreplies⟩
      run := fun script client link link' hreplies =>
        Shell.parallel_runLines (Shell.linesOf script) _ _ ⟨rfl, h, hreplies⟩ }
  · intro operation client frame after hsent
    exact ⟨Request.masksPassword hsent, Request.told_of_toBytes hsent⟩

/-- Two passwords of six letters. -/
theorem indistinct_of_alike_six_letters :
    (⟨"host", 4000, "ann", ⟨"s3cret"⟩, 5⟩ : Session) ≠ ⟨"host", 4000, "ann", ⟨"hunter"⟩, 5⟩ ∧
      Indistinct ⟨"host", 4000, "ann", ⟨"s3cret"⟩, 5⟩ ⟨"host", 4000, "ann", ⟨"hunter"⟩, 5⟩ := by
  have halike : Alike ⟨"host", 4000, "ann", ⟨"s3cret"⟩, 5⟩ ⟨"host", 4000, "ann", ⟨"hunter"⟩, 5⟩ :=
    ⟨rfl, rfl, rfl, rfl, by decide⟩
  refine ⟨by decide, ?_⟩
  exact (indistinct_of_alike halike).1

end Session

end RemoteFiles
