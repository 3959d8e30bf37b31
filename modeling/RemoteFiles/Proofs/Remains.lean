import RemoteFiles.Proofs.Exchange
import RemoteFiles.Proofs.Target

/-!
# What is left of a download that fails

A download is saved by making its file and then writing the payload, piece by piece. A file that
cannot be made leaves nothing behind. A piece that cannot be written ends the saving where it is:
the file that has been made stays, with what has been written, and is in the way of the next
download.

* `Disk.appendAll_of_outage` -- a file of which one write fails, whichever it is;
* `Disk.createWith_whole_or_outage` -- a file that has been made is whole otherwise;
* `Response.save_of_outage` -- what is left then: a beginning of the payload under the name of the
  target, where a later download is refused;
* `Response.save_remains` -- **a download that fails leaves the tree as it was exactly if its file
  could not be made**.
-/

namespace RemoteFiles

/-! ## 1. Pieces -/

namespace Bytes

/-- **The pieces before one, and a beginning of that one, are a beginning of the whole.** -/
theorem exists_chunk {size : Nat} (hsize : 0 < size) (count : Nat) {bytes : Bytes}
    (h : count * size < bytes.length) :
    ∃ piece, (chunks size bytes)[count]? = some piece ∧
      ∀ stored, ((chunks size bytes).take count).flatten ++ piece.take stored =
        bytes.take (count * size + min stored size) := by
  have hne : bytes ≠ [] := List.ne_nil_of_length_pos (Nat.zero_lt_of_lt h)
  rw [chunks_of_ne_nil hsize hne]
  induction count generalizing bytes with
  | zero =>
    refine ⟨bytes.take size, rfl, fun stored => ?_⟩
    rw [List.take_zero, List.flatten_nil, List.nil_append, List.take_take, Nat.zero_mul,
      Nat.zero_add]
  | succ count ih =>
    rw [Nat.succ_mul] at h
    have hlater : count * size < (bytes.drop size).length := by
      rw [List.length_drop]
      omega
    have hne := List.ne_nil_of_length_pos (Nat.zero_lt_of_lt hlater)
    obtain ⟨piece, hpiece, hpieces⟩ := ih hlater hne
    rw [← chunks_of_ne_nil hsize hne] at hpiece hpieces
    refine ⟨piece, by rw [List.getElem?_cons_succ, hpiece], fun stored => ?_⟩
    rw [List.take_succ_cons, List.flatten_cons, List.append_assoc, hpieces, ← List.take_add,
      Nat.succ_mul, Nat.add_comm (count * size) size, Nat.add_assoc]

/-- No more pieces are cut than are needed. -/
theorem length_chunks_le {size : Nat} (hsize : 0 < size) (count : Nat) {bytes : Bytes}
    (h : bytes.length ≤ count * size) : (chunks size bytes).length ≤ count := by
  induction count generalizing bytes with
  | zero =>
    rw [Nat.zero_mul] at h
    rw [List.eq_nil_of_length_eq_zero (Nat.le_zero.mp h), chunks]
    exact Nat.le_refl 0
  | succ count ih =>
    by_cases hne : bytes = []
    · rw [hne, chunks]
      exact Nat.zero_le _
    · have hlater : (bytes.drop size).length ≤ count * size := by
        rw [List.length_drop]
        rw [Nat.succ_mul] at h
        omega
      rw [chunks_of_ne_nil hsize hne, List.length_cons]
      exact Nat.succ_le_succ (ih hlater)

end Bytes

/-! ## 2. Writing -/

namespace Disk

/-- **A write that fails ends the writing.** The file holds what has been written before, and what
    the medium has stored of the piece. -/
theorem appendAll_of_outage {place : Place} (h : place ≠ []) {outage : Outage}
    {later : List (Option Outage)} {count : Nat} {pieces : List Bytes} {piece : Bytes}
    (hpiece : pieces[count]? = some piece) {disk : Disk} {content : Bytes}
    (hfile : disk.peek place = some (.file content))
    (houtages : disk.outages = List.replicate count none ++ some outage :: later) :
    ∃ after, appendAll place pieces disk = .error outage.cause after ∧
      after.peek place =
        some (.file (content ++ ((pieces.take count).flatten ++ piece.take outage.stored))) := by
  induction count generalizing pieces disk content with
  | zero =>
    cases pieces with
    | nil => cases hpiece
    | cons first rest =>
      cases hpiece
      have hfirst := append_apply hfile piece
      rw [houtages] at hfirst
      refine ⟨_, Step.bind_of_error hfirst _, ?_⟩
      rw [peek_insert _ h, if_pos rfl]
      rfl
  | succ count ih =>
    cases pieces with
    | nil => cases hpiece
    | cons first rest =>
      have hfirst := append_apply hfile first
      rw [houtages] at hfirst
      have hgrown : (disk.pastOutage.insert place (.file (content ++ first))).peek place =
          some (.file (content ++ first)) := by rw [peek_insert _ h, if_pos rfl]
      have hleft : (disk.pastOutage.insert place (.file (content ++ first))).outages =
          List.replicate count none ++ some outage :: later := by
        rw [outages_insert, pastOutage, houtages]
        rfl
      obtain ⟨after, hfails, hleft⟩ := ih hpiece hgrown hleft
      refine ⟨after, Eq.trans (Step.bind_of_ok hfirst _) hfails, ?_⟩
      rw [hleft, List.take_succ_cons, List.flatten_cons, List.append_assoc, List.append_assoc]

variable {path : Path} {disk created : Disk} {place : Place}

/-- **A file of which one write fails**, the one behind so many others. -/
theorem createWith_of_outage {size : Nat} (hsize : 0 < size) {content : Bytes}
    (hcreate : createFile path disk = .ok place created) {count : Nat} {outage : Outage}
    {later : List (Option Outage)} (hcount : count * size < content.length)
    (houtages : disk.outages.tail = List.replicate count none ++ some outage :: later) :
    ∃ after, createWith size path content disk = .error outage.cause after ∧
      Gains disk after path (content.take (count * size + min outage.stored size)) place := by
  obtain ⟨hfree, hcreated⟩ := createFile_eq_ok hcreate
  obtain ⟨hplace, -⟩ := ne_nil_of_free hfree
  obtain ⟨hmade, hempty⟩ := onlyAt_createFile hcreate
  obtain ⟨piece, hpiece, hbeginning⟩ := Bytes.exists_chunk hsize count hcount
  have hleft : created.outages = List.replicate count none ++ some outage :: later := by
    rw [hcreated, outages_insert]
    exact houtages
  obtain ⟨after, hfails, hfile⟩ := appendAll_of_outage hplace hpiece hempty hleft
  obtain ⟨honly, -⟩ := onlyAt_appendAll hplace hempty (Bytes.chunks size content)
  rw [hfails] at honly
  rw [List.nil_append, hbeginning] at hfile
  exact ⟨after, Eq.trans (Step.bind_of_ok hcreate _) hfails,
    gains_of_onlyAt hfree (hmade.trans honly) hfile⟩

/-- The medium carries out all writes to come, or one of them is the first that fails. -/
theorem none_or_outage (outages : List (Option Outage)) :
    (∀ outage ∈ outages, outage = none) ∨
      ∃ count outage later, outages = List.replicate count none ++ some outage :: later := by
  induction outages with
  | nil => exact .inl (List.forall_mem_nil _)
  | cons next rest ih =>
    cases next with
    | some outage => exact .inr ⟨0, outage, rest, rfl⟩
    | none =>
      rcases ih with hnone | ⟨count, outage, later, hrest⟩
      · exact .inl (List.forall_mem_cons.mpr ⟨rfl, hnone⟩)
      · exact .inr ⟨count + 1, outage, later, congrArg (none :: ·) hrest⟩

/-- **A file that has been made is whole, or a write fails before its end.** -/
theorem createWith_whole_or_outage {size : Nat} (hsize : 0 < size) (content : Bytes)
    (hcreate : createFile path disk = .ok place created) :
    (∃ after, createWith size path content disk = .ok () after ∧
        Gains disk after path content place) ∨
      ∃ count outage later,
        disk.outages.tail = List.replicate count none ++ some outage :: later ∧
          count * size < content.length := by
  rcases none_or_outage disk.outages.tail with hnone | ⟨count, outage, later, houtages⟩
  · exact .inl (createWith_of_created hcreate fun outage hmem =>
      hnone outage (List.mem_of_mem_take hmem))
  · by_cases hcount : count * size < content.length
    · exact .inr ⟨count, outage, later, houtages, hcount⟩
    · refine .inl (createWith_of_created hcreate fun next hmem => ?_)
      -- the file has no more pieces than writes that are carried out
      have hfew := Bytes.length_chunks_le hsize count (Nat.le_of_not_lt hcount)
      rw [houtages, List.take_append_of_le_length (by rwa [List.length_replicate])] at hmem
      exact List.eq_of_mem_replicate (List.mem_of_mem_take hmem)

/-- A file that has been made stays when a write to it fails. -/
theorem exists_gains_of_error {size : Nat} (hsize : 0 < size) {content : Bytes} {fault : Fault}
    {after : Disk} (hcreate : createFile path disk = .ok place created)
    (hfails : createWith size path content disk = .error fault after) :
    ∃ written, Gains disk after path written place := by
  rcases createWith_whole_or_outage hsize content hcreate with
    ⟨whole, hwhole, -⟩ | ⟨count, outage, later, houtages, hcount⟩
  · rw [hwhole] at hfails
    cases hfails
  · obtain ⟨stopped, hstops, hgains⟩ := createWith_of_outage hsize hcreate hcount houtages
    rw [hstops] at hfails
    cases hfails
    exact ⟨_, hgains⟩

/-- A tree that has gained a file is another one. -/
theorem Gains.not_sameTree {before after : Disk} {content : Bytes}
    (h : Gains before after path content place) : ¬ SameTree before after := by
  intro hsame
  have hbefore := hsame.symm.extends.peek ((h.peek place).trans (if_pos rfl))
  rw [h.fresh] at hbefore
  cases hbefore

/-- One file is gained under a path. -/
theorem Gains.content_unique {before before' after : Disk} {content content' : Bytes}
    {place' : Place} (h : Gains before after path content place)
    (h' : Gains before' after path content' place') : content = content' := by
  have hnamed := h.named_after.symm.trans h'.named_after
  cases hnamed
  rfl

/-- A file that has been made is reached by its path. -/
theorem Gains.reaches {before after : Disk} {content : Bytes}
    (h : Gains before after path content place) (hslash : endsWithSlash path = false) :
    after.reaches path = true :=
  reaches_of_named h.named_after nofun hslash

theorem endsWithSlash_of_created (h : createFile path disk = .ok place created) :
    endsWithSlash path = false := by
  obtain ⟨hfree, -⟩ := createFile_eq_ok h
  rw [createFile_apply, hfree] at h
  simp only at h
  split at h
  · cases h
  · rename_i hslash
    exact Bool.eq_false_iff.mpr hslash

end Disk

namespace Response

variable {request : Request} {frame : Bytes} {start parsed : Client} {response : Response}
  {path : String} {target : Path}

/-! ## 3. Downloads -/

/-- **Any file that is not too long can come as a download**, with its digest and as a success. -/
theorem exists_download (hget : request.action = .get) {content : Bytes}
    (hshort : 33 + content.length ≤ promiseLimit) (start : Client) :
    ∃ frame response parsed, parse request frame start = .ok response parsed ∧
      response.validHash = true ∧ response.payload = some content ∧
      response.header.code = 1 ∧ response.digest = some (Digest.of content) := by
  have hapt : Apt request ⟨"", some (Digest.of content), content⟩ :=
    ⟨fun _ => hget, fun _ hnone => nomatch hnone⟩
  have hmessage : ¬ ResponseBody.maxMessage < (Utf8.encode "").length := by decide
  obtain ⟨frame, response, -, hread, hconveys⟩ := conveys_of_apt hapt hmessage hshort 1 0
  have hpayload : response.payload = some content :=
    hconveys.payload.trans (if_neg fun hnone => nomatch hnone.2)
  have hvalid : response.validHash = true := by
    refine validHash_iff.mpr ⟨_, hconveys.digest, ?_⟩
    rw [hpayload]
    exact Digest.bytes_of content
  exact ⟨frame, response, _, parse_of_read_ok hread start, hvalid, hpayload, hconveys.code,
    hconveys.digest⟩

/-- A file can be made on an empty disk, if the medium does its part. -/
theorem exists_created_empty (outages : List (Option Disk.Outage)) :
    ∃ created, Disk.createFile ⟨[0x61]⟩ ⟨[], [], none :: outages⟩ = .ok [[0x61]] created := by
  have hplace : Disk.freePlace ⟨[0x61]⟩ ⟨[], [], none :: outages⟩ = .ok [[0x61]] := by
    refine Disk.freePlace_eq_ok_iff.mpr ⟨[], [0x61], ?_, by decide, rfl, rfl⟩
    refine Disk.resolveParent_eq_ok_iff.mpr ⟨[], rfl, ?_, by decide +kernel⟩
    rw [show (Disk.namesOf ⟨[0x61]⟩).dropLast = [] by decide +kernel, List.nil_append,
      Disk.walk_dot rfl, Disk.walk]
  rw [Disk.createFile_apply, hplace]
  exact ⟨_, rfl⟩

/-! ## 4. Saving -/

theorem writeSize_pos : 0 < writeSize := by decide

/-- **What is left when one write fails**: a beginning of the payload. It is found under the name of
    the target, so a later download to there is refused. -/
theorem save_of_outage (hspelled : Spelled request frame response)
    (hvalid : response.validHash = true) (hget : request.operation = .get path target)
    {client : Client} {place : Place} {created : Disk}
    (hcreate : Disk.createFile target client.disk = .ok place created) {count : Nat}
    {outage : Disk.Outage} {later : List (Option Disk.Outage)}
    (hcount : count * writeSize < (response.payload.getD []).length)
    (houtages : client.disk.outages.tail = List.replicate count none ++ some outage :: later) :
    ∃ after, response.save client = .error (.disk outage.cause) after ∧
      Disk.Gains client.disk after.disk target
        ((response.payload.getD []).take (count * writeSize + min outage.stored writeSize)) place ∧
      Operation.checkTarget after.disk target = .error (.fileExists target) := by
  obtain ⟨disk, hfails, hgains⟩ :=
    Disk.createWith_of_outage writeSize_pos hcreate hcount houtages
  have htarget : request.target? = some target := by rw [Request.target?, hget]
  have hsave := save_of_valid hspelled htarget hvalid client
  rw [show Disk.createWith writeSize target _ client.disk = _ from hfails] at hsave
  have hreaches := hgains.reaches (Disk.endsWithSlash_of_created hcreate)
  exact ⟨_, hsave, hgains, if_pos hreaches⟩

/-- **A download that fails leaves the tree as it was exactly if its file could not be made.** If it
    was made, then whichever write fails behind it, a beginning of the payload stays there and is in
    the way of the next download. -/
theorem save_remains (hparse : parse request frame start = .ok response parsed)
    (hvalid : response.validHash = true) (hget : request.operation = .get path target)
    (client : Client) :
    (∀ error after, response.save client = .error error after →
      (Disk.SameTree client.disk after.disk ↔
        ∀ place created, Disk.createFile target client.disk ≠ .ok place created)) ∧
      ∀ place created count outage later,
        Disk.createFile target client.disk = .ok place created →
        count * writeSize < (response.payload.getD []).length →
        client.disk.outages.tail = List.replicate count none ++ some outage :: later →
        ∃ after, response.save client = .error (.disk outage.cause) after ∧
          Disk.Gains client.disk after.disk target
            ((response.payload.getD []).take (count * writeSize + min outage.stored writeSize))
            place ∧
          Operation.checkTarget after.disk target = .error (.fileExists target) := by
  refine ⟨fun error after hfails => ?_, fun place created count outage later hcreate hcount =>
    save_of_outage (spelled_of_parse hparse) hvalid hget hcreate hcount⟩
  have htarget : request.target? = some target := by rw [Request.target?, hget]
  rw [save_of_valid (spelled_of_parse hparse) htarget hvalid] at hfails
  cases hcreate : Disk.createFile target client.disk with
  | error fault disk =>
    rw [show Disk.createWith writeSize target _ client.disk = _ from
      Step.bind_of_error hcreate _] at hfails
    cases hfails
    refine iff_of_true (Disk.createFile_eq_error hcreate) fun place created hmade => ?_
    cases hmade
  | ok place created =>
    refine iff_of_false (fun hsame => ?_) fun hnone => hnone place created rfl
    cases hwrite : Disk.createWith writeSize target (response.payload.getD []) client.disk with
    | ok done disk =>
      rw [hwrite] at hfails
      cases hfails
    | error fault disk =>
      rw [hwrite] at hfails
      cases hfails
      obtain ⟨written, hgains⟩ := Disk.exists_gains_of_error writeSize_pos hcreate hwrite
      exact hgains.not_sameTree hsame

/-- The medium is full in the second write of a file of 1500 bytes, ten bytes into it. -/
theorem save_remains_second_write :
    ∃ frame response parsed after,
      parse ⟨⟨"host", 4000, "ann", ⟨"secret"⟩, 5⟩, .get "notes" ⟨[0x61]⟩⟩ frame
        ⟨⟨[], [], []⟩, "", []⟩ = .ok response parsed ∧ response.validHash = true ∧
      response.payload = some (List.replicate 1500 0x41) ∧
      response.save ⟨⟨[], [], [none, none, some ⟨10, .full⟩]⟩, "", []⟩ =
        .error (.disk .full) after ∧
      Disk.Gains ⟨[], [], [none, none, some ⟨10, .full⟩]⟩ after.disk ⟨[0x61]⟩
        (List.replicate 1034 0x41) [[0x61]] ∧
      ¬ Disk.SameTree ⟨[], [], [none, none, some ⟨10, .full⟩]⟩ after.disk := by
  have hget : Request.action ⟨⟨"host", 4000, "ann", ⟨"secret"⟩, 5⟩, .get "notes" ⟨[0x61]⟩⟩ = .get :=
    rfl
  have hshort : 33 + (List.replicate 1500 (0x41 : UInt8)).length ≤ promiseLimit := by
    rw [List.length_replicate]
    decide
  obtain ⟨frame, response, parsed, hparse, hvalid, hpayload, -⟩ :=
    exists_download hget hshort ⟨⟨[], [], []⟩, "", []⟩
  have hcount : 1 * writeSize < (response.payload.getD []).length := by
    rw [hpayload, Option.getD_some, List.length_replicate]
    decide
  obtain ⟨created, hcreate⟩ := exists_created_empty [none, some ⟨10, .full⟩]
  obtain ⟨hsame, hleft⟩ := save_remains hparse hvalid rfl
    ⟨⟨[], [], [none, none, some ⟨10, .full⟩]⟩, "", []⟩
  obtain ⟨after, hsave, hgains, -⟩ := hleft _ _ 1 ⟨10, .full⟩ [] hcreate hcount rfl
  rw [hpayload, Option.getD_some, List.take_replicate] at hgains
  refine ⟨frame, response, parsed, after, hparse, hvalid, hpayload, hsave, hgains, fun h => ?_⟩
  exact (hsame _ _ hsave).mp h _ _ hcreate

/-- The medium is full in the first write of a file of two bytes, one byte into it. Nothing was at
    the target before, half of the file is there now, and a later download to there is refused. -/
theorem save_two_bytes_full :
    ∃ frame response parsed after,
      parse ⟨⟨"host", 4000, "ann", ⟨"secret"⟩, 5⟩, .get "notes" ⟨[0x61]⟩⟩ frame
        ⟨⟨[], [], []⟩, "", []⟩ = .ok response parsed ∧ response.validHash = true ∧
      Disk.peek ⟨[], [], [none, some ⟨1, .full⟩]⟩ [[0x61]] = none ∧
      response.save ⟨⟨[], [], [none, some ⟨1, .full⟩]⟩, "", []⟩ = .error (.disk .full) after ∧
      after.disk.peek [[0x61]] = some (.file [0x68]) ∧
      ¬ Disk.SameTree ⟨[], [], [none, some ⟨1, .full⟩]⟩ after.disk ∧
      Operation.checkTarget after.disk ⟨[0x61]⟩ = .error (.fileExists ⟨[0x61]⟩) := by
  have hget : Request.action ⟨⟨"host", 4000, "ann", ⟨"secret"⟩, 5⟩, .get "notes" ⟨[0x61]⟩⟩ = .get :=
    rfl
  have hshort : 33 + ([0x68, 0x69] : Bytes).length ≤ promiseLimit := by decide
  obtain ⟨frame, response, parsed, hparse, hvalid, hpayload, -⟩ :=
    exists_download hget hshort ⟨⟨[], [], []⟩, "", []⟩
  have hcount : 0 * writeSize < (response.payload.getD []).length := by
    rw [hpayload]
    decide
  obtain ⟨created, hcreate⟩ := exists_created_empty [some ⟨1, .full⟩]
  have houtages : (Client.disk ⟨⟨[], [], [none, some ⟨1, .full⟩]⟩, "", []⟩).outages.tail =
      List.replicate 0 none ++ some ⟨1, .full⟩ :: [] := rfl
  obtain ⟨after, hsave, hgains, hrefused⟩ :=
    save_of_outage (spelled_of_parse hparse) hvalid rfl hcreate hcount houtages
  have hfile := (hgains.peek [[0x61]]).trans (if_pos rfl)
  rw [hpayload] at hfile
  exact ⟨frame, response, parsed, after, hparse, hvalid, rfl, hsave, hfile, hgains.not_sameTree,
    hrefused⟩

end Response

end RemoteFiles
