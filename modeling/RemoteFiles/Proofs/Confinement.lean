import RemoteFiles.Proofs.Path.Components
import RemoteFiles.Proofs.Request
import RemoteFiles.Proofs.Target

/-!
# Files stay in their directory

The last name of a path goes into a directory of the other side: that of a remote path into a local
directory, and that of a local path into a remote one. Whatever the rest of the path is made of --
dots, double dots, a root, slashes one behind the other -- is dropped, and the name itself can lead
neither up nor further down.

* `SavesIn` -- what is downloaded is saved as one name in the directory, and its parent has the
  components of the directory;
* `SendsInto` -- what is uploaded is sent under the directory, a slash if one is needed, and one
  name;
* `confined` -- **every download and every upload that is built stays in its directory**, and a path
  that does not end with a name is refused.
-/

namespace RemoteFiles

namespace Operation

/-! ## 1. Downloads -/

/-- The operation saves the remote file `path` under the name in the directory. The request says so
    too: its local path is that of the directory, however it is spelled. -/
structure SavesIn (operation : Operation) (path : String) (directory : Path) (name : Bytes) :
    Prop where
  isName : Path.IsName name
  last : (Path.ofString path).components.getLast? = some (.name name)
  eq_get : operation = get path (directory.join ⟨name⟩)
  components : (directory.join ⟨name⟩).components = directory.components ++ [.name name]
  parent (session : Session) : ∃ parent, (session.build operation).source? = some parent ∧
    parent.components = directory.components

section Downloads

variable {disk : Disk} {path : String} {directory : Path}

/-- **A download is saved as one name in its directory.** -/
theorem savesIn_of_ofDownload {operation : Operation}
    (h : ofDownload disk path directory = .ok operation) :
    ∃ name, operation.SavesIn path directory name := by
  obtain ⟨-, name, hlast, -, rfl⟩ := ofDownload_eq_ok_iff.mp h
  have hname := Path.isName_of_fileName? hlast
  exact ⟨name, hname, Path.fileName?_eq_some_iff.mp hlast, rfl,
    Path.components_join hname directory, fun _ => Path.parent?_join hname directory⟩

/-- A download into a directory is refused for want of a name exactly if its path does not end with
    one. -/
theorem ofDownload_noFileName_iff (h : disk.isDirectory directory = true) :
    ofDownload disk path directory = .error (.noFileName path) ↔
      ∀ name, (Path.ofString path).components.getLast? ≠ some (.name name) := by
  rw [← Path.fileName?_eq_none_iff, ofDownload_of_directory h]
  cases (Path.ofString path).fileName? with
  | none => exact iff_of_true rfl rfl
  | some name =>
    refine iff_of_false (fun hrefused => ?_) nofun
    simp only at hrefused
    split at hrefused <;> cases hrefused

end Downloads

/-! ## 2. Uploads -/

/-- What stands between a remote directory and a name in it: a slash, unless the directory is empty
    or ends with one. -/
def joint (directory : String) : Bytes :=
  if directory = "" ∨ directory.toList.getLast? = some '/' then [] else [Path.slash]

/-- The operation sends the local file `source` under the name in the remote directory. -/
structure SendsInto (operation : Operation) (source : Path) (directory : String) (name : Bytes) :
    Prop where
  isName : Path.IsName name
  last : source.components.getLast? = some (.name name)
  eq_put : operation = put source directory
  sent {session : Session} {client after : Client} {bytes : Bytes}
    (h : (session.build operation).toBytes client = .ok bytes after) :
    ∃ frame payload, RequestFrame.parse bytes = .ok frame ∧ frame.pathPayload = .ok payload ∧
      payload.path.bytes = Utf8.encode directory ++ joint directory ++ name

/-- The bytes of a remote path are those of the directory, the joint and the name. -/
theorem encode_remoteJoin (directory name : String) :
    Utf8.encode (remoteJoin directory name) =
      Utf8.encode directory ++ joint directory ++ Utf8.encode name := by
  have hcond : (directory.isEmpty || directory.toList.getLast? == some '/') = true ↔
      directory = "" ∨ directory.toList.getLast? = some '/' := by
    rw [Bool.or_eq_true, String.isEmpty_iff, beq_iff_eq]
  have hslash : Utf8.encode "/" = [Path.slash] := by decide
  rw [remoteJoin, joint]
  by_cases hends : directory = "" ∨ directory.toList.getLast? = some '/'
  · rw [if_pos (hcond.mpr hends), if_pos hends, Utf8.encode_append, List.append_nil]
  · rw [if_neg (mt hcond.mp hends), if_neg hends, Utf8.encode_append, Utf8.encode_append, hslash]

section Uploads

variable {source : Path} {directory : String}

theorem uploadPath_eq_ok_iff {path : String} :
    uploadPath source directory = .ok path ↔
      ∃ name, source.fileName? = some (Utf8.encode name) ∧ path = remoteJoin directory name := by
  rw [uploadPath]
  constructor
  · intro h
    split at h
    · cases h
    · rename_i bytes hlast
      split at h
      · cases h
      · rename_i name htext
        cases h
        exact ⟨name, by rw [hlast, Utf8.decode?_eq_some_iff.mp htext], rfl⟩
  · rintro ⟨name, hlast, rfl⟩
    simp only [hlast, Utf8.decode?_encode]

/-- **An upload is sent under the directory and one name**, which is that of its source. -/
theorem sendsInto_of_ofUpload {operation : Operation}
    (h : ofUpload source directory = .ok operation) :
    ∃ name, operation.SendsInto source directory name := by
  obtain ⟨path, hpath, hbuilt⟩ := Step.result_bind_eq_ok_iff.mp h
  cases hbuilt
  obtain ⟨name, hlast, rfl⟩ := uploadPath_eq_ok_iff.mp hpath
  refine ⟨Utf8.encode name, Path.isName_of_fileName? hlast, Path.fileName?_eq_some_iff.mp hlast,
    rfl, fun {session client after bytes} hsent => ?_⟩
  obtain ⟨hcheck, header, body, hheader, hsends, hfits, rfl⟩ := Request.toBytes_eq_ok hsent
  obtain ⟨sent, content, digest, hsame, -, -, hread⟩ := Request.carries_of_sends hcheck hsends
  rw [hpath] at hsame
  cases hsame
  exact ⟨_, _, RequestFrame.parse_append hheader hfits, hread, encode_remoteJoin directory name⟩

/-- An upload is refused for want of a name exactly if its source does not end with one. -/
theorem ofUpload_noFileName_iff :
    ofUpload source directory = .error (.noFileName source.display) ↔
      ∀ name, source.components.getLast? ≠ some (.name name) := by
  rw [← Path.fileName?_eq_none_iff, ofUpload_eq]
  cases source.fileName? with
  | none => exact iff_of_true rfl rfl
  | some name =>
    refine iff_of_false (fun hrefused => ?_) nofun
    simp only at hrefused
    split at hrefused <;> cases hrefused

end Uploads

/-! ## 3. Both ways -/

/-- **Every download and every upload that is built stays in its directory**, and a path that does
    not end with a name is refused. -/
theorem confined :
    (∀ disk path directory operation, ofDownload disk path directory = .ok operation →
        ∃ name, operation.SavesIn path directory name) ∧
      (∀ disk path directory, Disk.isDirectory disk directory = true →
        (ofDownload disk path directory = .error (.noFileName path) ↔
          ∀ name, (Path.ofString path).components.getLast? ≠ some (.name name))) ∧
      (∀ source directory operation, ofUpload source directory = .ok operation →
        ∃ name, operation.SendsInto source directory name) ∧
      ∀ source directory, ofUpload source directory = .error (.noFileName source.display) ↔
        ∀ name, source.components.getLast? ≠ some (.name name) :=
  ⟨fun _ _ _ _ => savesIn_of_ofDownload, fun _ _ _ => ofDownload_noFileName_iff,
    fun _ _ _ => sendsInto_of_ofUpload, fun _ _ => ofUpload_noFileName_iff⟩

/-- Names behind a root, double dots and doubled slashes, both ways. -/
theorem confined_double_dots :
    (∃ name, (get "/..//../a/./" ⟨[0x2E, 0x2F, 0x61]⟩).SavesIn "/..//../a/./" ⟨Path.dot⟩ name) ∧
      ∃ name, (put (.ofString "/../b//") "up/..").SendsInto (.ofString "/../b//") "up/.." name := by
  obtain ⟨hdownload, -, hupload, -⟩ := confined
  have hreaches : Disk.reaches ⟨[], [], []⟩ ⟨[0x2E, 0x2F, 0x61]⟩ = false := by
    have hsteps : Disk.stepsOf ⟨[0x2E, 0x2F, 0x61]⟩ = [Path.dot, [0x61]] := by decide +kernel
    have hwalk : Disk.walk ⟨[], [], []⟩ Disk.maxLinks [] [Path.dot, [0x61]] = .error .notFound := by
      rw [Disk.walk_dot rfl]
      exact Disk.walk_of_missing rfl (by decide) (by decide) (by decide) rfl
    exact Disk.not_reaches_of_walk rfl (hsteps ▸ hwalk)
  have hname : (Path.ofString "/..//../a/./").fileName? = some [0x61] := by decide +kernel
  have hsource : (Path.ofString "/../b//").fileName? = some (Utf8.encode "b") := by decide +kernel
  have hremote : ofUpload (.ofString "/../b//") "up/.." =
      .ok (put (.ofString "/../b//") "up/..") := by
    rw [ofUpload_eq, hsource]
    simp only [Utf8.decode?_encode]
  exact ⟨hdownload _ _ _ _ (ofDownload_dot "/..//../a/./" rfl hname hreaches),
    hupload _ _ _ hremote⟩

end Operation

end RemoteFiles
