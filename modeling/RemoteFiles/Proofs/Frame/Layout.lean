import RemoteFiles.Proofs.Frame.Request

/-!
# Where the fields of a request stand

A reference layout for the header of a request and for what it may carry, put together from bytes
alone. What the encoders write is compared with it.

* `RequestHeader.layout` -- two codes, two reserved bytes, two lengths, the session, two strings;
* `Layout` -- codes, then strings each behind its length, then bytes up to the end: every payload is
  of this shape (`AccountPayload.written_eq_layout`, `PathPayload.written_eq_layout`).

A string is written if it is short enough for its length, and if one is not, nothing is sent
(`Layout.written_of_fits`, `Layout.refused_of_long`).
-/

namespace RemoteFiles

open Wire

/-- A string of bytes behind its length in two bytes. -/
def Bytes.prefixed (bytes : Bytes) : Bytes := Bytes.bigEndian 2 bytes.length ++ bytes

/-! ## 1. Strings behind their lengths -/

namespace Wire

/-- All of the strings are short enough for a length of two bytes. -/
def Fit (strings : List Bytes) : Prop := ∀ string ∈ strings, string.length ≤ 65535

instance (strings : List Bytes) : Decidable (Fit strings) :=
  inferInstanceAs (Decidable (∀ string ∈ strings, string.length ≤ 65535))

theorem fit_cons {string : Bytes} {strings : List Bytes} :
    Fit (string :: strings) ↔ string.length ≤ maxShortString ∧ Fit strings :=
  List.forall_mem_cons

theorem writtenShortLength_of_fits {string : Bytes} (h : string.length ≤ maxShortString) :
    writtenShortLength string = .all (Bytes.bigEndian 2 string.length) :=
  writtenShortLength_eq_all_iff.mpr ⟨h, rfl⟩

theorem writtenShortLength_of_long {string : Bytes} (h : ¬ string.length ≤ maxShortString) :
    writtenShortLength string = .refused (.shortString string.length) := by
  rw [writtenShortLength, if_pos (Nat.lt_of_not_le h)]

theorem written_shortString_of_fits {string : Bytes} (h : string.length ≤ maxShortString) :
    written (ShortString.mk string) = .all string.prefixed := by
  show (writtenShortLength string).andThen (.all string) = _
  rw [writtenShortLength_of_fits h, Written.all_andThen_all, Bytes.prefixed]

theorem written_shortString_of_long {string : Bytes} (h : ¬ string.length ≤ maxShortString) :
    written (ShortString.mk string) = .refused (.shortString string.length) := by
  show (writtenShortLength string).andThen (.all string) = _
  rw [writtenShortLength_of_long h, Written.refused_andThen]

namespace Written

@[simp] theorem andThen_nil (written : Written) : written.andThen (.all []) = written := by
  obtain ⟨bytes, failure⟩ := written
  cases failure with
  | none => simp [andThen, all]
  | some oversize => rfl

@[simp] theorem nil_andThen (written : Written) : (all []).andThen written = written := rfl

/-- What is refused stays refused, whatever was written before. -/
theorem result_all_andThen (front : Bytes) {second : Written} {oversize : Oversize}
    (h : second.result = .error oversize) :
    ((all front).andThen second).result = .error oversize := by
  obtain ⟨bytes, failure⟩ := second
  cases failure with
  | none => cases h
  | some cause =>
    cases h
    rfl

/-- What is refused stays refused, whatever would come behind it. -/
theorem result_andThen_of_error {first : Written} {oversize : Oversize}
    (h : first.result = .error oversize) (second : Written) :
    (first.andThen second).result = .error oversize := by
  obtain ⟨bytes, failure⟩ := first
  cases failure with
  | none => cases h
  | some cause =>
    cases h
    rfl

end Written

/-- What writing some short strings in a row writes. -/
def writtenStrings : List Bytes → Written
  | [] => .all []
  | string :: strings => (written (ShortString.mk string)).andThen (writtenStrings strings)

theorem writtenStrings_of_fit {strings : List Bytes} (h : Fit strings) :
    writtenStrings strings = .all (strings.flatMap Bytes.prefixed) := by
  induction strings with
  | nil => rfl
  | cons string strings ih =>
    obtain ⟨hfits, hlater⟩ := fit_cons.mp h
    rw [writtenStrings, written_shortString_of_fits hfits, ih hlater, Written.all_andThen_all,
      List.flatMap_cons]

/-- **One string that is too long is one too many.** -/
theorem writtenStrings_of_long {strings : List Bytes} (h : ¬ Fit strings) :
    ∃ oversize, (writtenStrings strings).result = .error oversize := by
  induction strings with
  | nil => exact absurd (List.forall_mem_nil _) h
  | cons string strings ih =>
    by_cases hfits : string.length ≤ maxShortString
    · have hlater : ¬ Fit strings := fun hfit => h (fit_cons.mpr ⟨hfits, hfit⟩)
      obtain ⟨oversize, hoversize⟩ := ih hlater
      refine ⟨oversize, ?_⟩
      rw [writtenStrings, written_shortString_of_fits hfits]
      exact Written.result_all_andThen _ hoversize
    · refine ⟨.shortString string.length, ?_⟩
      rw [writtenStrings, written_shortString_of_long hfits, Written.refused_andThen]
      rfl

end Wire

/-! ## 2. Headers -/

namespace RequestHeader

/-- A header as it stands in a frame, around its two reserved bytes. -/
def layout (header : RequestHeader) (reserved : Bytes) : Bytes :=
  [header.opcode.code, header.userFlag.code] ++ (reserved ++
    (Bytes.bigEndian 2 header.username.bytes.length ++
      (Bytes.bigEndian 2 header.password.bytes.length ++
        (Bytes.bigEndian 4 header.session.toNat ++
          (header.username.bytes ++ header.password.bytes)))))

/-- The strings of a header. -/
def strings (header : RequestHeader) : List Bytes :=
  [header.username.bytes, header.password.bytes]

/-- **A header with short strings is written where it should stand**, its reserved bytes zero. -/
theorem written_of_fit {header : RequestHeader} (h : Fit header.strings) :
    written header = .all (header.layout [0, 0]) := by
  obtain ⟨husername, hpasswords⟩ := fit_cons.mp h
  obtain ⟨hpassword, -⟩ := fit_cons.mp hpasswords
  show (written header.opcode).andThen ((written header.userFlag).andThen
    ((written (0 : UInt16)).andThen ((writtenShortLength header.username.bytes).andThen
      ((writtenShortLength header.password.bytes).andThen ((written header.session).andThen
        ((Written.all header.username.bytes).andThen (.all header.password.bytes))))))) = _
  rw [writtenShortLength_of_fits husername, writtenShortLength_of_fits hpassword]
  rfl

/-- A header with a string that is too long is not written. -/
theorem refused_of_long {header : RequestHeader} (h : ¬ Fit header.strings) :
    ∃ oversize, (written header).result = .error oversize := by
  have hbehind : ∃ oversize, ((writtenShortLength header.username.bytes).andThen
      ((writtenShortLength header.password.bytes).andThen ((written header.session).andThen
        ((Written.all header.username.bytes).andThen (.all header.password.bytes))))).result =
          .error oversize := by
    by_cases husername : header.username.bytes.length ≤ maxShortString
    · have hpassword : ¬ header.password.bytes.length ≤ maxShortString := fun hfits =>
        h (fit_cons.mpr ⟨husername, fit_cons.mpr ⟨hfits, List.forall_mem_nil _⟩⟩)
      rw [writtenShortLength_of_fits husername, writtenShortLength_of_long hpassword,
        Written.refused_andThen]
      exact ⟨_, Written.result_all_andThen _ rfl⟩
    · rw [writtenShortLength_of_long husername, Written.refused_andThen]
      exact ⟨_, rfl⟩
  obtain ⟨oversize, hoversize⟩ := hbehind
  exact ⟨oversize, Written.result_all_andThen _ (Written.result_all_andThen _
    (Written.result_all_andThen _ hoversize))⟩

end RequestHeader

/-- A frame as it is sent: the header, the length of the payload in eight bytes, and the payload. -/
def RequestFrame.layout (frame : RequestFrame) (reserved : Bytes) : Bytes :=
  frame.header.layout reserved ++ (Bytes.bigEndian 8 frame.payload.length ++ frame.payload)

/-! ## 3. Payloads -/

/-- What stands behind a header: some codes, strings each behind its length, and bytes up to the
    end. -/
structure Layout where
  codes : Bytes
  strings : List Bytes
  rest : Bytes

namespace Layout

/-- The bytes of a layout. -/
def bytes (layout : Layout) : Bytes :=
  layout.codes ++ (layout.strings.flatMap Bytes.prefixed ++ layout.rest)

/-- What writing such a payload writes. -/
def written (layout : Layout) : Written :=
  (Written.all layout.codes).andThen
    ((writtenStrings layout.strings).andThen (.all layout.rest))

/-- **A payload with short strings is written where it should stand.** -/
theorem written_of_fits {layout : Layout} (h : Fit layout.strings) :
    layout.written = .all layout.bytes := by
  rw [written, writtenStrings_of_fit h, Written.all_andThen_all, Written.all_andThen_all, bytes]

theorem refused_of_long {layout : Layout} (h : ¬ Fit layout.strings) :
    ∃ oversize, layout.written.result = .error oversize := by
  obtain ⟨oversize, hoversize⟩ := writtenStrings_of_long h
  exact ⟨oversize, Written.result_all_andThen _ (Written.result_andThen_of_error hoversize _)⟩

end Layout

/-- The layout of a payload about an account: a password goes with a creation only. -/
def AccountPayload.layout (payload : AccountPayload) : Layout where
  codes := [payload.action.code, payload.permission.code]
  strings := payload.username.bytes :: (payload.sent.password.map ShortString.bytes).toList
  rest := []

theorem AccountPayload.written_eq_layout (payload : AccountPayload) :
    written payload = payload.layout.written := by
  have hpassword : (if payload.action = .createUser then written payload.password else .all []) =
      writtenStrings (payload.sent.password.map ShortString.bytes).toList := by
    obtain ⟨action, permission, username, password⟩ := payload
    by_cases hcreate : action = .createUser
    · cases password with
      | none => simp only [sent, if_pos hcreate]; rfl
      | some password =>
        simp only [sent, if_pos hcreate]
        exact (Written.andThen_nil (written password)).symm
    · simp only [sent, if_neg hcreate]
      rfl
  show (Written.all [payload.action.code]).andThen ((Written.all [payload.permission.code]).andThen
    ((written payload.username).andThen _)) = _
  rw [hpassword, ← Written.andThen_assoc, Written.all_andThen_all]
  exact congrArg _ (Written.andThen_nil _).symm

/-- The layout of a payload about a path: a file stands behind the path, its digest first. -/
def PathPayload.layout (payload : PathPayload) : Layout where
  codes := []
  strings := [payload.path.bytes]
  rest := payload.file.elim [] fun file => file.digest.bytes ++ file.content

theorem PathPayload.written_eq_layout (payload : PathPayload) :
    written payload = payload.layout.written := by
  obtain ⟨path, file⟩ := payload
  cases file with
  | none =>
    show (written path).andThen (.all []) =
      (Written.all []).andThen (((written path).andThen (.all [])).andThen (.all []))
    simp only [Written.nil_andThen, Written.andThen_nil]
  | some file =>
    show (written path).andThen ((Written.all file.digest.bytes).andThen (.all file.content)) =
      (Written.all []).andThen (((written path).andThen (.all [])).andThen
        (.all (file.digest.bytes ++ file.content)))
    rw [Written.all_andThen_all, Written.nil_andThen, Written.andThen_nil]

end RemoteFiles
