import RemoteFiles.Proofs.Exchange

/-!
# Lengths that are counted before they are written

A length stands before what it is the length of, so the bytes are counted in a run of the encoder
that writes none. `Form` lists the types that have a wire format, an optional value and a value
behind its length being two that are made of others. Counting and writing agree on all of them.

* `Form.lawful` -- by induction over the forms, no encoder can tell one sink from the other;
* `tellsRest_of_blob`, `tellsRest_of_frame` -- so the lengths that are written are those of what
  follows;
* `write_agrees` -- both, for any value and any target.
-/

namespace RemoteFiles

namespace Wire

/-! ## 1. Forms -/

/-- The types that have a wire format. -/
inductive Form where
  | uint8
  | uint16
  | uint32
  | uint64
  | array (length : Nat)
  | bytes
  | shortString
  | kind
  | permission
  | digest
  | emptyPayload
  | accountPayload
  | pathPayload
  | requestHeader
  | responseHeader
  | responseBody
  | optional (form : Form)
  | blob (form : Form)

namespace Form

/-- The values of a form. -/
def Value : Form → Type
  | uint8 => UInt8
  | uint16 => UInt16
  | uint32 => UInt32
  | uint64 => UInt64
  | array length => { bytes : Bytes // bytes.length = length }
  | bytes => Bytes
  | shortString => ShortString
  | kind => ActionKind
  | permission => Permission
  | digest => Digest
  | emptyPayload => EmptyPayload
  | accountPayload => AccountPayload
  | pathPayload => PathPayload
  | requestHeader => RequestHeader
  | responseHeader => ResponseHeader
  | responseBody => ResponseBody
  | optional form => Option form.Value
  | blob form => Blob form.Value

/-- How the values of a form are written. -/
instance writable : (form : Form) → Writable form.Value
  | uint8 => inferInstanceAs (Writable UInt8)
  | uint16 => inferInstanceAs (Writable UInt16)
  | uint32 => inferInstanceAs (Writable UInt32)
  | uint64 => inferInstanceAs (Writable UInt64)
  | array length => inferInstanceAs (Writable { bytes : Bytes // bytes.length = length })
  | bytes => inferInstanceAs (Writable Bytes)
  | shortString => inferInstanceAs (Writable ShortString)
  | kind => inferInstanceAs (Writable ActionKind)
  | permission => inferInstanceAs (Writable Permission)
  | digest => inferInstanceAs (Writable Digest)
  | emptyPayload => inferInstanceAs (Writable EmptyPayload)
  | accountPayload => inferInstanceAs (Writable AccountPayload)
  | pathPayload => inferInstanceAs (Writable PathPayload)
  | requestHeader => inferInstanceAs (Writable RequestHeader)
  | responseHeader => inferInstanceAs (Writable ResponseHeader)
  | responseBody => inferInstanceAs (Writable ResponseBody)
  | optional form => letI := form.writable; inferInstanceAs (Writable (Option form.Value))
  | blob form => letI := form.writable; inferInstanceAs (Writable (Blob form.Value))

/-- **Every form is written alike into every sink.** -/
instance lawful : (form : Form) → LawfulWritable form.Value
  | uint8 => inferInstanceAs (LawfulWritable UInt8)
  | uint16 => inferInstanceAs (LawfulWritable UInt16)
  | uint32 => inferInstanceAs (LawfulWritable UInt32)
  | uint64 => inferInstanceAs (LawfulWritable UInt64)
  | array length => inferInstanceAs (LawfulWritable { bytes : Bytes // bytes.length = length })
  | bytes => inferInstanceAs (LawfulWritable Bytes)
  | shortString => inferInstanceAs (LawfulWritable ShortString)
  | kind => inferInstanceAs (LawfulWritable ActionKind)
  | permission => inferInstanceAs (LawfulWritable Permission)
  | digest => inferInstanceAs (LawfulWritable Digest)
  | emptyPayload => inferInstanceAs (LawfulWritable EmptyPayload)
  | accountPayload => inferInstanceAs (LawfulWritable AccountPayload)
  | pathPayload => inferInstanceAs (LawfulWritable PathPayload)
  | requestHeader => inferInstanceAs (LawfulWritable RequestHeader)
  | responseHeader => inferInstanceAs (LawfulWritable ResponseHeader)
  | responseBody => inferInstanceAs (LawfulWritable ResponseBody)
  | optional form => letI := form.lawful; inferInstanceAs (LawfulWritable (Option form.Value))
  | blob form => letI := form.lawful; inferInstanceAs (LawfulWritable (Blob form.Value))

end Form

/-! ## 2. Counting and writing -/

/-- Counting the bytes of a value comes to what writing it behind a target does: it fails if and as
    the writing fails, and else it is the number of bytes that stand behind the target then. -/
structure Agrees {α : Type} [Writable α] (value : α) (target : Bytes) : Prop where
  failure : ∀ oversize,
    lengthOf value = .error oversize ↔ (write target value).1 = .error oversize
  success : ∀ length, lengthOf value = .ok length →
    ∃ bytes, bytes.length = length ∧ write target value = (.ok length, target ++ bytes)

/-- There are eight bytes at a place, and they tell how many bytes stand behind them. -/
def TellsRest (bytes : Bytes) (place : Nat) : Prop :=
  place + 8 ≤ bytes.length ∧
    Bytes.ofBigEndian ((bytes.drop place).take 8) = bytes.length - (place + 8)

section Runs

variable {α : Type} [Writable α] [LawfulWritable α]

theorem agrees (value : α) (target : Bytes) : Agrees value target where
  failure oversize := by rw [lengthOf_eq, write_eq]
  success length h := by
    rw [lengthOf_eq] at h
    cases hresult : (written value).result with
    | error oversize =>
      rw [hresult] at h
      cases h
    | ok bytes =>
      rw [hresult] at h
      cases h
      refine ⟨bytes, rfl, ?_⟩
      rw [write_eq, hresult, Written.result_eq_ok_iff.mp hresult]
      rfl

/-- A length of eight bytes, and as many bytes behind it. -/
theorem tellsRest_append (front bytes : Bytes) (h : bytes.length < UInt64.size) :
    TellsRest (front ++ (Bytes.bigEndian 8 bytes.length ++ bytes)) front.length := by
  have hprefix : (Bytes.bigEndian 8 bytes.length).length = 8 := Bytes.length_bigEndian 8 _
  have hvalue : Bytes.ofBigEndian (Bytes.bigEndian 8 bytes.length) = bytes.length := by
    rw [Bytes.ofBigEndian_bigEndian]
    exact Nat.mod_eq_of_lt h
  rw [TellsRest, List.drop_left, List.take_left' hprefix, hvalue]
  simp only [List.length_append, hprefix]
  omega

/-- **The length before a value is the number of its bytes.** -/
theorem tellsRest_of_blob {value : α} {target after : Bytes} {count : Nat}
    (h : write target (Blob.mk value) = (.ok count, after)) : TellsRest after target.length := by
  rw [write_eq] at h
  obtain ⟨hcount, rfl⟩ := Prod.mk.inj h
  cases hresult : (written (Blob.mk value)).result with
  | error oversize =>
    rw [hresult] at hcount
    cases hcount
  | ok frame =>
    have hframe := Written.result_eq_ok_iff.mp hresult
    obtain ⟨bytes, -, hfits, rfl⟩ := written_blob_eq_all_iff.mp hframe
    rw [hframe]
    exact tellsRest_append target bytes hfits

end Runs

/-- **The length in the header of a response is the number of bytes behind it.** -/
theorem tellsRest_of_frame {code : UInt8} {session : UInt32} {body : ResponseBody} {frame : Bytes}
    (h : body.frame code session = .ok frame) (hfits : frame.length < UInt64.size) :
    TellsRest frame 6 := by
  rw [ResponseBody.frame_eq] at h
  split_ifs at h with hlong
  cases h
  have hsize : body.bytes.length < UInt64.size :=
    Nat.lt_of_le_of_lt (by simp) hfits
  have hlength : (UInt64.ofNat body.size).toNat = body.bytes.length := by
    rw [← body.length_bytes]
    exact UInt64.toNat_ofNat_of_lt' hsize
  have hsplit : (ResponseHeader.mk code 0 session (UInt64.ofNat body.size)).bytes ++ body.bytes =
      ([code, 0] ++ Bytes.bigEndian 4 session.toNat) ++
        (Bytes.bigEndian 8 body.bytes.length ++ body.bytes) := by
    rw [ResponseHeader.bytes, hlength]
    simp
  rw [hsplit]
  exact tellsRest_append _ _ hsize

/-- **Counting and writing agree.** Whatever is to be written behind whatever target, its bytes are
    counted without a failure exactly if it is written without one, the failure is the same, the
    target stays as it is, and the count is the number of bytes that come behind it. So a length that
    is written before a value is the number of bytes that follow, and so is the length in the header
    of a response, as no memory holds `2 ^ 64` bytes of it. -/
theorem write_agrees (form : Form) (value : form.Value) (target : Bytes) :
    Agrees value target ∧
      (∀ count after, write target (Blob.mk value) = (.ok count, after) →
        TellsRest after target.length) ∧
      ∀ code session (body : ResponseBody) frame, body.frame code session = .ok frame →
        frame.length < UInt64.size → TellsRest frame 6 :=
  ⟨agrees value target, fun _ _ h => tellsRest_of_blob h, fun _ _ _ _ h hfits =>
    tellsRest_of_frame h hfits⟩

end Wire

end RemoteFiles
