import RemoteFiles.Error
import RemoteFiles.Log
import RemoteFiles.Text.HexDump

/-!
# Writing the wire format

All numbers are written most significant byte first, and what has no fixed length is written behind
its length. An encoder does not know where its bytes go: a `Sink` takes them. There are two sinks.

* `Writer` appends the bytes to a target and counts them;
* `Tally` counts them only; the length prefix of a `Blob` comes from a run into a tally.

An encoder fails with `Oversize` when a value does not fit its length prefix; what it has written
before that stays in the sink.
-/

namespace RemoteFiles

namespace Wire

/-! ## 1. Failures -/

/-- What does not fit its length prefix, with its length. -/
inductive Oversize where
  | shortString (length : Nat)
  | message (length : Nat)
  | blob (length : Nat)
  deriving DecidableEq, Repr

/-- Whatever does not fit, there is no room for it. -/
def Oversize.toError (_ : Oversize) : Error := .noRoom

/-- What the log says about it. -/
def Oversize.notice : Oversize → Log
  | shortString length =>
    [⟨.trace, length.repr ++ " bytes can't be framed with a u16 length"⟩]
  | message _ | blob _ => []

/-! ## 2. Sinks -/

/-- Where an encoder's bytes go. -/
class Sink (σ : Type) where
  /-- Takes the next bytes. -/
  push : Bytes → σ → σ

/-- Bytes that are appended to a target. -/
structure Writer where
  target : Bytes
  /-- How many bytes have been appended. -/
  written : Nat
  deriving DecidableEq, Repr

/-- Bytes that are counted. -/
structure Tally where
  count : Nat
  deriving DecidableEq, Repr

instance : Sink Writer := ⟨fun bytes w => ⟨w.target ++ bytes, w.written + bytes.length⟩⟩

instance : Sink Tally := ⟨fun bytes t => ⟨t.count + bytes.length⟩⟩

/-! ## 3. Encoders -/

/-- A step of an encoder. -/
abbrev Encoder (σ : Type) := EStateM Oversize σ

/-- Writes bytes as they are. -/
def push {σ : Type} [Sink σ] (bytes : Bytes) : Encoder σ Unit :=
  modify (Sink.push bytes)

/-- Values that have a wire format. -/
class Writable (α : Type) where
  /-- Writes a value. -/
  encode {σ : Type} [Sink σ] : α → Encoder σ Unit

export Writable (encode)

/-- The number of bytes that a value takes on the wire. -/
def lengthOf {α : Type} [Writable α] (value : α) : Except Oversize Nat :=
  match encode value (Tally.mk 0) with
  | .ok _ tally => .ok tally.count
  | .error oversize _ => .error oversize

/-- Appends a value to a target. Answers the number of bytes appended, or the failure, and the
    target as it is then. -/
def write {α : Type} [Writable α] (target : Bytes) (value : α) : Except Oversize Nat × Bytes :=
  match encode value (Writer.mk target 0) with
  | .ok _ writer => (.ok writer.written, writer.target)
  | .error oversize writer => (.error oversize, writer.target)

/-- The wire format of a value by itself. -/
def bytesOf {α : Type} [Writable α] (value : α) : Except Oversize Bytes :=
  match write [] value with
  | (.ok _, bytes) => .ok bytes
  | (.error oversize, _) => .error oversize

/-! ## 4. Values -/

instance : Writable UInt8 := ⟨fun n => push [n]⟩
instance : Writable UInt16 := ⟨fun n => push (Bytes.bigEndian 2 n.toNat)⟩
instance : Writable UInt32 := ⟨fun n => push (Bytes.bigEndian 4 n.toNat)⟩
instance : Writable UInt64 := ⟨fun n => push (Bytes.bigEndian 8 n.toNat)⟩

/-- Bytes without a length prefix. -/
instance : Writable Bytes := ⟨push⟩

/-- Nor is there one where the length is fixed. -/
instance {n : Nat} : Writable { bytes : Bytes // bytes.length = n } := ⟨fun bytes => push bytes.val⟩

instance {α : Type} [Writable α] : Writable (Option α) where
  encode
    | some value => encode value
    | none => pure ()

/-- The longest string behind a prefix of two bytes. -/
def maxShortString : Nat := 65535

/-- Bytes behind a length of two bytes: names, passwords, and paths inside a payload. -/
structure ShortString where
  bytes : Bytes
  deriving DecidableEq, Repr

namespace ShortString

/-- The short string that holds a text. -/
def ofString (text : String) : ShortString := ⟨Utf8.encode text⟩

/-- The text that a short string holds. -/
def text (s : ShortString) : Except Error String :=
  match Utf8.decode? s.bytes with
  | some text => .ok text
  | none => .error .badString

end ShortString

/-- The length prefix of a short string. -/
def shortLength (bytes : Bytes) : Except Oversize UInt16 :=
  if maxShortString < bytes.length then .error (.shortString bytes.length)
  else .ok (UInt16.ofNat bytes.length)

/-- Writes the length prefix of a short string. -/
def pushShortLength {σ : Type} [Sink σ] (bytes : Bytes) : Encoder σ Unit :=
  match shortLength bytes with
  | .ok length => encode length
  | .error oversize => throw oversize

instance : Writable ShortString where
  encode s := do
    pushShortLength s.bytes
    push s.bytes

/-- A value behind its length in eight bytes, such as the payload of a request. -/
structure Blob (α : Type) where
  content : α
  deriving DecidableEq, Repr

instance {α : Type} [Writable α] : Writable (Blob α) where
  encode blob :=
    match lengthOf blob.content with
    | .ok length =>
      if length < UInt64.size then do
        encode (UInt64.ofNat length)
        encode blob.content
      else throw (.blob length)
    | .error oversize => throw oversize

/-! ## 5. Diagnostic forms -/

/-- A short string shows its text, or a dump of its bytes if they are no text. -/
instance : Inspect ShortString where
  inspect s :=
    match Utf8.decode? s.bytes with
    | some text => Inspect.tuple "ShortString" ["\"" ++ Text.escapeAscii text ++ "\""]
    | none => Inspect.tuple "ShortString" ["not utf8!", HexDump.render s.bytes]

/-- A blob shows its length, or a question mark if its content cannot be written. -/
instance {α : Type} [Writable α] [Inspect α] : Inspect (Blob α) where
  inspect blob :=
    let length :=
      match lengthOf blob.content with
      | .ok length => length.repr
      | .error _ => "?"
    Inspect.tuple "Blob" ["len=" ++ length, inspect blob.content]

end Wire

end RemoteFiles
