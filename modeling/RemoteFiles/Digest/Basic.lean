import RemoteFiles.Digest.Sha256

/-!
# Digests of file contents

An upload carries the SHA-256 of the file, and a download is checked against the SHA-256 that the
server sends. Contents are hashed in pieces of `Digest.pieceSize` bytes; the size of the pieces has
no influence on the digest.

* `Sha256.Stream` -- a message that arrives piece by piece. Every block is hashed as soon as it is
  full, and the bytes of the block that is not are held back, fewer than 64 of them; the end of the
  message adds the padding;
* `Digest` -- the digest of contents, and whether contents have it.
-/

namespace RemoteFiles

/-! ## 1. Messages in pieces -/

namespace Sha256

/-- A message of which some pieces have been hashed. -/
structure Stream where
  /-- The state after the full blocks. -/
  state : State
  /-- The bytes after the last full block. -/
  pending : Bytes
  /-- How many bytes have come in. -/
  length : Nat
  deriving DecidableEq, Repr

namespace Stream

/-- A message of which nothing has come in. -/
def empty : Stream := ⟨initial, [], 0⟩

/-- Hashes the full blocks at the front, and answers the bytes after them too. -/
def absorb (state : State) (bytes : Bytes) : State × Bytes :=
  if (bytes.take 64).length < 64 then (state, bytes)
  else absorb (compress state (bytes.take 64)) (bytes.drop 64)
  termination_by bytes.length
  decreasing_by simp_all; omega

/-- Takes the next piece of the message. -/
def update (s : Stream) (piece : Bytes) : Stream :=
  let (state, pending) := absorb s.state (s.pending ++ piece)
  ⟨state, pending, s.length + piece.length⟩

/-- The digest of the message that has come in. -/
def finish (s : Stream) : Bytes :=
  (absorb s.state (s.pending ++ padding s.length)).1.bytes

@[simp] theorem length_finish (s : Stream) : s.finish.length = 32 :=
  State.length_bytes _

end Stream

end Sha256

/-! ## 2. Digests -/

/-- How many bytes a digest has. -/
abbrev Digest.size : Nat := 32

/-- A SHA-256 digest. -/
structure Digest where
  bytes : Bytes
  length_eq : bytes.length = Digest.size
  deriving DecidableEq

namespace Digest

/-- The size of the pieces that contents are hashed in. -/
def pieceSize : Nat := 1024

/-- The digest of contents that are hashed `size` bytes at a time, a size of zero counting as
    one. -/
def ofPieces (size : Nat) (content : Bytes) : Digest :=
  ⟨((Bytes.chunks size content).foldl Sha256.Stream.update Sha256.Stream.empty).finish,
    Sha256.Stream.length_finish _⟩

/-- The digest of contents. -/
def of (content : Bytes) : Digest :=
  ofPieces pieceSize content

/-- The contents have this digest. -/
def verifies (digest : Digest) (content : Bytes) : Bool :=
  of content == digest

theorem verifies_iff {digest : Digest} {content : Bytes} :
    digest.verifies content = true ↔ of content = digest := by
  simp [verifies]

end Digest

end RemoteFiles
