import RemoteFiles.Digest.Basic

/-!
# A digest does not depend on the pieces

`Digest.of` hashes contents piece by piece, and the hash holds back the bytes of a block that is not
full. `Sha256.hash` takes a message as a whole. This file proves them to give the same digest.

* `absorb_append` -- absorbing two strings of bytes one after the other is absorbing both;
* `Stream.Holds` -- the state of a stream says what message has come in, and every update keeps
  that (`Stream.Holds.update`);
* `Digest.bytes_ofPieces` -- so the digest is the hash of the message, whatever the pieces.
-/

namespace RemoteFiles

namespace Sha256

namespace Stream

/-! ## 1. Absorbing blocks -/

theorem absorb_of_lt {state : State} {bytes : Bytes} (h : bytes.length < 64) :
    absorb state bytes = (state, bytes) := by
  rw [absorb, if_pos (by rw [List.length_take]; omega)]

theorem absorb_of_le {state : State} {bytes : Bytes} (h : 64 ≤ bytes.length) :
    absorb state bytes = absorb (compress state (bytes.take 64)) (bytes.drop 64) := by
  rw [absorb, if_neg (by rw [List.length_take]; omega)]

/-- **What is absorbed in two steps is absorbed in one.** -/
theorem absorb_append (state : State) (first second : Bytes) :
    absorb state (first ++ second) =
      absorb (absorb state first).1 ((absorb state first).2 ++ second) := by
  fun_induction absorb state first with
  | case1 state first h => rfl
  | case2 state first h ih =>
    have hlong : 64 ≤ first.length := by
      rw [List.length_take] at h
      omega
    rw [← ih, absorb_of_le (by rw [List.length_append]; omega),
      List.take_append_of_le_length hlong, List.drop_append_of_le_length hlong]

/-- Whole blocks are absorbed one after the other, and nothing is held back. -/
theorem absorb_eq_foldl_chunks (state : State) (bytes : Bytes) (h : bytes.length % 64 = 0) :
    (absorb state bytes).1 = (Bytes.chunks 64 bytes).foldl compress state := by
  fun_induction absorb state bytes with
  | case1 state bytes hshort =>
    have hnil : bytes = [] := by
      rw [List.length_take] at hshort
      exact List.length_eq_zero_iff.mp (by omega)
    rw [hnil, Bytes.chunks, List.foldl_nil]
  | case2 state bytes hlong ih =>
    have hne : bytes ≠ [] := by
      rintro rfl
      exact absurd hlong (by decide)
    have hrest : (bytes.drop 64).length % 64 = 0 := by
      rw [List.length_drop]
      omega
    rw [ih hrest, Bytes.chunks_of_ne_nil (by decide) hne, List.foldl_cons]

/-! ## 2. Streams -/

/-- The stream has taken in the message: it stands where the message's full blocks lead, and holds
    back what comes after them. -/
structure Holds (s : Stream) (message : Bytes) : Prop where
  absorbed : absorb initial message = (s.state, s.pending)
  counted : s.length = message.length

theorem holds_empty : empty.Holds [] := ⟨absorb_of_lt (by decide), rfl⟩

/-- **An update adds its piece to the message.** -/
theorem Holds.update {s : Stream} {message : Bytes} (h : s.Holds message) (piece : Bytes) :
    (s.update piece).Holds (message ++ piece) where
  absorbed := by
    rw [absorb_append, h.absorbed]
    rfl
  counted := by
    rw [List.length_append, ← h.counted]
    rfl

/-- Pieces in a row add up. -/
theorem Holds.foldl_update {s : Stream} {message : Bytes} (h : s.Holds message)
    (pieces : List Bytes) : (pieces.foldl Stream.update s).Holds (message ++ pieces.flatten) := by
  induction pieces generalizing s message with
  | nil => rwa [List.flatten_nil, List.append_nil]
  | cons piece pieces ih =>
    rw [List.foldl_cons, List.flatten_cons, ← List.append_assoc]
    exact ih (h.update piece)

/-- **The end of a stream is the hash of its message.** -/
theorem Holds.finish {s : Stream} {message : Bytes} (h : s.Holds message) :
    s.finish = hash message := by
  have hfull : (message ++ padding message.length).length % 64 = 0 := by
    rw [List.length_append]
    exact length_padding message.length
  rw [hash, ← absorb_eq_foldl_chunks initial _ hfull, absorb_append, h.absorbed, ← h.counted]
  rfl

end Stream

end Sha256

namespace Digest

/-- **The digest is the SHA-256 of the contents**, whatever the size of the pieces. -/
theorem bytes_ofPieces (size : Nat) (content : Bytes) :
    (ofPieces size content).bytes = Sha256.hash content := by
  have h := Sha256.Stream.holds_empty.foldl_update (Bytes.chunks size content)
  rw [List.nil_append, Bytes.flatten_chunks] at h
  exact h.finish

theorem bytes_of (content : Bytes) : (of content).bytes = Sha256.hash content :=
  bytes_ofPieces pieceSize content

/-- **Verification compares with the SHA-256 of the contents.** -/
theorem verifies_iff_bytes {digest : Digest} {content : Bytes} :
    digest.verifies content = true ↔ digest.bytes = Sha256.hash content := by
  rw [verifies_iff, ← bytes_of]
  constructor
  · intro h
    rw [h]
  · intro h
    cases digest
    cases hof : of content
    rw [hof] at h
    cases h
    rfl

end Digest

end RemoteFiles
