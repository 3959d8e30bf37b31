import RemoteFiles.Failure
import RemoteFiles.Response.Basic

/-!
# Cutting responses out of a stream

A connection delivers bytes in pieces that have nothing to do with the frames in them. A frame is
read in two steps: a header, and then as many bytes as the header promises. Nothing behind the
frame is taken.

* `Source.take` -- so many bytes, across the pieces;
* `Source.readFrame` -- the next frame.
-/

namespace RemoteFiles

/-- The pieces that a connection is still to deliver. None of them is empty. -/
abbrev Source := List Bytes

namespace Source

/-- The next `n` bytes, or all there are if there are fewer, and what is left after them. -/
def take : Nat → Source → Bytes × Source
  | _, [] => ([], [])
  | n, piece :: later =>
    if n = 0 then ([], piece :: later)
    else if piece.length ≤ n then
      let (bytes, left) := take (n - piece.length) later
      (piece ++ bytes, left)
    else (piece.take n, piece.drop n :: later)

/-- Why no frame could be read. -/
inductive Fault where
  | headerCutShort
  | rejected (cause : Rejection)
  | truncated (received expected : Nat)
  deriving DecidableEq, Repr

/-- What the user is told about it. -/
def Fault.toFailure : Fault → Failure
  | headerCutShort => .headerCutShort
  | rejected cause => .request cause.toError
  | truncated received expected => .truncated received expected

/-- What the log says about it. -/
def Fault.notice : Fault → Log
  | rejected cause => cause.notice
  | _ => []

/-- The next frame, and what is left of the source. -/
def readFrame (source : Source) : Except Fault Bytes × Source :=
  let (header, source) := source.take ResponseHeader.length
  if header.length < ResponseHeader.length then (.error .headerCutShort, source)
  else
    match expectedLength header with
    | .error rejection => (.error (.rejected rejection), source)
    | .ok total =>
      let (body, source) := source.take (total - ResponseHeader.length)
      let frame := header ++ body
      if frame.length = total then (.ok frame, source)
      else (.error (.truncated frame.length total), source)

/-- What the log says about a reading. -/
def readingNotice : Except Fault Bytes → Log
  | .ok frame => [⟨.trace, "received " ++ frame.length.repr ++ " bytes"⟩]
  | .error fault => fault.notice

/-- The next frame, told to the log. -/
def receive {ε : Type} (source : Source) : ClientM ε (Except Failure Bytes × Source) := do
  let (result, source) := source.readFrame
  ClientM.tell (readingNotice result)
  return (result.mapError Fault.toFailure, source)

end Source

end RemoteFiles
