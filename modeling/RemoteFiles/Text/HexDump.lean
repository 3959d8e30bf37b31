import RemoteFiles.Bytes

/-!
# Hex dumps

A dump shows bytes in rows of sixteen: the address of the row, the bytes in hexadecimal in groups
of four, and the bytes as characters. A heading gives their number, in decimal and in hexadecimal.
Rows are joined by line ends, and no line end follows the last one.
-/

namespace RemoteFiles

namespace HexDump

/-- How many bytes one row shows. -/
def rowSize : Nat := 16

/-- A number in lower-case hexadecimal, filled up with zeros to a width. -/
def paddedHex (width n : Nat) : List Char :=
  let digits := Nat.toDigits 16 n
  List.replicate (width - digits.length) '0' ++ digits

/-- The hexadecimal half of a row: each byte after a blank, a group of four after one more, and
    blanks for the bytes that a short row lacks. -/
def hexColumns (row : Bytes) : List Char :=
  (List.range rowSize).flatMap fun i =>
    (if i % 4 = 0 then [' ', ' '] else [' ']) ++
    (match row[i]? with
      | some b => Bytes.hexPair b
      | none => [' ', ' '])

/-- The character that stands for a byte: itself if it is printable ASCII, else a dot. -/
def charOf (b : UInt8) : Char :=
  if 0x20 ≤ b && b ≤ 0x7E then Char.ofNat b.toNat else '.'

/-- One row, at the address of its first byte. -/
def row (addressWidth address : Nat) (bytes : Bytes) : List Char :=
  paddedHex addressWidth address ++ [':', ' '] ++ hexColumns bytes ++ [' ', ' ', ' '] ++
    bytes.map charOf

/-- How many digits an address has: four, or six if the last row starts beyond `0xffff`. -/
def addressWidth (length : Nat) : Nat :=
  if (if length > rowSize then length - rowSize else length) > 0xFFFF then 6 else 4

/-- The rows in order, each with its address. -/
def rows (bytes : Bytes) : List (List Char) :=
  let width := addressWidth bytes.length
  (Bytes.chunks rowSize bytes).zipIdx.map fun (piece, i) => row width (i * rowSize) piece

/-- The heading: the number of bytes, in decimal and in hexadecimal. -/
def heading (length : Nat) : List Char :=
  "Length: ".toList ++ Nat.toDigits 10 length ++ " (0x".toList ++ Nat.toDigits 16 length ++
    ") bytes\n".toList

/-- The whole dump. -/
def render (bytes : Bytes) : String :=
  String.ofList (heading bytes.length ++ List.intercalate ['\n'] (rows bytes))

end HexDump

end RemoteFiles
