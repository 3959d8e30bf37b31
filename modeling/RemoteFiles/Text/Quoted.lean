import RemoteFiles.Text.Printable
import RemoteFiles.Text.Utf8

/-!
# Quoted text

Diagnostics show a text between double quotes, in one line, so that nothing in it can be taken for
the line around it. Two rules are in use:

* `quote` shows what a reader can see as it is and writes the rest by number (`Text.isPlain`);
* `escapeAscii` keeps printable ASCII only, and escapes the single quote too.

`quoteBytes` is `quote` for bytes that should be text: a byte of a broken part is written `\xNN`.
-/

namespace RemoteFiles

namespace Text

/-- A code point in lower-case hexadecimal, without leading zeros. -/
def hexNumber (n : Nat) : List Char :=
  Nat.toDigits 16 n

/-- A character by number: `\u`, and the code point in braces. -/
def byNumber (c : Char) : List Char :=
  ['\\', 'u', '\x7b'] ++ hexNumber c.toNat ++ ['\x7d']

/-! ## 1. Visible characters as they are -/

/-- How `quote` writes one character. -/
def quoteChar (c : Char) : List Char :=
  if c = '"' then ['\\', '"']
  else if c = '\\' then ['\\', '\\']
  else if c = '\n' then ['\\', 'n']
  else if c = '\r' then ['\\', 'r']
  else if c = '\t' then ['\\', 't']
  else if c = '\x00' then ['\\', '0']
  else if isPlain c then [c]
  else byNumber c

/-- The text between double quotes. -/
def quote (text : String) : String :=
  String.ofList ('"' :: text.toList.flatMap quoteChar ++ ['"'])

/-- A byte as `\x` and two upper-case hexadecimal digits. -/
def byteByNumber (b : UInt8) : List Char :=
  ['\\', 'x'] ++ (Bytes.hexPair b).map Char.toUpper

/-- How `quoteBytes` writes one piece. -/
def quotePiece : Utf8.Piece → List Char
  | .scalar c => quoteChar c
  | .broken bytes => bytes.flatMap byteByNumber

/-- Bytes that should be text between double quotes. -/
def quoteBytes (bytes : Bytes) : String :=
  String.ofList ('"' :: (Utf8.pieces bytes).flatMap quotePiece ++ ['"'])

/-! What cannot be seen is written by number, and a broken byte as a byte. -/

example : quote "a\"\tü\u200b" = "\"a\\\"\\tü\\u\x7b200b\x7d\"" := by decide +kernel
example : quoteBytes [0x61, 0xff] = "\"a\\xFF\"" := by decide +kernel

/-! ## 2. Printable ASCII only -/

/-- How `escapeAscii` writes one character. -/
def escapeAsciiChar (c : Char) : List Char :=
  if c = '\t' then ['\\', 't']
  else if c = '\r' then ['\\', 'r']
  else if c = '\n' then ['\\', 'n']
  else if c = '\'' then ['\\', '\'']
  else if c = '"' then ['\\', '"']
  else if c = '\\' then ['\\', '\\']
  else if 0x20 ≤ c.toNat && c.toNat ≤ 0x7E then [c]
  else byNumber c

/-- The text in printable ASCII. -/
def escapeAscii (text : String) : String :=
  String.ofList (text.toList.flatMap escapeAsciiChar)

end Text

end RemoteFiles
