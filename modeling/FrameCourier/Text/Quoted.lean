import FrameCourier.Text.Unprintable
import FrameCourier.Text.Utf8

/-!
# Quoted text

Messages show file names and texts between double quotes.  A quote and a backslash get a
backslash before them, a few controls have a letter, and every other character without a
glyph of its own is written as its code point.  Paths are bytes that need not be a text: a byte
that belongs to no character is written as a number.
-/

namespace FrameCourier.Text

/-- A character as it stands between the quotes. -/
def quotedChar (c : Char) : List Char :=
  if c = '"' then ['\\', '"']
  else if c = '\\' then ['\\', '\\']
  else if c = '\n' then ['\\', 'n']
  else if c = '\r' then ['\\', 'r']
  else if c = '\t' then ['\\', 't']
  else if c.toNat = 0 then ['\\', '0']
  else if isUnprintable c then
    ['\\', 'u', '\x7b'] ++ Nat.toDigits 16 c.toNat ++ ['\x7d']
  else [c]

/-- The text between double quotes. -/
def quoted (s : String) : String :=
  "\"" ++ String.ofList (s.toList.flatMap quotedChar) ++ "\""

/-- A byte that belongs to no character, as it stands between the quotes. -/
def quotedByte (b : UInt8) : List Char :=
  let digit := fun n : Nat => (Nat.digitChar n).toUpper
  ['\\', 'x', digit (b.toNat / 16), digit (b.toNat % 16)]

/-- Bytes as they stand between the quotes, but for the first `skipped` of them. -/
def quotedFrom (skipped : Nat) : Bytes → List Char
  | [] => []
  | b :: rest =>
    match skipped with
    | skipped + 1 => quotedFrom skipped rest
    | 0 =>
      match character? b rest with
      | some (c, behind) => quotedChar c ++ quotedFrom (rest.length - behind.length) rest
      | none => quotedByte b ++ quotedFrom 0 rest

/-- A path between double quotes. -/
def quotedPath (path : Bytes) : String := "\"" ++ String.ofList (quotedFrom 0 path) ++ "\""

end FrameCourier.Text
