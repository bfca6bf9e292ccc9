import FrameCourier.Document.Value
import FrameCourier.Number.Decimal

/-!
# Writing documents

`compact` writes a document without blanks; `pretty` puts every item and member on a line
of its own, two blanks deeper than the brackets around it.  Both write members in the
order in which they are kept.  Within a text only the quote, the backslash and the control
characters are escaped.
-/

namespace FrameCourier.Document

open Ascii

/-- A byte of a text as it is written between quotes. -/
def escapedByte (b : UInt8) : Bytes :=
  if b = quote then [backslash, quote]
  else if b = backslash then [backslash, backslash]
  else if b = backspace then [backslash, lowerB]
  else if b = tab then [backslash, lowerT]
  else if b = lineFeed then [backslash, lowerN]
  else if b = formFeed then [backslash, lowerF]
  else if b = carriageReturn then [backslash, lowerR]
  else if b < space then
    [backslash, lowerU, zero, zero, hexDigit (b.toNat / 16), hexDigit (b.toNat % 16)]
  else [b]

/-- A text between quotes. -/
def textLiteral (s : String) : Bytes :=
  quote :: ((Bytes.ofText s).flatMap escapedByte ++ [quote])

/-- The numeral of a number; one that is not finite has none and is written as null. -/
def numberLiteral : Numeral → Bytes
  | .integer n => Bytes.ofText (toString n)
  | .real x => Bytes.ofText (x.text .document)

/-- Joins written parts, with a separator between any two. -/
def joined (separator : Bytes) : List Bytes → Bytes
  | [] => []
  | [part] => part
  | part :: rest => part ++ separator ++ joined separator rest

mutual

/-- A document without blanks. -/
def compact : Document → Bytes
  | .null => Bytes.ofText "null"
  | .boolean true => Bytes.ofText "true"
  | .boolean false => Bytes.ofText "false"
  | .number n => numberLiteral n
  | .text s => textLiteral s
  | .list xs => openBracket :: joined [comma] (compactItems xs) ++ [closeBracket]
  | .object ms => openBrace :: joined [comma] (compactMembers ms) ++ [closeBrace]

def compactItems : List Document → List Bytes
  | [] => []
  | x :: xs => compact x :: compactItems xs

def compactMembers : List (String × Document) → List Bytes
  | [] => []
  | (name, x) :: ms => (textLiteral name ++ colon :: compact x) :: compactMembers ms

end

/-- A line break and the blanks before the next line. -/
def lineBreak (depth : Nat) : Bytes := lineFeed :: List.replicate (2 * depth) space

mutual

/-- A document over several lines, inside `depth` lists and objects. -/
def prettyAt (depth : Nat) : Document → Bytes
  | .null => Bytes.ofText "null"
  | .boolean true => Bytes.ofText "true"
  | .boolean false => Bytes.ofText "false"
  | .number n => numberLiteral n
  | .text s => textLiteral s
  | .list [] => [openBracket, closeBracket]
  | .list xs =>
    openBracket :: lineBreak (depth + 1) ++
      joined (comma :: lineBreak (depth + 1)) (prettyItems (depth + 1) xs) ++
      lineBreak depth ++ [closeBracket]
  | .object [] => [openBrace, closeBrace]
  | .object ms =>
    openBrace :: lineBreak (depth + 1) ++
      joined (comma :: lineBreak (depth + 1)) (prettyMembers (depth + 1) ms) ++
      lineBreak depth ++ [closeBrace]

def prettyItems (depth : Nat) : List Document → List Bytes
  | [] => []
  | x :: xs => prettyAt depth x :: prettyItems depth xs

def prettyMembers (depth : Nat) : List (String × Document) → List Bytes
  | [] => []
  | (name, x) :: ms =>
    (textLiteral name ++ [colon, space] ++ prettyAt depth x) :: prettyMembers depth ms

end

/-- A document over several lines. -/
def pretty (document : Document) : Bytes := prettyAt 0 document

end FrameCourier.Document
