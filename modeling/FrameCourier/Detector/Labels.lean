import FrameCourier.Document.Ascii
import FrameCourier.Picture.Canvas
import FrameCourier.System
import FrameCourier.Text.Blank

/-!
# Class labels

A labels file names the classes of a model in the order of their numbers, one
`label,red,green,blue` on a line.  Blank lines do not count.  Lines end in a line feed, or
in a carriage return and a line feed.  The first line that is wrong, be it in its bytes or
in its fields, decides how the file is wrong.
-/

namespace FrameCourier

open Picture

/-- A class: its name, and the color of its boxes. -/
structure ColorLabel where
  label : String
  color : Color
  deriving DecidableEq, Repr

/-- The channels of a color, in the order in which they are read. -/
inductive Channel where
  | red
  | green
  | blue
  deriving DecidableEq, Repr

def Channel.name : Channel → String
  | red => "red"
  | green => "green"
  | blue => "blue"

/-- Why a file is not a labels file. -/
inductive LabelsFault where
  | unreadable (fault : SystemFault)
  | notText
  | malformedLine (line : String)
  | badChannel (channel : Channel)
  deriving DecidableEq, Repr

/-- Whether the file can be read, but what it holds is wrong. -/
def LabelsFault.isInvalidData : LabelsFault → Bool
  | unreadable _ => false
  | notText => true
  | malformedLine _ => true
  | badChannel _ => true

def LabelsFault.message : LabelsFault → String
  | unreadable fault => fault.message
  | notText => "stream did not contain valid UTF-8"
  | malformedLine line => "Invalid line format: " ++ line
  | badChannel channel => "Invalid " ++ channel.name ++ " value"

namespace ColorLabel

/-- The lines among the pieces between line feeds.  The last piece is a line unless it is
empty, and no line feed ends it, so it keeps a carriage return. -/
def linesOf : List Bytes → List Bytes
  | [] => []
  | [last] => if last.isEmpty then [] else [last]
  | line :: rest =>
    (if line.getLast? = some 0x0D then line.dropLast else line) :: linesOf rest

/-- The lines of a file. -/
def lines (content : Bytes) : List Bytes := linesOf (content.splitOn 0x0A)

/-- Reads a channel: decimal digits, a plus sign before them if there is one, of a value up
to 255. -/
def readChannel (channel : Channel) (field : List Char) : Except LabelsFault UInt8 :=
  let digits := match Text.trim field with
    | '+' :: rest => rest
    | digits => digits
  let value := digits.foldl (fun value d => value * 10 + (d.toNat - '0'.toNat)) 0
  if digits.isEmpty || !digits.all Char.isDigit || 255 < value then .error (.badChannel channel)
  else .ok (UInt8.ofNat value)

/-- Reads a line that is not blank. -/
def readFields (line : List Char) : Except LabelsFault ColorLabel :=
  match line.splitOn ',' with
  | [label, red, green, blue] => do
    let red ← readChannel .red red
    let green ← readChannel .green green
    let blue ← readChannel .blue blue
    return ⟨String.ofList (Text.trim label), ⟨red, green, blue⟩⟩
  | _ => .error (.malformedLine (String.ofList line))

/-- Reads a line; a blank one has no label. -/
def readLine (line : Bytes) : Except LabelsFault (Option ColorLabel) :=
  match Bytes.text? line with
  | none => .error .notText
  | some text =>
    if (Text.trim text.toList).isEmpty then .ok none
    else (readFields text.toList).map some

/-- Reads lines, the first first. -/
def readLines : List Bytes → Except LabelsFault (List ColorLabel)
  | [] => .ok []
  | line :: rest => do
    let label ← readLine line
    let labels ← readLines rest
    return label.toList ++ labels

/-- Reads a labels file. -/
def read (content : Bytes) : Except LabelsFault (List ColorLabel) := readLines (lines content)

end ColorLabel

end FrameCourier
