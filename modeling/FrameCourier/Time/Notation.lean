import FrameCourier.Number.Width
import FrameCourier.Text.Blank
import FrameCourier.Time.Instant

/-!
# Reading times

Two notations of a date and a time with an offset are read.  The strict one has a fixed
number of digits at every place.  The relaxed one allows blanks before numbers and
separators, fewer digits, a signed year of any length, the letters `UTC`, and an offset
without a colon.

In both, a second of 60 is a leap second, and digits of the fraction beyond the ninth are
dropped.
-/

namespace FrameCourier.Time

/-- Why a text is not a time. -/
inductive Fault where
  | outOfRange
  | impossible
  | invalid
  | tooShort
  | tooLong
  deriving DecidableEq, Repr

def Fault.message : Fault → String
  | outOfRange => "input is out of range"
  | impossible => "no possible date and time matching input"
  | invalid => "input contains invalid characters"
  | tooShort => "premature end of input"
  | tooLong => "trailing input"

/-- A value and the characters after it. -/
abbrev Reading (α : Type) := Except Fault (α × List Char)

/-- The value of a run of digits. -/
def digitsValue (digits : List Char) : Nat :=
  digits.foldl (fun n c => n * 10 + (c.toNat - '0'.toNat)) 0

/-- At least one digit, and at most `width`. -/
def digitsUpTo (width : Nat) (cs : List Char) : Reading Nat :=
  match (cs.take width).takeWhile Char.isDigit with
  | [] => if cs.isEmpty then .error .tooShort else .error .invalid
  | digits => .ok (digitsValue digits, cs.drop digits.length)

/-- As many digits as `width` says. -/
def digitsExactly (width : Nat) (cs : List Char) : Reading Nat :=
  if cs.length < width then .error .tooShort
  else if (cs.take width).all Char.isDigit then .ok (digitsValue (cs.take width), cs.drop width)
  else .error .invalid

/-- A fixed character. -/
def character (c : Char) : List Char → Except Fault (List Char)
  | [] => .error .tooShort
  | d :: cs => if c = d then .ok cs else .error .invalid

/-- A number from `low` to `high`. -/
def within (low high : Nat) (n : Nat) : Except Fault Nat :=
  if low ≤ n && n ≤ high then .ok n else .error .outOfRange

/-- The character between date and time. -/
def dateEnd : List Char → Except Fault (List Char)
  | [] => .error .tooShort
  | c :: cs => if c = 'T' || c = 't' || c = ' ' then .ok cs else .error .invalid

/-- A fraction of a second in nanoseconds, if there is one. -/
def fraction : List Char → Except Fault (Nat × List Char)
  | '.' :: cs => do
    let digits := (cs.takeWhile Char.isDigit).take 9
    let (n, _) ← digitsUpTo 9 cs
    return (n * Number.tenTo (9 - digits.length), cs.dropWhile Char.isDigit)
  | cs => .ok (0, cs)

/-- Whether an offset is negative: the sign before it. -/
def offsetSign : List Char → Reading Bool
  | [] => .error .tooShort
  | '+' :: cs => .ok (false, cs)
  | '-' :: cs => .ok (true, cs)
  | c :: cs => if c.toNat = 0x2212 then .ok (true, cs) else .error .invalid

/-- The next two characters; one alone is taken for two if it is not of ASCII. -/
def twoCharacters : List Char → Except Fault (Char × Char)
  | [] => .error .tooShort
  | [c] => if c.utf8Size = 1 then .error .tooShort else .error .invalid
  | c :: d :: _ => .ok (c, d)

/-- The minutes of an offset. -/
def offsetMinutes (cs : List Char) : Except Fault Nat := do
  let (c, d) ← twoCharacters cs
  if !c.isDigit || !d.isDigit then throw .invalid
  if '6' ≤ c then throw .outOfRange
  return digitsValue [c, d]

/-- An offset from universal time in seconds: a letter for none, or hours and minutes with
`separator` between them. -/
def offset (separator : List Char → Except Fault (List Char)) (cs : List Char) :
    Except Fault (Int × List Char) := do
  match cs with
  | 'Z' :: cs => return (0, cs)
  | 'z' :: cs => return (0, cs)
  | cs =>
    let (negative, cs) ← offsetSign cs
    let (c, d) ← twoCharacters cs
    if !c.isDigit || !d.isDigit then throw .invalid
    let cs ← separator (cs.drop 2)
    let minutes ← offsetMinutes cs
    let seconds : Int := digitsValue [c, d] * 3600 + minutes * 60
    return (if negative then -seconds else seconds, cs.drop 2)

/-- What a notation says of a time. -/
structure Parts where
  year : Int
  month : Nat
  day : Nat
  hour : Nat
  minute : Nat
  second : Nat
  nanosecond : Nat
  offset : Int
  deriving DecidableEq, Repr

/-- The instant with the given parts. -/
def Parts.toInstant (parts : Parts) : Except Fault Instant :=
  let date : Date := ⟨parts.year, parts.month, parts.day⟩
  if parts.year < -262143 || 262142 < parts.year || !date.isValid then .error .outOfRange
  else if parts.offset ≤ -secondsPerDay || secondsPerDay ≤ parts.offset then .error .outOfRange
  else
    let leap := parts.second = 60
    let seconds := date.toDays * secondsPerDay + parts.hour * 3600 + parts.minute * 60 +
      (if leap then 59 else parts.second) - parts.offset
    match Instant.make? seconds (parts.nanosecond + if leap then nanosecondsPerSecond else 0) with
    | some t => .ok t
    | none => .error .impossible

/-- Reads a time in the strict notation. -/
def readStrict (text : String) : Except Fault Instant := do
  let (year, cs) ← digitsExactly 4 text.toList
  let (month, cs) ← digitsExactly 2 (← character '-' cs)
  let month ← within 1 12 month
  let (day, cs) ← digitsExactly 2 (← character '-' cs)
  let day ← within 1 31 day
  let (hour, cs) ← digitsExactly 2 (← dateEnd cs)
  let hour ← within 0 23 hour
  let (minute, cs) ← digitsExactly 2 (← character ':' cs)
  let minute ← within 0 59 minute
  let (second, cs) ← digitsExactly 2 (← character ':' cs)
  let second ← within 0 60 second
  let (nanosecond, cs) ← fraction cs
  let (offset, cs) ← offset (character ':') cs
  if !cs.isEmpty then throw .tooLong
  Parts.toInstant ⟨year, month, day, hour, minute, second, nanosecond, offset⟩

/-- A year in the relaxed notation: four digits at most, or a sign and any number of them. -/
def relaxedYear (cs : List Char) : Except Fault (Int × List Char) := do
  let (year, cs) ← match Text.trimStart cs with
    | '-' :: cs => (digitsUpTo cs.length cs).map fun (n, cs) => (-(n : Int), cs)
    | '+' :: cs => (digitsUpTo cs.length cs).map fun (n, cs) => ((n : Int), cs)
    | cs => (digitsUpTo 4 cs).map fun (n, cs) => ((n : Int), cs)
  if year < Number.leastInt32 || Number.greatestInt32 < year then throw .outOfRange
  return (year, cs)

/-- A number of one or two digits in a range, with blanks before and after it. -/
def relaxedNumber (low high : Nat) (cs : List Char) : Except Fault (Nat × List Char) := do
  let (n, cs) ← digitsUpTo 2 (Text.trimStart cs)
  return (← within low high n, cs)

/-- A separator with blanks before it. -/
def relaxedCharacter (c : Char) (cs : List Char) : Except Fault (List Char) :=
  character c (Text.trimStart cs)

/-- The separators between hours and minutes of an offset: colons and blanks, if any. -/
def relaxedSeparator (cs : List Char) : Except Fault (List Char) :=
  .ok (cs.dropWhile fun c => c = ':' || Text.isBlank c)

/-- The offset at the end of a relaxed time. -/
def relaxedOffset (cs : List Char) : Reading Int :=
  if (cs.take 3).map Char.toUpper = ['U', 'T', 'C'] then .ok (0, cs.drop 3)
  else offset relaxedSeparator cs

/-- Reads a time in the relaxed notation. -/
def readRelaxed (text : String) : Except Fault Instant := do
  let (year, cs) ← relaxedYear text.toList
  let (month, cs) ← relaxedNumber 1 12 (← relaxedCharacter '-' cs)
  let (day, cs) ← relaxedNumber 1 31 (← relaxedCharacter '-' cs)
  let (hour, cs) ← relaxedNumber 0 23 (← dateEnd cs)
  let (minute, cs) ← relaxedNumber 0 59 (← relaxedCharacter ':' cs)
  let (second, cs) ← relaxedNumber 0 60 (← relaxedCharacter ':' cs)
  let (nanosecond, cs) ← fraction cs
  let (offset, cs) ← relaxedOffset (Text.trimStart cs)
  if !(Text.trimStart cs).isEmpty then throw .tooLong
  Parts.toInstant ⟨year, month, day, hour, minute, second, nanosecond, offset⟩

end FrameCourier.Time
