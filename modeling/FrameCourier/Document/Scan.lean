import FrameCourier.Document.Fault

/-!
# Scanning documents

The scanners take bytes from the front of the input and return what is left.  Where one
stops, `Stop.rest` is the input not yet passed; whoever has the whole input can work out
the line and column from it.

Blanks, literals and texts are here, together with the two steps that lists and objects
are read by: going to the next item, and going to the next member.  Texts are scanned by a
machine over single bytes, so that a text cut anywhere is an unfinished text and nothing
else.
-/

namespace FrameCourier.Document

open Ascii

/-- Why reading stopped, and the input that was left.  A fault found in a value has no
place until the value around it gives it one. -/
structure Stop where
  fault : Fault
  placed : Bool
  rest : Bytes
  deriving DecidableEq, Repr

/-- A value and the input after it. -/
abbrev Scan (α : Type) := Except Stop (α × Bytes)

variable {α : Type}

/-- Stops with all of `rest` left. -/
def halt (fault : SyntaxFault) (rest : Bytes) : Except Stop α :=
  .error ⟨.malformed fault, true, rest⟩

/-- Stops at the next byte, which then counts as passed. -/
def haltAt (fault : SyntaxFault) (rest : Bytes) : Except Stop α :=
  halt fault (rest.drop 1)

/-- Refuses a value for its shape; the place is still open. -/
def refuse (fault : Fault) (rest : Bytes) : Except Stop α := .error ⟨fault, false, rest⟩

/-- Gives a fault without a place the place `rest`. -/
def Stop.placeAt (rest : Bytes) (stop : Stop) : Stop :=
  if stop.placed then stop else ⟨stop.fault, true, rest⟩

/-- Gives a fault without a place the place where reading stands. -/
def placed (result : Except Stop α) : Except Stop α :=
  result.mapError fun stop => stop.placeAt stop.rest

def skipBlank (s : Bytes) : Bytes := s.dropWhile isBlank

/-- The remaining letters of `true`, `false` or `null`. -/
def literal : Bytes → Bytes → Except Stop Bytes
  | [], s => .ok s
  | _ :: _, [] => halt .endInValue []
  | letter :: letters, b :: s =>
    if b = letter then literal letters s else halt .expectedLiteral s

/-! ## Texts -/

/-- How far the machine that scans a text has come. -/
inductive TextState where
  | plain
  | escaped
  /-- In a hexadecimal escape: the leading surrogate before it, how many digits are read,
  and their value if all were digits. -/
  | hex (lead : Option Nat) (count : Nat) (value : Option Nat)
  /-- After a leading surrogate, where the escape of the trailing one has to start. -/
  | pairEscape (lead : Nat)
  | pairMark (lead : Nat)
  deriving DecidableEq, Repr

/-- The byte that a one-letter escape stands for. -/
def simpleEscape? (b : UInt8) : Option UInt8 :=
  if b = quote || b = backslash || b = slash then some b
  else if b = lowerB then some backspace
  else if b = lowerF then some formFeed
  else if b = lowerN then some lineFeed
  else if b = lowerR then some carriageReturn
  else if b = lowerT then some tab
  else none

def isLeadingSurrogate (n : Nat) : Bool := 0xD800 ≤ n && n ≤ 0xDBFF

def isTrailingSurrogate (n : Nat) : Bool := 0xDC00 ≤ n && n ≤ 0xDFFF

/-- The code point of a surrogate pair. -/
def pairedCodePoint (lead trail : Nat) : Nat := 0x10000 + (lead - 0xD800) * 0x400 + (trail - 0xDC00)

/-- The UTF-8 bytes of a code point. -/
def codePointBytes (n : Nat) : Bytes := Bytes.ofText (String.singleton (Char.ofNat n))

/-- The bytes of a text up to its closing quote; `done` holds those found so far, last first. -/
def textBytes : TextState → Bytes → Bytes → Scan Bytes
  | _, _, [] => halt .endInString []
  | .plain, done, b :: s =>
    if b = quote then .ok (done.reverse, s)
    else if b = backslash then textBytes .escaped done s
    else if b < space then halt .controlCharacter s
    else textBytes .plain (b :: done) s
  | .escaped, done, b :: s =>
    if b = lowerU then textBytes (.hex none 0 (some 0)) done s
    else
      match simpleEscape? b with
      | some c => textBytes .plain (c :: done) s
      | none => halt .invalidEscape s
  | .hex lead count value, done, b :: s =>
    let value := value.bind fun v => (hexValue? b).map fun d => 16 * v + d
    if count < 3 then textBytes (.hex lead (count + 1) value) done s
    else
      match value, lead with
      | none, _ => halt .invalidEscape s
      | some v, none =>
        if isTrailingSurrogate v then halt .loneSurrogate s
        else if isLeadingSurrogate v then textBytes (.pairEscape v) done s
        else textBytes .plain ((codePointBytes v).reverse ++ done) s
      | some v, some lead =>
        if isTrailingSurrogate v then
          textBytes .plain ((codePointBytes (pairedCodePoint lead v)).reverse ++ done) s
        else halt .loneSurrogate s
  | .pairEscape lead, done, b :: s =>
    if b = backslash then textBytes (.pairMark lead) done s else halt .unpairedSurrogate s
  | .pairMark lead, done, b :: s =>
    if b = lowerU then textBytes (.hex (some lead) 0 (some 0)) done s
    else halt .unpairedSurrogate s

/-- A text whose opening quote is passed. -/
def textBody (s : Bytes) : Scan String :=
  match textBytes .plain [] s with
  | .error stop => .error stop
  | .ok (bytes, rest) =>
    match Bytes.text? bytes with
    | some decoded => .ok (decoded, rest)
    | none => halt .invalidCodePoint rest

/-! ## Numbers -/

/-- A written number: the digits before and after the point, and the exponent. -/
structure Literal where
  negative : Bool
  whole : Bytes
  fraction : Bytes
  exponent : Int
  deriving DecidableEq, Repr

/-- Appends digits to a significand while it fits 64 bits; also how many were taken. -/
def absorb : Nat → Bytes → Nat × Nat
  | significand, [] => (significand, 0)
  | significand, b :: s =>
    let next := significand * 10 + digitValue b
    if next ≤ Number.greatestWord64 then
      let (total, count) := absorb next s
      (total, count + 1)
    else (significand, 0)

/-- The significand that fits 64 bits, and the power of ten that scales it. -/
def Literal.scaled (l : Literal) : Nat × Int :=
  let (whole, taken) := absorb 0 l.whole
  let (significand, places) := absorb whole l.fraction
  let exponent := (l.whole.length : Int) - taken - places + l.exponent
  (significand, max Number.leastInt32 (min Number.greatestInt32 exponent))

/-- `10 ^ n`, rounded to a 64-bit number. -/
def powerOfTen (n : Nat) : Number.Double :=
  Number.Binary.ofInt Number.Format.double (Number.tenTo n)

/-- Scales a number by a power of ten with one rounding, or several for powers below the
least one; none if the result is infinite. -/
def scaleByTen (x : Number.Double) (exponent : Int) : Option Number.Double :=
  if 0 ≤ exponent then
    if exponent ≤ 308 then
      let y := x * powerOfTen exponent.toNat
      if y.isInfinite then none else some y
    else if x.isZero then some x else none
  else if h : -308 ≤ exponent then some (x / powerOfTen (-exponent).toNat)
  else if x.isZero then some x
  else scaleByTen (x / powerOfTen 308) (exponent + 308)
termination_by exponent.natAbs
decreasing_by omega

/-- The floating-point number of a written one; none if it is too large. -/
def Literal.real? (l : Literal) : Option Number.Double :=
  let (significand, exponent) := l.scaled
  (scaleByTen (Number.Binary.ofInt Number.Format.double significand) exponent).map fun x =>
    if l.negative then -x else x

/-- The number written with an optional sign and digits only: an integer if it has 64 bits,
but a floating-point number for a negative zero. -/
def Literal.numeral? (l : Literal) : Option Numeral :=
  let (significand, taken) := absorb 0 l.whole
  if taken < l.whole.length then l.real?.map .real
  else if !l.negative then some (.integer significand)
  else if significand = 0 || -Number.leastInt64 < significand then l.real?.map .real
  else some (.integer (-significand))

/-- Digits before the point: a zero alone, or digits that do not start with one. -/
def wholeDigits : Bytes → Scan Bytes
  | [] => halt .endInValue []
  | b :: s =>
    if b = zero then
      if (s.head?.map isDigit).getD false then haltAt .invalidNumber s else .ok ([b], s)
    else if isDigit b then .ok (b :: s.takeWhile isDigit, s.dropWhile isDigit)
    else halt .invalidNumber s

/-- Digits after the point; there has to be one. -/
def fractionDigits (s : Bytes) : Scan Bytes :=
  match s.takeWhile isDigit with
  | [] => if s.isEmpty then halt .endInValue [] else haltAt .invalidNumber s
  | digits => .ok (digits, s.dropWhile isDigit)

/-- The digits of an exponent, or nothing from the digit on that passes 31 bits. -/
def exponentDigits : Nat → Bytes → Option Nat × Bytes
  | value, [] => (some value, [])
  | value, b :: s =>
    if isDigit b then
      let next := value * 10 + digitValue b
      if next ≤ Number.greatestInt32 then exponentDigits next s else (none, s)
    else (some value, b :: s)

/-- The sign of an exponent: whether it is negative. -/
def exponentSign : Bytes → Bool × Bytes
  | plus :: s => (false, s)
  | minus :: s => (true, s)
  | s => (false, s)

/-- A number with a fraction or an exponent, its range checked. -/
def realNumber (l : Literal) (rest : Bytes) : Scan Numeral :=
  match l.real? with
  | some x => .ok (.real x, rest)
  | none => halt .numberOutOfRange rest

/-- A number with the exponent that was read for it, or with one of too many digits. -/
def withExponent (l : Literal) (down : Bool) : Option Nat → Bytes → Scan Numeral
  | some n, rest => realNumber { l with exponent := if down then -n else n } rest
  | none, rest =>
    if !down && l.scaled.1 != 0 then halt .numberOutOfRange rest
    else .ok (.real (Number.Binary.zero _ l.negative), rest.dropWhile isDigit)

/-- What follows the letter of an exponent. -/
def exponentPart (l : Literal) (s : Bytes) : Scan Numeral :=
  let (down, s) := exponentSign s
  match s with
  | [] => halt .endInValue []
  | b :: after =>
    if !isDigit b then halt .invalidNumber after
    else
      let (found, rest) := exponentDigits 0 s
      withExponent l down found rest

/-- What follows the digits of a fraction: an exponent, or the end of the number. -/
def afterFraction (negative : Bool) (whole fraction : Bytes) : Bytes → Scan Numeral
  | lowerE :: s => exponentPart ⟨negative, whole, fraction, 0⟩ s
  | upperE :: s => exponentPart ⟨negative, whole, fraction, 0⟩ s
  | s => realNumber ⟨negative, whole, fraction, 0⟩ s

/-- What follows the digits before the point: a fraction, an exponent, or the end of the
number. -/
def afterWhole (negative : Bool) (whole : Bytes) : Bytes → Scan Numeral
  | point :: s =>
    match fractionDigits s with
    | .error stop => .error stop
    | .ok (fraction, s) => afterFraction negative whole fraction s
  | lowerE :: s => exponentPart ⟨negative, whole, [], 0⟩ s
  | upperE :: s => exponentPart ⟨negative, whole, [], 0⟩ s
  | s =>
    match Literal.numeral? ⟨negative, whole, [], 0⟩ with
    | some n => .ok (n, s)
    | none => halt .numberOutOfRange s

/-- A number from its first digit on. -/
def unsignedNumeral (negative : Bool) (s : Bytes) : Scan Numeral :=
  match wholeDigits s with
  | .error stop => .error stop
  | .ok (whole, s) => afterWhole negative whole s

/-- A number from its sign on. -/
def numeral : Bytes → Scan Numeral
  | minus :: s => unsignedNumeral true s
  | s => unsignedNumeral false s

/-! ## Lists and objects -/

/-- Goes to the next item of a list: the input from that item on, or nothing before the
closing bracket. -/
def nextItem (first : Bool) (s : Bytes) : Scan Bool :=
  match skipBlank s with
  | [] => halt .endInList []
  | closeBracket :: s => .ok (false, closeBracket :: s)
  | b :: s =>
    if first then .ok (true, b :: s)
    else if b = comma then
      match skipBlank s with
      | [] => halt .endInValue []
      | closeBracket :: s => halt .trailingComma s
      | s => .ok (true, s)
    else halt .expectedListCommaOrEnd s

/-- Goes to the next member of an object: its name with the input after it, or nothing
before the closing brace. -/
def nextName (first : Bool) (s : Bytes) : Scan (Option String) :=
  match skipBlank s with
  | [] => halt .endInObject []
  | closeBrace :: s => .ok (none, closeBrace :: s)
  | b :: s =>
    if first then
      if b = quote then (textBody s).map fun (name, rest) => (some name, rest)
      else halt .nameNotText s
    else if b = comma then
      match skipBlank s with
      | [] => halt .endInValue []
      | quote :: s => (textBody s).map fun (name, rest) => (some name, rest)
      | closeBrace :: s => halt .trailingComma s
      | _ :: s => halt .nameNotText s
    else halt .expectedObjectCommaOrEnd s

/-- The colon between a name and its value. -/
def nameColon (s : Bytes) : Except Stop Bytes :=
  match skipBlank s with
  | [] => halt .endInObject []
  | colon :: s => .ok s
  | _ :: s => halt .expectedColon s

/-- The end of a list whose items are all read. -/
def listEnd (s : Bytes) : Except Stop Bytes :=
  match skipBlank s with
  | [] => halt .endInList []
  | closeBracket :: s => .ok s
  | comma :: s =>
    match skipBlank s with
    | closeBracket :: s => halt .trailingComma s
    | s => haltAt .trailingCharacters s
  | _ :: s => halt .trailingCharacters s

/-- The end of an object whose members are all read. -/
def objectEnd (s : Bytes) : Except Stop Bytes :=
  match skipBlank s with
  | [] => halt .endInObject []
  | closeBrace :: s => .ok s
  | comma :: s => halt .trailingComma s
  | _ :: s => halt .trailingCharacters s

end FrameCourier.Document
