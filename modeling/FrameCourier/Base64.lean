import FrameCourier.Document.Ascii

/-!
# Base64

Images travel inside documents as base64 text: the standard alphabet, padded to a multiple
of four, and canonical, so that unused bits are zero.

The faults of a text are looked for in a fixed order: a length that no bytes have, then all
of the text but its tail, where padding has no place, and then the tail of one to eight
characters, first from left to right, then its padding, then its last symbol.
-/

namespace FrameCourier.Base64

/-- Why a text is not base64. -/
inductive Fault where
  | invalidByte (offset : Nat) (byte : UInt8)
  | invalidLength
  | invalidLastSymbol (offset : Nat) (byte : UInt8)
  | invalidPadding
  deriving DecidableEq, Repr

def Fault.message : Fault → String
  | invalidByte offset byte =>
    "Invalid byte " ++ toString byte.toNat ++ ", offset " ++ toString offset ++ "."
  | invalidLength => "Encoded text cannot have a 6-bit remainder."
  | invalidLastSymbol offset byte =>
    "Invalid last symbol " ++ toString byte.toNat ++ ", offset " ++ toString offset ++ "."
  | invalidPadding => "Invalid padding"

/-- The padding character. -/
def pad : UInt8 := Ascii.equals

/-- The character of six bits. -/
def symbol (n : Nat) : UInt8 :=
  if n < 26 then 0x41 + n.toUInt8
  else if n < 52 then 0x61 + (n - 26).toUInt8
  else if n < 62 then Ascii.zero + (n - 52).toUInt8
  else if n = 62 then Ascii.plus
  else Ascii.slash

/-- The six bits of a character of the alphabet. -/
def sextet? (b : UInt8) : Option Nat :=
  if 0x41 ≤ b && b ≤ 0x5A then some (b.toNat - 0x41)
  else if 0x61 ≤ b && b ≤ 0x7A then some (b.toNat - 0x61 + 26)
  else if Ascii.isDigit b then some (Ascii.digitValue b + 52)
  else if b = Ascii.plus then some 62
  else if b = Ascii.slash then some 63
  else none

/-- The text of the bytes behind the characters written so far, which come last first. -/
def encodeOnto (done : Bytes) : Bytes → Bytes
  | a :: b :: c :: rest =>
    let n := a.toNat * 65536 + b.toNat * 256 + c.toNat
    encodeOnto (symbol (n % 64) :: symbol (n / 64 % 64) :: symbol (n / 4096 % 64) ::
      symbol (n / 262144) :: done) rest
  | [a, b] =>
    let n := a.toNat * 1024 + b.toNat * 4
    (pad :: symbol (n % 64) :: symbol (n / 64 % 64) :: symbol (n / 4096) :: done).reverse
  | [a] =>
    let n := a.toNat * 16
    (pad :: pad :: symbol (n % 64) :: symbol (n / 64) :: done).reverse
  | [] => done.reverse

/-- The padded base64 text of the bytes. -/
def encode (bytes : Bytes) : String :=
  String.ofList ((encodeOnto [] bytes).map fun b => Char.ofNat b.toNat)

/-- The bytes of a run of sextets, behind those found so far, which come last first. -/
def octetsOnto (done : Bytes) : List Nat → Bytes
  | a :: b :: c :: d :: rest =>
    let n := a * 262144 + b * 4096 + c * 64 + d
    octetsOnto ((n % 256).toUInt8 :: (n / 256 % 256).toUInt8 :: (n / 65536).toUInt8 :: done) rest
  | [a, b, c] =>
    let n := (a * 4096 + b * 64 + c) / 4
    ((n % 256).toUInt8 :: (n / 256).toUInt8 :: done).reverse
  | [a, b] => (((a * 64 + b) / 16).toUInt8 :: done).reverse
  | _ => done.reverse

/-- The sextets of a text before its tail, where every character is of the alphabet. -/
def bodySextets (offset : Nat) (done : List Nat) : Bytes → Except Fault (List Nat)
  | [] => .ok done.reverse
  | b :: rest =>
    match sextet? b with
    | some n => bodySextets (offset + 1) (n :: done) rest
    | none => .error (.invalidByte offset b)

/-- What is known of a tail from its first characters. -/
structure Tail where
  /-- The sextets so far, last first. -/
  sextets : List Nat
  lastSymbol : UInt8
  firstPad : Option Nat
  pads : Nat

/-- Reads a tail that starts at `offset` from its position on.  Padding stands only in the
third or fourth place of a group, and nothing but padding follows it. -/
def scanTail (offset : Nat) : Nat → Tail → Bytes → Except Fault Tail
  | _, tail, [] => .ok tail
  | position, tail, b :: rest =>
    if b = pad then
      if position % 4 < 2 then
        .error (.invalidByte (offset + tail.firstPad.getD position) b)
      else
        let firstPad := tail.firstPad.getD position
        scanTail offset (position + 1)
          { tail with firstPad := some firstPad, pads := tail.pads + 1 } rest
    else
      match tail.firstPad with
      | some position => .error (.invalidByte (offset + position) pad)
      | none =>
        match sextet? b with
        | none => .error (.invalidByte (offset + position) b)
        | some n =>
          scanTail offset (position + 1)
            { tail with sextets := n :: tail.sextets, lastSymbol := b } rest

/-- The bits of the last sextet that no byte takes. -/
def unusedBits (sextets : List Nat) : Nat :=
  match sextets with
  | [] => 0
  | last :: _ =>
    match sextets.length % 4 with
    | 2 => last % 16
    | 3 => last % 4
    | _ => 0

/-- The sextets of a tail that starts at `offset`. -/
def tailSextets (offset : Nat) (bytes : Bytes) : Except Fault (List Nat) :=
  match scanTail offset 0 ⟨[], 0, none, 0⟩ bytes with
  | .error fault => .error fault
  | .ok tail =>
    if (tail.pads + tail.sextets.length) % 4 ≠ 0 then .error .invalidPadding
    else if unusedBits tail.sextets ≠ 0 then
      .error (.invalidLastSymbol (offset + tail.sextets.length - 1) tail.lastSymbol)
    else .ok tail.sextets.reverse

/-- No bytes have a text of one character more than a multiple of four.  A foreign
character at the end of such a text is what is reported, if there is one. -/
def lengthFault? (text : Bytes) : Option Fault :=
  if text.length % 4 = 1 then
    match text.getLast? with
    | some b =>
      if b ≠ pad && (sextet? b).isNone then some (.invalidByte (text.length - 1) b)
      else some .invalidLength
    | none => some .invalidLength
  else none

/-- Where the tail starts: at the last multiple of eight with a character after it. -/
def tailStart (length : Nat) : Nat := (length - 1) / 8 * 8

/-- The bytes that a base64 text stands for. -/
def decodeBytes (text : Bytes) : Except Fault Bytes :=
  match lengthFault? text with
  | some fault => .error fault
  | none =>
    let start := tailStart text.length
    match bodySextets 0 [] (text.take start) with
    | .error fault => .error fault
    | .ok body =>
      match tailSextets start (text.drop start) with
      | .error fault => .error fault
      | .ok tail => .ok (octetsOnto [] (body ++ tail))

/-- The bytes that a base64 text stands for. -/
def decode (text : String) : Except Fault Bytes := decodeBytes (Bytes.ofText text)

end FrameCourier.Base64
