import FrameCourier.Document.Ascii

/-!
# Reading text that may be damaged

Where bytes have to be shown as text although they may not be UTF-8, every longest start of
a character that is then not continued becomes one replacement character, and so does every
byte that starts none.
-/

namespace FrameCourier.Text

/-- The character that stands for damaged bytes. -/
def replacement : Char := Char.ofNat 0xFFFD

/-- An unfinished character: the bytes that it still needs, the range of the next one, and
the bits so far. -/
structure Unfinished where
  missing : Nat
  least : UInt8
  greatest : UInt8
  bits : Nat
  deriving DecidableEq, Repr

/-- What a byte starts: a character of its own, or an unfinished one, or nothing. -/
def startCharacter (b : UInt8) : Option (Char ⊕ Unfinished) :=
  if b < 0x80 then some (.inl (Char.ofNat b.toNat))
  else if b < 0xC2 then none
  else if b < 0xE0 then some (.inr ⟨1, 0x80, 0xBF, b.toNat - 0xC0⟩)
  else if b < 0xF0 then
    some (.inr ⟨2, if b = 0xE0 then 0xA0 else 0x80, if b = 0xED then 0x9F else 0xBF,
      b.toNat - 0xE0⟩)
  else if b < 0xF5 then
    some (.inr ⟨3, if b = 0xF0 then 0x90 else 0x80, if b = 0xF4 then 0x8F else 0xBF,
      b.toNat - 0xF0⟩)
  else none

/-- Ends an unfinished character with the bytes behind it, and leaves those behind the character. -/
def Unfinished.finish? (u : Unfinished) : Bytes → Option (Char × Bytes)
  | [] => none
  | b :: rest =>
    if u.least ≤ b && b ≤ u.greatest then
      let bits := u.bits * 64 + (b.toNat - 0x80)
      if u.missing ≤ 1 then some (Char.ofNat bits, rest)
      else finish? ⟨u.missing - 1, 0x80, 0xBF, bits⟩ rest
    else none

/-- The character that a byte and those behind it begin with, and the bytes behind it. -/
def character? (b : UInt8) (rest : Bytes) : Option (Char × Bytes) :=
  match startCharacter b with
  | some (.inl c) => some (c, rest)
  | some (.inr unfinished) => unfinished.finish? rest
  | none => none

/-- Adds what a byte starts to the characters so far, which come last first. -/
def begun (done : List Char) (b : UInt8) : List Char × Option Unfinished :=
  match startCharacter b with
  | some (.inl c) => (c :: done, none)
  | some (.inr unfinished) => (done, some unfinished)
  | none => (replacement :: done, none)

/-- The characters of the bytes behind those so far. -/
def lossyOnto (done : List Char) : Option Unfinished → Bytes → List Char
  | none, [] => done.reverse
  | some _, [] => (replacement :: done).reverse
  | none, b :: rest =>
    let (done, unfinished) := begun done b
    lossyOnto done unfinished rest
  | some u, b :: rest =>
    if u.least ≤ b && b ≤ u.greatest then
      let bits := u.bits * 64 + (b.toNat - 0x80)
      if u.missing ≤ 1 then lossyOnto (Char.ofNat bits :: done) none rest
      else lossyOnto done (some ⟨u.missing - 1, 0x80, 0xBF, bits⟩) rest
    else
      let (done, unfinished) := begun (replacement :: done) b
      lossyOnto done unfinished rest

/-- The text of bytes that should be UTF-8. -/
def lossy (bytes : Bytes) : String := String.ofList (lossyOnto [] none bytes)

end FrameCourier.Text
