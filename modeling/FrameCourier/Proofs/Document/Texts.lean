import FrameCourier.Proofs.Document.Integers
import FrameCourier.Proofs.Document.Locality.Basic

/-!
# Texts are read as they are written

A text is read back from between its quotes: byte by byte its machine undoes what the escapes of
the byte have done.
-/

namespace FrameCourier.Document

open Ascii

theorem hexValue?_hexDigit {n : Nat} (small : n < 16) : hexValue? (hexDigit n) = some n := by
  have all : ∀ n < 16, hexValue? (hexDigit n) = some n := by decide
  exact all n small

theorem codePointBytes_of_ascii {n : Nat} (ascii : n < 128) : codePointBytes n = [n.toUInt8] := by
  have valid : n.isValidChar := .inl (Nat.lt_trans ascii (by decide))
  have code : (Char.ofNat n).toNat = n := by
    rw [Char.ofNat, dif_pos valid]
    rfl
  rw [codePointBytes, String.singleton_eq_ofList, Bytes.ofText_ofList_of_ascii (by simp [code, ascii])]
  simp [code]

/-- A digit of a hexadecimal escape that is not the last one. -/
theorem textBytes_hexDigit {lead : Option Nat} {count v d : Nat} {b : UInt8}
    (digit : hexValue? b = some d) (more : count < 3) (done s : Bytes) :
    textBytes (.hex lead count (some v)) done (b :: s) =
      textBytes (.hex lead (count + 1) (some (16 * v + d))) done s := by
  simp [textBytes, digit, more]

/-- The last digit of a hexadecimal escape that stands for an ASCII character. -/
theorem textBytes_lastHexDigit {v d : Nat} {b : UInt8} (digit : hexValue? b = some d)
    (ascii : 16 * v + d < 128) (done s : Bytes) :
    textBytes (.hex none 3 (some v)) done (b :: s) =
      textBytes .plain ((16 * v + d).toUInt8 :: done) s := by
  have notTrailing : isTrailingSurrogate (16 * v + d) = false := by
    simp [isTrailingSurrogate]
    omega
  have notLeading : isLeadingSurrogate (16 * v + d) = false := by
    simp [isLeadingSurrogate]
    omega
  simp [textBytes, digit, notTrailing, notLeading, codePointBytes_of_ascii ascii]

/-- A control character is read from its hexadecimal escape. -/
theorem textBytes_hexEscape {b : UInt8} (control : b < space) (done s : Bytes) :
    textBytes .plain done (backslash :: lowerU :: zero :: zero :: hexDigit (b.toNat / 16) ::
      hexDigit (b.toNat % 16) :: s) = textBytes .plain (b :: done) s := by
  have small : b.toNat < 32 := UInt8.lt_iff_toNat_lt.mp control
  have code : 16 * (b.toNat / 16) + b.toNat % 16 = b.toNat := Nat.div_add_mod b.toNat 16
  have noDigit : hexValue? zero = some 0 := rfl
  have high : hexValue? (hexDigit (b.toNat / 16)) = some (b.toNat / 16) :=
    hexValue?_hexDigit (by omega)
  have low : hexValue? (hexDigit (b.toNat % 16)) = some (b.toNat % 16) :=
    hexValue?_hexDigit (by omega)
  show textBytes (.hex none 0 (some 0)) done _ = _
  rw [textBytes_hexDigit noDigit (by decide), textBytes_hexDigit noDigit (by decide),
    textBytes_hexDigit high (by decide), textBytes_lastHexDigit low (by omega)]
  have whole : (16 * (16 * (16 * 0 + 0) + b.toNat / 16) + b.toNat % 16).toUInt8 = b := by
    rw [show 16 * (16 * (16 * 0 + 0) + b.toNat / 16) + b.toNat % 16 = b.toNat by omega]
    exact UInt8.ofNat_toNat
  rw [whole]

/-- A byte of a text is read from what it is written as. -/
theorem textBytes_escapedByte (b : UInt8) (done s : Bytes) :
    textBytes .plain done (escapedByte b ++ s) = textBytes .plain (b :: done) s := by
  unfold escapedByte
  split
  · next equal => subst equal; rfl
  split
  · next equal => subst equal; rfl
  split
  · next equal => subst equal; rfl
  split
  · next equal => subst equal; rfl
  split
  · next equal => subst equal; rfl
  split
  · next equal => subst equal; rfl
  split
  · next equal => subst equal; rfl
  split
  · next control => exact textBytes_hexEscape control done s
  · next notQuote notBackslash _ _ _ _ _ notControl =>
    simp [textBytes, notQuote, notBackslash, notControl]

theorem textBytes_flatMap (bytes done s : Bytes) :
    textBytes .plain done (bytes.flatMap escapedByte ++ quote :: s) =
      .ok (done.reverse ++ bytes, s) := by
  induction bytes generalizing done with
  | nil => simp [textBytes]
  | cons b bytes ih =>
    rw [List.flatMap_cons, List.append_assoc, textBytes_escapedByte, ih]
    simp

/-- A text is read from between its quotes. -/
theorem textBody_literal (text : String) (s : Bytes) :
    textBody ((Bytes.ofText text).flatMap escapedByte ++ quote :: s) = .ok (text, s) := by
  simp [textBody, textBytes_flatMap, Bytes.text?_ofText]

/-- A name is read from before its colon. -/
theorem textBody_name (name : String) (s : Bytes) :
    ∃ t, textLiteral name ++ s = quote :: t ∧ textBody t = .ok (name, s) :=
  ⟨_, by simp [textLiteral], textBody_literal name s⟩

end FrameCourier.Document
