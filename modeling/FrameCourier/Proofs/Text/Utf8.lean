import FrameCourier.Proofs.Text.Bytes

/-!
# Texts are read from their bytes

The bytes of a text are read as the text even where they might be damaged: no byte of a character
is taken for the start of another one.
-/

namespace FrameCourier

namespace Text

/-- What a byte starts shows in its range. -/
theorem startCharacter_ofNat {n : Nat} (byte : n < 256) :
    startCharacter (UInt8.ofNat n) =
      if n < 0x80 then some (.inl (Char.ofNat n))
      else if n < 0xC2 then none
      else if n < 0xE0 then some (.inr ⟨1, 0x80, 0xBF, n - 0xC0⟩)
      else if n < 0xF0 then
        some (.inr ⟨2, if n = 0xE0 then 0xA0 else 0x80, if n = 0xED then 0x9F else 0xBF, n - 0xE0⟩)
      else if n < 0xF5 then
        some (.inr ⟨3, if n = 0xF0 then 0x90 else 0x80, if n = 0xF4 then 0x8F else 0xBF, n - 0xF0⟩)
      else none := by
  revert n
  decide +kernel

/-- A byte in the range that an unfinished character asks for goes on with it. -/
theorem lossyOnto_continued {done : List Char} {missing bits n : Nat} {least greatest : UInt8}
    (byte : n < 256) (low : least.toNat ≤ n) (high : n ≤ greatest.toNat) (rest : Bytes) :
    lossyOnto done (some ⟨missing, least, greatest, bits⟩) (UInt8.ofNat n :: rest) =
      if missing ≤ 1 then lossyOnto (Char.ofNat (bits * 64 + (n - 0x80)) :: done) none rest
      else lossyOnto done (some ⟨missing - 1, 0x80, 0xBF, bits * 64 + (n - 0x80)⟩) rest := by
  have value : (UInt8.ofNat n).toNat = n := UInt8.toNat_ofNat_of_lt' byte
  have inside : (least ≤ UInt8.ofNat n && UInt8.ofNat n ≤ greatest) = true := by
    simp [UInt8.le_iff_toNat_le, value, low, high]
  rw [lossyOnto, if_pos inside, value]

/-- The bytes of a character are read as the character. -/
theorem lossyOnto_utf8EncodeChar (done : List Char) (c : Char) (rest : Bytes) :
    lossyOnto done none (String.utf8EncodeChar c ++ rest) = lossyOnto (c :: done) none rest := by
  have valid : c.val.toNat < 55296 ∨ (57343 < c.val.toNat ∧ c.val.toNat < 1114112) := c.valid
  have whole : Char.ofNat c.val.toNat = c := Char.ofNat_toNat c
  unfold String.utf8EncodeChar
  generalize c.val.toNat = v at valid whole ⊢
  dsimp only
  split
  · next one =>
    rw [List.cons_append, lossyOnto, begun, startCharacter_ofNat (by omega), if_pos (by omega), whole]
    rfl
  split
  · next two =>
    have bits : (v / 64 % 32 + 192 - 192) * 64 + (v % 64 + 128 - 128) = v := by
      omega
    simp only [List.cons_append, List.nil_append]
    rw [lossyOnto, begun, startCharacter_ofNat (by omega), if_neg (by omega), if_neg (by omega),
      if_pos (by omega)]
    dsimp only
    rw [lossyOnto_continued (by omega) (by simp) (by simp; omega), if_pos (by omega), bits, whole]
  split
  · next three =>
    have bits : ((v / 4096 % 16 + 224 - 224) * 64 + (v / 64 % 64 + 128 - 128)) * 64 + (v % 64 + 128 - 128) = v := by
      omega
    simp only [List.cons_append, List.nil_append]
    rw [lossyOnto, begun, startCharacter_ofNat (by omega), if_neg (by omega), if_neg (by omega),
      if_neg (by omega), if_pos (by omega)]
    dsimp only
    rw [lossyOnto_continued (by omega) (by split <;> simp <;> omega) (by split <;> simp <;> omega),
      if_neg (by omega), lossyOnto_continued (by omega) (by simp) (by simp; omega),
      if_pos (by omega), bits, whole]
  · next four =>
    have bits : (((v / 262144 % 8 + 240 - 240) * 64 + (v / 4096 % 64 + 128 - 128)) * 64 +
        (v / 64 % 64 + 128 - 128)) * 64 + (v % 64 + 128 - 128) = v := by
      omega
    simp only [List.cons_append, List.nil_append]
    rw [lossyOnto, begun, startCharacter_ofNat (by omega), if_neg (by omega), if_neg (by omega),
      if_neg (by omega), if_neg (by omega), if_pos (by omega)]
    dsimp only
    rw [lossyOnto_continued (by omega) (by split <;> simp <;> omega) (by split <;> simp <;> omega),
      if_neg (by omega), lossyOnto_continued (by omega) (by simp) (by simp; omega),
      if_neg (by omega), lossyOnto_continued (by omega) (by simp) (by simp; omega),
      if_pos (by omega), bits, whole]

end Text

/-- A text is read from its bytes. -/
theorem Bytes.lossy_ofText (s : String) : Text.lossy (ofText s) = s := by
  have read : ∀ (cs done : List Char),
      Text.lossyOnto done none (cs.flatMap String.utf8EncodeChar) = done.reverse ++ cs := by
    intro cs
    induction cs with
    | nil => simp [Text.lossyOnto]
    | cons c cs ih =>
      intro done
      rw [List.flatMap_cons, Text.lossyOnto_utf8EncodeChar, ih, List.reverse_cons,
        List.append_assoc, List.singleton_append]
  have characters : s = String.ofList s.toList := String.ofList_toList.symm
  rw [characters, ofText_ofList, Text.lossy, read, List.reverse_nil, List.nil_append]

end FrameCourier
