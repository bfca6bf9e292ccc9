import FrameCourier.Document.Ascii
import FrameCourier.Text.Utf8

/-!
# Texts and their bytes

A text is the only one with its UTF-8 bytes.  Texts of ASCII characters have one byte for
every character.
-/

namespace FrameCourier.Bytes

theorem text?_ofText (s : String) : text? (ofText s) = some s := by
  have valid : ByteArray.IsValidUTF8 ⟨(ofText s).toArray⟩ := by
    simpa [ofText] using s.isValidUTF8
  unfold text? String.fromUTF8?
  rw [dif_pos valid]
  congr 1

theorem ofText_inj {s t : String} : ofText s = ofText t ↔ s = t := by
  constructor
  · intro same
    have texts := congrArg text? same
    rw [text?_ofText, text?_ofText] at texts
    exact Option.some.inj texts
  · exact congrArg ofText

theorem ofText_append (s t : String) : ofText (s ++ t) = ofText s ++ ofText t := by
  simp [ofText]

theorem ofText_ofList (cs : List Char) :
    ofText (String.ofList cs) = cs.flatMap String.utf8EncodeChar := by
  simp [ofText, List.utf8Encode]

theorem utf8EncodeChar_of_ascii {c : Char} (ascii : c.toNat < 128) :
    String.utf8EncodeChar c = [c.toNat.toUInt8] := by
  have one : c.val.toNat ≤ 127 := Nat.le_of_lt_succ ascii
  unfold String.utf8EncodeChar
  rw [if_pos one]
  rfl

/-- Characters that are not ASCII ones have no byte below 128. -/
theorem le_of_mem_utf8EncodeChar {c : Char} (large : 128 ≤ c.toNat) :
    ∀ b ∈ String.utf8EncodeChar c, 128 ≤ b.toNat := by
  have long : ¬ c.val.toNat ≤ 127 := Nat.not_le.mpr large
  intro b mem
  unfold String.utf8EncodeChar at mem
  simp only [if_neg long] at mem
  -- Two, three or four bytes, each of them marked by its high bits.
  split at mem
  · simp only [List.mem_cons, List.not_mem_nil, or_false] at mem
    rcases mem with rfl | rfl <;> simp only [UInt8.toNat_ofNat'] <;> omega
  · split at mem <;> simp only [List.mem_cons, List.not_mem_nil, or_false] at mem
    · rcases mem with rfl | rfl | rfl <;> simp only [UInt8.toNat_ofNat'] <;> omega
    · rcases mem with rfl | rfl | rfl | rfl <;> simp only [UInt8.toNat_ofNat'] <;> omega

/-- A byte below 128 is an ASCII character, and no part of any other one. -/
theorem mem_utf8EncodeChar_iff {c : Char} {b : UInt8} (ascii : b.toNat < 128) :
    b ∈ String.utf8EncodeChar c ↔ c.toNat = b.toNat := by
  rcases Nat.lt_or_ge c.toNat 128 with small | large
  · have value : c.toNat.toUInt8.toNat = c.toNat :=
      UInt8.toNat_ofNat_of_lt' (Nat.lt_trans small (by decide))
    rw [utf8EncodeChar_of_ascii small, List.mem_singleton, ← UInt8.toNat_inj, value]
    exact eq_comm
  · have large' := le_of_mem_utf8EncodeChar large b
    constructor
    · intro mem
      have above := large' mem
      omega
    · intro same
      omega

/-- An ASCII character is in a text exactly if its byte is one of the text's bytes. -/
theorem mem_ofText_ofList_iff {cs : List Char} {c : Char} (ascii : c.toNat < 128) :
    c.toNat.toUInt8 ∈ ofText (String.ofList cs) ↔ c ∈ cs := by
  have value : c.toNat.toUInt8.toNat = c.toNat :=
    UInt8.toNat_ofNat_of_lt' (Nat.lt_trans ascii (by decide))
  have small : c.toNat.toUInt8.toNat < 128 := by rwa [value]
  have byte_mem : ∀ d, c.toNat.toUInt8 ∈ String.utf8EncodeChar d ↔ d = c := fun d => by
    rw [mem_utf8EncodeChar_iff small, value, Char.toNat_inj]
  rw [ofText_ofList, List.mem_flatMap]
  simp only [byte_mem, exists_eq_right]

/-- ASCII characters are bytes. -/
theorem ofText_ofList_of_ascii {cs : List Char} (ascii : ∀ c ∈ cs, c.toNat < 128) :
    ofText (String.ofList cs) = cs.map fun c => c.toNat.toUInt8 := by
  rw [ofText_ofList]
  induction cs with
  | nil => rfl
  | cons c cs ih =>
    rw [List.flatMap_cons, utf8EncodeChar_of_ascii (ascii c (by simp)),
      ih fun d member => ascii d (by simp [member])]
    rfl

/-- Bytes below 128 are the bytes of the text of their characters. -/
theorem ofText_ofList_map {bytes : Bytes} (ascii : ∀ b ∈ bytes, b.toNat < 128) :
    ofText (String.ofList (bytes.map fun b => Char.ofNat b.toNat)) = bytes := by
  have toNat_ofNat : ∀ b ∈ bytes, (Char.ofNat b.toNat).toNat = b.toNat := by
    intro b member
    have valid : b.toNat.isValidChar := .inl (Nat.lt_trans (ascii b member) (by decide))
    rw [Char.ofNat, dif_pos valid]
    rfl
  rw [ofText_ofList_of_ascii]
  · rw [List.map_map]
    refine (List.map_congr_left fun b member => ?_).trans (List.map_id bytes)
    simp [toNat_ofNat b member]
  · intro c member
    obtain ⟨b, inside, rfl⟩ := List.mem_map.mp member
    rw [toNat_ofNat b inside]
    exact ascii b inside

/-- Bytes below 128 are characters of their own, whatever comes before them. -/
theorem lossyOnto_of_ascii {bytes : Bytes} (ascii : ∀ b ∈ bytes, b.toNat < 128)
    (done : List Char) :
    Text.lossyOnto done none bytes = done.reverse ++ bytes.map fun b => Char.ofNat b.toNat := by
  induction bytes generalizing done with
  | nil => simp [Text.lossyOnto]
  | cons b bytes ih =>
    have alone : Text.begun done b = (Char.ofNat b.toNat :: done, none) := by
      have small : b < 0x80 := UInt8.lt_iff_toNat_lt.mpr (ascii b List.mem_cons_self)
      simp only [Text.begun, Text.startCharacter, small, if_true]
    have later := ih (fun c inside => ascii c (List.mem_cons_of_mem _ inside))
      (Char.ofNat b.toNat :: done)
    rw [List.reverse_cons, List.append_assoc] at later
    rw [Text.lossyOnto, alone]
    exact later

/-- Bytes below 128 are the bytes of the text that is made of them. -/
theorem ofText_lossy {bytes : Bytes} (ascii : ∀ b ∈ bytes, b.toNat < 128) :
    ofText (Text.lossy bytes) = bytes := by
  rw [Text.lossy, lossyOnto_of_ascii ascii, List.reverse_nil, List.nil_append,
    ofText_ofList_map ascii]

end FrameCourier.Bytes
