import FrameCourier.Base64
import FrameCourier.Proofs.Text.Bytes

/-!
# Base64 is read as it is written

The text of bytes is the symbols of their sextets and the padding that fills the last group of
four.  Three bytes are four sextets, so the sextets give the bytes back group by group.
-/

namespace FrameCourier.Base64

/-! ## The text -/

/-- The sextets of bytes; the last one is filled up with zeros. -/
def sextets : Bytes → List Nat
  | a :: b :: c :: rest =>
    let n := a.toNat * 65536 + b.toNat * 256 + c.toNat
    n / 262144 :: n / 4096 % 64 :: n / 64 % 64 :: n % 64 :: sextets rest
  | [a, b] =>
    let n := a.toNat * 1024 + b.toNat * 4
    [n / 4096, n / 64 % 64, n % 64]
  | [a] =>
    let n := a.toNat * 16
    [n / 64, n % 64]
  | [] => []

/-- The padding that fills a last group of so many sextets. -/
def padding (count : Nat) : Bytes := List.replicate ((4 - count % 4) % 4) pad

/-- The text of bytes. -/
def written (bytes : Bytes) : Bytes :=
  (sextets bytes).map symbol ++ padding (sextets bytes).length

theorem padding_add_four (count : Nat) : padding (count + 4) = padding count := by
  simp [padding, Nat.add_mod_right]

theorem encodeOnto_eq (done bytes : Bytes) :
    encodeOnto done bytes = done.reverse ++ written bytes := by
  fun_induction encodeOnto done bytes with
  | case1 done a b c rest n ih =>
    rw [ih]
    simp [written, sextets, padding_add_four, n]
  | case2 done a b n => simp [written, sextets, padding, n]
  | case3 done a n => simp [written, sextets, padding, n]
  | case4 done => simp [written, sextets, padding]

/-! ## Symbols -/

theorem lt_of_mem_sextets {bytes : Bytes} {n : Nat} (inside : n ∈ sextets bytes) : n < 64 := by
  fun_induction sextets bytes with
  | case1 a b c rest whole ih =>
    have boundA := a.toNat_lt
    have boundB := b.toNat_lt
    have boundC := c.toNat_lt
    simp only [List.mem_cons] at inside
    rcases inside with rfl | rfl | rfl | rfl | behind
    · omega
    · omega
    · omega
    · omega
    · exact ih behind
  | case2 a b whole =>
    have boundA := a.toNat_lt
    have boundB := b.toNat_lt
    simp only [List.mem_cons, List.not_mem_nil, or_false] at inside
    omega
  | case3 a whole =>
    have boundA := a.toNat_lt
    simp only [List.mem_cons, List.not_mem_nil, or_false] at inside
    omega
  | case4 => cases inside

theorem sextet?_symbol {n : Nat} (small : n < 64) : sextet? (symbol n) = some n := by
  have all : ∀ n < 64, sextet? (symbol n) = some n := by decide
  exact all n small

theorem symbol_ne_pad {n : Nat} (small : n < 64) : symbol n ≠ pad := by
  have all : ∀ n < 64, symbol n ≠ pad := by decide
  exact all n small

theorem ascii_of_mem_written {bytes : Bytes} {b : UInt8} (inside : b ∈ written bytes) :
    b.toNat < 128 := by
  rcases List.mem_append.mp inside with isSymbol | isPad
  · obtain ⟨n, member, rfl⟩ := List.mem_map.mp isSymbol
    have all : ∀ n < 64, (symbol n).toNat < 128 := by decide
    exact all n (lt_of_mem_sextets member)
  · rw [List.eq_of_mem_replicate isPad]
    decide

/-! ## Sextets and bytes -/

theorem toUInt8_eq {n : Nat} {b : UInt8} (same : n = b.toNat) : n.toUInt8 = b := by
  rw [same]
  exact UInt8.ofNat_toNat

/-- The bytes of sextets are those that the sextets were made of. -/
theorem octetsOnto_sextets (done bytes : Bytes) :
    octetsOnto done (sextets bytes) = done.reverse ++ bytes := by
  fun_induction sextets bytes generalizing done with
  | case1 a b c rest n ih =>
    have boundA := a.toNat_lt
    have boundB := b.toNat_lt
    have boundC := c.toNat_lt
    have whole : n / 262144 * 262144 + n / 4096 % 64 * 4096 + n / 64 % 64 * 64 + n % 64 = n := by
      omega
    have first : (n / 65536).toUInt8 = a := toUInt8_eq (by omega)
    have second : (n / 256 % 256).toUInt8 = b := toUInt8_eq (by omega)
    have third : (n % 256).toUInt8 = c := toUInt8_eq (by omega)
    simp only [octetsOnto, whole, first, second, third, ih]
    simp
  | case2 a b n =>
    have boundA := a.toNat_lt
    have boundB := b.toNat_lt
    have first : ((n / 4096 * 4096 + n / 64 % 64 * 64 + n % 64) / 4 / 256).toUInt8 = a :=
      toUInt8_eq (by omega)
    have second : ((n / 4096 * 4096 + n / 64 % 64 * 64 + n % 64) / 4 % 256).toUInt8 = b :=
      toUInt8_eq (by omega)
    simp only [octetsOnto, first, second]
    simp
  | case3 a n =>
    have boundA := a.toNat_lt
    have first : ((n / 64 * 64 + n % 64) / 16).toUInt8 = a := toUInt8_eq (by omega)
    simp only [octetsOnto, first]
    simp
  | case4 => simp [octetsOnto]

/-- Whole groups before the last sextets leave no bits unused. -/
theorem unusedBits_append {groups : List Nat} (whole : groups.length % 4 = 0) (xs : List Nat) :
    unusedBits (groups ++ xs).reverse = unusedBits xs.reverse := by
  rcases List.eq_nil_or_concat xs with rfl | ⟨others, last, rfl⟩
  · rcases List.eq_nil_or_concat groups with rfl | ⟨before, final, rfl⟩
    · rfl
    · simp only [List.concat_eq_append, List.length_append, List.length_singleton] at whole
      simp [unusedBits, whole]
  · have sameLength : (others.length + groups.length + 1) % 4 = (others.length + 1) % 4 := by
      omega
    simp [unusedBits, sameLength]

/-- The bits that fill the last sextet are zeros. -/
theorem unusedBits_sextets (bytes : Bytes) : unusedBits (sextets bytes).reverse = 0 := by
  fun_induction sextets bytes with
  | case1 a b c rest n ih =>
    have whole : [n / 262144, n / 4096 % 64, n / 64 % 64, n % 64].length % 4 = 0 := by
      simp only [List.length_cons, List.length_nil]
    exact (unusedBits_append whole (sextets rest)).trans ih
  | case2 a b n =>
    simp only [unusedBits, List.reverse_cons, List.reverse_nil, List.nil_append, List.cons_append,
      List.length_cons, List.length_nil]
    omega
  | case3 a n =>
    simp only [unusedBits, List.reverse_cons, List.reverse_nil, List.nil_append, List.cons_append,
      List.length_cons, List.length_nil]
    omega
  | case4 => rfl

/-- One sextet alone is no byte. -/
theorem length_sextets_mod (bytes : Bytes) : (sextets bytes).length % 4 ≠ 1 := by
  fun_induction sextets bytes with
  | case1 a b c rest n ih =>
    simp only [List.length_cons]
    omega
  | case2 a b n => simp
  | case3 a n => simp
  | case4 => simp

/-! ## Reading -/

theorem length_written (bytes : Bytes) : (written bytes).length % 4 = 0 := by
  simp only [written, padding, List.length_append, List.length_map, List.length_replicate]
  omega

theorem bodySextets_symbols {xs : List Nat} (small : ∀ n ∈ xs, n < 64) (offset : Nat)
    (done : List Nat) : bodySextets offset done (xs.map symbol) = .ok (done.reverse ++ xs) := by
  induction xs generalizing offset done with
  | nil => simp [bodySextets]
  | cons x xs ih =>
    have known := sextet?_symbol (small x (by simp))
    have rest := ih (fun n inside => small n (by simp [inside])) (offset + 1) (x :: done)
    simp only [List.map_cons, bodySextets, known, rest]
    simp

/-- Symbols are taken as long as there is no padding before them. -/
theorem scanTail_symbols {xs : List Nat} (small : ∀ n ∈ xs, n < 64) (offset position : Nat)
    (done : List Nat) (symbolBefore : UInt8) (rest : Bytes) :
    ∃ lastSymbol, scanTail offset position ⟨done, symbolBefore, none, 0⟩ (xs.map symbol ++ rest) =
      scanTail offset (position + xs.length) ⟨xs.reverse ++ done, lastSymbol, none, 0⟩ rest := by
  induction xs generalizing position done symbolBefore with
  | nil => exact ⟨symbolBefore, rfl⟩
  | cons x xs ih =>
    have known := sextet?_symbol (small x (by simp))
    have notPad := symbol_ne_pad (small x (by simp))
    obtain ⟨lastSymbol, goesOn⟩ := ih (fun n inside => small n (by simp [inside])) (position + 1)
      (x :: done) (symbol x)
    refine ⟨lastSymbol, ?_⟩
    simp only [List.map_cons, List.cons_append, scanTail, notPad, if_false, known, goesOn]
    simp [Nat.add_assoc, Nat.add_comm 1]

/-- The padding of a group that lacks no more than two sextets is taken. -/
theorem scanTail_padding {count : Nat} (notOne : count % 4 ≠ 1) (offset : Nat) (xs : List Nat)
    (lastSymbol : UInt8) :
    ∃ firstPad, scanTail offset count ⟨xs, lastSymbol, none, 0⟩ (padding count) =
      .ok ⟨xs, lastSymbol, firstPad, (4 - count % 4) % 4⟩ := by
  have cases : count % 4 = 0 ∨ count % 4 = 2 ∨ count % 4 = 3 := by omega
  rcases cases with full | two | three
  · exact ⟨none, by simp [padding, full, scanTail]⟩
  · have next : ¬ (count + 1) % 4 < 2 := by omega
    exact ⟨some count, by simp [padding, two, scanTail, List.replicate, next]⟩
  · exact ⟨some count, by simp [padding, three, scanTail]⟩

/-- A tail of symbols and padding is read if no bits are unused. -/
theorem tailSextets_written {xs : List Nat} (small : ∀ n ∈ xs, n < 64)
    (notOne : xs.length % 4 ≠ 1) (unused : unusedBits xs.reverse = 0) (offset : Nat) :
    tailSextets offset (xs.map symbol ++ padding xs.length) = .ok xs := by
  obtain ⟨lastSymbol, symbols⟩ := scanTail_symbols small offset 0 [] 0 (padding xs.length)
  obtain ⟨firstPad, pads⟩ := scanTail_padding notOne offset xs.reverse lastSymbol
  rw [Nat.zero_add, List.append_nil, pads] at symbols
  have whole : ((4 - xs.length % 4) % 4 + xs.reverse.length) % 4 = 0 := by
    rw [List.length_reverse]
    omega
  simp only [tailSextets, symbols, whole, ne_eq, not_true_eq_false, if_false, unused,
    List.reverse_reverse]

/-- The tail starts at a whole group, and no padding stands before it. -/
theorem tailStart_bounds (bytes : Bytes) :
    tailStart (written bytes).length % 4 = 0 ∧
      tailStart (written bytes).length ≤ (sextets bytes).length := by
  have length : (written bytes).length =
      (sextets bytes).length + (4 - (sextets bytes).length % 4) % 4 := by
    simp [written, padding]
  have notOne := length_sextets_mod bytes
  rw [length]
  unfold tailStart
  omega

section

variable {bytes : Bytes} {start : Nat} (groups : start % 4 = 0)
  (inside : start ≤ (sextets bytes).length)

include inside

theorem take_written : (written bytes).take start = ((sextets bytes).take start).map symbol := by
  rw [written, List.take_append_of_le_length (by rwa [List.length_map]), List.map_take]

include groups

theorem drop_written : (written bytes).drop start =
    ((sextets bytes).drop start).map symbol ++ padding ((sextets bytes).drop start).length := by
  have sameGroup : ((sextets bytes).drop start).length % 4 = (sextets bytes).length % 4 := by
    rw [List.length_drop]
    omega
  rw [written, List.drop_append_of_le_length (by rwa [List.length_map]), List.map_drop, padding,
    padding, sameGroup]

theorem unusedBits_drop : unusedBits ((sextets bytes).drop start).reverse = 0 := by
  have whole : ((sextets bytes).take start).length % 4 = 0 := by
    rw [List.length_take, Nat.min_eq_left inside]
    exact groups
  rw [← unusedBits_append whole, List.take_append_drop]
  exact unusedBits_sextets bytes

end

/-- The text of bytes stands for them. -/
theorem decodeBytes_written (bytes : Bytes) : decodeBytes (written bytes) = .ok bytes := by
  have noFault : lengthFault? (written bytes) = none := by
    simp [lengthFault?, length_written]
  obtain ⟨groups, inside⟩ := tailStart_bounds bytes
  have smallBody : ∀ n ∈ (sextets bytes).take (tailStart (written bytes).length), n < 64 :=
    fun n member => lt_of_mem_sextets (List.mem_of_mem_take member)
  have smallTail : ∀ n ∈ (sextets bytes).drop (tailStart (written bytes).length), n < 64 :=
    fun n member => lt_of_mem_sextets (List.mem_of_mem_drop member)
  have body := bodySextets_symbols smallBody 0 []
  have notOne : ((sextets bytes).drop (tailStart (written bytes).length)).length % 4 ≠ 1 := by
    have whole := length_sextets_mod bytes
    rw [List.length_drop]
    omega
  have tail := tailSextets_written smallTail notOne (unusedBits_drop groups inside)
    (tailStart (written bytes).length)
  unfold decodeBytes
  simp only [noFault, take_written inside, body, drop_written groups inside, tail, List.reverse_nil,
    List.nil_append, List.take_append_drop, octetsOnto_sextets]

theorem ofText_encode (bytes : Bytes) : Bytes.ofText (encode bytes) = written bytes := by
  rw [encode, encodeOnto_eq, List.reverse_nil, List.nil_append]
  exact Bytes.ofText_ofList_map fun b member => ascii_of_mem_written member

/-- Bytes are read back from their base64 text. -/
theorem decode_encode (bytes : Bytes) : decode (encode bytes) = .ok bytes := by
  rw [decode, ofText_encode, decodeBytes_written]

/-! ## What can be decoded -/

theorem ascii_of_sextet? {b : UInt8} {n : Nat} (found : sextet? b = some n) : b.toNat < 128 := by
  have foreign : ∀ n < 128, sextet? (UInt8.ofNat (128 + n)) = none := by decide
  refine Nat.lt_of_not_le fun large => ?_
  have bound := b.toNat_lt
  have none := foreign (b.toNat - 128) (by omega)
  rw [Nat.add_sub_cancel' large, UInt8.ofNat_toNat, found] at none
  cases none

theorem ascii_of_bodySextets {offset : Nat} {done found : List Nat} {text : Bytes}
    (success : bodySextets offset done text = .ok found) : ∀ b ∈ text, b.toNat < 128 := by
  induction text generalizing offset done with
  | nil => exact fun _ inside => absurd inside List.not_mem_nil
  | cons b text ih =>
    rw [bodySextets] at success
    cases known : sextet? b with
    | none =>
      rw [known] at success
      cases success
    | some n =>
      rw [known] at success
      exact List.forall_mem_cons.mpr ⟨ascii_of_sextet? known, ih success⟩

theorem ascii_of_scanTail {offset position : Nat} {before after : Tail} {text : Bytes}
    (success : scanTail offset position before text = .ok after) : ∀ b ∈ text, b.toNat < 128 := by
  induction text generalizing position before with
  | nil => exact fun _ inside => absurd inside List.not_mem_nil
  | cons b text ih =>
    rw [scanTail] at success
    rw [List.forall_mem_cons]
    split at success
    · next isPad =>
      split at success
      · cases success
      · rw [isPad]
        exact ⟨by decide, ih success⟩
    · split at success
      · cases success
      · split at success
        · cases success
        · next known => exact ⟨ascii_of_sextet? known, ih success⟩

/-- A text that can be decoded consists of ASCII characters. -/
theorem ascii_of_decodeBytes {text bytes : Bytes} (success : decodeBytes text = .ok bytes) :
    ∀ b ∈ text, b.toNat < 128 := by
  unfold decodeBytes at success
  split at success
  · cases success
  · dsimp only at success
    split at success
    · cases success
    · next body =>
      split at success
      · cases success
      · next tail =>
        unfold tailSextets at tail
        split at tail
        · cases tail
        · next scanned =>
          intro b inside
          rw [← List.take_append_drop (tailStart text.length) text, List.mem_append] at inside
          exact inside.elim (ascii_of_bodySextets body b) (ascii_of_scanTail scanned b)

/-- Bytes that can be decoded are decoded alike when they are taken for a text. -/
theorem decode_lossy {text bytes : Bytes} (success : decodeBytes text = .ok bytes) :
    decode (Text.lossy text) = .ok bytes := by
  rw [decode, Bytes.ofText_lossy (ascii_of_decodeBytes success), success]

end FrameCourier.Base64
