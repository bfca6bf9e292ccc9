import FrameCourier.Proofs.Document.Limits
import FrameCourier.Wire.Request
import FrameCourier.Wire.Response

/-!
# Where a message ends

Neither side of the protocol says how long its messages are.  A message is a document in braces,
and these are enough: none of its proper parts that start with it is a document, nothing but blanks
may follow it, and blanks change nothing.  This holds for every document of the grammar, within
the limits of reading or not.
-/

namespace FrameCourier

open Document Ascii

namespace Document

/-! ## Objects among other bytes -/

section

variable {lead object rest : Bytes} {parts : List (Bytes × Bytes)} (leadBlank : IsBlank lead)
  (isObject : IsObjectText parts object)

include leadBlank isObject

/-- A complete document that starts like an object ends with it, but for blanks. -/
theorem exists_blanks_of_object {s more : Bytes} {document : Document}
    (complete : read? s = some document) (same : s ++ more = lead ++ (object ++ rest)) :
    ∃ blanks, IsBlank blanks ∧ s = lead ++ (object ++ blanks) := by
  obtain ⟨before, t, trail, rfl, beforeBlank, trailBlank, value, -⟩ :=
    exists_phrase_of_read? complete
  simp only [List.append_assoc] at same
  obtain ⟨rfl, values⟩ := beforeBlank.append_inj leadBlank (value.isSolid.append _)
    (isObject.isPhrase.isSolid.append _) same
  obtain ⟨others, other⟩ : ∃ others, IsObjectText others t := by
    obtain ⟨inner, rfl, -⟩ := isObject
    obtain ⟨b, t, rfl, -⟩ := value.exists_cons
    obtain rfl : b = openBrace := (List.cons.inj values).1
    exact value.exists_parts
  obtain ⟨rfl, -, -⟩ := other.append_inj isObject values
  exact ⟨trail, trailBlank, rfl⟩

/-- No document is complete before the closing brace. -/
theorem read?_take_of_object {n : Nat} (early : n < (lead ++ object).length) :
    read? ((lead ++ (object ++ rest)).take n) = none := by
  cases complete : read? ((lead ++ (object ++ rest)).take n) with
  | none => rfl
  | some document =>
    obtain ⟨blanks, -, same⟩ :=
      exists_blanks_of_object leadBlank isObject complete (List.take_append_drop n _)
    have lengths := congrArg List.length same
    simp only [List.length_take, List.length_append] at lengths early
    omega

/-- Nothing but blanks may follow the closing brace. -/
theorem read?_append_of_object (notBlank : ¬ IsBlank rest) :
    read? (lead ++ (object ++ rest)) = none := by
  cases complete : read? (lead ++ (object ++ rest)) with
  | none => rfl
  | some document =>
    obtain ⟨blanks, blank, same⟩ :=
      exists_blanks_of_object leadBlank isObject complete (List.append_nil _)
    rw [List.append_cancel_left (List.append_cancel_left same)] at notBlank
    exact absurd blank notBlank

end

theorem IsBlank.endsNumber {blanks : Bytes} (blank : IsBlank blanks) : EndsNumber blanks := by
  have ends := blank.endsNumber_append (show EndsNumber [] from fun b head => by cases head)
  rwa [List.append_nil] at ends

/-- Blanks at the end change nothing. -/
theorem read?_append_blank (s : Bytes) {blanks : Bytes} (blank : IsBlank blanks) :
    read? (s ++ blanks) = read? s := by
  have shortened : ∀ document, read? (s ++ blanks) = some document → read? s = some document := by
    intro document complete
    induction blanks generalizing s with
    | nil => rwa [List.append_nil] at complete
    | cons b blanks ih =>
      obtain ⟨first, others⟩ := List.forall_mem_cons.mp blank
      rw [← List.singleton_append, ← List.append_assoc] at complete
      exact read?_of_read?_append_blank first (ih _ others complete)
  cases complete : read? s with
  | none =>
    cases longer : read? (s ++ blanks) with
    | none => rfl
    | some document =>
      rw [shortened document longer] at complete
      cases complete
  | some document =>
    obtain ⟨rest, read, restBlank⟩ := read?_eq_some_iff.mp complete
    obtain ⟨taken, rfl, -, reads⟩ := value_local read
    have behind : IsBlank (rest ++ blanks) := restBlank.append blank
    refine read?_eq_some_iff.mpr ⟨rest ++ blanks, ?_, behind⟩
    rw [List.append_assoc]
    exact reads _ (.inr (document.follows_of_endsNumber behind.endsNumber))

/-! ## Buffers -/

/-- The buffer is one document in braces with blanks around it, and its closing brace is the last
byte before the offset. -/
def ClosesAt (buffer : Bytes) (offset : Nat) : Prop :=
  ∃ lead object trail, buffer = lead ++ (object ++ trail) ∧ IsBlank lead ∧ IsBlank trail ∧
    IsPhrase .value object ∧ object.head? = some openBrace ∧ offset = (lead ++ object).length

/-- What is read and starts with a brace is a document in braces. -/
theorem exists_closesAt {buffer : Bytes} {document : Document}
    (complete : read? buffer = some document)
    (opens : (skipBlank buffer).head? = some openBrace) : ∃ offset, ClosesAt buffer offset := by
  obtain ⟨lead, t, trail, rfl, leadBlank, trailBlank, value, -⟩ := exists_phrase_of_read? complete
  rw [leadBlank.skipBlank_solid (value.isSolid.append trail)] at opens
  obtain ⟨b, t, rfl, -⟩ := value.exists_cons
  exact ⟨_, lead, _, trail, rfl, leadBlank, trailBlank, value, opens, rfl⟩

end Document

namespace Wire

variable {α : Type}

/-- Messages are told apart by nothing but their end, for documents of any shape.  A complete
document in braces closes somewhere, and gives a value or a fault of its shape.  Of a buffer that is
a document in braces, within the limits of reading or not: no part that ends before the closing brace is decided; every
longer part, and the buffer with more blanks behind it, is decided like the buffer; and with
anything else behind it the buffer is not decided. -/
theorem parse?_closesAt (shape : Shape α) (buffer : Bytes) :
    (IsComplete buffer → (skipBlank buffer).head? = some openBrace →
      (∃ offset, ClosesAt buffer offset) ∧
        ((∃ x, parse? shape buffer = .ok (some x)) ∨
          ∃ mismatch, parse? shape buffer = .error (.invalidEnvelope mismatch))) ∧
    ∀ offset, ClosesAt buffer offset →
      (∀ n < offset, parse? shape (buffer.take n) = .ok none) ∧
      (∀ n, offset ≤ n → parse? shape (buffer.take n) = parse? shape buffer) ∧
      (∀ blanks, IsBlank blanks → parse? shape (buffer ++ blanks) = parse? shape buffer) ∧
      ∀ more, ¬ IsBlank more → parse? shape (buffer ++ more) = .ok none := by
  have undecided : ∀ {s : Bytes}, read? s = none → parse? shape s = .ok none := by
    intro s incomplete
    simp only [parse?, incomplete]
  have alike : ∀ {s t : Bytes}, read? s = read? t → parse? shape s = parse? shape t := by
    intro s t same
    simp only [parse?, same]
  constructor
  · intro isComplete opens
    obtain ⟨document, complete⟩ := Option.isSome_iff_exists.mp (isSome_read?_iff.mpr isComplete)
    refine ⟨exists_closesAt complete opens, ?_⟩
    simp only [parse?, complete]
    cases shape document.settle with
    | ok x => exact .inl ⟨x, rfl⟩
    | error mismatch => exact .inr ⟨mismatch, rfl⟩
  · rintro offset ⟨lead, object, trail, rfl, leadBlank, trailBlank, value, opens, rfl⟩
    obtain ⟨parts, isObject⟩ : ∃ parts, IsObjectText parts object := by
      obtain ⟨b, object, rfl, -⟩ := value.exists_cons
      obtain rfl : b = openBrace := Option.some.inj opens
      exact value.exists_parts
    refine ⟨fun n early => undecided (read?_take_of_object leadBlank isObject early),
      fun n late => alike ?_, fun blanks blank => alike (read?_append_blank _ blank),
      fun more notBlank => undecided ?_⟩
    · rw [← List.append_assoc, List.take_append, List.take_of_length_le late]
      rw [read?_append_blank _ trailBlank]
      exact read?_append_blank _ fun b inside => trailBlank b (List.mem_of_mem_take inside)
    · rw [List.append_assoc, List.append_assoc]
      refine read?_append_of_object leadBlank isObject fun blank => notBlank fun b inside => ?_
      exact blank b (List.mem_append_right trail inside)

/-- An object with a closing brace in a name, and blanks around it. -/
def bracedBuffer : Bytes := Bytes.ofText " \x7b\"\x7d\":null\x7d\n"

theorem closesAt_bracedBuffer : ClosesAt bracedBuffer 11 := by
  refine ⟨[space], openBrace :: ([] ++ (quote :: ([closeBrace] ++ [quote]) ++ ([] ++ colon ::
      ([] ++ (Bytes.ofText "null" ++ [])))) ++ [closeBrace]), [lineFeed], by decide +kernel,
    by decide, by decide, ?_, rfl, by decide +kernel⟩
  have name : IsQuoted (quote :: ([closeBrace] ++ [quote])) :=
    ⟨[closeBrace], rfl, .plain (by decide) (by decide) (by decide) .none⟩
  exact .object (.firstMember isBlank_nil name isBlank_nil isBlank_nil
    (.scalar (.inl (by decide +kernel))) (.noMember isBlank_nil))

/-- The brace in the name decides nothing, for requests and for responses. -/
theorem parse?_bracedBuffer :
    (IsComplete bracedBuffer ∧ ClosesAt bracedBuffer 11 ∧ ¬ IsBlank [0]) ∧
      (parse? ImageRequest.shape (bracedBuffer.take 4) = .ok none ∧
        parse? ImageRequest.shape (bracedBuffer ++ [0]) = .ok none) ∧
      (parse? Response.shape (bracedBuffer.take 4) = .ok none ∧
        parse? Response.shape (bracedBuffer.take 11) = parse? Response.shape bracedBuffer) ∧
      ((∃ x, parse? Response.shape bracedBuffer = .ok (some x)) ∨
        ∃ mismatch, parse? Response.shape bracedBuffer = .error (.invalidEnvelope mismatch)) := by
  have complete : IsComplete bracedBuffer := isSome_read?_iff.mp (by decide +kernel)
  obtain ⟨early, -, -, followed⟩ :=
    (parse?_closesAt ImageRequest.shape bracedBuffer).2 11 closesAt_bracedBuffer
  obtain ⟨decided, closing⟩ := parse?_closesAt Response.shape bracedBuffer
  obtain ⟨earlyResponse, late, -, -⟩ := closing 11 closesAt_bracedBuffer
  exact ⟨⟨complete, closesAt_bracedBuffer, by decide⟩,
    ⟨early 4 (by decide), followed [0] (by decide)⟩,
    ⟨earlyResponse 4 (by decide), late 11 (by decide)⟩, (decided complete rfl).2⟩

end Wire

end FrameCourier
