import FrameCourier.Document.Reader
import FrameCourier.Document.Shape
import FrameCourier.Base64

/-!
# Framing

A buffer is looked at as one whole document.  As long as it is none, more may arrive; once
it is, it either has the wanted shape or never will.  Senders of raw images end them with a
marker instead, of which the first one counts.
-/

namespace FrameCourier.Wire

open Document

/-- The coarse kinds of failure that cross the protocol. -/
inductive ErrorKind where
  | transport
  | framing
  | processing
  | validation
  deriving DecidableEq, Repr

def ErrorKind.name : ErrorKind → String
  | transport => "transport"
  | framing => "framing"
  | processing => "processing"
  | validation => "validation"

/-- Failures of an envelope or of the image inside it. -/
inductive Error where
  | invalidEnvelope (mismatch : Mismatch)
  | invalidPayload (fault : Base64.Fault)
  deriving DecidableEq, Repr

def Error.kind : Error → ErrorKind
  | invalidEnvelope _ => .validation
  | invalidPayload _ => .processing

def Error.message : Error → String
  | invalidEnvelope mismatch => "Invalid envelope: " ++ mismatch.message
  | invalidPayload fault => "Invalid base64 payload: " ++ fault.message

/-- The message and, for a payload, the message of the decoder. -/
def Error.chain (error : Error) : List String :=
  match error with
  | invalidEnvelope _ => [error.message]
  | invalidPayload fault => [error.message, fault.message]

/-- The bytes that an image in base64 stands for. -/
def decodePayload (text : String) : Except Error Bytes :=
  (Base64.decode text).mapError .invalidPayload

/-- Reads the whole buffer as one document: nothing while it is not a complete one. -/
def parse? {α : Type} (shape : Shape α) (buffer : Bytes) : Except Error (Option α) :=
  match Document.read? buffer with
  | none => .ok none
  | some document =>
    match shape document.settle with
    | .ok value => .ok (some value)
    | .error mismatch => .error (.invalidEnvelope mismatch)

/-- The bytes that end a raw image. -/
def endMarker : Bytes := Bytes.ofText "\n<<END_OF_DATA>>\n"

/-- The least offset, counted from `offset`, at which `pattern` stands in the bytes. -/
def offsetFrom? (pattern : Bytes) (offset : Nat) : Bytes → Option Nat
  | [] => if pattern.isEmpty then some offset else none
  | b :: rest =>
    if pattern.isPrefixOf (b :: rest) then some offset else offsetFrom? pattern (offset + 1) rest

/-- The pattern stands where it is found. -/
theorem isPrefixOf_drop_of_offsetFrom? {pattern bytes : Bytes} {start offset : Nat}
    (found : offsetFrom? pattern start bytes = some offset) :
    start ≤ offset ∧ pattern.isPrefixOf (bytes.drop (offset - start)) = true := by
  induction bytes generalizing start with
  | nil =>
    unfold offsetFrom? at found
    split at found
    · next empty =>
      cases found
      simp [List.isEmpty_iff.mp empty]
    · cases found
  | cons b rest ih =>
    unfold offsetFrom? at found
    split at found
    · next here =>
      cases found
      simpa using here
    · obtain ⟨later, stands⟩ := ih found
      have step : offset - start = offset - (start + 1) + 1 := by omega
      refine ⟨by omega, ?_⟩
      rw [step, List.drop_succ_cons]
      exact stands

/-- The pattern stands nowhere before the place where it is found. -/
theorem not_isPrefixOf_drop_of_offsetFrom? {pattern bytes : Bytes} {start offset : Nat}
    (found : offsetFrom? pattern start bytes = some offset) {n : Nat}
    (before : start + n < offset) :
    pattern.isPrefixOf (bytes.drop n) = false := by
  induction bytes generalizing start n with
  | nil =>
    unfold offsetFrom? at found
    split at found
    · cases found
      omega
    · cases found
  | cons b rest ih =>
    unfold offsetFrom? at found
    split at found
    · cases found
      omega
    · next notHere =>
      cases n with
      | zero => exact Bool.eq_false_iff.mpr notHere
      | succ n => simpa using ih found (by omega)

/-- The offset of the first end marker, if one has arrived. -/
def markerOffset? (buffer : Bytes) : Option Nat := offsetFrom? endMarker 0 buffer

end FrameCourier.Wire
