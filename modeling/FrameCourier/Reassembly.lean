import FrameCourier.Dispatch.Basic

/-!
# Reassembly

The images of the output video come from the slots of a job: image `k` from slot `k`.  A
slot without an annotated image may fall back on the image of the frame itself.
-/

namespace FrameCourier.Reassembly

/-- Why a video cannot be put together from a job. -/
inductive Error where
  | misnumbered (fault : Misnumbered)
  | notAnnotated (number : UInt32)
  | undecodable (fault : Base64.Fault)
  deriving DecidableEq, Repr

def Error.message : Error → String
  | misnumbered fault => fault.message
  | notAnnotated number => "Frame " ++ toString number.toNat ++ " has no annotated image"
  | undecodable fault => "Frame payload is not valid base64: " ++ fault.message

/-- The frame of a number; there is none of the number 0. -/
def frameOf? (frames : List Frame) (number : UInt32) : Option Frame :=
  if number = 0 then none else frames[number.toNat - 1]?

/-- The output image of one slot. -/
def imageOf (frames : List Frame) (fallback : Bool) (number : UInt32) (slot : Slot) :
    Except Error Bytes :=
  match slot.annotated? with
  | some image => .ok image
  | none =>
    match if fallback then frameOf? frames number else none with
    | some frame => frame.image.mapError .undecodable
    | none => .error (.notAnnotated number)

/-- The output frames of a job on frames, one for each slot. -/
def reassemble (frames : List Frame) (job : Job) (fallback : Bool) :
    Except Error (List OutputFrame) :=
  match misnumbered? frames with
  | some fault => .error (.misnumbered fault)
  | none =>
    job.numbered.mapM fun (number, slot) =>
      (imageOf frames fallback number slot).map fun image => ⟨number, image⟩

/-- What an encoder makes of output frames; nothing is made of none. -/
def encoded {α : Type} (encode : List OutputFrame → α) (output : List OutputFrame) : Option α :=
  if output.isEmpty then none else some (encode output)

end FrameCourier.Reassembly
