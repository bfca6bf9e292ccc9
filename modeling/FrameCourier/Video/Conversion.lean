import FrameCourier.Frame
import FrameCourier.Text.Blank
import FrameCourier.Text.Quoted
import FrameCourier.Video.Command

/-!
# Videos and their images

Conversions work in a folder of their own.  The images of a video are the files whose names
end in `.jpg`; sorted by name they have to be numbered from 1 without a gap.  A video is
made only of frames that are numbered so.

The video program itself is given: started with arguments on a folder, it leaves a folder
and says how it ended.
-/

namespace FrameCourier.Video

/-- Why a conversion has no result. -/
inductive Error where
  | videoNotFound (path : String)
  | notStarted (program : String) (fault : SystemFault)
  /-- The program failed: its status, unless a signal ended it, and what it complained. -/
  | failed (status : Option Int) (complaint : String)
  | noFrames
  | outOfOrder (expected found : String)
  | system (fault : SystemFault)
  deriving DecidableEq, Repr

namespace Error

def statusText : Option Int → String
  | some status => "Some(" ++ toString status ++ ")"
  | none => "None"

def message : Error → String
  | videoNotFound path => "Input video not found: " ++ Text.quoted path
  | notStarted program fault =>
    "Failed to spawn " ++ Text.quoted program ++ ": " ++ fault.message
  | failed status complaint => "ffmpeg exited with " ++ statusText status ++ ": " ++ complaint
  | noFrames => "ffmpeg produced no frames"
  | outOfOrder expected found =>
    "Frame images are not contiguous: expected " ++ expected ++ ", found " ++ found
  | system fault => "Codec I/O failed: " ++ fault.message

/-- The message and the messages of what it comes from, the nearest first. -/
def chain (error : Error) : List String :=
  match error with
  | notStarted _ fault => [error.message, fault.message]
  | system fault => [error.message, fault.message]
  | _ => [error.message]

/-- The message of whoever needed the conversion. -/
def codecMessage (error : Error) : String := "Codec error: " ++ error.message

end Error

/-- How a started program ended. -/
structure Ending where
  /-- Its status, unless a signal ended it. -/
  status : Option Int
  complaint : Bytes
  deriving DecidableEq, Repr

/-- A video program: the path it is started by and, for arguments and the folder it works
in, what it leaves there and how it ends, unless it does not start. -/
structure Program where
  path : String
  run : List String → Listing → Except SystemFault (Listing × Ending)

/-- A conversion: the command line that was started, with the folder it was started on, and
what came of it. -/
structure Attempt (α : Type) where
  started : Option (List String × Listing)
  result : Except Error α

/-- Runs the program on a folder; what it leaves there counts only if it ends well. -/
def Program.attempt {α : Type} (program : Program) (arguments : List String) (folder : Listing)
    (outcome : Listing → Except Error α) : Attempt α :=
  match program.run arguments folder with
  | .error fault => ⟨none, .error (.notStarted program.path fault)⟩
  | .ok (after, ending) =>
    ⟨some (arguments, folder),
      if ending.status = some 0 then outcome after
      else .error (.failed ending.status
        (String.ofList (Text.trim (Text.lossy ending.complaint).toList)))⟩

/-- Checks that names are those of the images from `position` on. -/
def checkFrom (position : Nat) : List String → Except Error Unit
  | [] => .ok ()
  | name :: rest =>
    let expected := numberedImageName (UInt32.ofNat position)
    if name = expected then checkFrom (position + 1) rest
    else .error (.outOfOrder expected name)

/-- Checks that names are those of the images 1, 2, 3 and so on. -/
def checkSequence (names : List String) : Except Error Unit := checkFrom 1 names

/-- Whether a file name is that of an image. -/
def isImageName (name : String) : Bool := ".jpg".toList.isSuffixOf name.toList

/-- The images of a folder with their names, by name. -/
def imagesOf (folder : Listing) : Listing :=
  (folder.filter fun entry => isImageName entry.1).mergeSort fun a b => !decide (b.1 < a.1)

/-- The images that an extraction left in a folder. -/
def collect (folder : Listing) : Except Error (List Bytes) :=
  let images := imagesOf folder
  if images.isEmpty then .error .noFrames
  else do
    checkSequence (images.map (·.1))
    images.mapM fun entry => entry.2.content.mapError .system

/-- The images of a video in their order, if the video is there.  The program works in the
folder at `work`. -/
def extractImages (program : Program) (work video : String) (present : Bool) :
    Attempt (List Bytes) :=
  if present then program.attempt (extraction video work) [] collect
  else ⟨none, .error (.videoNotFound video)⟩

/-- Writes the images of frames into a folder, under the names of their numbers. -/
def place (folder : Listing) : List OutputFrame → Except Error Listing
  | [] => .ok folder
  | frame :: rest =>
    match folder.write (numberedImageName frame.index) frame.image with
    | .error fault => .error (.system fault)
    | .ok folder => place folder rest

/-- The folder that a video is made from: the images of the frames, which are numbered from
1 in their order. -/
def prepare (frames : List OutputFrame) : Except Error Listing :=
  if frames.isEmpty then .error .noFrames
  else do
    let folder ← place [] frames
    checkSequence (frames.map fun frame => numberedImageName frame.index)
    return folder

/-- The video that the program left in its folder. -/
def outputOf (folder : Listing) : Except Error Bytes :=
  (Listing.content folder outputName).mapError .system

/-- The video of frames.  The program works in the folder at `work`. -/
def encodeFrames (program : Program) (work : String) (frames : List OutputFrame)
    (options : Options) : Attempt Bytes :=
  match prepare frames with
  | .error error => ⟨none, .error error⟩
  | .ok folder =>
    program.attempt (assembly work (inside work outputName) options) folder outputOf

end FrameCourier.Video
