import FrameCourier.Archive.Folder
import FrameCourier.Dispatch.Timeline
import FrameCourier.Reassembly
import FrameCourier.Video.Conversion

/-!
# Processing a video

A run takes a video through all of it: its images are extracted and archived, the archived
frames are put to the detection service, what comes of them is archived in a fresh folder,
and the output video is made from what is read back there.

A run changes the folder it works in, and it stops at the first error; what was done before
stays.
-/

namespace FrameCourier.Processing

/-- What a run is asked for. -/
structure Order where
  inputVideo : String
  outputVideo : String
  /-- The path of the folder that the run works in. -/
  work : String
  policy : Policy
  /-- Whether a frame without an annotated image goes into the output as it is. -/
  fallback : Bool
  options : Video.Options
  deriving DecidableEq, Repr

/-- What a run finds: the other programs, the files outside its folder, and the clock. -/
structure Surroundings where
  /-- Why the service cannot be reached. -/
  unreachable : Option Client.Error
  service : Dispatch.Service
  program : Video.Program
  /-- The folder in which the program works, which is not that of the run. -/
  programFolder : String
  inputPresent : Bool
  /-- Why the output video cannot be written. -/
  outputFault : Option SystemFault
  now : Time.Instant

/-- What a run has done. -/
structure Site where
  /-- The folder that the run works in. -/
  folder : Listing
  /-- The command lines that were started. -/
  commands : List (List String)
  /-- The frames that were put to the service. -/
  called : List Frame
  /-- The output video. -/
  video : Option Bytes
  deriving Repr

/-- Why a run ends without a video. -/
inductive Error where
  | unavailable (error : Client.Error)
  | notExtracted (video : String) (error : Video.Error)
  | archive (error : Archive.Error)
  | notLoaded (error : Archive.Error)
  | aborted (error : Dispatch.Error)
  | notCleared (path : String) (fault : SystemFault)
  | notReadBack (error : Archive.Error)
  | countDiffers (held expected : Nat)
  | notEncoded (error : Video.Error)
  | notWritten (path : String) (fault : SystemFault)
  deriving DecidableEq, Repr

/-- The messages of an error, from what failed to why. -/
def Error.chain : Error → List String
  | unavailable error => "Detection service is not available" :: error.chain
  | notExtracted video error =>
    ("Failed to extract frames from " ++ Text.quoted video) :: error.codecMessage :: error.chain
  | archive error => error.chain
  | notLoaded error => "Failed to load archived frames" :: error.chain
  | aborted error => "Frame detection aborted" :: error.chain
  | notCleared path fault => ["Failed to clear " ++ Text.quoted path, fault.message]
  | notReadBack error => "Failed to read back processed frames" :: error.chain
  | countDiffers held expected =>
    ["Processed archive holds " ++ toString held ++ " frames, job has " ++ toString expected]
  | notEncoded error => "Failed to encode output video" :: error.codecMessage :: error.chain
  | notWritten path fault => ["Failed to write " ++ Text.quoted path, fault.message]

def Error.message (error : Error) : String := ": ".intercalate error.chain

/-- The name of the folder of the extracted frames. -/
def framesName : String := "frames"

/-- The name of the folder of the frames with their outcomes. -/
def processedName : String := "processed"

/-! ## Archives of a run -/

/-- The folder that stands under a name, made if nothing does. -/
def openArchive (path : String) (node : Option Node) : Except Archive.Error Listing :=
  match node with
  | none => .ok []
  | some (.folder entries) => .ok entries
  | some (.file _) => .error (.system (.ofText path) .entryExists)

/-- Stores records one after the other; what was stored before an error stays. -/
def store (path : String) (listing : Listing) :
    List Archive.Record → Listing × Except Archive.Error Unit
  | [] => (listing, .ok ())
  | record :: rest =>
    match Archive.write path (some listing) record with
    | .error error => (listing, .error error)
    | .ok listing => store path listing rest

/-- The record of a frame with what its slot holds; none while it is pending. -/
def outcomeRecord? (now : Time.Instant) (frame : Frame) : Slot → Option Archive.Record
  | .pending => none
  | .completed report => some ((Archive.Record.ofFrame frame).withReport report)
  | .failed message => some ((Archive.Record.ofFrame frame).withFailure now message)

/-- The records of frames with the outcomes of a job. -/
def outcomeRecords (now : Time.Instant) (frames : List Frame) (job : Job) :
    List Archive.Record :=
  (frames.zip job.slots).filterMap fun (frame, slot) => outcomeRecord? now frame slot

/-- Archives outcomes in a folder of their own at `path` and reads the output frames back
from there.  `before` is what stood at the path: it is removed first. -/
def archiveAndReload (path : String) (before : Option Node) (now : Time.Instant)
    (frames : List Frame) (job : Job) (fallback : Bool) :
    Option Node × Except Error (List OutputFrame) :=
  match before with
  | some (.file content) => (some (.file content), .error (.notCleared path .notDirectory))
  | _ =>
    match store path [] (outcomeRecords now frames job) with
    | (listing, .error error) => (some (.folder listing), .error (.archive error))
    | (listing, .ok ()) =>
      (some (.folder listing),
        match Archive.loadOutputFrames path (some listing.directory) fallback with
        | .error error => .error (.notReadBack error)
        | .ok output =>
          if output.length = job.total then .ok output
          else .error (.countDiffers output.length job.total))

/-- Archives extracted frames in the folder at `path` and reads frames back from there. -/
def archiveFrames (path : String) (before : Option Node) (frames : List Frame) :
    Option Node × Except Error (List Frame) :=
  match openArchive path before with
  | .error error => (before, .error (.archive error))
  | .ok listing =>
    match store path listing (frames.map .ofFrame) with
    | (listing, .error error) => (some (.folder listing), .error (.archive error))
    | (listing, .ok ()) =>
      (some (.folder listing), (Archive.loadFrames path (some listing.directory)).mapError .notLoaded)

/-! ## A run -/

/-- A part of a run: what it does to the site, and its result unless it fails. -/
abbrev Part (α : Type) := Site → Site × Except Error α

/-- One part after another; the second is not begun if the first one fails. -/
def Part.andThen {α β : Type} (first : Part α) (second : α → Part β) : Part β := fun site =>
  match first site with
  | (site, .error error) => (site, .error error)
  | (site, .ok value) => second value site

/-- A part that changes nothing. -/
def Part.ofResult {α : Type} (result : Except Error α) : Part α := fun site => (site, result)

/-- Runs a conversion and keeps the command line that it started. -/
def convert {α : Type} (attempt : Video.Attempt α) (wrap : Video.Error → Error) : Part α :=
  fun site =>
    ({ site with commands := site.commands ++ (attempt.started.map (·.1)).toList },
      attempt.result.mapError wrap)

/-- Works on what stands under a name in the folder of the run. -/
def within {α : Type} (name : String) (work : Option Node → Option Node × Except Error α) :
    Part α := fun site =>
  match work (site.folder.lookup name) with
  | (some node, result) => ({ site with folder := site.folder.put name node }, result)
  | (none, result) => ({ site with folder := site.folder.remove name }, result)

/-- Puts frames to the service. -/
def dispatch (order : Order) (around : Surroundings) (frames : List Frame) : Part Job :=
  fun site =>
    let (state, moments) := Dispatch.course order.policy around.service frames
    let called := frames.filter fun frame => moments.any fun
      | .started _ index => index = frame.index
      | .ended _ _ => false
    ({ site with called := called },
      match state with
      | .finished result => result.mapError .aborted
      | .calling _ agenda => .ok agenda.job
      | .pausing agenda => .ok agenda.job)

/-- Makes the output video of frames and writes it, if there are any. -/
def finish (order : Order) (around : Surroundings) (output : List OutputFrame) : Part Unit :=
  let encode := fun frames =>
    Video.encodeFrames around.program around.programFolder frames order.options
  match Reassembly.encoded encode output with
  | none => Part.ofResult (.ok ())
  | some attempt =>
    (convert attempt .notEncoded).andThen fun video site =>
      match around.outputFault with
      | some fault => (site, .error (.notWritten order.outputVideo fault))
      | none => ({ site with video := some video }, .ok ())

/-- The whole run. -/
def run (order : Order) (around : Surroundings) : Part Progress :=
  let reach : Part Unit := Part.ofResult <|
    match around.unreachable with
    | some error => .error (.unavailable error)
    | none => .ok ()
  reach.andThen fun _ =>
  (convert (Video.extractImages around.program around.programFolder order.inputVideo
    around.inputPresent) (.notExtracted order.inputVideo)).andThen fun images =>
  (within framesName fun before =>
    archiveFrames (inside order.work framesName) before
      (Frame.ofImages images "jpg" around.now)).andThen fun frames =>
  (dispatch order around frames).andThen fun job =>
  (within processedName fun before =>
    archiveAndReload (inside order.work processedName) before around.now frames job
      order.fallback).andThen fun output =>
  (finish order around output).andThen fun _ =>
  Part.ofResult (.ok job.progress)

end FrameCourier.Processing
