import FrameCourier.Folder

/-!
# Command lines of the video program

A video program turns a video into numbered images and numbered images into a video.  This
module holds what it is asked for, as arguments.
-/

namespace FrameCourier.Video

/-- The pattern of image names, as the program writes it. -/
def imagePattern : String := "frame_%05d.jpg"

/-- The name of the video that a conversion leaves. -/
def outputName : String := "output.mp4"

/-- How much is spent on the quality of a video. -/
inductive Quality where
  | low
  | medium
  | high
  deriving DecidableEq, Repr

/-- The qualities by their names. -/
def Quality.names : List (String × Quality) :=
  [("low", .low), ("medium", .medium), ("high", .high)]

/-- The rate factor and the preset of a quality. -/
def Quality.arguments : Quality → List String
  | low => ["-crf", "30", "-preset", "fast"]
  | medium => ["-crf", "23", "-preset", "medium"]
  | high => ["-crf", "18", "-preset", "slow"]

/-- How images become a video. -/
structure Options where
  /-- Images a second. -/
  framerate : UInt32
  quality : Quality
  codec : String
  /-- The size of the video, such as `1280x720`; the size of the images if there is none. -/
  resolution : Option String
  deriving DecidableEq, Repr

def Options.default : Options := ⟨25, .high, "libx264", none⟩

/-- The arguments that put the images of a video into a folder. -/
def extraction (video folder : String) : List String :=
  ["-i", video, "-y", "-q:v", "2", inside folder imagePattern]

/-- The arguments that make the images of a folder into a video. -/
def assembly (folder output : String) (options : Options) : List String :=
  ["-y", "-framerate", toString options.framerate.toNat, "-i", inside folder imagePattern,
    "-c:v", options.codec] ++ options.quality.arguments ++ ["-pix_fmt", "yuv420p"] ++
    (options.resolution.map fun size => ["-s", size]).getD [] ++ [output]

end FrameCourier.Video
