import FrameCourier.Processing
import FrameCourier.Settings.Service

/-!
# Settings of a run

How frames are dispatched and how videos are coded has defaults; the paths of a run have to
be named, and its input has to exist.  The variables of a run begin with `FP_`.
-/

namespace FrameCourier

open Setting

/-- How frames are put to the service, with what either way of it needs. -/
structure DispatchSettings where
  sequential : Bool
  batchSize : Nat
  delay : Nat
  deriving DecidableEq, Repr

namespace DispatchSettings

def default : DispatchSettings := ⟨false, 5, 100⟩

def read : Setting.Reader DispatchSettings := fun setting => do
  let group : Group := ⟨"DispatchConfig", ["mode", "batch_size", "request_delay_ms"]⟩
  let sequential ← group.member? setting "mode"
    (choice "DispatchMode" [("sequential", true), ("batched", false)])
  let size ← group.member? setting "batch_size" natural
  let delay ← group.member? setting "request_delay_ms" natural
  return ⟨sequential.getD default.sequential, size.getD default.batchSize,
    delay.getD default.delay⟩

/-- The policy that is set; a batch holds one frame at least. -/
def policy (settings : DispatchSettings) : Policy :=
  if settings.sequential then .sequential settings.delay
  else .batched (max settings.batchSize 1)

end DispatchSettings

/-- Which program codes videos, and how. -/
structure CodecSettings where
  program : String
  options : Video.Options
  deriving DecidableEq, Repr

namespace CodecSettings

def default : CodecSettings := ⟨"ffmpeg", .default⟩

def read : Setting.Reader CodecSettings := fun setting => do
  let group : Group :=
    ⟨"CodecConfig", ["ffmpeg_path", "framerate", "quality", "video_codec", "resolution"]⟩
  let program ← group.member? setting "ffmpeg_path" text
  let rate ← group.member? setting "framerate" (naturalOfBits 32)
  let quality ← group.member? setting "quality" (choice "Quality" Video.Quality.names)
  let codec ← group.member? setting "video_codec" text
  let resolution ← group.member? setting "resolution" (optional text)
  let options := default.options
  return ⟨program.getD default.program,
    ⟨(rate.map UInt32.ofNat).getD options.framerate, quality.getD options.quality,
      codec.getD options.codec, resolution.getD options.resolution⟩⟩

end CodecSettings

/-- What a run reads and writes. -/
structure JobSettings where
  inputVideo : String
  work : String
  outputVideo : String
  fallback : Bool
  deriving DecidableEq, Repr

namespace JobSettings

def read : Setting.Reader JobSettings := fun setting => do
  let group : Group :=
    ⟨"JobConfig", ["input_video", "work_dir", "output_video", "fallback_to_source"]⟩
  let input ← group.member? setting "input_video" text
  let work ← group.member? setting "work_dir" text
  let output ← group.member? setting "output_video" text
  let fallback ← group.member? setting "fallback_to_source" boolean
  return ⟨← group.require setting "input_video" input, ← group.require setting "work_dir" work,
    ← group.require setting "output_video" output, fallback.getD true⟩

end JobSettings

/-- What a run is told by its settings. -/
structure ProcessingSettings where
  level : LogLevel
  socketPath : String
  dispatch : DispatchSettings
  codec : CodecSettings
  job : JobSettings
  deriving DecidableEq, Repr

namespace ProcessingSettings

/-- What a run is asked for by its settings. -/
def order (settings : ProcessingSettings) : Processing.Order :=
  ⟨settings.job.inputVideo, settings.job.outputVideo, settings.job.work,
    settings.dispatch.policy, settings.job.fallback, settings.codec.options⟩

def read : Setting.Reader ProcessingSettings := fun setting => do
  let group : Group :=
    ⟨"Config", ["log_level", "detection_service", "dispatch", "codec", "job"]⟩
  let level ← group.member? setting "log_level" (LogLevel.setting LogLevel.read)
  let socket ← group.member? setting "detection_service" (socketGroup "DetectionServiceConfig")
  let dispatch ← group.member? setting "dispatch" DispatchSettings.read
  let codec ← group.member? setting "codec" CodecSettings.read
  let job ← group.member? setting "job" JobSettings.read
  return ⟨← group.require setting "log_level" level, socket.getD defaultSocket,
    dispatch.getD DispatchSettings.default, codec.getD CodecSettings.default,
    ← group.require setting "job" job⟩

/-- The settings that sources give; the input is looked for at the end. -/
def load (sources : Sources) : Except SettingsError ProcessingSettings := do
  let settings ← (read (← sources.gather "fp_")).mapError .setting
  sources.check settings.job.inputVideo
  return settings

end ProcessingSettings

end FrameCourier
