import FrameCourier.Service.Handler
import FrameCourier.Settings.Sources

/-!
# Settings of the service

The socket and the detection have defaults; the model and its labels have to be named, and
have to exist.  The variables of the service begin with `DS_`.
-/

namespace FrameCourier

open Setting

/-- Where the service listens unless it is told otherwise. -/
def defaultSocket : String := "/tmp/volcom_unix_socket"

/-- A socket in a group of its own. -/
def socketGroup (name : String) : Setting.Reader String := fun setting => do
  let socket ← Group.member? ⟨name, ["socket_path"]⟩ setting "socket_path" text
  return socket.getD defaultSocket

namespace Service.DetectionSettings

def read : Setting.Reader DetectionSettings := fun setting => do
  let group : Group :=
    ⟨"DetectionConfig", ["annotate", "max_concurrent_detections", "jpeg_quality"]⟩
  let annotate ← group.member? setting "annotate" boolean
  let limit ← group.member? setting "max_concurrent_detections" (optional natural)
  let quality ← group.member? setting "jpeg_quality" (naturalOfBits 8)
  return ⟨annotate.getD default.annotate, limit.getD default.maxConcurrentDetections,
    (quality.map UInt8.ofNat).getD default.jpegQuality⟩

end Service.DetectionSettings

/-- Which model detects, and how. -/
structure ModelSettings where
  file : String
  folder : String
  /-- How many copies of the model are loaded; one for each processor if not set. -/
  instances : Option Nat
  /-- The least confidence of a detection. -/
  leastConfidence : Number.Single
  deriving DecidableEq, Repr

namespace ModelSettings

def path (settings : ModelSettings) : String := inside settings.folder settings.file

def read : Setting.Reader ModelSettings := fun setting => do
  let group : Group :=
    ⟨"ModelConfig", ["onnx_file", "model_dir", "num_instances", "min_probability"]⟩
  let file ← group.member? setting "onnx_file" text
  let folder ← group.member? setting "model_dir" text
  let instances ← group.member? setting "num_instances" natural
  let least ← group.member? setting "min_probability" real
  return ⟨← group.require setting "onnx_file" file, ← group.require setting "model_dir" folder,
    instances, (least.map (·.convert _)).getD (Number.Binary.ofRat _ false (1 / 2))⟩

end ModelSettings

/-- Which file names the classes of the model. -/
structure LabelSettings where
  file : String
  folder : String
  deriving DecidableEq, Repr

namespace LabelSettings

def path (settings : LabelSettings) : String := inside settings.folder settings.file

def read : Setting.Reader LabelSettings := fun setting => do
  let group : Group := ⟨"LabelsConfig", ["labels_file", "labels_dir"]⟩
  let file ← group.member? setting "labels_file" text
  let folder ← group.member? setting "labels_dir" text
  return ⟨← group.require setting "labels_file" file,
    ← group.require setting "labels_dir" folder⟩

end LabelSettings

/-- What the service is told by its settings. -/
structure ServiceSettings where
  socketPath : String
  level : LogLevel
  detection : Service.DetectionSettings
  model : ModelSettings
  labels : LabelSettings
  deriving DecidableEq, Repr

namespace ServiceSettings

def read : Setting.Reader ServiceSettings := fun setting => do
  let group : Group := ⟨"Config", ["server", "log_level", "detection", "model", "labels"]⟩
  let socket ← group.member? setting "server" (socketGroup "ServerConfig")
  let level ← group.member? setting "log_level" (LogLevel.setting LogLevel.readForService)
  let detection ← group.member? setting "detection" Service.DetectionSettings.read
  let model ← group.member? setting "model" ModelSettings.read
  let labels ← group.member? setting "labels" LabelSettings.read
  return ⟨socket.getD defaultSocket, ← group.require setting "log_level" level,
    detection.getD Service.DetectionSettings.default, ← group.require setting "model" model,
    ← group.require setting "labels" labels⟩

/-- The settings that sources give; the files that they name are looked for at the end. -/
def load (sources : Sources) : Except SettingsError ServiceSettings := do
  let settings ← (read (← sources.gather "ds_")).mapError .setting
  sources.check settings.model.path
  sources.check settings.labels.path
  return settings

end ServiceSettings

end FrameCourier
