import FrameCourier.Proofs.Archive.Kinds
import FrameCourier.Proofs.Archive.Restoring
import FrameCourier.Proofs.Client.AnyPeer
import FrameCourier.Proofs.Delivery
import FrameCourier.Proofs.Detector.Anchors
import FrameCourier.Proofs.Detector.Labels
import FrameCourier.Proofs.Dispatch.Sequential
import FrameCourier.Proofs.Job
import FrameCourier.Proofs.Number.Whole
import FrameCourier.Proofs.Picture.Cutting
import FrameCourier.Proofs.Processing.Leftovers
import FrameCourier.Proofs.Processing.Reload
import FrameCourier.Proofs.Processing.StoredFrames
import FrameCourier.Proofs.Service.Acceptance
import FrameCourier.Proofs.Service.Answers
import FrameCourier.Proofs.Service.Conduct
import FrameCourier.Proofs.Service.Isolation
import FrameCourier.Proofs.Service.Permits
import FrameCourier.Proofs.Service.SingleFlight
import FrameCourier.Proofs.Service.WrittenRequests
import FrameCourier.Proofs.Settings.Precedence
import FrameCourier.Proofs.Video.Assembly
import FrameCourier.Proofs.Video.Extraction
import FrameCourier.Proofs.Wire.Framing
import FrameCourier.Service.Server
import FrameCourier.Settings.Processing
