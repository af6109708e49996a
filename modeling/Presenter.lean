import Presenter.Error
import Presenter.Geometry
import Presenter.PixelFormat
import Presenter.Log
import Presenter.Encoding.Hex
import Presenter.Encoding.Digest
import Presenter.Text.Blank
import Presenter.Surface
import Presenter.Device.Screen
import Presenter.Device.Raster
import Presenter.Device.Compositor
import Presenter.Backend.Config
import Presenter.Devices
import Presenter.Backend.Raster
import Presenter.Backend.Compositor
import Presenter.Backend
import Presenter.Coordinator
import Presenter.PixelBuffer.Basic
import Presenter.PixelBuffer.Clip
import Presenter.PixelBuffer.Fill
import Presenter.PixelBuffer.Copy
import Presenter.FrameBuffer
import Presenter.Control
import Presenter.Privilege
import Presenter.Demo
import Presenter.Session.Outcome
import Presenter.Session.Buffers
import Presenter.Session.Settings
import Presenter.Session.Frame
import Presenter.Session.Coordinator
import Presenter.Session.Backend
import Presenter.Main
import Presenter.Proofs.Ledger
import Presenter.Proofs.Lifecycle
import Presenter.Proofs.PixelExtent
import Presenter.Proofs.CoordinatorReach
import Presenter.Proofs.FrameReach
import Presenter.Proofs.Refusal
import Presenter.Proofs.Fallback
import Presenter.Proofs.Rebinding
import Presenter.Proofs.CopyRegion
import Presenter.Proofs.MoveRegion
import Presenter.Proofs.SliceCopies
import Presenter.Proofs.CompositorPresents
import Presenter.Proofs.CompareRegion
import Presenter.Proofs.MaskedCopy
import Presenter.Proofs.FillRegion
import Presenter.Proofs.TargetResize
import Presenter.Proofs.Creatability
import Presenter.Proofs.ScreenExchange
import Presenter.Proofs.MemorySizes
import Presenter.Proofs.TestPattern
