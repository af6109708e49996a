import Presenter.PixelFormat
import Presenter.Surface
import Presenter.Text.Blank
/-!
# Backend configuration — render modes, settings and what a backend is built for

There are two ways to render: `raster` through CPU pixel sections and `compositor` through the
accelerated interface. Mode names are read leniently (`RenderMode.parse`): white space around
them is ignored, ASCII case too, and the native API names count as aliases.

A `BackendConfig` is a pixel format, a size (each side at least one) and an optional surface.
It is valid when the format is one backends take and the pixel memory fits one section: at
most `2^31 - 1` bytes (`BackendConfig.validate`).

`Environment` holds the two process settings the library reads: whether accelerated rendering
is switched off, and a mode that overrides the preferred one.
-/

namespace Presenter

/-- How frames reach the screen. -/
inductive RenderMode where
  | raster
  | compositor
  deriving DecidableEq, Repr, Inhabited

namespace RenderMode

def name : RenderMode → String
  | .raster => "raster"
  | .compositor => "compositor"

def parse (raw : String) : Option RenderMode :=
  match Text.lowerAscii (Text.trimBlank raw) with
  | "raster" | "gdi" => some .raster
  | "compositor" | "d2d" | "direct2d" => some .compositor
  | _ => none

end RenderMode

def sectionLimit : Nat := 2147483647

/-- What a backend is built for. -/
structure BackendConfig where
  format : PixelFormat
  dimension : Dimension
  surface : Option SurfaceHandle
  deriving DecidableEq, Repr, Inhabited

namespace BackendConfig

def new (format : PixelFormat) (dimension : Dimension) (surface : Option SurfaceHandle) :
    BackendConfig :=
  ⟨format, dimension.clamped, surface⟩

/-- Bytes of pixel memory, refused when they do not fit one section. -/
def bufferLen (c : BackendConfig) : Except Error Nat :=
  match c.dimension.clamped.byteLen c.format.bytesPerPixel with
  | .error e => .error e
  | .ok len =>
    if len ≤ sectionLimit then .ok len
    else .error (.invalidConfig
      (toString c.dimension.width ++ "x" ++ toString c.dimension.height ++
        " is too large for a single pixel section"))

/-- A configuration is valid when backends take its format and its memory fits a section. -/
def validate (c : BackendConfig) : Except Error Unit :=
  match c.format.validateForBackend with
  | .error e => .error e
  | .ok () =>
    match c.bufferLen with
    | .error e => .error e
    | .ok _ => .ok ()

end BackendConfig

def isTruthy (raw : String) : Bool :=
  let n := Text.lowerAscii (Text.trimBlank raw)
  n == "1" || n == "true" || n == "yes" || n == "on"

/-- The process settings the library reads. -/
structure Environment where
  /-- Switches accelerated rendering off when truthy. -/
  disableAccelerated : Option String := none
  /-- Names a mode that takes precedence over the preferred one. -/
  renderMode : Option String := none
  deriving DecidableEq, Repr, Inhabited

namespace Environment

def acceleratedAllowed (e : Environment) : Bool :=
  !(e.disableAccelerated.map isTruthy).getD false

def set? (e : Environment) (name value : String) : Option Environment :=
  if name == "SNOW_RENDER_DISABLE_ACCELERATED" then some { e with disableAccelerated := some value }
  else if name == "SNOW_RENDER_MODE" then some { e with renderMode := some value }
  else none

def modeOverride (e : Environment) : Option RenderMode :=
  e.renderMode.bind fun raw =>
    let n := Text.lowerAscii (Text.trimBlank raw)
    if n.isEmpty then none else RenderMode.parse n

end Environment

end Presenter
