import Presenter.Session.Run
import Presenter.PixelBuffer.Fill
import Presenter.PixelBuffer.Copy
/-!
# Named buffers — sessions of pixel operations

A session keeps pixel buffers by name. A `PixelOp` is one operation on the buffer a step
names: making it anew, reading its layout, offsets or bytes, writing bytes, filling, and the
transfers from another named buffer. A `PixelStep` is a step as read: its target, the other
buffer it names, and its operation. The target is found first, then the other buffer, and only
then are the operation's arguments looked at; a write looks at its own only once it holds the
target's memory. A step may name another buffer even when its operation reads none; that buffer
must still exist, and it may be the target itself only for the equality test.

The name `@fb` stands for the frame buffer, which exists only in frame sessions.
-/

namespace Presenter

def frameName : String := "@fb"

/-- Pixel buffers by name. -/
structure Buffers where
  entries : List (String × PixelBuffer) := []

namespace Buffers

def find? (bs : Buffers) (name : String) : Option PixelBuffer :=
  (bs.entries.find? (·.1 == name)).map (·.2)

def put (bs : Buffers) (name : String) (b : PixelBuffer) : Buffers :=
  if bs.entries.any (·.1 == name) then
    ⟨bs.entries.map fun e => if e.1 == name then (name, b) else e⟩
  else ⟨bs.entries ++ [(name, b)]⟩

end Buffers

/-- One operation on a named buffer. The transfers, the comparison and the equality test read
the other buffer the step names; a write carries its offset and bytes as read. -/
inductive PixelOp where
  | create (format : PixelFormat) (dim : Dimension)
  | createUnbound (format : PixelFormat) (dim : Dimension)
  | info
  | ptrAt (x y : Int)
  | dump
  | write (args : Except Misuse (Nat × ByteArray))
  | fill (rect : Rect) (color : Nat)
  | setColor (red green blue : Nat)
  | copy (rect : Rect) (sx sy : Int)
  | copyAll
  | overlay (rect : Rect) (sx sy : Int) (mask : ByteArray)
  | move (rect : Rect) (sx sy : Int)
  | cmp (rect : Rect) (sx sy : Int)
  | equal
  | debug

def PixelOp.needsBackend : PixelOp → Bool
  | .fill .. | .setColor .. | .copy .. | .copyAll | .overlay .. | .move .. | .cmp .. => true
  | _ => false

/-- A step on a named buffer as read: the target's name, the other buffer the step names if it
names one, and the operation, each with why it could not be read. -/
structure PixelStep where
  target : String
  source : Except Misuse (Option String) := .ok none
  op : Except Misuse PixelOp

namespace PixelStep

def allowsSelf (st : PixelStep) : Bool :=
  match st.op with
  | .ok .equal => true
  | _ => false

/-- The other buffer the step names, found by `find`. -/
def sourceBy {β : Type} (st : PixelStep) (find : String → Except Misuse β) :
    Except Misuse (Option β) :=
  match st.source with
  | .error m => .error m
  | .ok none => .ok none
  | .ok (some n) => if !st.allowsSelf && n == st.target then .error .sameSource else some <$> find n

end PixelStep

def PixelBuffer.info (b : PixelBuffer) : Except Halt BufferInfo := do
  let size ← b.bufferSize
  return ⟨b.format.bitsPerPixel, b.bytesPerPixel, b.bytesPerRow, size, b.hasBuffer, b.dimension,
    b.format⟩

/-- Writes bytes into a buffer's memory at an offset. The memory is taken first, which computes
the buffer's size; then the offset and bytes as read are looked at, and a write past the end of
the memory is refused. -/
def PixelBuffer.writeAt (b : PixelBuffer) (args : Except Misuse (Nat × ByteArray)) :
    Outcome × PixelBuffer :=
  match b.bufferSize with
  | .error h => (.halt h, b)
  | .ok _ =>
    match b.bytes, args with
    | .error e, _ => (.error e, b)
    | .ok _, .error m => (.misuse m, b)
    | .ok bytes, .ok (offset, data) =>
      if bytes.size < offset + data.size then (.misuse .outOfBuffer, b)
      else
        match b.modifyBytes fun bs => data.copySlice 0 bs offset data.size with
        | .ok b' => (.ok .unit, b')
        | .error _ => (.ok .unit, b)

def editOutcome (b : PixelBuffer) : Except Stop PixelBuffer → Outcome × PixelBuffer
  | .ok b' => (.ok .unit, b')
  | .error (.error e) => (.error e, b)
  | .error (.halt h) => (.halt h, b)

/-- Runs an operation on an existing buffer; `src` is the other buffer it reads. -/
def runPixelOp (b : PixelBuffer) (op : PixelOp) (src : PixelBuffer) : Outcome × PixelBuffer :=
  match op with
  | .create .. | .createUnbound .. => (.ok .unit, b)
  | .info =>
    match b.info with
    | .ok i => (.ok (.info i), b)
    | .error h => (.halt h, b)
  | .ptrAt x y =>
    match b.ptrAt x y with
    | .ok o => (.ok (.offset o), b)
    | .error h => (.halt h, b)
  | .dump =>
    match b.bytes with
    | .ok bs => (.ok (.bytes bs), b)
    | .error e => (.error e, b)
  | .write args => b.writeAt args
  | .fill rect color => editOutcome b (b.fillRect rect color)
  | .setColor r g bl => editOutcome b (b.setColor r g bl)
  | .copy rect sx sy => editOutcome b (b.copyFrom rect src sx sy)
  | .copyAll => editOutcome b (b.copyFromAll src)
  | .overlay rect sx sy mask => editOutcome b (b.overlay rect src sx sy mask)
  | .move rect sx sy => editOutcome b (b.moveRect rect sx sy)
  | .cmp rect sx sy =>
    match b.cmpFrom rect src sx sy with
    | .ok v => (.ok (.flag v), b)
    | .error (.error e) => (.error e, b)
    | .error (.halt h) => (.halt h, b)
  | .equal => (.ok (.flag (b.isEqualTo src)), b)
  | .debug => (.ok (.text b.describe), b)

/-- A made buffer: a new zeroed one within the allocation limit, or one without memory. -/
def makeBuffer : PixelOp → Option (Except Misuse (Except Error PixelBuffer))
  | .create f d => some (match checkAllocation f d with
      | .error m => .error m
      | .ok () => .ok (PixelBuffer.new f d))
  | .createUnbound f d => some (.ok (.ok (PixelBuffer.unbound f d)))
  | _ => none

def PixelStep.made (st : PixelStep) : Option (Except Misuse (Except Error PixelBuffer)) :=
  match st.op with
  | .ok op => makeBuffer op
  | .error _ => none

/-- What a step on named buffers answers: the outcome, and for an answered value the target's
bytes afterwards, or their refusal when it has no memory. -/
structure BufferAnswer where
  outcome : Outcome
  bytes : Option (Except Error ByteArray) := none

namespace Buffers

def lookup (bs : Buffers) (name : String) : Except Misuse PixelBuffer :=
  if name == frameName then .error .frameOutside
  else match bs.find? name with
    | some b => .ok b
    | none => .error (.noBuffer name)

/-- One step of a session of named buffers. -/
def step (bs : Buffers) (st : PixelStep) : BufferAnswer × Buffers :=
  match st.made with
  | some made =>
    if st.target == frameName then (⟨.misuse .frameReplaced, none⟩, bs)
    else match made with
      | .error m => (⟨.misuse m, none⟩, bs)
      | .ok (.error e) => (⟨.error e, none⟩, bs)
      | .ok (.ok b) => (⟨.ok .unit, some b.bytes⟩, bs.put st.target b)
  | none =>
    if st.target == frameName then (⟨.misuse .frameOutside, none⟩, bs)
    else match bs.find? st.target with
      | none => (⟨.misuse (.noBuffer st.target), none⟩, bs)
      | some b =>
        match st.sourceBy bs.lookup, st.op with
        | .error m, _ => (⟨.misuse m, none⟩, bs)
        | .ok _, .error m => (⟨.misuse m, none⟩, bs)
        | .ok src, .ok op =>
          let (o, b') := runPixelOp b op (src.getD b)
          (⟨o, if o.isOk then some b'.bytes else none⟩, bs.put st.target b')

def request (bs : Buffers) : Except Misuse PixelStep → BufferAnswer × Buffers
  | .error m => (⟨.misuse m, none⟩, bs)
  | .ok st => bs.step st

def run (steps : List (Except Misuse PixelStep)) : List (BufferAnswer × Buffers) :=
  Session.run request (·.outcome.isHalt) {} steps

end Buffers

end Presenter
