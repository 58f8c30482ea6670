import Anasa.Model.TimelineAudioPublisher

/-!
# Planar sample storage

`AudioBuffer` as it is stored: one vector of samples, in which each channel occupies `frameCount` of
them in a row, and the loops that write and copy samples through spans of it. Elsewhere a buffer is a
function of channel and frame.
-/

namespace Anasa

variable {S : Type}

inductive AudioBufferError where
  | invalidArgument (what : String)
  | lengthError (what : String)
  deriving DecidableEq, Repr

structure PlanarBuffer (S : Type) where
  samples : List S := []
  /-- `_frameCount`. -/
  storedFrames : Int := 0
  deriving DecidableEq, Repr

namespace PlanarBuffer

/-! ## Dimensions -/

/-- The size of a vector of samples; `maxSize` is its `max_size()`. -/
def sampleCount (maxSize : ℕ) (channelCount frameCount : Int) : Except AudioBufferError ℕ :=
  if channelCount ≤ 0 ∨ frameCount ≤ 0 then
    .error (.invalidArgument "Audio buffer dimensions must be greater than zero")
  else if channelCount.toNat > maxSize / frameCount.toNat then
    .error (.lengthError "Audio buffer dimensions exceed the supported size")
  -- The product is a `std::size_t`.
  else .ok (channelCount.toNat * frameCount.toNat % 2 ^ 64)

/-- The constructor. -/
def make [Zero S] (maxSize : ℕ) (channelCount frameCount : Int) :
    Except AudioBufferError (PlanarBuffer S) :=
  (sampleCount maxSize channelCount frameCount).map fun count =>
    ⟨List.replicate count 0, frameCount⟩

variable (b : PlanarBuffer S)

def channelCount : Int :=
  if b.samples.isEmpty then 0 else (b.samples.length / b.storedFrames.toNat : ℕ)

def frameCount : Int := if b.samples.isEmpty then 0 else b.storedFrames

/-! ## Spans -/

/-- Where the span of a channel begins. -/
def spanStart (index : Int) : ℕ := index.toNat * b.storedFrames.toNat

/-- The span of a channel; `none` where the assertion fails. -/
def channel (index : Int) : Option (List S) :=
  if 0 ≤ index ∧ index < b.channelCount then
    some ((b.samples.drop (b.spanStart index)).take b.storedFrames.toNat)
  else none

/-- Read one sample of a span; `none` outside it. -/
def get (channel frame : Int) : Option S :=
  (b.channel channel).bind fun span => if 0 ≤ frame then span[frame.toNat]? else none

/-- Write one sample of a span; `none` outside it. -/
def set (channel frame : Int) (value : S) : Option (PlanarBuffer S) :=
  if 0 ≤ channel ∧ channel < b.channelCount ∧ 0 ≤ frame ∧ frame < b.storedFrames then
    some { b with samples := b.samples.set (b.spanStart channel + frame.toNat) value }
  else none

/-! ## Copies -/

/-- `destination[frame] = source[offset + frame]` in the spans of a channel. -/
def copyFrame (source : PlanarBuffer S) (offset channel : Int) (destination : PlanarBuffer S)
    (frame : Int) : Option (PlanarBuffer S) := do
  let value ← source.get channel (offset + frame)
  destination.set channel frame value

/-- The loop over the frames of a channel. -/
def copyChannel (source : PlanarBuffer S) (offset frames : Int) (destination : PlanarBuffer S)
    (channel : Int) : Option (PlanarBuffer S) :=
  (intRange 0 frames).foldlM (source.copyFrame offset channel) destination

/-- The loop over the channels. -/
def copyFrames (source : PlanarBuffer S) (channels offset frames : Int)
    (destination : PlanarBuffer S) : Option (PlanarBuffer S) :=
  (intRange 0 channels).foldlM (source.copyChannel offset frames) destination

end PlanarBuffer

/-- The copy of `RenderCache::store`. -/
def RenderCache.copyPlanes (cfg : Config) (source destination : PlanarBuffer S) :
    Option (PlanarBuffer S) :=
  source.copyFrames cfg.audio.channelCount 0 chunkFrames destination

/-- The copy of `TimelineAudioPublisher::publish`. -/
def TimelineAudioPublisher.copyPlanes (cfg : Config) (chunkOffset : Int)
    (chunkSamples block : PlanarBuffer S) : Option (PlanarBuffer S) :=
  chunkSamples.copyFrames cfg.audio.channelCount chunkOffset cfg.audio.audioBlockFrames block

/-! ## Buffers -/

/-- What the program does to its buffers, which have names. -/
inductive BufferOp (S B : Type) where
  /-- The write of a rendered sample. -/
  | write (buffer : B) (channel frame : Int) (value : S)
  /-- The copy of some frames, from an offset on, in some channels. -/
  | copy (source destination : B) (channels offset frames : Int)
  /-- The copy of `RenderCache::store`. -/
  | store (source destination : B)
  /-- The copy of `TimelineAudioPublisher::publish`, for the block with the given labels. -/
  | publish (source destination : B) (generation blockFirstFrame chunkOffset : Int)

namespace BufferOp

variable {B : Type} [DecidableEq B]

/-- The operation on vectors; `none` if it leaves one of their spans. -/
def run (cfg : Config) (buffers : B → PlanarBuffer S) :
    BufferOp S B → Option (B → PlanarBuffer S)
  | .write buffer channel frame value =>
    ((buffers buffer).set channel frame value).map (Function.update buffers buffer)
  | .copy source destination channels offset frames =>
    ((buffers source).copyFrames channels offset frames (buffers destination)).map
      (Function.update buffers destination)
  | .store source destination =>
    (RenderCache.copyPlanes cfg (buffers source) (buffers destination)).map
      (Function.update buffers destination)
  | .publish source destination _ _ chunkOffset =>
    (TimelineAudioPublisher.copyPlanes cfg chunkOffset (buffers source) (buffers destination)).map
      (Function.update buffers destination)

end BufferOp

end Anasa
