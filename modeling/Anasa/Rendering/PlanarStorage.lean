import Mathlib.Data.Nat.ModEq
import Anasa.Model.PlanarBuffer

/-!
# Vectors of samples as buffers

A vector of planar samples reads as the buffer that the rest of the development takes it for, after
any run of writes and copies that fit their buffers. No write reaches another channel, no span leaves
its vector, and the size of a vector does not wrap.
-/

namespace Anasa

variable {S : Type}

/-! ## Positions in a vector -/

/-- A position has one row and one column. -/
theorem rowMajor_inj {width row row' column column' : ℕ} (h : column < width) (h' : column' < width)
    (heq : row * width + column = row' * width + column') : row = row' ∧ column = column' := by
  have hwidth : 0 < width := (Nat.zero_le _).trans_lt h
  have hrow : ∀ r c, c < width → (r * width + c) / width = r ∧ (r * width + c) % width = c := by
    intro r c hc
    rw [Nat.mul_comm, Nat.mul_add_div hwidth, Nat.div_eq_of_lt hc, Nat.mul_add_mod,
      Nat.mod_eq_of_lt hc]
    exact ⟨rfl, rfl⟩
  have hfirst := hrow row column h
  have hsecond := hrow row' column' h'
  rw [heq] at hfirst
  exact ⟨hfirst.1.symm.trans hsecond.1, hfirst.2.symm.trans hsecond.2⟩

theorem rowMajor_lt {width rows row column : ℕ} (hrow : row < rows) (hcolumn : column < width) :
    row * width + column < rows * width := by
  have hle : (row + 1) * width ≤ rows * width := Nat.mul_le_mul_right width hrow
  rw [Nat.add_mul, Nat.one_mul] at hle
  omega

/-! ## Buffers -/

namespace AudioBuffer

/-- The buffer after a copy of some frames, from an offset on, in some channels. -/
def copyFrames (source : AudioBuffer S) (channels offset frames : Int)
    (destination : AudioBuffer S) : AudioBuffer S :=
  { destination with
    sample := fun channel frame =>
      if 0 ≤ channel ∧ channel < channels ∧ 0 ≤ frame ∧ frame < frames then
        source.sample channel (offset + frame)
      else destination.sample channel frame }

end AudioBuffer

theorem RenderCache.copySamples_eq (cfg : Config) (source destination : AudioBuffer S) :
    RenderCache.copySamples cfg source destination =
      source.copyFrames cfg.audio.channelCount 0 chunkFrames destination := by
  unfold RenderCache.copySamples AudioBuffer.copyFrames
  simp only [Int.zero_add]

theorem TimelineAudioPublisher.fillBlock_samples (cfg : Config) (chunkSamples : AudioBuffer S)
    (generation blockFirstFrame chunkOffset : Int) (block : AudioBlock S) :
    (fillBlock cfg chunkSamples generation blockFirstFrame chunkOffset block).samples =
      chunkSamples.copyFrames cfg.audio.channelCount chunkOffset cfg.audio.audioBlockFrames
        block.samples := rfl

/-! ## Representation -/

/-- The vector holds the samples of the buffer, channel after channel. -/
structure Represents (p : PlanarBuffer S) (b : AudioBuffer S) : Prop where
  channels : 0 < b.channelCount
  frames : 0 < b.frameCount
  stored : p.storedFrames = b.frameCount
  length : p.samples.length = b.channelCount.toNat * b.frameCount.toNat
  sample : ∀ channel frame, 0 ≤ channel → channel < b.channelCount → 0 ≤ frame →
    frame < b.frameCount →
      p.samples[channel.toNat * b.frameCount.toNat + frame.toNat]? = some (b.sample channel frame)

namespace Represents

variable {p q : PlanarBuffer S} {b c : AudioBuffer S}

theorem not_empty (h : Represents p b) : p.samples.isEmpty = false := by
  have hchannels := h.channels
  have hframes := h.frames
  have hpos : 0 < p.samples.length := by
    rw [h.length]
    exact Nat.mul_pos (by omega) (by omega)
  exact List.isEmpty_eq_false_iff.mpr (List.length_pos_iff.mp hpos)

theorem channelCount (h : Represents p b) : p.channelCount = b.channelCount := by
  have hchannels := h.channels
  have hframes := h.frames
  unfold PlanarBuffer.channelCount
  rw [h.not_empty, h.stored, h.length, Nat.mul_div_cancel _ (by omega)]
  exact Int.toNat_of_nonneg hchannels.le

theorem frameCount (h : Represents p b) : p.frameCount = b.frameCount := by
  unfold PlanarBuffer.frameCount
  rw [h.not_empty, h.stored]
  rfl

/-- A read through a span. -/
theorem get (h : Represents p b) {channel frame : Int} (hc : 0 ≤ channel)
    (hchannel : channel < b.channelCount) (hf : 0 ≤ frame) (hframe : frame < b.frameCount) :
    p.get channel frame = some (b.sample channel frame) := by
  have hlt : frame.toNat < b.frameCount.toNat := by omega
  have hin : 0 ≤ channel ∧ channel < p.channelCount := ⟨hc, by rwa [h.channelCount]⟩
  unfold PlanarBuffer.get PlanarBuffer.channel
  rw [if_pos hin, Option.bind_some, if_pos hf, h.stored, List.getElem?_take_of_lt hlt,
    List.getElem?_drop]
  unfold PlanarBuffer.spanStart
  rw [h.stored]
  exact h.sample channel frame hc hchannel hf hframe

/-- A read outside the spans of the buffer. -/
theorem get_eq_none (h : Represents p b) {channel frame : Int}
    (hout : ¬(0 ≤ channel ∧ channel < b.channelCount ∧ 0 ≤ frame ∧ frame < b.frameCount)) :
    p.get channel frame = none := by
  unfold PlanarBuffer.get PlanarBuffer.channel
  by_cases hin : 0 ≤ channel ∧ channel < p.channelCount
  · rw [if_pos hin, Option.bind_some]
    rw [h.channelCount] at hin
    by_cases hf : 0 ≤ frame
    · rw [if_pos hf, List.getElem?_eq_none]
      rw [List.length_take, h.stored]
      have hframe : ¬frame < b.frameCount := fun hlt => hout ⟨hin.1, hin.2, hf, hlt⟩
      omega
    · rw [if_neg hf]
  · rw [if_neg hin, Option.bind_none]

/-- **A write through a span** changes one sample of one channel. -/
theorem set (h : Represents p b) {channel frame : Int} (hc : 0 ≤ channel)
    (hchannel : channel < b.channelCount) (hf : 0 ≤ frame) (hframe : frame < b.frameCount)
    (value : S) : ∃ q, p.set channel frame value = some q ∧
      Represents q (b.set channel frame value) := by
  have hin : 0 ≤ channel ∧ channel < p.channelCount ∧ 0 ≤ frame ∧ frame < p.storedFrames := by
    rw [h.channelCount, h.stored]
    exact ⟨hc, hchannel, hf, hframe⟩
  have hstart : p.spanStart channel + frame.toNat =
      channel.toNat * b.frameCount.toNat + frame.toNat := by
    unfold PlanarBuffer.spanStart
    rw [h.stored]
  refine ⟨_, if_pos hin, h.channels, h.frames, h.stored, ?_, ?_⟩
  · rw [List.length_set]
    exact h.length
  · intro channel' frame' hc' hchannel' hf' hframe'
    have hchannel' : channel' < b.channelCount := hchannel'
    have hframe' : frame' < b.frameCount := hframe'
    show (p.samples.set (p.spanStart channel + frame.toNat) value)[
      channel'.toNat * b.frameCount.toNat + frame'.toNat]? =
        some ((b.set channel frame value).sample channel' frame')
    rw [hstart]
    by_cases hsame : channel' = channel ∧ frame' = frame
    · obtain ⟨rfl, rfl⟩ := hsame
      rw [AudioBuffer.set_sample_self, List.getElem?_set_self]
      rw [h.length]
      exact rowMajor_lt (by omega) (by omega)
    · rw [AudioBuffer.set_sample_of_ne b value (by tauto), List.getElem?_set_ne]
      · exact h.sample channel' frame' hc' hchannel' hf' hframe'
      · intro heq
        obtain ⟨hrow, hcolumn⟩ := rowMajor_inj (by omega) (by omega) heq
        exact hsame ⟨by omega, by omega⟩

/-! ### Copies -/

/-- Only the samples matter. -/
theorem congr (h : Represents p b) {b' : AudioBuffer S} (hchannels : b'.channelCount = b.channelCount)
    (hframes : b'.frameCount = b.frameCount)
    (hsample : ∀ channel frame, b'.sample channel frame = b.sample channel frame) :
    Represents p b' := by
  have heq : b' = b := by
    obtain ⟨channelCount', frameCount', sample'⟩ := b'
    obtain ⟨channelCount, frameCount, sample⟩ := b
    obtain rfl : channelCount' = channelCount := hchannels
    obtain rfl : frameCount' = frameCount := hframes
    obtain rfl : sample' = sample := funext fun channel => funext fun frame => hsample channel frame
    rfl
  rw [heq]
  exact h

/-- One frame of a copy. -/
theorem copyFrame (h : Represents p b) (hq : Represents q c) {offset channel frame : Int}
    (hc : 0 ≤ channel) (hsource : channel < b.channelCount) (hdestination : channel < c.channelCount)
    (hf : 0 ≤ frame) (hframe : frame < c.frameCount) (hfirst : 0 ≤ offset + frame)
    (hlast : offset + frame < b.frameCount) :
    ∃ q', p.copyFrame offset channel q frame = some q' ∧
      Represents q' (c.set channel frame (b.sample channel (offset + frame))) := by
  obtain ⟨q', hset, hq'⟩ := hq.set hc hdestination hf hframe (b.sample channel (offset + frame))
  refine ⟨q', ?_, hq'⟩
  unfold PlanarBuffer.copyFrame
  rw [h.get hc hsource hfirst hlast]
  exact hset

/-- Some frames of a channel, one after the other. -/
theorem copyChannel (h : Represents p b) (offset : Int) {channel : Int} (hc : 0 ≤ channel)
    (hsource : channel < b.channelCount) (frames : List Int) (hq : Represents q c)
    (hdestination : channel < c.channelCount)
    (hframes : ∀ frame ∈ frames, 0 ≤ frame ∧ frame < c.frameCount ∧ 0 ≤ offset + frame ∧
      offset + frame < b.frameCount) :
    ∃ q', frames.foldlM (p.copyFrame offset channel) q = some q' ∧
      Represents q' { c with
        sample := fun channel' frame =>
          if channel' = channel ∧ frame ∈ frames then b.sample channel' (offset + frame)
          else c.sample channel' frame } := by
  induction frames generalizing q c with
  | nil =>
    refine ⟨q, rfl, ?_⟩
    simpa using hq
  | cons frame rest ih =>
    obtain ⟨hf, hframe, hfirst, hlast⟩ := hframes frame List.mem_cons_self
    obtain ⟨q₁, hcopy, hq₁⟩ := h.copyFrame hq hc hsource hdestination hf hframe hfirst hlast
    obtain ⟨q', hrest, hq'⟩ := ih hq₁ hdestination
      fun f hmem => hframes f (List.mem_cons_of_mem _ hmem)
    refine ⟨q', ?_, ?_⟩
    · rw [List.foldlM_cons, hcopy]
      exact hrest
    · refine hq'.congr rfl rfl ?_
      intro channel' frame'
      dsimp only
      by_cases hmem : channel' = channel ∧ frame' ∈ rest
      · rw [if_pos hmem, if_pos ⟨hmem.1, List.mem_cons_of_mem _ hmem.2⟩]
      · rw [if_neg hmem]
        by_cases hsame : channel' = channel ∧ frame' = frame
        · obtain ⟨rfl, rfl⟩ := hsame
          rw [if_pos ⟨rfl, List.mem_cons_self⟩, AudioBuffer.set_sample_self]
        · rw [AudioBuffer.set_sample_of_ne c _ (by tauto), if_neg]
          rw [List.mem_cons]
          tauto

/-- Some channels, one after the other. -/
theorem copyChannels (h : Represents p b) {offset frames : Int} (channels : List Int)
    (hq : Represents q c) (hoffset : 0 ≤ offset) (hsource : offset + frames ≤ b.frameCount)
    (hdestination : frames ≤ c.frameCount)
    (hchannels : ∀ channel ∈ channels,
      0 ≤ channel ∧ channel < b.channelCount ∧ channel < c.channelCount) :
    ∃ q', channels.foldlM (p.copyChannel offset frames) q = some q' ∧
      Represents q' { c with
        sample := fun channel frame =>
          if channel ∈ channels ∧ 0 ≤ frame ∧ frame < frames then
            b.sample channel (offset + frame)
          else c.sample channel frame } := by
  induction channels generalizing q c with
  | nil =>
    refine ⟨q, rfl, ?_⟩
    simpa using hq
  | cons channel rest ih =>
    obtain ⟨hc, hin, hin'⟩ := hchannels channel List.mem_cons_self
    obtain ⟨q₁, hcopy, hq₁⟩ := h.copyChannel offset hc hin (intRange 0 frames) hq hin'
      fun frame hmem => by
        rw [mem_intRange] at hmem
        omega
    obtain ⟨q', hrest, hq'⟩ := ih hq₁ hdestination
      fun k hmem => hchannels k (List.mem_cons_of_mem _ hmem)
    refine ⟨q', ?_, ?_⟩
    · rw [List.foldlM_cons]
      unfold PlanarBuffer.copyChannel
      rw [hcopy]
      exact hrest
    · refine hq'.congr rfl rfl ?_
      intro k frame
      dsimp only
      by_cases hmem : k ∈ rest ∧ 0 ≤ frame ∧ frame < frames
      · rw [if_pos hmem, if_pos ⟨List.mem_cons_of_mem _ hmem.1, hmem.2⟩]
      · rw [if_neg hmem]
        by_cases hsame : k = channel ∧ 0 ≤ frame ∧ frame < frames
        · rw [if_pos ⟨hsame.1 ▸ List.mem_cons_self, hsame.2⟩,
            if_pos ⟨hsame.1, mem_intRange.mpr hsame.2⟩]
        · rw [if_neg, if_neg]
          · rw [mem_intRange]
            tauto
          · rw [List.mem_cons]
            tauto

/-- **A copy** of some frames in some channels. -/
theorem copyFrames (h : Represents p b) (hq : Represents q c) (channels : Int) {offset frames : Int}
    (hoffset : 0 ≤ offset) (hsource : offset + frames ≤ b.frameCount)
    (hdestination : frames ≤ c.frameCount) (hchannels : channels ≤ b.channelCount)
    (hchannels' : channels ≤ c.channelCount) :
    ∃ q', p.copyFrames channels offset frames q = some q' ∧
      Represents q' (b.copyFrames channels offset frames c) := by
  obtain ⟨q', hcopy, hq'⟩ := h.copyChannels (intRange 0 channels) hq hoffset hsource hdestination
    fun channel hmem => by
      rw [mem_intRange] at hmem
      omega
  refine ⟨q', hcopy, ?_⟩
  refine hq'.congr rfl rfl ?_
  intro channel frame
  unfold AudioBuffer.copyFrames
  simp only [mem_intRange, and_assoc]

end Represents

/-! ## Construction -/

/-- **What can be constructed**: the size of the vector neither wraps nor exceeds its maximum. -/
theorem sampleCount_eq_ok {maxSize count : ℕ} (hmax : maxSize < 2 ^ 64) {channelCount frameCount : Int} :
    PlanarBuffer.sampleCount maxSize channelCount frameCount = .ok count ↔
      0 < channelCount ∧ 0 < frameCount ∧ channelCount.toNat * frameCount.toNat ≤ maxSize ∧
        count = channelCount.toNat * frameCount.toNat := by
  unfold PlanarBuffer.sampleCount
  by_cases hpos : channelCount ≤ 0 ∨ frameCount ≤ 0
  · rw [if_pos hpos]
    constructor
    · nofun
    · rintro ⟨hchannels, hframes, -⟩
      omega
  · rw [if_neg hpos]
    push Not at hpos
    have hframes : 0 < frameCount.toNat := by omega
    have hfits : channelCount.toNat > maxSize / frameCount.toNat ↔
        ¬channelCount.toNat * frameCount.toNat ≤ maxSize := by
      rw [gt_iff_lt, Nat.div_lt_iff_lt_mul hframes, not_le]
    by_cases hlarge : channelCount.toNat > maxSize / frameCount.toNat
    · rw [if_pos hlarge]
      constructor
      · nofun
      · rintro ⟨-, -, hle, -⟩
        exact absurd hle (hfits.mp hlarge)
    · rw [if_neg hlarge, Except.ok.injEq]
      have hle := not_not.mp (mt hfits.mpr hlarge)
      rw [Nat.mod_eq_of_lt (hle.trans_lt hmax)]
      constructor
      · intro heq
        exact ⟨hpos.1, hpos.2, hle, heq.symm⟩
      · rintro ⟨-, -, -, heq⟩
        exact heq.symm

/-- A new vector is silent. -/
theorem Represents.make [Zero S] {maxSize : ℕ} (hmax : maxSize < 2 ^ 64)
    {channelCount frameCount : Int} {p : PlanarBuffer S}
    (h : PlanarBuffer.make maxSize channelCount frameCount = .ok p) :
    Represents p (.make channelCount frameCount) := by
  unfold PlanarBuffer.make at h
  cases hcount : PlanarBuffer.sampleCount maxSize channelCount frameCount with
  | error e =>
    rw [hcount] at h
    cases h
  | ok count =>
    rw [hcount] at h
    cases h
    obtain ⟨hchannels, hframes, -, rfl⟩ := (sampleCount_eq_ok hmax).mp hcount
    refine ⟨hchannels, hframes, rfl, List.length_replicate, ?_⟩
    intro channel frame hc hchannel hf hframe
    have hchannel : channel < channelCount := hchannel
    have hframe : frame < frameCount := hframe
    exact List.getElem?_replicate_of_lt (rowMajor_lt (by omega) (by omega))

/-! ## The copies of the program -/

/-- The loops of `RenderCache::store`. -/
theorem storePlanes_refines (cfg : Config) {source destination : PlanarBuffer S}
    {b c : AudioBuffer S} (hsource : Represents source b) (hdestination : Represents destination c)
    (hchannels : cfg.audio.channelCount ≤ b.channelCount) (hframes : chunkFrames ≤ b.frameCount)
    (hchannels' : cfg.audio.channelCount ≤ c.channelCount) (hframes' : chunkFrames ≤ c.frameCount) :
    ∃ q, RenderCache.copyPlanes cfg source destination = some q ∧
      Represents q (RenderCache.copySamples cfg b c) := by
  rw [RenderCache.copySamples_eq]
  exact hsource.copyFrames hdestination _ le_rfl (by omega) hframes' hchannels hchannels'

/-- The loops of `TimelineAudioPublisher::publish`. -/
theorem fillPlanes_refines (cfg : Config) (slot : AudioBlock S)
    {chunkSamples block : PlanarBuffer S} {b : AudioBuffer S} {chunkOffset : Int}
    (hsource : Represents chunkSamples b)
    (hdestination : Represents block slot.samples)
    (hchannels : cfg.audio.channelCount ≤ b.channelCount)
    (hchannels' : cfg.audio.channelCount ≤ slot.samples.channelCount)
    (hframes : cfg.audio.audioBlockFrames ≤ slot.samples.frameCount) (hoffset : 0 ≤ chunkOffset)
    (hlast : chunkOffset + cfg.audio.audioBlockFrames ≤ b.frameCount)
    (generation blockFirstFrame : Int) :
    ∃ q, TimelineAudioPublisher.copyPlanes cfg chunkOffset chunkSamples block = some q ∧
      Represents q (TimelineAudioPublisher.fillBlock cfg b generation blockFirstFrame chunkOffset
        slot).samples := by
  rw [TimelineAudioPublisher.fillBlock_samples]
  exact hsource.copyFrames hdestination _ hoffset hlast hframes hchannels hchannels'

/-! ## Runs -/

namespace BufferOp

variable {B : Type} [DecidableEq B]

/-- The operation on buffers. -/
def apply (cfg : Config) (buffers : B → AudioBuffer S) : BufferOp S B → B → AudioBuffer S
  | .write buffer channel frame value =>
    Function.update buffers buffer ((buffers buffer).set channel frame value)
  | .copy source destination channels offset frames =>
    Function.update buffers destination
      ((buffers source).copyFrames channels offset frames (buffers destination))
  | .store source destination =>
    Function.update buffers destination
      (RenderCache.copySamples cfg (buffers source) (buffers destination))
  | .publish source destination generation blockFirstFrame chunkOffset =>
    Function.update buffers destination
      (TimelineAudioPublisher.fillBlock cfg (buffers source) generation blockFirstFrame chunkOffset
        { samples := buffers destination }).samples

/-- The operation stays within buffers of the given dimensions, and copies between two of them. -/
def Fits (cfg : Config) (channelCount frameCount : B → Int) : BufferOp S B → Prop
  | .write buffer channel frame _ => 0 ≤ channel ∧ channel < channelCount buffer ∧ 0 ≤ frame ∧
      frame < frameCount buffer
  | .copy source destination channels offset frames => source ≠ destination ∧
      channels ≤ channelCount source ∧ channels ≤ channelCount destination ∧ 0 ≤ offset ∧
      offset + frames ≤ frameCount source ∧ frames ≤ frameCount destination
  | .store source destination => source ≠ destination ∧
      cfg.audio.channelCount ≤ channelCount source ∧
      cfg.audio.channelCount ≤ channelCount destination ∧
      chunkFrames ≤ frameCount source ∧ chunkFrames ≤ frameCount destination
  | .publish source destination _ _ chunkOffset => source ≠ destination ∧
      cfg.audio.channelCount ≤ channelCount source ∧
      cfg.audio.channelCount ≤ channelCount destination ∧ 0 ≤ chunkOffset ∧
      chunkOffset + cfg.audio.audioBlockFrames ≤ frameCount source ∧
      cfg.audio.audioBlockFrames ≤ frameCount destination

/-- Buffers of the given dimensions, each in a vector. -/
def Stored (channelCount frameCount : B → Int) (p : B → PlanarBuffer S) (b : B → AudioBuffer S) :
    Prop :=
  ∀ x, Represents (p x) (b x) ∧ (b x).channelCount = channelCount x ∧
    (b x).frameCount = frameCount x

variable {cfg : Config} {channelCount frameCount : B → Int} {p : B → PlanarBuffer S}
  {b : B → AudioBuffer S}

theorem Stored.update (h : Stored channelCount frameCount p b) {x : B} {q : PlanarBuffer S}
    {c : AudioBuffer S} (hq : Represents q c) (hchannels : c.channelCount = channelCount x)
    (hframes : c.frameCount = frameCount x) :
    Stored channelCount frameCount (Function.update p x q) (Function.update b x c) := by
  intro y
  by_cases hy : y = x
  · subst hy
    rw [Function.update_self, Function.update_self]
    exact ⟨hq, hchannels, hframes⟩
  · rw [Function.update_of_ne hy, Function.update_of_ne hy]
    exact h y

/-- **One operation** on vectors is the operation on buffers. -/
theorem Stored.run (h : Stored channelCount frameCount p b) {op : BufferOp S B}
    (hfits : op.Fits cfg channelCount frameCount) :
    ∃ p', op.run cfg p = some p' ∧ Stored channelCount frameCount p' (op.apply cfg b) := by
  cases op with
  | write buffer channel frame value =>
    obtain ⟨hc, hchannel, hf, hframe⟩ := hfits
    obtain ⟨hrepresents, hchannels, hframes⟩ := h buffer
    obtain ⟨q, hset, hq⟩ := hrepresents.set hc (by rwa [hchannels]) hf (by rwa [hframes]) value
    refine ⟨Function.update p buffer q, ?_, h.update hq hchannels hframes⟩
    show ((p buffer).set channel frame value).map _ = _
    rw [hset]
    rfl
  | copy source destination channels offset frames =>
    obtain ⟨-, hsource, hdestination, hoffset, hlast, hfits⟩ := hfits
    obtain ⟨hrepresents, hchannels, hframes⟩ := h source
    obtain ⟨hrepresents', hchannels', hframes'⟩ := h destination
    obtain ⟨q, hcopy, hq⟩ := hrepresents.copyFrames hrepresents' channels hoffset
      (by rwa [hframes]) (by rwa [hframes']) (by rwa [hchannels]) (by rwa [hchannels'])
    refine ⟨Function.update p destination q, ?_, h.update hq hchannels' hframes'⟩
    show ((p source).copyFrames channels offset frames (p destination)).map _ = _
    rw [hcopy]
    rfl
  | store source destination =>
    obtain ⟨-, hsource, hdestination, hfirst, hlast⟩ := hfits
    obtain ⟨hrepresents, hchannels, hframes⟩ := h source
    obtain ⟨hrepresents', hchannels', hframes'⟩ := h destination
    obtain ⟨q, hcopy, hq⟩ := storePlanes_refines cfg hrepresents hrepresents'
      (by rwa [hchannels]) (by rwa [hframes]) (by rwa [hchannels']) (by rwa [hframes'])
    refine ⟨Function.update p destination q, ?_, h.update hq hchannels' hframes'⟩
    show (RenderCache.copyPlanes cfg (p source) (p destination)).map _ = _
    rw [hcopy]
    rfl
  | publish source destination generation blockFirstFrame chunkOffset =>
    obtain ⟨-, hsource, hdestination, hoffset, hlast, hfits⟩ := hfits
    obtain ⟨hrepresents, hchannels, hframes⟩ := h source
    obtain ⟨hrepresents', hchannels', hframes'⟩ := h destination
    obtain ⟨q, hcopy, hq⟩ := fillPlanes_refines cfg { samples := b destination }
      hrepresents hrepresents' (by rwa [hchannels]) (by rwa [hchannels']) (by rwa [hframes'])
      hoffset (by rwa [hframes]) generation blockFirstFrame
    refine ⟨Function.update p destination q, ?_, h.update hq hchannels' hframes'⟩
    show (TimelineAudioPublisher.copyPlanes cfg chunkOffset (p source) (p destination)).map _ = _
    rw [hcopy]
    rfl

/-- A list of operations. -/
theorem Stored.runs (ops : List (BufferOp S B)) (h : Stored channelCount frameCount p b)
    (hfits : ∀ op ∈ ops, op.Fits cfg channelCount frameCount) :
    ∃ p', ops.foldlM (BufferOp.run cfg) p = some p' ∧
      Stored channelCount frameCount p' (ops.foldl (BufferOp.apply cfg) b) := by
  induction ops generalizing p b with
  | nil => exact ⟨p, rfl, h⟩
  | cons op ops ih =>
    obtain ⟨p₁, hrun, hstored⟩ := h.run (hfits op List.mem_cons_self)
    obtain ⟨p', hrest, hstored'⟩ := ih hstored fun o ho => hfits o (List.mem_cons_of_mem _ ho)
    refine ⟨p', ?_, hstored'⟩
    rw [List.foldlM_cons, hrun]
    exact hrest

end BufferOp

/-! ## What a reader sees -/

/-- What a reader sees of a vector: the dimensions and the samples of a buffer, and nothing else. -/
structure ReadsAs (p : PlanarBuffer S) (b : AudioBuffer S) : Prop where
  channelCount : p.channelCount = b.channelCount
  frameCount : p.frameCount = b.frameCount
  sample : ∀ channel frame, 0 ≤ channel → channel < b.channelCount → 0 ≤ frame →
    frame < b.frameCount → p.get channel frame = some (b.sample channel frame)
  outside : ∀ channel frame,
    ¬(0 ≤ channel ∧ channel < b.channelCount ∧ 0 ≤ frame ∧ frame < b.frameCount) →
      p.get channel frame = none

theorem Represents.readsAs {p : PlanarBuffer S} {b : AudioBuffer S} (h : Represents p b) :
    ReadsAs p b :=
  ⟨h.channelCount, h.frameCount, fun _ _ hc hchannel hf hframe => h.get hc hchannel hf hframe,
    fun _ _ hout => h.get_eq_none hout⟩

/-- **Planar storage**: vectors that have been constructed read as buffers after any writes, and
any copies of `RenderCache::store`, of `TimelineAudioPublisher::publish` and of other frames, that
fit them. -/
theorem planarRun_refines {B : Type} [DecidableEq B] [Zero S] {maxSize : ℕ}
    (hmax : maxSize < 2 ^ 64) (cfg : Config) {channelCount frameCount : B → Int}
    {p : B → PlanarBuffer S}
    (hmade : ∀ x, PlanarBuffer.make maxSize (channelCount x) (frameCount x) = .ok (p x))
    (ops : List (BufferOp S B)) (hfits : ∀ op ∈ ops, op.Fits cfg channelCount frameCount) :
    ∃ p', ops.foldlM (BufferOp.run cfg) p = some p' ∧ ∀ x, ReadsAs (p' x)
      (ops.foldl (BufferOp.apply cfg) (fun x => .make (channelCount x) (frameCount x)) x) := by
  have hstored : BufferOp.Stored channelCount frameCount p
      fun x => .make (channelCount x) (frameCount x) :=
    fun x => ⟨.make hmax (hmade x), rfl, rfl⟩
  obtain ⟨p', hrun, hstored'⟩ := hstored.runs ops hfits
  exact ⟨p', hrun, fun x => (hstored' x).1.readsAs⟩

/-- A long buffer and a short one, of two channels. -/
def twoPlanes (short : Bool) : PlanarBuffer ℤ := if short then ⟨[0, 0, 0, 0], 2⟩
  else ⟨[0, 0, 0, 0, 0, 0], 3⟩

/-- Blocks of two frames in two channels. -/
def twoPlanesConfig : Config := { audio := { audioBlockFrames := 2 }, totalFrames := 2048 }

/-- Two samples are written, and the last two frames are published. -/
def twoPlanesOps : List (BufferOp ℤ Bool) :=
  [.write false 0 2 5, .write false 1 1 7, .publish false true 1 0 1]

theorem planarRun_refines_two :
    (∃ p', twoPlanesOps.foldlM (BufferOp.run twoPlanesConfig) twoPlanes = some p' ∧
      ∀ x, ReadsAs (p' x) (twoPlanesOps.foldl (BufferOp.apply twoPlanesConfig)
        (fun short => .make 2 (if short then 2 else 3)) x)) ∧
    (twoPlanesOps.foldlM (BufferOp.run twoPlanesConfig) twoPlanes).map (fun p => (p true).samples) =
      some [0, 5, 7, 0] := by
  refine ⟨planarRun_refines (show 2 ^ 60 < 2 ^ 64 by decide) twoPlanesConfig (fun short => ?_)
    twoPlanesOps ?_, rfl⟩
  · cases short <;> rfl
  · simp [twoPlanesOps, twoPlanesConfig, BufferOp.Fits]

end Anasa
