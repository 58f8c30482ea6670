import Mathlib.Algebra.Order.Ring.Int
import Mathlib.Data.List.Nodup
import Mathlib.Data.List.Range

/-!
# Frames, chunks and tiles

The constants of `RenderConstants.hpp` and `AudioConstants.hpp` and the frame helpers of
`RenderFrameUtils.hpp` and `PlaybackTimeline.hpp`. Every C++ `int` is an `Int`; the helpers that
divide assert a non-negative argument, where C++ and Lean division agree.
-/

namespace Anasa

/-- `CHUNK_FRAMES`. -/
abbrev chunkFrames : Int := 2048

/-- `TILE_FRAMES`. -/
abbrev tileFrames : Int := 256

/-- `TILES_PER_CHUNK`. -/
abbrev tilesPerChunk : Int := chunkFrames / tileFrames

/-- `CANCELLATION_CHECK_FRAMES`. -/
abbrev cancellationCheckFrames : Int := 32

/-- `MAX_AUDIO_BLOCK_FRAMES`. -/
abbrev maxAudioBlockFrames : Int := 4096

/-- `READY_AUDIO_QUEUE_SLOTS`. -/
abbrev readyAudioQueueSlots : ℕ := 64

theorem tilesPerChunk_eq : tilesPerChunk = 8 := by decide

def frameToChunk (frame : Int) : Int := frame / chunkFrames

def firstFrameOfChunk (chunk : Int) : Int := chunk * chunkFrames

/-- The nearest frame of the timeline. -/
def clampTimelineFrame (frame totalFrames : Int) : Int := max 0 (min frame (totalFrames - 1))

/-- The nearest frame of the timeline or its end. -/
def clampTimelineBoundary (frame totalFrames : Int) : Int := max 0 (min frame totalFrames)

def alignFrameToAudioBlock (frame audioBlockFrames : Int) : Int :=
  frame - frame % audioBlockFrames

/-- The integers of `[lo, hi)`, in order: the values of a loop counter. -/
def intRange (lo hi : Int) : List Int := (List.range (hi - lo).toNat).map fun i : ℕ => lo + i

/-! ## Ranges and clamping -/

@[simp] theorem mem_intRange {lo hi x : Int} : x ∈ intRange lo hi ↔ lo ≤ x ∧ x < hi := by
  simp only [intRange, List.mem_map, List.mem_range]
  constructor
  · rintro ⟨i, hi, rfl⟩
    omega
  · rintro ⟨h₁, h₂⟩
    exact ⟨(x - lo).toNat, by omega, by omega⟩

theorem length_intRange (lo hi : Int) : (intRange lo hi).length = (hi - lo).toNat := by
  simp [intRange]

theorem intRange_nil {lo hi : Int} (h : hi ≤ lo) : intRange lo hi = [] := by
  simp [intRange, show (hi - lo).toNat = 0 by omega]

theorem intRange_cons {lo hi : Int} (h : lo < hi) :
    intRange lo hi = lo :: intRange (lo + 1) hi := by
  have hn : (hi - lo).toNat = (hi - (lo + 1)).toNat + 1 := by omega
  rw [intRange, hn, List.range_succ_eq_map, List.map_cons, List.map_map, intRange]
  refine congrArg₂ List.cons (by simp) (List.map_congr_left fun i _ => ?_)
  simp only [Function.comp_apply]
  omega

theorem intRange_append {a b c : Int} (hab : a ≤ b) (hbc : b ≤ c) :
    intRange a b ++ intRange b c = intRange a c := by
  induction hn : (b - a).toNat generalizing a with
  | zero =>
    obtain rfl : a = b := by omega
    rw [intRange_nil le_rfl, List.nil_append]
  | succ n ih =>
    rw [intRange_cons (show a < b by omega), intRange_cons (show a < c by omega),
      List.cons_append, ih (by omega) (by omega)]

theorem nodup_intRange (lo hi : Int) : (intRange lo hi).Nodup := by
  exact List.Nodup.map (fun a b (h : lo + (a : Int) = lo + b) => by omega) List.nodup_range

theorem clampTimelineBoundary_of_mem {frame totalFrames : Int} (h₀ : 0 ≤ frame)
    (h₁ : frame ≤ totalFrames) : clampTimelineBoundary frame totalFrames = frame := by
  unfold clampTimelineBoundary
  omega

theorem clampTimelineBoundary_mem (frame : Int) {totalFrames : Int} (h : 0 ≤ totalFrames) :
    0 ≤ clampTimelineBoundary frame totalFrames ∧
      clampTimelineBoundary frame totalFrames ≤ totalFrames := by
  unfold clampTimelineBoundary
  omega

theorem clampTimelineFrame_mem (frame : Int) {totalFrames : Int} (h : 0 < totalFrames) :
    0 ≤ clampTimelineFrame frame totalFrames ∧
      clampTimelineFrame frame totalFrames < totalFrames := by
  unfold clampTimelineFrame
  omega

/-! ## Block boundaries -/

theorem alignFrameToAudioBlock_of_dvd {frame blockFrames : Int} (h : blockFrames ∣ frame) :
    alignFrameToAudioBlock frame blockFrames = frame := by
  unfold alignFrameToAudioBlock
  rw [Int.emod_eq_zero_of_dvd h, sub_zero]

theorem dvd_alignFrameToAudioBlock (frame blockFrames : Int) :
    blockFrames ∣ alignFrameToAudioBlock frame blockFrames :=
  Int.dvd_self_sub_emod

theorem alignFrameToAudioBlock_mem {frame blockFrames : Int} (h₀ : 0 ≤ frame)
    (hB : 0 < blockFrames) :
    0 ≤ alignFrameToAudioBlock frame blockFrames ∧
      alignFrameToAudioBlock frame blockFrames ≤ frame := by
  have h₁ := Int.emod_nonneg frame hB.ne'
  have h₂ := Int.mul_nonneg hB.le (Int.ediv_nonneg h₀ hB.le)
  have h₃ := Int.mul_ediv_add_emod frame blockFrames
  unfold alignFrameToAudioBlock
  omega

end Anasa
