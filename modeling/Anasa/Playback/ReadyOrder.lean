import Mathlib.Data.List.TakeWhile
import Mathlib.Tactic.Ring
import Anasa.Model.AudioBlockProcessor

/-!
# The order of the ready-audio queue

The blocks in the queue are strictly increasing in generation and frame, and those that the
callback can still play are the ones from the cursor of the consumer up to the cursor of the
publisher, without a gap (`ReadyOrder`).
-/

namespace Anasa

open AudioBlockProcessor

variable {S : Type}

/-! ## Consecutive blocks -/

/-- The first frames of the blocks of `[frame, last)`. -/
def blocksFrom (cfg : Config) (frame last : Int) : List Int :=
  (List.range ((last - frame) / cfg.audio.audioBlockFrames).toNat).map fun i : ℕ =>
    frame + i * cfg.audio.audioBlockFrames

section

variable {cfg : Config} {frame last : Int}

@[simp] theorem length_blocksFrom :
    (blocksFrom cfg frame last).length = ((last - frame) / cfg.audio.audioBlockFrames).toNat := by
  simp [blocksFrom]

theorem blocksFrom_nil (hcfg : cfg.Valid) (h : last ≤ frame) : blocksFrom cfg frame last = [] := by
  have hle : (last - frame) / cfg.audio.audioBlockFrames ≤ 0 := by
    refine (Int.ediv_le_ediv hcfg.blockFrames_pos (show last - frame ≤ 0 by omega)).trans ?_
    rw [Int.zero_ediv]
  rw [← List.length_eq_zero_iff, length_blocksFrom]
  omega

theorem blocksFrom_add (hcfg : cfg.Valid) (k : ℕ) :
    blocksFrom cfg frame (frame + k * cfg.audio.audioBlockFrames) =
      (List.range k).map fun i : ℕ => frame + i * cfg.audio.audioBlockFrames := by
  rw [blocksFrom, show frame + k * cfg.audio.audioBlockFrames - frame =
    k * cfg.audio.audioBlockFrames by omega, Int.mul_ediv_cancel _ hcfg.blockFrames_pos.ne',
    Int.toNat_natCast]

/-- The number of blocks between two boundaries. -/
theorem exists_blocks (hcfg : cfg.Valid) (hf : cfg.audio.audioBlockFrames ∣ frame)
    (hl : cfg.audio.audioBlockFrames ∣ last) (h : frame ≤ last) :
    ∃ k : ℕ, last = frame + k * cfg.audio.audioBlockFrames := by
  obtain ⟨k, hk⟩ := Int.dvd_sub hl hf
  have hnonneg : 0 ≤ k := by
    by_contra hneg
    have := Int.mul_neg_of_pos_of_neg hcfg.blockFrames_pos (not_le.mp hneg)
    omega
  refine ⟨k.toNat, ?_⟩
  rw [Int.toNat_of_nonneg hnonneg, Int.mul_comm]
  omega

/-- The first block, and the others. -/
theorem blocksFrom_cons (hcfg : cfg.Valid) (hf : cfg.audio.audioBlockFrames ∣ frame)
    (hl : cfg.audio.audioBlockFrames ∣ last) (h : frame < last) :
    blocksFrom cfg frame last =
      frame :: blocksFrom cfg (frame + cfg.audio.audioBlockFrames) last := by
  obtain ⟨k, rfl⟩ := exists_blocks hcfg hf hl h.le
  rcases k with - | k
  · simp at h
  · have hlast : frame + (k + 1 : ℕ) * cfg.audio.audioBlockFrames =
        frame + cfg.audio.audioBlockFrames + k * cfg.audio.audioBlockFrames := by
      push_cast
      ring
    rw [blocksFrom_add hcfg, hlast, blocksFrom_add hcfg, List.range_succ_eq_map, List.map_cons,
      List.map_map]
    refine congrArg₂ List.cons (by simp) (List.map_congr_left fun i _ => ?_)
    simp only [Function.comp_apply]
    push_cast
    ring

/-- The last block, and the others. -/
theorem blocksFrom_concat (hcfg : cfg.Valid) (hf : cfg.audio.audioBlockFrames ∣ frame)
    (hl : cfg.audio.audioBlockFrames ∣ last) (h : frame ≤ last) :
    blocksFrom cfg frame (last + cfg.audio.audioBlockFrames) =
      blocksFrom cfg frame last ++ [last] := by
  obtain ⟨k, rfl⟩ := exists_blocks hcfg hf hl h
  have hlast : frame + k * cfg.audio.audioBlockFrames + cfg.audio.audioBlockFrames =
      frame + (k + 1 : ℕ) * cfg.audio.audioBlockFrames := by
    push_cast
    ring
  rw [hlast, blocksFrom_add hcfg, blocksFrom_add hcfg, List.range_succ, List.map_append]
  rfl

theorem take_blocksFrom (hcfg : cfg.Valid) {k : ℕ} (hf : cfg.audio.audioBlockFrames ∣ frame)
    (hl : cfg.audio.audioBlockFrames ∣ last) (h : frame + k * cfg.audio.audioBlockFrames ≤ last) :
    (blocksFrom cfg frame last).take k =
      blocksFrom cfg frame (frame + k * cfg.audio.audioBlockFrames) := by
  have hB := hcfg.blockFrames_pos
  have hk := Int.mul_nonneg (Int.natCast_nonneg k) hB.le
  obtain ⟨n, rfl⟩ := exists_blocks hcfg hf hl (by omega)
  have hle : (k : Int) ≤ n := le_of_mul_le_mul_right (by omega) hB
  rw [blocksFrom_add hcfg, blocksFrom_add hcfg, ← List.map_take, List.take_range,
    Nat.min_eq_left (by omega)]

theorem mem_blocksFrom (hcfg : cfg.Valid) {f : Int} (h : f ∈ blocksFrom cfg frame last) :
    frame ≤ f ∧ f < last := by
  obtain ⟨i, hi, rfl⟩ := List.mem_map.mp h
  have hB := hcfg.blockFrames_pos
  have hi' : (i : Int) + 1 ≤ (last - frame) / cfg.audio.audioBlockFrames := by
    have := List.mem_range.mp hi
    omega
  have hle := (Int.le_ediv_iff_mul_le hB).mp hi'
  rw [Int.add_mul, Int.one_mul] at hle
  have := Int.mul_nonneg (Int.natCast_nonneg i) hB.le
  omega

end

/-! ## The queue -/

/-- The block comes after another one. -/
def BlockBefore (a b : AudioBlock S) : Prop :=
  a.generation < b.generation ∨ a.generation = b.generation ∧ a.firstFrame < b.firstFrame

/-- The blocks that a callback of `generation` which expects `frame` does not discard. -/
def freshBlocks (generation frame : Int) (blocks : List (AudioBlock S)) : List (AudioBlock S) :=
  blocks.filter fun b => !isStale generation frame b

/-- The order of the blocks in the queue: `generation` is the latest, `frame` the cursor of the
consumer and `last` the cursor of the publisher. -/
structure ReadyOrder (cfg : Config) (generation frame last : Int) (blocks : List (AudioBlock S)) :
    Prop where
  increasing : blocks.Pairwise BlockBefore
  generation_le : ∀ b ∈ blocks, b.generation ≤ generation
  before_last : ∀ b ∈ blocks, b.generation = generation → b.firstFrame < last
  fresh : (freshBlocks generation frame blocks).map (·.firstFrame) = blocksFrom cfg frame last

theorem isStale_eq_false {generation frame : Int} {b : AudioBlock S} :
    isStale generation frame b = false ↔
      generation ≤ b.generation ∧ (b.generation = generation → frame ≤ b.firstFrame) := by
  unfold isStale
  simp only [Bool.or_eq_false_iff, Bool.and_eq_false_imp, decide_eq_false_iff_not, not_lt,
    beq_iff_eq]

theorem mem_freshBlocks {generation frame : Int} {blocks : List (AudioBlock S)}
    (h : ∀ b ∈ blocks, b.generation ≤ generation) {b : AudioBlock S} :
    b ∈ freshBlocks generation frame blocks ↔
      b ∈ blocks ∧ b.generation = generation ∧ frame ≤ b.firstFrame := by
  simp only [freshBlocks, List.mem_filter, Bool.not_eq_true', isStale_eq_false]
  constructor
  · rintro ⟨hb, hge, hframe⟩
    have heq := le_antisymm (h b hb) hge
    exact ⟨hb, heq, hframe heq⟩
  · rintro ⟨hb, heq, hframe⟩
    exact ⟨hb, heq.ge, fun _ => hframe⟩

/-- The blocks that are fresh for a later frame. -/
theorem freshBlocks_later {generation frame frame' : Int} {blocks : List (AudioBlock S)}
    (h : ∀ b ∈ blocks, b.generation ≤ generation) (hle : frame ≤ frame') :
    freshBlocks generation frame' blocks =
      (freshBlocks generation frame blocks).filter fun b => decide (frame' ≤ b.firstFrame) := by
  rw [freshBlocks, freshBlocks, List.filter_filter]
  refine List.filter_congr fun b hb => ?_
  have hgen := h b hb
  unfold isStale
  by_cases hg : b.generation = generation
  · simp only [hg, lt_irrefl, decide_false, beq_self_eq_true, Bool.true_and, Bool.false_or]
    rw [Bool.eq_iff_iff]
    simp only [Bool.not_eq_true', decide_eq_false_iff_not, not_lt, Bool.and_eq_true,
      decide_eq_true_eq]
    omega
  · have hlt : b.generation < generation := by omega
    simp [hlt]

/-- Behind a fresh block all blocks are fresh. -/
theorem BlockBefore.fresh {generation frame : Int} {a b : AudioBlock S} (h : BlockBefore a b)
    (ha : isStale generation frame a = false) : isStale generation frame b = false := by
  rw [isStale_eq_false] at ha ⊢
  rcases h with h | ⟨hg, hf⟩
  · exact ⟨by omega, fun hb => by omega⟩
  · exact ⟨by omega, fun hb => (ha.2 (hg.trans hb)).trans hf.le⟩

theorem dropWhile_isStale {generation frame : Int} {blocks : List (AudioBlock S)}
    (h : blocks.Pairwise BlockBefore) :
    blocks.dropWhile (isStale generation frame) = freshBlocks generation frame blocks := by
  induction blocks with
  | nil => rfl
  | cons a rest ih =>
    rw [List.pairwise_cons] at h
    rcases ha : isStale generation frame a with - | -
    · have hrest : rest.filter (fun b => !isStale generation frame b) = rest :=
        List.filter_eq_self.mpr fun b hb => by simp [(h.1 b hb).fresh ha]
      rw [List.dropWhile_cons_of_neg (by simp [ha]), freshBlocks,
        List.filter_cons_of_pos (by simp [ha]), hrest]
    · rw [List.dropWhile_cons_of_pos ha, ih h.2, freshBlocks, freshBlocks,
        List.filter_cons_of_neg (by simp [ha])]

namespace ReadyOrder

variable {cfg : Config} {generation frame last : Int} {blocks : List (AudioBlock S)}

/-- An empty queue is in order if nothing is published ahead of the consumer. -/
theorem empty (hcfg : cfg.Valid) (h : last ≤ frame) :
    ReadyOrder cfg generation frame last ([] : List (AudioBlock S)) :=
  ⟨.nil, nofun, nofun, (blocksFrom_nil hcfg h).symm⟩

/-- A new generation makes every block stale. -/
theorem newGeneration (hcfg : cfg.Valid) (h : ReadyOrder cfg generation frame last blocks)
    (target : Int) : ReadyOrder cfg (generation + 1) target target blocks := by
  refine ⟨h.increasing, fun b hb => ?_, fun b hb hg => ?_, ?_⟩
  · have := h.generation_le b hb
    omega
  · have := h.generation_le b hb
    omega
  · rw [blocksFrom_nil hcfg le_rfl, List.map_eq_nil_iff, freshBlocks, List.filter_eq_nil_iff]
    intro b hb
    have := h.generation_le b hb
    simp only [isStale, Bool.not_eq_true', Bool.not_eq_false, Bool.or_eq_true, decide_eq_true_eq]
    omega

/-- The publisher skips what the consumer has passed, or the rest of the timeline at its end. -/
theorem skip (hcfg : cfg.Valid) (h : ReadyOrder cfg generation frame last blocks) {last' : Int}
    (hle : last ≤ last') (hlast : last' = last ∨ last' ≤ frame) :
    ReadyOrder cfg generation frame last' blocks := by
  refine ⟨h.increasing, h.generation_le, fun b hb hg => (h.before_last b hb hg).trans_le hle, ?_⟩
  rcases hlast with rfl | hlast
  · exact h.fresh
  · rw [h.fresh, blocksFrom_nil hcfg (hle.trans hlast), blocksFrom_nil hcfg hlast]

/-- The publisher appends the next block. -/
theorem push (hcfg : cfg.Valid) (h : ReadyOrder cfg generation frame last blocks)
    (hf : cfg.audio.audioBlockFrames ∣ frame) (hl : cfg.audio.audioBlockFrames ∣ last)
    (hle : frame ≤ last) {b : AudioBlock S} (hg : b.generation = generation)
    (hb : b.firstFrame = last) :
    ReadyOrder cfg generation frame (last + cfg.audio.audioBlockFrames) (blocks ++ [b]) := by
  have hB := hcfg.blockFrames_pos
  have hfresh : isStale generation frame b = false := isStale_eq_false.mpr ⟨hg.ge, fun _ => hb ▸ hle⟩
  refine ⟨List.pairwise_append.mpr ⟨h.increasing, List.pairwise_singleton _ _, ?_⟩, ?_, ?_, ?_⟩
  · intro a ha b' hb'
    rw [List.mem_singleton.mp hb']
    rcases (h.generation_le a ha).lt_or_eq with hlt | heq
    · exact .inl (hg ▸ hlt)
    · exact .inr ⟨heq.trans hg.symm, hb ▸ h.before_last a ha heq⟩
  · intro a ha
    rcases List.mem_append.mp ha with ha | ha
    · exact h.generation_le a ha
    · rw [List.mem_singleton.mp ha, hg]
  · intro a ha hga
    rcases List.mem_append.mp ha with ha | ha
    · have := h.before_last a ha hga
      omega
    · rw [List.mem_singleton.mp ha, hb]
      omega
  · rw [blocksFrom_concat hcfg hf hl hle, ← h.fresh, freshBlocks, List.filter_append,
      List.map_append]
    simp [freshBlocks, hfresh, hb]

/-- The consumer moves on by one block, whether it played it or not. -/
theorem advance (hcfg : cfg.Valid) (h : ReadyOrder cfg generation frame last blocks)
    (hf : cfg.audio.audioBlockFrames ∣ frame) (hl : cfg.audio.audioBlockFrames ∣ last) :
    ReadyOrder cfg generation (frame + cfg.audio.audioBlockFrames) last blocks := by
  have hB := hcfg.blockFrames_pos
  refine ⟨h.increasing, h.generation_le, h.before_last, ?_⟩
  rw [freshBlocks_later h.generation_le (show frame ≤ frame + cfg.audio.audioBlockFrames by omega)]
  rcases le_or_gt last frame with hle | hlt
  · have hnil := h.fresh
    rw [blocksFrom_nil hcfg hle, List.map_eq_nil_iff] at hnil
    rw [hnil, blocksFrom_nil hcfg (by omega)]
    rfl
  · -- The first fresh block is the one the consumer passes.
    have hcons := h.fresh
    rw [blocksFrom_cons hcfg hf hl hlt] at hcons
    obtain ⟨b, rest, heq, hb, hrest⟩ := List.map_eq_cons_iff.mp hcons
    have hkeep : rest.filter (fun b => decide (frame + cfg.audio.audioBlockFrames ≤ b.firstFrame)) =
        rest := by
      refine List.filter_eq_self.mpr fun a ha => decide_eq_true ?_
      exact (mem_blocksFrom hcfg (hrest ▸ List.mem_map_of_mem ha)).1
    rw [heq, List.filter_cons_of_neg (by simp only [hb, decide_eq_true_eq]; omega), hkeep, hrest]

/-- Discarded blocks were stale. -/
theorem drop {stale rest : List (AudioBlock S)}
    (h : ReadyOrder cfg generation frame last (stale ++ rest))
    (hstale : ∀ b ∈ stale, isStale generation frame b = true) :
    ReadyOrder cfg generation frame last rest := by
  refine ⟨(List.pairwise_append.mp h.increasing).2.1,
    fun b hb => h.generation_le b (List.mem_append_right _ hb),
    fun b hb => h.before_last b (List.mem_append_right _ hb), ?_⟩
  have hnil : stale.filter (fun b => !isStale generation frame b) = [] :=
    List.filter_eq_nil_iff.mpr fun b hb => by simp [hstale b hb]
  rw [← h.fresh, freshBlocks, freshBlocks, List.filter_append, hnil, List.nil_append]

/-- What the stale-block cleanup leaves is what is fresh. -/
theorem dropWhile_eq (h : ReadyOrder cfg generation frame last blocks) :
    blocks.dropWhile (isStale generation frame) = freshBlocks generation frame blocks :=
  dropWhile_isStale h.increasing

end ReadyOrder

end Anasa
