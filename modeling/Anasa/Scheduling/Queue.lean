import Anasa.Scheduling.Classification

/-!
# The queue of pending tiles

What the operations of the scheduler do to `PendingInv`.
-/

namespace Anasa

open Concurrency PriorityQueue Scheduler

variable {cfg : Config} {pending buffer : List PendingRenderTile} {nextSequence : Int}

theorem pushPending_perm (cfg : Config) (tile : PendingRenderTile) (q : List PendingRenderTile) :
    (pushPending cfg tile q).Perm (tile :: q) := push_perm _ _ _

theorem pushAllPending_perm (cfg : Config) (tiles q : List PendingRenderTile) :
    (pushAllPending cfg tiles q).Perm (tiles ++ q) := pushAll_perm _ _ _

namespace PendingInv

theorem nil (hmax : 0 ≤ cfg.scheduler.maxPendingTiles) (nextSequence : Int) :
    PendingInv cfg [] [] nextSequence where
  sorted := sorted_nil
  uniform := nofun
  length_le := by simpa using hmax
  sequence_lt := nofun
  sequence_nodup := List.nodup_nil

/-- Tiles that were waiting wait in another order, or wait no more. -/
theorem of_subperm (h : PendingInv cfg pending buffer nextSequence)
    {pending' buffer' : List PendingRenderTile}
    (hsorted : Sorted (createSchedulingPolicy cfg.scheduler.policyType) pending')
    (hsub : (pending' ++ buffer').Subperm (pending ++ buffer)) :
    PendingInv cfg pending' buffer' nextSequence where
  sorted := hsorted
  uniform t ht t' ht' := h.uniform t (hsub.subset ht) t' (hsub.subset ht')
  length_le := by
    have hlen := hsub.length_le
    have hle := h.length_le
    simp only [List.length_append] at hlen
    omega
  sequence_lt t ht := h.sequence_lt t (hsub.subset ht)
  sequence_nodup := by
    obtain ⟨l, hperm, hsublist⟩ := hsub
    exact ((hperm.map _).nodup_iff).mp (h.sequence_nodup.sublist (hsublist.map _))

/-- The first tile of the queue leaves. -/
theorem pop (h : PendingInv cfg pending buffer nextSequence) :
    PendingInv cfg pending.tail buffer nextSequence :=
  h.of_subperm h.sorted.tail ((List.tail_sublist pending).append_right buffer).subperm

/-- The queue is moved to the buffer. -/
theorem take (h : PendingInv cfg pending [] nextSequence) :
    PendingInv cfg [] pending nextSequence :=
  h.of_subperm sorted_nil (by rw [List.nil_append, List.append_nil])

/-- The first tile of the buffer leaves. -/
theorem retire {tile : PendingRenderTile}
    (h : PendingInv cfg pending (tile :: buffer) nextSequence) :
    PendingInv cfg pending buffer nextSequence :=
  h.of_subperm h.sorted ((List.sublist_cons_self tile buffer).append_left pending).subperm

theorem keep_perm (tile : PendingRenderTile) :
    (pushPending cfg tile pending ++ buffer).Perm (pending ++ tile :: buffer) :=
  ((pushPending_perm cfg tile pending).append_right buffer).trans List.perm_middle.symm

/-- The first tile of the buffer is queued again. -/
theorem keep {tile : PendingRenderTile}
    (h : PendingInv cfg pending (tile :: buffer) nextSequence) :
    PendingInv cfg (pushPending cfg tile pending) buffer nextSequence :=
  h.of_subperm (h.sorted.push (createSchedulingPolicy_strictWeakOrder _) tile)
    (keep_perm tile).subperm

/-- All tiles are classified again, alike for the tiles of a job. -/
theorem refresh (h : PendingInv cfg pending [] nextSequence)
    {f : PendingRenderTile → PendingRenderTile} (hseq : ∀ t, (f t).sequence = t.sequence)
    (hjob : ∀ t, (f t).job = t.job)
    (huniform : ∀ t t', t.job = t'.job → t.classification = t'.classification →
      (f t).classification = (f t').classification) :
    PendingInv cfg (pushAllPending cfg (pending.map f) []) [] nextSequence := by
  have hmem : ∀ {t}, t ∈ pushAllPending cfg (pending.map f) [] ++ [] →
      ∃ t₀ ∈ pending ++ [], f t₀ = t := by
    intro t ht
    rw [List.append_nil, (pushAllPending_perm cfg _ []).mem_iff, List.append_nil] at ht
    rw [List.append_nil]
    exact List.mem_map.mp ht
  refine ⟨sorted_nil.pushAll (createSchedulingPolicy_strictWeakOrder _) _, ?_, ?_, ?_, ?_⟩
  · intro t ht t' ht' he
    obtain ⟨t₀, h₀, rfl⟩ := hmem ht
    obtain ⟨t₀', h₀', rfl⟩ := hmem ht'
    rw [hjob, hjob] at he
    exact huniform t₀ t₀' he (h.uniform t₀ h₀ t₀' h₀' he)
  · have hle := h.length_le
    rwa [pushAllPending, length_pushAll, List.length_map, List.length_nil, Nat.add_zero]
  · intro t ht
    obtain ⟨t₀, h₀, rfl⟩ := hmem ht
    rw [hseq]
    exact h.sequence_lt t₀ h₀
  · rw [List.append_nil, ((pushAllPending_perm cfg _ []).map _).nodup_iff, List.append_nil,
      List.map_map]
    have hnodup := h.sequence_nodup
    rw [List.append_nil] at hnodup
    rwa [show PendingRenderTile.sequence ∘ f = PendingRenderTile.sequence from funext hseq]

end PendingInv

/-! ## New tiles -/

theorem mem_newTiles {job : JobId} {classification : RenderClassification} {first : Int}
    {t : PendingRenderTile} (h : t ∈ newTiles job classification first) :
    t.job = job ∧ t.classification = classification ∧ first ≤ t.sequence ∧
      t.sequence < first + tilesPerChunk := by
  obtain ⟨i, hi, rfl⟩ := List.mem_map.mp h
  rw [mem_intRange] at hi
  exact ⟨rfl, rfl, by dsimp only; omega, by dsimp only; omega⟩

theorem length_newTiles (job : JobId) (classification : RenderClassification) (first : Int) :
    ((newTiles job classification first).length : Int) = tilesPerChunk := by
  rw [newTiles, List.length_map, length_intRange]
  rfl

theorem nodup_newTiles (job : JobId) (classification : RenderClassification) (first : Int) :
    ((newTiles job classification first).map (·.sequence)).Nodup := by
  rw [newTiles, List.map_map]
  refine (nodup_intRange _ _).map fun a b hab => ?_
  simp only [Function.comp_apply] at hab
  omega

/-- The tiles of a new job are queued. -/
theorem PendingInv.admit (h : PendingInv cfg pending [] nextSequence) {job : JobId}
    (hjob : ∀ t ∈ pending, t.job ≠ job) (classification : RenderClassification)
    (hroom : (pending.length : Int) + tilesPerChunk ≤ cfg.scheduler.maxPendingTiles) :
    PendingInv cfg (pushAllPending cfg (newTiles job classification nextSequence) pending) []
      (nextSequence + tilesPerChunk) := by
  have hmem : ∀ {t}, t ∈ pushAllPending cfg (newTiles job classification nextSequence) pending
      ++ [] ↔ t ∈ newTiles job classification nextSequence ∨ t ∈ pending := by
    intro t
    rw [List.append_nil, (pushAllPending_perm cfg _ pending).mem_iff, List.mem_append]
  have hold : ∀ {t}, t ∈ pending → t ∈ pending ++ [] := fun ht => List.mem_append_left _ ht
  refine ⟨h.sorted.pushAll (createSchedulingPolicy_strictWeakOrder _) _, ?_, ?_, ?_, ?_⟩
  · intro t ht t' ht' he
    rcases hmem.mp ht with hn | ho <;> rcases hmem.mp ht' with hn' | ho'
    · rw [(mem_newTiles hn).2.1, (mem_newTiles hn').2.1]
    · exact absurd (he.symm.trans (mem_newTiles hn).1) (hjob t' ho')
    · exact absurd (he.trans (mem_newTiles hn').1) (hjob t ho)
    · exact h.uniform t (hold ho) t' (hold ho') he
  · have hlen := length_newTiles job classification nextSequence
    rw [pushAllPending, length_pushAll, List.length_nil, Nat.cast_add]
    omega
  · intro t ht
    rcases hmem.mp ht with hn | ho
    · exact (mem_newTiles hn).2.2.2
    · have hlt := h.sequence_lt t (hold ho)
      have := tilesPerChunk_eq
      omega
  · rw [List.append_nil, ((pushAllPending_perm cfg _ pending).map _).nodup_iff, List.map_append]
    have hnodup := h.sequence_nodup
    rw [List.append_nil] at hnodup
    refine (nodup_newTiles job classification nextSequence).append hnodup fun x hx hx' => ?_
    obtain ⟨t, ht, rfl⟩ := List.mem_map.mp hx
    obtain ⟨t', ht', he⟩ := List.mem_map.mp hx'
    have hge := (mem_newTiles ht).2.2.1
    have hlt := h.sequence_lt t' (hold ht')
    omega

/-! ## Refreshing -/

theorem reclassify_key {S : Type} (s : EngineState S) (playheadFrame : Int)
    (t : PendingRenderTile) :
    (reclassify cfg s playheadFrame t).key = t.key ∧
      (reclassify cfg s playheadFrame t).job = t.job ∧
      (reclassify cfg s playheadFrame t).sequence = t.sequence := by
  unfold reclassify
  split <;> exact ⟨rfl, rfl, rfl⟩

theorem reclassify_uniform {S : Type} (s : EngineState S) (playheadFrame : Int)
    (t t' : PendingRenderTile) (hjob : t.job = t'.job)
    (hc : t.classification = t'.classification) :
    (reclassify cfg s playheadFrame t).classification =
      (reclassify cfg s playheadFrame t').classification := by
  unfold reclassify
  rw [hjob]
  split
  · exact hc
  · rfl

/-- **Refreshing** loses, duplicates and renames no tile. -/
theorem refresh_keys {S : Type} (s : EngineState S) (playheadFrame : Int) :
    (((refreshPendingClassifications cfg playheadFrame).run s).2.render.pendingTiles.map
      (·.key)).Perm (s.render.pendingTiles.map (·.key)) := by
  refine ((pushAllPending_perm cfg _ []).map _).trans (List.Perm.of_eq ?_)
  rw [List.append_nil, List.map_map]
  exact List.map_congr_left fun t _ => (reclassify_key s playheadFrame t).1

end Anasa
