import Anasa.Scheduling.Admission

/-!
# Scheduling and dispatch keep the numbers

Admission numbers the tiles of a new job in order and, under the Fifo policy, queues them behind
all others; dispatch submits the first tile.
-/

namespace Anasa

open Concurrency Contract PriorityQueue Scheduler

variable {S : Type} {cfg : Config} {kernel : RenderKernel S}

/-! ## Numbers -/

/-- The number of a tile does not depend on its classification. -/
theorem Numbered.of_key {firstJob made : ℕ} {t t' : PendingRenderTile}
    (h : Numbered firstJob made t) (hkey : t'.key = t.key) : Numbered firstJob made t' := by
  simp only [PendingRenderTile.key, Prod.mk.injEq] at hkey
  obtain ⟨hjob, hindex, hsequence⟩ := hkey
  exact ⟨hjob ▸ h.job_ge, hjob ▸ h.job_lt, hindex ▸ h.index, by rw [hsequence, hjob, hindex, h.sequence]⟩

theorem Numbered.more {firstJob made made' : ℕ} {t : PendingRenderTile}
    (h : Numbered firstJob made t) (hle : made ≤ made') : Numbered firstJob made' t :=
  { h with job_lt := h.job_lt.trans_le hle }

theorem newTiles_numbered {firstJob made : ℕ} (hle : firstJob ≤ made)
    (classification : RenderClassification) {t : PendingRenderTile}
    (ht : t ∈ newTiles made classification (tilesPerChunk * (made - firstJob : Int))) :
    Numbered firstJob (made + 1) t := by
  obtain ⟨i, hi, rfl⟩ := List.mem_map.mp ht
  exact ⟨hle, Nat.lt_succ_self made, mem_intRange.mp hi, rfl⟩

theorem sequence_newTiles (job : JobId) (classification : RenderClassification) (first : Int) :
    (newTiles job classification first).map (·.sequence) = intRange first (first + tilesPerChunk) := by
  rw [newTiles, List.map_map, intRange, intRange, List.map_map]
  have hn : (first + tilesPerChunk - first).toNat = (tilesPerChunk - 0).toNat := by omega
  rw [hn]
  exact List.map_congr_left fun i _ => by simp

theorem Admissions.admitted_nonneg {a : Admissions} (h : a.firstJob ≤ a.made) : 0 ≤ a.admitted :=
  mul_nonneg (by decide) (by omega)

/-! ## The invariant -/

namespace AdmissionInv

variable {a a' : Admissions}

/-- A list of consecutive numbers from 0 starts with consecutive numbers from 0. -/
theorem map_prefix {xs ys : List PendingRenderTile} {n : Int}
    (hn : 0 ≤ n) (h : (xs ++ ys).map (·.sequence) = intRange 0 n) :
    xs.map (·.sequence) = intRange 0 xs.length := by
  have hlength := congrArg List.length h
  rw [List.length_map, List.length_append, length_intRange] at hlength
  have hsplit : intRange 0 n = intRange 0 xs.length ++ intRange xs.length n :=
    (intRange_append (by omega) (by omega)).symm
  rw [hsplit, List.map_append] at h
  refine (List.append_inj h ?_).1
  rw [List.length_map, length_intRange]
  omega

/-- While the scheduler runs, the tiles in order say which ones are submitted. -/
theorem of_inOrder (hwaiting : ∀ t ∈ a.pending ++ a.buffer, Numbered a.firstJob a.made t)
    (hsubmitted : ∀ t ∈ a.submitted, t.job < a.made ∧
      (a.firstJob ≤ t.job → Numbered a.firstJob a.made t)) (hle : a.firstJob ≤ a.made)
    (hnext : a.nextTileSequence = if a.started then a.admitted else 0)
    (hinOrder : cfg.scheduler.policyType = .fifo → a.InOrder) : AdmissionInv cfg a where
  waiting := hwaiting
  submitted := hsubmitted
  firstJob_le := hle
  next := hnext
  prefix_of_admitted hpolicy := map_prefix (Admissions.admitted_nonneg hle) (hinOrder hpolicy)
  inOrder hpolicy _ := hinOrder hpolicy

/-- Waiting tiles move, or leave, while the order is not that of admission. -/
theorem move (h : AdmissionInv cfg a) {pending buffer : List PendingRenderTile}
    (hwaiting : ∀ t ∈ pending ++ buffer, t ∈ a.pending ++ a.buffer)
    (hfree : cfg.scheduler.policyType = .fifo → ¬ a.Looping) :
    AdmissionInv cfg { a with pending, buffer } where
  waiting t ht := h.waiting t (hwaiting t ht)
  submitted := h.submitted
  firstJob_le := h.firstJob_le
  next := h.next
  prefix_of_admitted := h.prefix_of_admitted
  inOrder hpolicy hloop := absurd hloop (hfree hpolicy)

/-- The session admits the tiles of a job. -/
theorem admitTiles (h : AdmissionInv cfg a) (hstarted : a.started = true) (hloop : a.Looping)
    (classification : RenderClassification) :
    AdmissionInv cfg { a with
      pending := pushAllPending cfg (newTiles a.made classification a.nextTileSequence) a.pending
      nextTileSequence := a.nextTileSequence + tilesPerChunk
      made := a.made + 1 } := by
  have hnext : a.nextTileSequence = tilesPerChunk * (a.made - a.firstJob : Int) := by
    rw [h.next, if_pos hstarted]
    rfl
  have hadmitted : tilesPerChunk * (((a.made + 1 : ℕ) : Int) - a.firstJob) =
      a.nextTileSequence + tilesPerChunk := by
    have hsucc : ((a.made + 1 : ℕ) : Int) - a.firstJob = (a.made - a.firstJob : Int) + 1 := by omega
    rw [hnext, hsucc, mul_add, mul_one]
  refine of_inOrder (fun t ht => ?_) (fun t ht => ?_) (h.firstJob_le.trans (Nat.le_succ _)) ?_
    fun hpolicy => ?_
  · dsimp only at ht
    rw [List.mem_append, (pushAllPending_perm _ _ _).mem_iff, List.mem_append, or_assoc] at ht
    rcases ht with hnew | hold
    · rw [hnext] at hnew
      exact newTiles_numbered h.firstJob_le classification hnew
    · exact (h.waiting t (List.mem_append.mpr hold)).more (Nat.le_succ _)
  · obtain ⟨hlt, hnumbered⟩ := h.submitted t ht
    exact ⟨hlt.trans (Nat.lt_succ_self _), fun hle => (hnumbered hle).more (Nat.le_succ _)⟩
  · rw [if_pos hstarted]
    exact hadmitted.symm
  · have horder := h.inOrder hpolicy hloop
    -- The numbers of the new tiles are higher than those of all tiles in the queue.
    have hlt : ∀ t ∈ a.pending, t.sequence < a.nextTileSequence := by
      intro t ht
      have hmem : t.sequence ∈ intRange 0 a.admitted := by
        rw [← horder]
        exact List.mem_map_of_mem (List.mem_append_right _ ht)
      rw [hnext]
      exact (mem_intRange.mp hmem).2
    have hpush : pushAllPending cfg (newTiles a.made classification a.nextTileSequence) a.pending =
        a.pending ++ newTiles a.made classification a.nextTileSequence := by
      unfold pushAllPending
      rw [hpolicy]
      refine pushAll_of_lower _ ?_ fun x hx y hy => ?_
      · refine List.pairwise_map.mpr ?_
        refine (List.pairwise_map.mpr (List.pairwise_lt_range.imp fun hij => ?_))
        simp only [createSchedulingPolicy, FifoSchedulingPolicy.hasLowerPrecedence,
          decide_eq_true_eq]
        omega
      · have hge := (mem_newTiles hx).2.2.1
        have hy := hlt y hy
        simp only [createSchedulingPolicy, FifoSchedulingPolicy.hasLowerPrecedence,
          decide_eq_true_eq]
        omega
    have hnonneg : 0 ≤ a.nextTileSequence := hnext ▸ Admissions.admitted_nonneg h.firstJob_le
    have htiles := tilesPerChunk_eq
    show (a.sessionSubmitted ++ pushAllPending cfg _ a.pending).map _ =
      intRange 0 (tilesPerChunk * (((a.made + 1 : ℕ) : Int) - a.firstJob))
    rw [hpush, hadmitted, ← List.append_assoc, List.map_append, horder, sequence_newTiles,
      Admissions.admitted, ← hnext]
    exact intRange_append hnonneg (by omega)

/-- The first tile of the queue is submitted. -/
theorem submit (h : AdmissionInv cfg a) (hloop : a.Looping) {tile : PendingRenderTile}
    (hhead : a.pending.head? = some tile) :
    AdmissionInv cfg { a with
      pending := a.pending.tail
      submitted := tile :: a.submitted } := by
  have hcons : a.pending = tile :: a.pending.tail := (List.cons_head?_tail hhead).symm
  have htile : Numbered a.firstJob a.made tile := by
    refine h.waiting tile (List.mem_append_left _ ?_)
    rw [hcons]
    exact List.mem_cons_self
  refine of_inOrder (fun t ht => ?_) (fun t ht => ?_) h.firstJob_le h.next fun hpolicy => ?_
  · rcases List.mem_append.mp ht with hold | hold
    · exact h.waiting t (List.mem_append_left _ (List.mem_of_mem_tail hold))
    · exact h.waiting t (List.mem_append_right _ hold)
  · rcases List.mem_cons.mp ht with rfl | hold
    · exact ⟨htile.job_lt, fun _ => htile⟩
    · exact h.submitted t hold
  · have horder := h.inOrder hpolicy hloop
    unfold Admissions.InOrder Admissions.sessionSubmitted at *
    dsimp only
    rw [List.filter_cons_of_pos (by simpa using htile.job_ge), List.reverse_cons,
      List.append_assoc, List.singleton_append, ← hcons]
    exact horder

/-- A session starts with nothing left of the last one. -/
theorem start (h : AdmissionInv cfg a) (hstarted : a.started = false) (hpending : a.pending = [])
    (hbuffer : a.buffer = []) :
    AdmissionInv cfg { a with started := true, firstJob := a.made } ∧
      Admissions.InOrder { a with started := true, firstJob := a.made } := by
  have hnone : a.submitted.filter (fun t => a.made ≤ t.job) = [] :=
    List.filter_eq_nil_iff.mpr fun t ht => by
      have hlt := (h.submitted t ht).1
      simpa using hlt
  have horder : Admissions.InOrder { a with started := true, firstJob := a.made } := by
    unfold Admissions.InOrder Admissions.sessionSubmitted Admissions.admitted
    dsimp only
    rw [hnone, hpending, sub_self, mul_zero, intRange_nil le_rfl]
    rfl
  refine ⟨of_inOrder (fun t ht => ?_) (fun t ht => ⟨(h.submitted t ht).1, fun hle => ?_⟩) le_rfl ?_
    fun _ => horder, horder⟩
  · rw [hpending, hbuffer] at ht
    exact absurd ht List.not_mem_nil
  · exact absurd hle (not_le.mpr (h.submitted t ht).1)
  · have hnext := h.next
    rw [hstarted] at hnext
    unfold Admissions.admitted
    dsimp only
    rw [hnext, sub_self, mul_zero]
    rfl

end AdmissionInv

end Anasa
