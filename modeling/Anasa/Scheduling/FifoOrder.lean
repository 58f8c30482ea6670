import Anasa.Scheduling.AdmissionRuns
import Anasa.Scheduling.Cancellation

/-!
# Submission in the order of admission

Under the Fifo policy a session submits its tiles in the order in which it admits them: those
submitted are the first ones admitted, and the others wait in the queue.
-/

namespace Anasa

open Concurrency Scheduler

variable {S : Type} {cfg : Config}

namespace Admissions

variable (a : Admissions)

/-- The keys of all tiles that the session has admitted, in the order of admission. -/
def admittedKeys : List (JobId × Int × Int) :=
  (List.range' a.firstJob (a.made - a.firstJob)).flatMap fun job =>
    (intRange 0 tilesPerChunk).map fun tileIndex =>
      (job, tileIndex, tilesPerChunk * (job - a.firstJob : Int) + tileIndex)

/-- The key of the tile with the given number. -/
def keyOf (sequence : Int) : JobId × Int × Int :=
  (a.firstJob + (sequence / tilesPerChunk).toNat, sequence % tilesPerChunk, sequence)

variable {a}

theorem key_of_numbered {t : PendingRenderTile} (h : Numbered a.firstJob a.made t) :
    t.key = a.keyOf t.sequence := by
  obtain ⟨hge, -, ⟨hlo, hhi⟩, hsequence⟩ := h
  have htiles : (tilesPerChunk : Int) ≠ 0 := by decide
  have hdiv : t.sequence / tilesPerChunk = (t.job - a.firstJob : Int) := by
    rw [hsequence, Int.mul_add_ediv_left _ _ htiles, Int.ediv_eq_zero_of_lt hlo hhi, add_zero]
  have hmod : t.sequence % tilesPerChunk = t.tileIndex := by
    rw [hsequence, Int.mul_add_emod_self_left, Int.emod_eq_of_lt hlo hhi]
  have hjob : a.firstJob + ((t.job : Int) - a.firstJob).toNat = t.job := by
    have hcast : (a.firstJob : Int) ≤ (t.job : Int) := Int.ofNat_le.mpr hge
    omega
  rw [PendingRenderTile.key, keyOf, hdiv, hmod, hjob]

/-- The keys of the tiles of one job. -/
theorem keys_of_job (n : ℕ) :
    ((intRange 0 tilesPerChunk).map fun tileIndex =>
      (a.firstJob + n, tileIndex, tilesPerChunk * (((a.firstJob + n : ℕ) : Int) - a.firstJob) +
        tileIndex)) =
      (intRange (tilesPerChunk * n) (tilesPerChunk * (n + 1 : ℕ))).map a.keyOf := by
  have hshift : intRange (tilesPerChunk * n) (tilesPerChunk * (n + 1 : ℕ)) =
      (intRange 0 tilesPerChunk).map (tilesPerChunk * n + ·) := by
    have hcount : (tilesPerChunk * ((n + 1 : ℕ) : Int) - tilesPerChunk * n).toNat =
        (tilesPerChunk - 0).toNat := by
      rw [tilesPerChunk_eq]
      omega
    rw [intRange, intRange, hcount, List.map_map]
    exact List.map_congr_left fun i _ => by simp
  rw [hshift, List.map_map]
  refine List.map_congr_left fun i hi => ?_
  obtain ⟨hlo, hhi⟩ := mem_intRange.mp hi
  rw [tilesPerChunk_eq] at hhi
  simp only [Function.comp_apply, keyOf, Prod.mk.injEq, tilesPerChunk_eq]
  refine ⟨?_, ?_, ?_⟩ <;> omega

theorem admittedKeys_eq (hle : a.firstJob ≤ a.made) :
    a.admittedKeys = (intRange 0 a.admitted).map a.keyOf := by
  have hadmitted : a.admitted = tilesPerChunk * ((a.made - a.firstJob : ℕ) : Int) := by
    rw [Admissions.admitted, Nat.cast_sub hle]
  rw [hadmitted, admittedKeys]
  induction a.made - a.firstJob with
  | zero => rfl
  | succ n ih =>
    have hn : (0 : Int) ≤ tilesPerChunk * n := by
      rw [tilesPerChunk_eq]
      omega
    have hsucc : tilesPerChunk * (n : Int) ≤ tilesPerChunk * (n + 1 : ℕ) := by
      rw [tilesPerChunk_eq]
      omega
    rw [List.range'_concat, List.flatMap_append, ih, List.flatMap_singleton, one_mul,
      keys_of_job, ← List.map_append, intRange_append hn hsucc]

/-- Tiles of the session with consecutive numbers from 0. -/
theorem keys_of_sequences {tiles : List PendingRenderTile} {n : Int}
    (htiles : ∀ t ∈ tiles, Numbered a.firstJob a.made t)
    (h : tiles.map (·.sequence) = intRange 0 n) :
    tiles.map (·.key) = (intRange 0 n).map a.keyOf := by
  rw [← h, List.map_map]
  exact List.map_congr_left fun t ht => key_of_numbered (htiles t ht)

end Admissions

namespace AdmissionInv

variable {a : Admissions} (h : AdmissionInv cfg a)

include h

theorem sessionSubmitted_numbered {t : PendingRenderTile} (ht : t ∈ a.sessionSubmitted) :
    Numbered a.firstJob a.made t := by
  obtain ⟨hmem, hge⟩ := List.mem_filter.mp (List.mem_reverse.mp ht)
  exact (h.submitted t hmem).2 (of_decide_eq_true hge)

/-- The tiles submitted are the first ones admitted. -/
theorem submitted_isPrefix (hfifo : cfg.scheduler.policyType = .fifo) :
    a.sessionSubmitted.map (·.key) <+: a.admittedKeys := by
  have hsequences := h.prefix_of_admitted hfifo
  rw [Admissions.keys_of_sequences (fun t ht => h.sessionSubmitted_numbered ht) hsequences,
    Admissions.admittedKeys_eq h.firstJob_le]
  refine List.IsPrefix.map _ ?_
  rcases Nat.eq_zero_or_pos a.sessionSubmitted.length with hnone | hsome
  · rw [hnone]
    exact List.nil_prefix
  · -- The number of the last tile submitted is one of the session.
    have hlast : (a.sessionSubmitted.length : Int) - 1 ∈ a.sessionSubmitted.map (·.sequence) := by
      rw [hsequences, mem_intRange]
      omega
    obtain ⟨t, ht, hsequence⟩ := List.mem_map.mp hlast
    obtain ⟨hge, hlt, hindex, hnumber⟩ := h.sessionSubmitted_numbered ht
    have hadmitted : (a.sessionSubmitted.length : Int) ≤ a.admitted := by
      have hlt' : (t.job : Int) + 1 ≤ a.made := Int.ofNat_le.mpr hlt
      rw [tilesPerChunk_eq] at hindex hnumber
      rw [Admissions.admitted, tilesPerChunk_eq]
      omega
    exact ⟨_, intRange_append (by omega) hadmitted⟩

/-- While the loop runs, every tile admitted has been submitted or waits. -/
theorem submitted_or_waiting (hfifo : cfg.scheduler.policyType = .fifo) (hloop : a.Looping) :
    (a.sessionSubmitted ++ a.pending).map (·.key) = a.admittedKeys := by
  rw [Admissions.admittedKeys_eq h.firstJob_le]
  refine Admissions.keys_of_sequences (fun t ht => ?_) (h.inOrder hfifo hloop)
  rcases List.mem_append.mp ht with hsubmitted | hwaiting
  · exact h.sessionSubmitted_numbered hsubmitted
  · exact h.waiting t (List.mem_append_left _ hwaiting)

end AdmissionInv

/-! ## Every run -/

/-- A session under the Fifo policy, at a state of it and the next access of its scheduler. -/
structure FifoSession (p : Pool ThreadId (EngineState S)) : Prop where
  /-- The tiles submitted have the numbers 0, 1, 2, and so on. -/
  sequences : (admissionsOf p.state).sessionSubmitted.map (·.sequence) =
    intRange 0 (admissionsOf p.state).sessionSubmitted.length
  /-- The history of submissions is a prefix of the history of admissions. -/
  submitted : (admissionsOf p.state).sessionSubmitted.map (·.key) <+:
    (admissionsOf p.state).admittedKeys
  /-- While the loop runs, the other tiles admitted wait, and none is discarded. -/
  waiting : LoopRuns p.state →
    ((admissionsOf p.state).sessionSubmitted ++ p.state.render.pendingTiles).map (·.key) =
      (admissionsOf p.state).admittedKeys
  /-- While the loop runs, every job cancelled is cancelled for a reason. -/
  cancels : CancelsWithReason p.state (p.access .scheduler).state

/-- **Fifo order.** In every session under the Fifo policy, the tiles are submitted in the order in
which they are admitted, none is discarded while the loop runs, and the scheduler cancels only jobs
whose chunk has been edited or gets another job. -/
theorem sessionRun_fifoOrder [Zero S] (cfg : AcceptedConfig) (kernel : RenderKernel S)
    (hfifo : cfg.scheduler.policyType = .fifo) (moves : List (SessionMove S)) :
    FifoSession (sessionRun cfg.toConfig kernel moves) where
  sequences := (sessionRun_admissionInv cfg kernel moves).prefix_of_admitted hfifo
  submitted := (sessionRun_admissionInv cfg kernel moves).submitted_isPrefix hfifo
  waiting := (sessionRun_admissionInv cfg kernel moves).submitted_or_waiting hfifo
  cancels := cancels_with_reason cfg kernel hfifo moves

/-- An engine with three chunks of two blocks each. -/
def fifoConfig : AcceptedConfig where
  totalFrames := 6144
  audio := { audioBlockFrames := 1024, channelCount := 1 }
  executor := { workerCount := 32, renderTasksQueueCapacity := 32 }
  scheduler := { policyType := .fifo }
  int32 := by decide
  accepted := by decide

/-- The executor takes eight tiles in each of two passes, with an edit of the first chunk and a
seek to the last one in between. -/
def refusedMoves : List (SessionMove ℤ) :=
  [.whole .engineStart] ++
  List.replicate 8 (.whole (.schedulerLoop fun left => decide (left < 16))) ++
  [.whole (.post { type := .edit }), .whole (.post { type := .seek, firstFrame := 4096 })] ++
  List.replicate 10 (.whole (.schedulerLoop fun left => decide (left < 16)))

theorem sessionRun_fifoOrder_refused :
    FifoSession (sessionRun fifoConfig.toConfig (fun _ _ _ => 0) refusedMoves) ∧
      (admissionsOf (sessionRun fifoConfig.toConfig (fun _ _ _ => 0)
        refusedMoves).state).sessionSubmitted.map (·.sequence) = intRange 0 16 ∧
      (admissionsOf (sessionRun fifoConfig.toConfig (fun _ _ _ => 0)
        refusedMoves).state).made = 4 :=
  ⟨sessionRun_fifoOrder fifoConfig _ rfl _, by decide +kernel, by decide +kernel⟩

end Anasa
