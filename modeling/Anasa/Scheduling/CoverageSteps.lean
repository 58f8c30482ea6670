import Anasa.Scheduling.ScheduleAlone

/-!
# What scheduling one chunk does to coverage

`ChunkStep` says what one call of `scheduleChunk` does with nobody around, whatever the class of the
chunk: which chunks stay covered, what becomes of the queue, and why a chunk is refused.
-/

namespace Anasa

open Concurrency Contract Prog Scheduler

variable {S : Type} {cfg : Config} {kernel : RenderKernel S} {s : EngineState S}

/-! ## Admission -/

namespace Coverage

variable {c : Coverage S} {chunk : Int} (classification : RenderClassification)

theorem replaces_of_free (h : c.plan.activeJobs chunk = none) (j : JobId) :
    c.replaces chunk j = false := by simp [replaces, h]

/-- A chunk without a live job is covered once it is admitted. -/
theorem covers_admitted (hchunk : 0 ≤ chunk ∧ chunk < cfg.chunkCount) :
    (c.admitChunk cfg chunk (c.versions chunk) classification).Covers cfg chunk := by
  refine ⟨hchunk, .inr ⟨c.plan.made, ?_, ?_⟩⟩
  · exact Function.update_self chunk _ fun chunk' => (c.plan.activeJobs chunk').filter
      fun j => !c.replaces chunk j
  · show (Function.update c.plan.origins.2 c.plan.made (chunk, c.versions chunk) c.plan.made).2 = _
    rw [Function.update_self]
    rfl

/-- The other chunks stay covered. -/
theorem Covers.after_admission {chunk' : Int} (h : c.Covers cfg chunk')
    (hlt : ∀ j, c.plan.activeJobs chunk' = some j → j < c.plan.made)
    (hfree : c.plan.activeJobs chunk = none) (hchunk : 0 ≤ chunk ∧ chunk < cfg.chunkCount) :
    (c.admitChunk cfg chunk (c.versions chunk) classification).Covers cfg chunk' := by
  by_cases hsame : chunk' = chunk
  · subst hsame
    exact covers_admitted classification hchunk
  · refine ⟨h.1, h.2.imp id ?_⟩
    rintro ⟨j, hj, hversion⟩
    refine ⟨j, ?_, ?_⟩
    · show Function.update (fun chunk' => (c.plan.activeJobs chunk').filter
        fun j => !c.replaces chunk j) chunk (some c.plan.made) chunk' = some j
      rw [Function.update_of_ne hsame, hj, Option.filter_some_pos]
      rw [replaces_of_free hfree]
      rfl
    · show (Function.update c.plan.origins.2 c.plan.made (chunk, c.versions chunk) j).2 = _
      rw [Function.update_of_ne (hlt j hj).ne]
      exact hversion

/-- No live urgent tile is lost. -/
theorem liveUrgent_after_admission (hfree : c.plan.activeJobs chunk = none) (version : Int) :
    c.liveUrgent ≤ (c.admitChunk cfg chunk version classification).liveUrgent := by
  have hperm := pushAllPending_perm cfg
    (newTiles c.plan.made classification c.plan.nextTileSequence) c.plan.pendingTiles
  unfold liveUrgent admitChunk
  dsimp only
  simp only [replaces_of_free hfree, Bool.or_false]
  rw [hperm.countP_eq, List.countP_append]
  exact Nat.le_add_left _ _

end Coverage

/-- The registered job of the chunk, if any, is cancelled. -/
theorem liveJob_none (h : Running s) {chunk : Int}
    (hchunk : 0 ≤ chunk ∧ chunk < cfg.chunkCount) (hmade : JobsMade s.render)
    (hnot : ¬Covered cfg s.render chunk) : liveJob s.render chunk = none := by
  rcases hlive : liveJob s.render chunk with - | j
  · rfl
  · obtain ⟨hj, hc⟩ := (liveJob_eq_some hmade).mp hlive
    refine absurd ((covered_iff hmade).mpr ⟨hchunk, .inr ⟨j, hlive, ?_⟩⟩) hnot
    exact h.current chunk j not_false hj hc

/-! ## Making room -/

namespace MakesRoom

variable {r r' : RenderState S}

theorem versions_eq (h : MakesRoom cfg r r') : r'.versions = r.versions := by rw [h.rest]

theorem cacheEntries_eq (h : MakesRoom cfg r r') : r'.cacheEntries = r.cacheEntries := by
  rw [h.rest]

/-- A live job none of whose pending tiles is less than urgent is not evicted. -/
theorem flags_of_urgent (h : MakesRoom cfg r r') {j : JobId} (hlive : r.jobs.flags j = false)
    (hurgent : ∀ t ∈ r.pendingTiles, t.job = j → t.classification.priority = .urgent) :
    r'.jobs.flags j = false := by
  obtain ⟨evicted, hfirst, hflags⟩ := h.evicted
  rw [hflags, hlive, Bool.false_or, decide_eq_false_iff_not]
  intro hmem
  obtain ⟨t, ht, hjob, -, hother⟩ := mem_evictionOrder.mp (hfirst.isPrefix.subset hmem)
  exact hother (hurgent t (List.mem_reverse.mp ht) hjob)

/-- A live job keeps its tiles, and so stays registered. -/
theorem activeJobs_of_live (h : MakesRoom cfg r r') {chunk : Int} {j : JobId}
    (hj : r.activeJobs chunk = some j) (hlive : r'.jobs.flags j = false) :
    r'.activeJobs chunk = some j := by
  refine (h.activeJobs chunk j).mpr ⟨hj, fun hlost => hlost.1.ne ?_⟩
  rw [h.pendingTiles.countP_eq, List.countP_filter]
  refine List.countP_congr fun t _ => ?_
  simp only [Bool.and_eq_true, decide_eq_true_eq, Bool.not_eq_true']
  exact ⟨fun ht => ht.1, fun ht => ⟨ht, ht ▸ hlive⟩⟩

/-- A chunk stays covered if all pending tiles of its job are urgent. -/
theorem covered (h : MakesRoom cfg r r') {chunk : Int} (hc : Covered cfg r chunk)
    (hurgent : ∀ j, r.activeJobs chunk = some j → ∀ t ∈ r.pendingTiles, t.job = j →
      t.classification.priority = .urgent) : Covered cfg r' chunk := by
  refine hc.imp (fun hcache => ?_) fun hjob => ?_
  · unfold cacheIsCurrent RenderCache.findCurrent at hcache ⊢
    rwa [h.versions_eq, h.cacheEntries_eq]
  · unfold ActiveRenderJobs.hasCurrent at hjob ⊢
    split at hjob
    · cases hjob
    · rename_i hrange
      rw [if_neg hrange]
      rcases hj : r.activeJobs chunk with - | j
      · simp [hj] at hjob
      · simp only [hj, Bool.and_eq_true, decide_eq_true_eq, Bool.not_eq_true'] at hjob
        have hlive := h.flags_of_urgent hjob.2 (hurgent j hj)
        have hversion : (r'.jobs.job j).version = (r.jobs.job j).version := by rw [h.job j]
        have hflag : (r'.jobs.job j).cancelled = false := hlive
        rw [h.activeJobs_of_live hj hlive]
        simp [hversion, h.versions_eq, hjob.1, hflag]

/-- No live urgent tile is evicted. -/
theorem liveUrgentTiles_mono (h : MakesRoom cfg r r') :
    liveUrgentTiles r ≤ liveUrgentTiles r' := by
  unfold liveUrgentTiles
  rw [h.pendingTiles.countP_eq, List.countP_filter]
  refine List.countP_mono_left fun t ht hlive => ?_
  simp only [Bool.and_eq_true, Bool.not_eq_true', decide_eq_true_eq] at hlive ⊢
  have hkept := h.urgentKept t ht hlive.2 hlive.1
  exact ⟨⟨hkept, hlive.2⟩, hkept⟩

/-- If no chunk fits afterwards, only live urgent tiles are left. -/
theorem liveUrgentTiles_of_full (h : MakesRoom cfg r r')
    (hfull : ¬ChunkFits cfg r'.pendingTiles.length) :
    liveUrgentTiles r' = r'.pendingTiles.length := by
  refine List.countP_eq_length.mpr fun t ht => ?_
  have hurgent := h.room.resolve_left hfull t ht
  have hlive := (List.mem_filter.mp (h.pendingTiles.subset ht)).2
  simp only [Bool.and_eq_true, decide_eq_true_eq]
  exact ⟨hlive, hurgent⟩

/-- A chunk without a live job gets none. -/
theorem liveJob_none (h : MakesRoom cfg r r') (hmade : JobsMade r) (hmade' : JobsMade r')
    {chunk : Int} (hfree : liveJob r chunk = none) : liveJob r' chunk = none := by
  rcases hlive : liveJob r' chunk with - | j
  · rfl
  · obtain ⟨hj, hc⟩ := (liveJob_eq_some hmade').mp hlive
    have hold : liveJob r chunk = some j := by
      refine (liveJob_eq_some hmade).mpr ⟨((h.activeJobs chunk j).mp hj).1, ?_⟩
      obtain ⟨evicted, -, hflags⟩ := h.evicted
      have hflag : r'.jobs.flags j = false := hc
      rw [hflags, Bool.or_eq_false_iff] at hflag
      exact hflag.1
    rw [hfree] at hold
    cases hold

end MakesRoom

theorem makeRoomIfUrgent_run (h : Evictable cfg s.render) (priority : RenderPriority) :
    ∃ r', (makeRoomIfUrgent cfg priority).run s = ((), { s with render := r' }) ∧
      (r' = s.render ∧ ¬(cfg.scheduler.policyType = .priority ∧ priority = .urgent ∧
          ¬ChunkFits cfg s.render.pendingTiles.length) ∨
        cfg.scheduler.policyType = .priority ∧ priority = .urgent ∧
          ¬ChunkFits cfg s.render.pendingTiles.length ∧ MakesRoom cfg s.render r') := by
  unfold makeRoomIfUrgent
  split
  · rename_i hevicts
    rw [run_bind, run_read, run_ite]
    have hfull : queueIsFull (pendingTileLimit cfg priority) s.render = true ↔
        ¬ChunkFits cfg s.render.pendingTiles.length := by
      rw [pendingTileLimit, if_pos hevicts.2]
      exact queueIsFull_iff
    by_cases hfits : ChunkFits cfg s.render.pendingTiles.length
    · rw [if_neg (by rw [hfull]; exact not_not.mpr hfits)]
      exact ⟨s.render, rfl, .inl ⟨rfl, fun h => h.2.2 hfits⟩⟩
    · rw [if_pos (hfull.mpr hfits)]
      obtain ⟨r', hroom, hrun⟩ := makeRoomForUrgentChunk_run cfg s h
      exact ⟨r', hrun, .inr ⟨hevicts.1, hevicts.2, hfits, hroom⟩⟩
  · rename_i hevicts
    exact ⟨s.render, rfl, .inl ⟨rfl, fun h => hevicts ⟨h.1, h.2.1⟩⟩⟩

/-! ## One chunk -/

section

variable [Zero S]

/-- What `admitIfRoom` does for a chunk without a live job. -/
structure AdmitStep (cfg : Config) (chunk : Int) (limit : Int) (s s' : EngineState S) : Prop where
  refused : limit < s.render.pendingTiles.length + tilesPerChunk → s' = s
  admitted : (s.render.pendingTiles.length : Int) + tilesPerChunk ≤ limit →
    Covered cfg s'.render chunk
  kept : ∀ c, Covered cfg s.render c → Covered cfg s'.render c
  liveUrgent : liveUrgentTiles s.render ≤ liveUrgentTiles s'.render
  length_ge : s.render.pendingTiles.length ≤ s'.render.pendingTiles.length
  length_le : (s'.render.pendingTiles.length : Int) ≤ s.render.pendingTiles.length + tilesPerChunk

theorem admitIfRoom_step {chunk : Int} (hchunk : 0 ≤ chunk ∧ chunk < cfg.chunkCount)
    (classification : RenderClassification) (hmade : JobsMade s.render)
    (hfree : liveJob s.render chunk = none)
    (hmade' : JobsMade ((admitIfRoom cfg chunk (s.render.versions chunk) classification).run
      s).2.render) :
    AdmitStep cfg chunk (pendingTileLimit cfg classification.priority) s
      ((admitIfRoom cfg chunk (s.render.versions chunk) classification).run s).2 := by
  have hrun : ((admitIfRoom cfg chunk (s.render.versions chunk) classification).run s).2 =
      if queueIsFull (pendingTileLimit cfg classification.priority) s.render then s
      else { s with
        render := admitChunk cfg chunk (s.render.versions chunk) classification s.render } := by
    unfold admitIfRoom
    rw [run_bind, run_read, run_ite]
    cases queueIsFull (pendingTileLimit cfg classification.priority) s.render <;> rfl
  have hfull : queueIsFull (pendingTileLimit cfg classification.priority) s.render = true ↔
      pendingTileLimit cfg classification.priority <
        s.render.pendingTiles.length + tilesPerChunk := decide_eq_true_iff
  rw [hrun] at hmade' ⊢
  split at hmade'
  · rename_i hyes
    rw [if_pos hyes]
    refine ⟨fun _ => rfl, fun hroom => ?_, fun _ h => h, le_rfl, le_rfl, ?_⟩
    · exact absurd (hfull.mp hyes) (not_lt.mpr hroom)
    · rw [tilesPerChunk_eq]
      omega
  · rename_i hno
    rw [if_neg hno]
    have hcoverage := coverageOf_admitChunk hchunk (s.render.versions chunk) classification s
    have hperm : (admitChunk cfg chunk (s.render.versions chunk) classification
        s.render).pendingTiles.Perm
          (newTiles (coverageOf s).plan.made classification (coverageOf s).plan.nextTileSequence ++
            s.render.pendingTiles) := by
      have hpending := congrArg (fun c => c.plan.pendingTiles) hcoverage
      exact (List.Perm.of_eq hpending).trans (pushAllPending_perm cfg _ _)
    have hlength := hperm.length_eq
    have hnew := length_newTiles (coverageOf s).plan.made classification
      (coverageOf s).plan.nextTileSequence
    rw [List.length_append] at hlength
    refine ⟨fun h => absurd (hfull.mpr h) hno, fun _ => ?_, fun c hc => ?_, ?_, ?_, ?_⟩
    · rw [covered_iff hmade', hcoverage]
      exact Coverage.covers_admitted classification hchunk
    · rw [covered_iff hmade', hcoverage]
      exact ((covered_iff hmade).mp hc).after_admission classification (fun _ hj => hmade.live_lt hj) hfree
        hchunk
    · rw [liveUrgentTiles_eq hmade, liveUrgentTiles_eq hmade', hcoverage]
      exact Coverage.liveUrgent_after_admission classification hfree _
    · dsimp only
      omega
    · dsimp only
      omega

/-- A call for a chunk that is not covered. -/
theorem scheduleChunk_run_missing {chunk frame : Int} {classification : RenderClassification}
    (hclassify : classifyChunk cfg s.sched chunk frame = .ok classification)
    (hnot : ¬Covered cfg s.render chunk) : (scheduleChunk cfg chunk frame).run s =
      (admitIfRoom cfg chunk (s.render.versions chunk) classification).run
        ((makeRoomIfUrgent cfg classification.priority).run s).2 := by
  have hchunk := classifyChunk_mem hclassify
  obtain ⟨hcached, hjob⟩ := not_or.mp hnot
  unfold scheduleChunk
  rw [if_neg (by omega), run_bind, run_read, run_ite, if_neg hcached]
  rw [run_bind, run_read, run_bind, run_read, run_ite, if_neg hjob, run_bind, run_read, hclassify]
  dsimp only
  rw [run_bind]

omit [Zero S] in
/-- The waiting tiles of the job of an urgent chunk are urgent. -/
theorem Ready.urgent_tiles (hcfg : cfg.Valid) {frame : Int}
    (h : Ready cfg kernel (Scheduled cfg frame) s)
    (hpolicy : cfg.scheduler.policyType = .priority) {chunk : Int}
    (hclass : classOf cfg s.sched chunk frame = .urgent) {j : JobId}
    (hj : s.render.activeJobs chunk = some j) :
    ∀ t ∈ s.render.pendingTiles, t.job = j → t.classification.priority = .urgent := by
  intro t ht hjob
  have hlabel := (h.at_plan.fresh hpolicy).labelled t (List.mem_append_left _ ht)
  have hchunk : (planOf s).chunk t.job = chunk := by
    rw [hjob]
    exact (h.render.registration.registered chunk j hj).2
  rw [h.at_plan.playhead] at hlabel
  obtain ⟨classification, -, -, hclassify, hpriority, -⟩ :=
    hlabel.classify hcfg h.at_plan.nonneg h.at_plan.le_total
  rw [hchunk] at hclassify
  rw [classifyChunk_eq (classifyChunk_mem hclassify) h.at_plan.nonneg h.at_plan.le_total]
    at hclassify
  rw [← hpriority, ← Except.ok.inj hclassify]
  exact hclass

/-- The scheduler makes room for chunks of the class. -/
def Evicts (cfg : Config) (priority : RenderPriority) : Prop :=
  cfg.scheduler.policyType = .priority ∧ priority = .urgent

/-- What one call of `scheduleChunk` does for a chunk of the timeline. -/
structure ChunkStep (cfg : Config) (frame chunk : Int) (s s' : EngineState S) : Prop where
  /-- Urgent chunks stay covered. -/
  urgentKept : cfg.scheduler.policyType = .priority → ∀ c,
    classOf cfg s.sched c frame = .urgent → Covered cfg s.render c → Covered cfg s'.render c
  liveUrgent : liveUrgentTiles s.render ≤ liveUrgentTiles s'.render
  /-- All chunks do if the call has no need to evict. -/
  calm : Covered cfg s.render chunk ∨ ¬Evicts cfg (classOf cfg s.sched chunk frame) ∨
      ChunkFits cfg s.render.pendingTiles.length →
    (∀ c, Covered cfg s.render c → Covered cfg s'.render c) ∧
      s.render.pendingTiles.length ≤ s'.render.pendingTiles.length
  /-- The chunk is covered afterwards, unless the queue could not take it. -/
  outcome : Covered cfg s'.render chunk ∨
    Evicts cfg (classOf cfg s.sched chunk frame) ∧ ¬ChunkFits cfg (liveUrgentTiles s'.render) ∨
    ¬Evicts cfg (classOf cfg s.sched chunk frame) ∧ s' = s ∧
      pendingTileLimit cfg (classOf cfg s.sched chunk frame) <
        s.render.pendingTiles.length + tilesPerChunk
  length_le : (s'.render.pendingTiles.length : Int) ≤ s.render.pendingTiles.length + tilesPerChunk

/-- **One chunk.** -/
theorem scheduleChunk_step (hcfg : cfg.Valid) {frame chunk : Int}
    (h : Ready cfg kernel (Scheduled cfg frame) s)
    (hchunk : 0 ≤ chunk ∧ chunk < cfg.chunkCount) :
    ChunkStep cfg frame chunk s ((scheduleChunk cfg chunk frame).run s).2 := by
  by_cases hcovered : Covered cfg s.render chunk
  · rw [scheduleChunk_run_done hcovered]
    refine ⟨fun _ _ _ hc => hc, le_rfl, fun _ => ⟨fun _ hc => hc, le_rfl⟩, .inl hcovered, ?_⟩
    rw [tilesPerChunk_eq]
    dsimp only
    omega
  have hready := h.scheduleChunk hcfg chunk
  have hclassify : classifyChunk cfg s.sched chunk frame = .ok _ :=
    classifyChunk_eq hchunk h.at_plan.nonneg h.at_plan.le_total
  have hfree := liveJob_none h.running hchunk h.render.jobsMade hcovered
  obtain ⟨r', hrun, hroom⟩ := makeRoomIfUrgent_run (.of_inv h.render h.plan)
    (classOf cfg s.sched chunk frame)
  rw [scheduleChunk_run_missing hclassify hcovered] at hready ⊢
  dsimp only at hready ⊢
  rw [hrun] at hready ⊢
  dsimp only at hready ⊢
  have hready₁ : Ready cfg kernel (Scheduled cfg frame) { s with render := r' } := by
    have hafter := h.run (makeRoomIfUrgent_triple (classOf cfg s.sched chunk frame))
      (makeRoomIfUrgent_plan (classOf cfg s.sched chunk frame))
    rwa [hrun] at hafter
  rcases hroom with ⟨rfl, hcalm⟩ | ⟨hpolicy, hurgent, hfull, hroom⟩
  · have hstep := admitIfRoom_step hchunk _ h.render.jobsMade hfree hready.render.jobsMade
    refine ⟨fun _ c _ hc => hstep.kept c hc, hstep.liveUrgent, fun _ => ⟨hstep.kept, hstep.length_ge⟩,
      ?_, hstep.length_le⟩
    rcases le_or_gt ((s.render.pendingTiles.length : Int) + tilesPerChunk)
      (pendingTileLimit cfg (classOf cfg s.sched chunk frame)) with hfits | hfull
    · exact .inl (hstep.admitted hfits)
    · refine .inr (.inr ⟨fun hevicts => ?_, hstep.refused hfull, hfull⟩)
      refine hcalm ⟨hevicts.1, hevicts.2, fun hfits => ?_⟩
      rw [hevicts.2, pendingTileLimit, if_pos rfl] at hfull
      exact absurd hfits (not_le.mpr hfull)
  · have hfree₁ := hroom.liveJob_none h.render.jobsMade hready₁.render.jobsMade hfree
    have hversion : s.render.versions chunk = r'.versions chunk := by rw [hroom.versions_eq]
    rw [hversion] at hready ⊢
    have hstep := admitIfRoom_step (s := { s with render := r' }) hchunk _ hready₁.render.jobsMade
      hfree₁ hready.render.jobsMade
    have hevicts : Evicts cfg (classOf cfg s.sched chunk frame) := ⟨hpolicy, hurgent⟩
    have hlength : r'.pendingTiles.length ≤ s.render.pendingTiles.length := by
      rw [hroom.pendingTiles.length_eq]
      exact List.length_filter_le _ _
    refine ⟨fun _ c hclass hc => hstep.kept c (hroom.covered hc fun j hj =>
      h.urgent_tiles hcfg hpolicy hclass hj), hroom.liveUrgentTiles_mono.trans hstep.liveUrgent,
      fun hno => ?_, ?_, ?_⟩
    · rcases hno with hc | hno | hfits
      · exact absurd hc hcovered
      · exact absurd hevicts hno
      · exact absurd hfits hfull
    · rcases le_or_gt ((r'.pendingTiles.length : Int) + tilesPerChunk)
        (pendingTileLimit cfg (classOf cfg s.sched chunk frame)) with hfits | hfull'
      · exact .inl (hstep.admitted hfits)
      · refine .inr (.inl ⟨hevicts, ?_⟩)
        rw [hstep.refused hfull']
        rw [hurgent, pendingTileLimit, if_pos rfl] at hfull'
        have hnofit : ¬ChunkFits cfg r'.pendingTiles.length := not_le.mpr hfull'
        rwa [hroom.liveUrgentTiles_of_full hnofit]
    · have hle := hstep.length_le
      dsimp only at hle ⊢
      omega

end

end Anasa
