import Anasa.Concurrency.DrainOrder
import Anasa.Scheduling.AdmissionRuns

/-!
# The drain order of the priority policy

The priority policy is a strict weak order that tells tiles with different numbers apart, so a
queue of tiles is drained in one order only. As the tiles of a job have consecutive numbers, those
with one classification are drained one after the other.
-/

namespace Anasa

open Concurrency PriorityQueue PrioritySchedulingPolicy

variable {S : Type}

/-! ## The comparator -/

/-- A strict weak order on tiles that is total on tiles with different numbers. -/
structure OrdersTiles (lower : PendingRenderTile → PendingRenderTile → Bool) : Prop where
  irrefl : ∀ a, lower a a = false
  trans : ∀ a b c, lower a b = true → lower b c = true → lower a c = true
  incomparable_trans : ∀ a b c, lower a b = false → lower b a = false → lower b c = false →
    lower c b = false → lower a c = false ∧ lower c a = false
  total : ∀ a b, a.sequence ≠ b.sequence → lower a b = true ∨ lower b a = true

theorem priority_ordersTiles : OrdersTiles hasLowerPrecedence where
  irrefl a := by
    rw [hasLowerPrecedence_eq_false]
    omega
  trans a b c h h' := by
    rw [hasLowerPrecedence_iff] at *
    omega
  incomparable_trans a b c h₁ h₂ h₃ h₄ :=
    ⟨priority_strictWeakOrder.trans_ge h₁ h₃, priority_strictWeakOrder.trans_ge h₄ h₂⟩
  total a b hne := by
    rw [hasLowerPrecedence_iff, hasLowerPrecedence_iff]
    omega

/-! ## Drains -/

/-- By class, then deadline among urgent tiles only, then distance, then number. -/
def DrainsBefore (a b : PendingRenderTile) : Prop :=
  a.classification.priority.toInt < b.classification.priority.toInt ∨
    a.classification.priority = b.classification.priority ∧
      (a.classification.priority = .urgent ∧
          a.classification.deadlineFrame < b.classification.deadlineFrame ∨
        (a.classification.priority = .urgent →
          a.classification.deadlineFrame = b.classification.deadlineFrame) ∧
        (a.classification.distanceInFrames < b.classification.distanceInFrames ∨
          a.classification.distanceInFrames = b.classification.distanceInFrames ∧
            a.sequence < b.sequence))

theorem drainsBefore_iff (a b : PendingRenderTile) :
    DrainsBefore a b ↔ hasLowerPrecedence b a = true := by
  rw [hasLowerPrecedence_iff]
  unfold DrainsBefore RenderClassification.comparedDeadline
  by_cases hp : a.classification.priority = b.classification.priority
  · by_cases hu : b.classification.priority = .urgent
    · simp only [hp, hu, lt_irrefl, false_or, true_and, if_true, forall_const]
      omega
    · simp only [hp, hu, lt_irrefl, false_or, true_and, false_and, if_false, false_imp_iff]
      omega
  · have hne := mt RenderPriority.toInt_inj.mp hp
    simp only [hp, false_and, or_false, ne_comm.mp hne]

/-- Different numbers tell tiles apart. -/
theorem priority_separates {tiles : List PendingRenderTile}
    (h : (tiles.map (·.sequence)).Nodup) : Separates hasLowerPrecedence tiles := by
  intro a ha b hb hab hba
  by_contra hne
  rcases priority_ordersTiles.total a b fun hs => hne (List.inj_on_of_nodup_map h ha hb hs) with ht | ht
  · rw [hab] at ht
    cases ht
  · rw [hba] at ht
    cases ht

/-- A queue of tiles with different numbers is drained in one order. -/
structure FixesDrainOrder (lower : PendingRenderTile → PendingRenderTile → Bool) : Prop where
  drains : ∀ tiles, ∃ drained, Drains lower tiles drained
  /-- Two queues came to hold the same tiles in any way; one is drained at once, and the other in
  two parts. -/
  unique : ∀ {ops ops' popped popped' tiles tiles' n first rest last drained},
    Runs lower [] ops popped tiles → Runs lower [] ops' popped' tiles' → tiles.Perm tiles' →
    (tiles.map (·.sequence)).Nodup → Drains lower tiles drained →
    Runs lower tiles' (pops n) first rest → Drains lower rest last → first ++ last = drained
  sorted : ∀ {tiles drained}, (tiles.map (·.sequence)).Nodup → Drains lower tiles drained →
    drained.Perm tiles ∧ drained.Pairwise DrainsBefore

theorem Drains.pairwise_drainsBefore {tiles drained : List PendingRenderTile}
    (hnodup : (tiles.map (·.sequence)).Nodup) (h : Drains hasLowerPrecedence tiles drained) :
    drained.Pairwise DrainsBefore := by
  have hne : drained.Pairwise fun a b => a.sequence ≠ b.sequence :=
    List.pairwise_map.mp ((h.perm.map _).nodup_iff.mp hnodup)
  refine List.Pairwise.imp₂ (fun a b hab hseq => ?_) h.sorted hne
  rw [drainsBefore_iff]
  rcases priority_ordersTiles.total a b hseq with ht | ht
  · rw [hab] at ht
    cases ht
  · exact ht

theorem priority_fixesDrainOrder : FixesDrainOrder hasLowerPrecedence where
  drains := exists_drains priority_strictWeakOrder
  unique _ _ hperm hnodup hdrained hfirst hlast := by
    have hparts := Drains.append hfirst hlast
    exact hparts.unique (priority_separates ((hperm.map _).nodup_iff.mp hnodup)) hperm.symm hdrained
  sorted hnodup h := ⟨h.perm.symm, Drains.pairwise_drainsBefore hnodup h⟩

/-! ## The tiles of a job -/

/-- The policy compares the same class, deadline and distance. -/
structure SameRank (a b : PendingRenderTile) : Prop where
  priority : a.classification.priority = b.classification.priority
  deadlineFrame : a.classification.priority = .urgent →
    a.classification.deadlineFrame = b.classification.deadlineFrame
  distanceInFrames : a.classification.distanceInFrames = b.classification.distanceInFrames

theorem DrainsBefore.sequence_lt {a b : PendingRenderTile} (h : DrainsBefore a b)
    (hrank : SameRank a b) : a.sequence < b.sequence := by
  unfold DrainsBefore at h
  rw [hrank.priority, hrank.distanceInFrames] at h
  by_cases hu : b.classification.priority = .urgent
  · rw [hrank.deadlineFrame (hrank.priority.trans hu)] at h
    simpa using h
  · simpa [hu] using h

/-- What is drained between two tiles of one rank has that rank. -/
theorem DrainsBefore.squeeze {a t b : PendingRenderTile} (h : DrainsBefore a t)
    (h' : DrainsBefore t b) (hrank : SameRank a b) : SameRank a t := by
  have hpriority : a.classification.priority = t.classification.priority := by
    refine RenderPriority.toInt_inj.mp ?_
    have hab := congrArg RenderPriority.toInt hrank.priority
    unfold DrainsBefore at h h'
    rw [← RenderPriority.toInt_inj] at h h'
    omega
  have hdistance := hrank.distanceInFrames
  unfold DrainsBefore at h h'
  rw [← hrank.priority] at h'
  rw [← hpriority] at h h'
  by_cases hu : a.classification.priority = .urgent
  · have hdeadline := hrank.deadlineFrame hu
    simp only [hu, lt_irrefl, false_or, true_and, forall_const] at h h'
    exact ⟨hpriority, fun _ => by omega, by omega⟩
  · simp only [hu, lt_irrefl, false_or, true_and, false_and, false_imp_iff] at h h'
    exact ⟨hpriority, fun h => absurd h hu, by omega⟩

/-- The tiles of a job have consecutive numbers, and those of one rank are drained one after the
other, however the tiles that wait are classified. -/
structure JobsDrainTogether (cfg : Config) (s : EngineState S) : Prop where
  consecutive : ∀ t ∈ (planOf s).waiting, 0 ≤ t.tileIndex ∧ t.tileIndex < tilesPerChunk ∧
    ∀ t' ∈ (planOf s).waiting, t'.job = t.job →
      t'.sequence - t.sequence = t'.tileIndex - t.tileIndex
  together : ∀ {tiles drained before between after a b},
    (tiles.map (·.key)).Subperm ((planOf s).waiting.map (·.key)) →
    Drains hasLowerPrecedence tiles drained →
    drained = before ++ a :: (between ++ b :: after) → a.job = b.job → SameRank a b →
    a.tileIndex < b.tileIndex ∧ ∀ t ∈ between, t.job = a.job ∧ SameRank a t ∧
      a.tileIndex < t.tileIndex ∧ t.tileIndex < b.tileIndex
  /-- Under the policy, the queue of the scheduler is drained from its head. -/
  queue : cfg.scheduler.policyType = .priority →
    Drains hasLowerPrecedence s.render.pendingTiles s.render.pendingTiles

theorem Numbered.same_job {firstJob made : ℕ} {a t b : PendingRenderTile}
    (ha : Numbered firstJob made a) (ht : Numbered firstJob made t) (hb : Numbered firstJob made b)
    (hjob : a.job = b.job) (hat : a.sequence < t.sequence) (htb : t.sequence < b.sequence) :
    t.job = a.job ∧ a.tileIndex < t.tileIndex ∧ t.tileIndex < b.tileIndex := by
  have hsa := ha.sequence
  have hst := ht.sequence
  have hsb := hb.sequence
  have hia := ha.index
  have hit := ht.index
  have hib := hb.index
  rw [tilesPerChunk_eq] at *
  rw [← hjob] at hsb
  have hle : (t.job : Int) ≤ a.job := by omega
  have hge : (a.job : Int) ≤ t.job := by omega
  have hsame : t.job = a.job := le_antisymm (Int.ofNat_le.mp hle) (Int.ofNat_le.mp hge)
  rw [hsame] at hst
  exact ⟨hsame, by omega, by omega⟩

theorem jobsDrainTogether [Zero S] (cfg : AcceptedConfig) (kernel : RenderKernel S)
    (moves : List (SessionMove S)) :
    JobsDrainTogether cfg.toConfig (sessionRun cfg.toConfig kernel moves).state := by
  have hnumbers := sessionRun_admissionInv cfg kernel moves
  have hplan := sessionRun_planInv cfg kernel moves
  set s := (sessionRun cfg.toConfig kernel moves).state
  refine ⟨fun t ht => ?_, ?_, fun hpolicy => ?_⟩
  · have hn := hnumbers.waiting t ht
    refine ⟨hn.index.1, hn.index.2, fun t' ht' hjob => ?_⟩
    have hs' := (hnumbers.waiting t' ht').sequence
    have hs := hn.sequence
    rw [hjob] at hs'
    omega
  · rintro tiles drained before between after a b hsub hdrains rfl hjob hrank
    have hnodup : (tiles.map (·.sequence)).Nodup := by
      obtain ⟨keys, hperm, hsublist⟩ := hsub
      have hall : (((planOf s).waiting.map (·.key)).map fun k => k.2.2).Nodup := by
        rw [List.map_map]
        exact hplan.queue.sequence_nodup
      have hkeys := (hperm.map fun k => k.2.2).nodup_iff.mp (hall.sublist (hsublist.map _))
      rw [List.map_map] at hkeys
      exact hkeys
    have hnumbered : ∀ t ∈ before ++ a :: (between ++ b :: after),
        Numbered s.schedulingHistory.firstJob s.render.jobs.made t := by
      intro t ht
      have hkey := hsub.subset (List.mem_map_of_mem (hdrains.perm.mem_iff.mpr ht))
      obtain ⟨t₀, ht₀, hkey⟩ := List.mem_map.mp hkey
      exact (hnumbers.waiting t₀ ht₀).of_key hkey.symm
    have horder := (List.pairwise_append.mp (Drains.pairwise_drainsBefore hnodup hdrains)).2.1
    obtain ⟨hfirst, hrest⟩ := List.pairwise_cons.mp horder
    have hlast := (List.pairwise_append.mp hrest).2.2
    have hab := hfirst b (List.mem_append_right _ List.mem_cons_self)
    have ha := hnumbered a (List.mem_append_right _ List.mem_cons_self)
    have hb := hnumbered b (List.mem_append_right _
      (List.mem_cons_of_mem _ (List.mem_append_right _ List.mem_cons_self)))
    refine ⟨?_, fun t ht => ?_⟩
    · have hlt := hab.sequence_lt hrank
      have hsa := ha.sequence
      have hsb := hb.sequence
      rw [hjob] at hsa
      omega
    · have hat := hfirst t (List.mem_append_left _ ht)
      have htb := hlast t ht b List.mem_cons_self
      have hrank' := hat.squeeze htb hrank
      have hrank'' : SameRank t b := ⟨hrank'.priority.symm.trans hrank.priority, fun hu =>
        (hrank'.deadlineFrame (hrank'.priority.trans hu)).symm.trans
          (hrank.deadlineFrame (hrank'.priority.trans hu)),
        hrank'.distanceInFrames.symm.trans hrank.distanceInFrames⟩
      have hn := hnumbered t (List.mem_append_right _
        (List.mem_cons_of_mem _ (List.mem_append_left _ ht)))
      obtain ⟨hsame, h₁, h₂⟩ := ha.same_job hn hb hjob (hat.sequence_lt hrank')
        (htb.sequence_lt hrank'')
      exact ⟨hsame, hrank', h₁, h₂⟩
  · have hsorted := hplan.queue.sorted
    rw [hpolicy] at hsorted
    exact Sorted.drains hsorted

/-- **The drain order.** The priority policy is a strict weak order that is total on tiles with
different numbers; it fixes the order in which any tiles are drained; and in every run the tiles of
a job that share a classification are drained one after the other, in the order of their indices. -/
theorem sessionRun_priorityDrain [Zero S] (cfg : AcceptedConfig) (kernel : RenderKernel S)
    (moves : List (SessionMove S)) :
    OrdersTiles hasLowerPrecedence ∧ FixesDrainOrder hasLowerPrecedence ∧
      JobsDrainTogether cfg.toConfig (sessionRun cfg.toConfig kernel moves).state :=
  ⟨priority_ordersTiles, priority_fixesDrainOrder, jobsDrainTogether cfg kernel moves⟩

end Anasa
