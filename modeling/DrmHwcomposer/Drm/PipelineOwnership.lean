import DrmHwcomposer.Drm.DisplayPipeline

/-!
# Pipelines hold their objects exclusively

The binder's world over time: pipelines are created by `CreatePipeline` on any connector, in any
order and as often as one likes, and any live pipeline may be destroyed, which destroys its
owners and lets the references of its objects expire.  `PipelineState.Exclusive` is the
ownership invariant: no object is held twice among the live pipelines, and an object's reference
is live exactly when a live pipeline holds it.  It holds initially and every operation keeps it
(`Exclusive.step`), so it holds after every run (`createPipeline_exclusive`): no failed binding
leaves an orphaned claim and no destroyed pipeline leaves one of its objects claimed.
-/

namespace DrmHwc

/-- The pipelines alive, newest first, and the ownership table. -/
structure PipelineState where
  owned : DrmObject → Bool
  live : List DrmDisplayPipeline

/-- What may happen to pipelines: `CreatePipeline` on a connector, or the destruction of the live
pipeline at a position. -/
inductive PipelineOp
  | createPipeline (conn : DrmConnector)
  | destroyPipeline (i : Nat)

namespace PipelineState

/-- Nothing bound and nothing owned. -/
def init : PipelineState := ⟨fun _ => false, []⟩

/-- The objects held by the live pipelines, one entry per owner. -/
def holdings (s : PipelineState) : List DrmObject :=
  s.live.flatMap DrmDisplayPipeline.objects

/-- One operation.  Destroying a pipeline destroys its owners, which releases its objects. -/
def step (dev : DrmDevice) (s : PipelineState) : PipelineOp → PipelineState
  | .createPipeline conn =>
    ⟨(createPipeline dev conn s.owned).2, (createPipeline dev conn s.owned).1.toList ++ s.live⟩
  | .destroyPipeline i =>
    match s.live[i]? with
    | some p => ⟨releaseDrmObjects p.objects s.owned, s.live.eraseIdx i⟩
    | none => s

/-- The state after a run of operations. -/
def run (dev : DrmDevice) (s : PipelineState) (ops : List PipelineOp) : PipelineState :=
  ops.foldl (step dev) s

/-- The ownership invariant. -/
structure Exclusive (s : PipelineState) : Prop where
  nodup : s.holdings.Nodup
  owned_iff : ∀ o, s.owned o = true ↔ o ∈ s.holdings

/-- Nothing is held and nothing is owned at the start. -/
lemma exclusive_init : Exclusive init :=
  ⟨List.nodup_nil, fun _ => by simp [init, holdings]⟩

/-- Removing the element at a position leaves a permutation of the rest. -/
lemma perm_cons_eraseIdx {α : Type} {l : List α} {i : Nat} {a : α} (h : l[i]? = some a) :
    l.Perm (a :: l.eraseIdx i) := by
  obtain ⟨hi, rfl⟩ := List.getElem?_eq_some_iff.mp h
  have hl : l = l.take i ++ l[i] :: l.drop (i + 1) := by
    rw [← List.drop_eq_getElem_cons hi, List.take_append_drop]
  rw [List.eraseIdx_eq_take_drop_succ]
  conv_lhs => rw [hl]
  exact List.perm_middle

/-- A successful bind adds a pipeline whose objects were free, so nothing is held twice. -/
lemma Exclusive.bind {s : PipelineState} (hs : Exclusive s) {q : DrmDisplayPipeline}
    (hnd : q.objects.Nodup) (hfree : ∀ o ∈ q.objects, s.owned o = false) :
    Exclusive ⟨addClaims q.objects s.owned, q :: s.live⟩ := by
  have hdisj : ∀ o ∈ q.objects, o ∉ s.holdings := fun o ho hmem => by
    have h := (hs.owned_iff o).mpr hmem
    rw [hfree o ho] at h
    exact Bool.false_ne_true h
  constructor
  · simpa [holdings, List.nodup_append, hnd] using ⟨hs.nodup, fun o ho h => hdisj o ho h⟩
  · intro o
    simp [holdings, hs.owned_iff o]

/-- Destroying a live pipeline releases exactly the objects no other pipeline holds. -/
lemma Exclusive.destroy {s : PipelineState} (hs : Exclusive s) {i : Nat} {p : DrmDisplayPipeline}
    (hp : s.live[i]? = some p) :
    Exclusive ⟨releaseDrmObjects p.objects s.owned, s.live.eraseIdx i⟩ := by
  have hperm : s.holdings.Perm (p.objects ++ (s.live.eraseIdx i).flatMap
      DrmDisplayPipeline.objects) := by
    simpa [holdings] using (perm_cons_eraseIdx hp).flatMap_right DrmDisplayPipeline.objects
  have hnd := hperm.nodup_iff.mp hs.nodup
  rw [List.nodup_append] at hnd
  refine ⟨hnd.2.1, fun o => ?_⟩
  have hmem : o ∈ s.holdings ↔
      o ∈ p.objects ++ (s.live.eraseIdx i).flatMap DrmDisplayPipeline.objects := hperm.mem_iff
  show (s.owned o && !decide (o ∈ p.objects)) = true ↔
    o ∈ (s.live.eraseIdx i).flatMap DrmDisplayPipeline.objects
  rw [Bool.and_eq_true, hs.owned_iff, hmem, List.mem_append, Bool.not_eq_true',
    decide_eq_false_iff_not]
  constructor
  · rintro ⟨h | h, hn⟩
    · exact absurd h hn
    · exact h
  · exact fun h => ⟨Or.inr h, fun hp' => hnd.2.2 hp' h⟩

/-- Every operation keeps the ownership invariant. -/
lemma Exclusive.step {s : PipelineState} (hs : Exclusive s) (dev : DrmDevice) (op : PipelineOp) :
    Exclusive (step dev s op) := by
  cases op with
  | createPipeline conn =>
    rcases createPipeline_cases dev conn s.owned with h | ⟨q, h, hnd, hfree⟩
    · simpa [PipelineState.step, h] using hs
    · simpa [PipelineState.step, h] using hs.bind hnd hfree
  | destroyPipeline i =>
    rcases hp : s.live[i]? with _ | p
    · simpa [PipelineState.step, hp] using hs
    · simpa [PipelineState.step, hp] using hs.destroy hp

/-- Every run keeps the ownership invariant. -/
lemma Exclusive.run {s : PipelineState} (hs : Exclusive s) (dev : DrmDevice)
    (ops : List PipelineOp) : Exclusive (run dev s ops) := by
  induction ops generalizing s with
  | nil => exact hs
  | cons op ops ih => exact ih (hs.step dev op)

end PipelineState

open PipelineState in
/-- After any interleaving of binds and destructions, each object is held by at most one live
pipeline and at most once within it, and its reference is live exactly when a live pipeline
holds it. -/
theorem createPipeline_exclusive (dev : DrmDevice) (ops : List PipelineOp) :
    (∀ p ∈ (run dev init ops).live, p.objects.Nodup) ∧
      (run dev init ops).live.Pairwise (fun p q => p.objects.Disjoint q.objects) ∧
      ∀ o, (run dev init ops).owned o = true ↔
        ∃ p ∈ (run dev init ops).live, o ∈ p.objects := by
  have hs := exclusive_init.run dev ops
  have hnd := hs.nodup
  rw [holdings, List.nodup_flatMap] at hnd
  refine ⟨hnd.1, hnd.2, fun o => ?_⟩
  rw [hs.owned_iff, holdings, List.mem_flatMap]

end DrmHwc
