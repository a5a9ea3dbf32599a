import DrmHwcomposer.Hwc2.StagedMode
import DrmHwcomposer.Hwc2.Queries

/-!
# Runs of a display's interface

`DisplayOp` covers the calls that touch the mode handling.  Two queries of the hwc2 interface
change the display as well: the counting call of `GetDisplayConfigs` refreshes the table, and
`GetReleaseFences` hands the fences it writes over to the caller, `Release()` leaving -1 in the
layer.  `DisplayCall` adds them, and `HwcDisplay.callRun` runs any sequence of calls.

Two ledgers hold over every run.  The frame counters: `total_frames_` counts the presents, and
each present adds one to exactly one of `frame_no_` and `failed_kms_present_`, by whether its
composition succeeded; no other call touches them (`callRun_frame_counters`).  The release
fences: the fences a run hands to the caller, together with those the layers still hold, are
among the fences the layers held at the start and those the layer setters gave, each counted as
often as it was given (`callRun_release_fences`).  Without setters, no layer hands out a fence
twice.

`call_frame_counters` and `call_release_fences` say what one call does to each ledger; the run
theorems follow by induction over the calls.
-/

namespace DrmHwc

/-- A call of a display's hwc2 interface that can change the display: an operation of the mode
handling, `GetDisplayConfigs` with the table a refresh reads, or `GetReleaseFences`. -/
inductive DisplayCall
  | op (o : DisplayOp)
  | getDisplayConfigs (refreshed : StdMap Int HwcDisplayConfig) (numConfigs : Nat)
      (configs : Bool)
  | getReleaseFences (numElements : Nat) (layers fences : Bool)

namespace HwcDisplay

/-- One call with `layer_idx_` of width `w`: the display afterwards. -/
def call (w : Nat) (d : HwcDisplay) : DisplayCall → HwcDisplay
  | .op o => (d.step w o).1
  | .getDisplayConfigs t n c => (d.getDisplayConfigs t n c).1
  | .getReleaseFences n l f => (d.getReleaseFences n l f).1

/-- A run of calls: the display afterwards. -/
def callRun (w : Nat) (d : HwcDisplay) : List DisplayCall → HwcDisplay
  | [] => d
  | c :: cs => (d.call w c).callRun w cs

/-- What a run shows, call by call: `out d c` for each call `c` and the display `d` it met. -/
def callTrace {β : Type} (w : Nat) (out : HwcDisplay → DisplayCall → List β) :
    HwcDisplay → List DisplayCall → List β
  | _, [] => []
  | d, c :: cs => out d c ++ callTrace w out (d.call w c) cs

/-- For a present, whether its composition succeeded. -/
def presentOutcomes (d : HwcDisplay) : DisplayCall → List Bool
  | .op (.presentDisplay kms) => [(d.presentDisplay kms).composition.error = .none]
  | _ => []

/-- The release fences the layers hold, with their handles (-1 holds none). -/
def heldFences (d : HwcDisplay) : List (Nat × Int) :=
  d.releaseFenceEntries.filter (·.2 ≠ -1)

/-- The release fences a call hands over to the caller: those `GetReleaseFences` writes. -/
def releasedFences (d : HwcDisplay) : DisplayCall → List (Nat × Int)
  | .getReleaseFences n l f => ((d.getReleaseFences n l f).2.1.map Prod.snd).filter (·.2 ≠ -1)
  | _ => []

/-- The release fence a call gives to the display: the one a setter stores in a live layer. -/
def givenFences (d : HwcDisplay) : DisplayCall → List (Nat × Int)
  | .op (.setLayer h l) => if h ∈ d.layers.keys then [(h, l.releaseFence)].filter (·.2 ≠ -1) else []
  | _ => []

/-! ## What one call changes -/

/-- `SetActiveConfig` changes the staged mode and the configurations only. -/
lemma setActiveConfig_snd (d : HwcDisplay) (c : Int) :
    ∃ m cfgs, (d.setActiveConfig c).2 = { d with stagedMode := m, configs := cfgs } := by
  unfold setActiveConfig
  split
  · exact ⟨d.stagedMode, d.configs, rfl⟩
  · exact ⟨_, _, rfl⟩

/-- `PresentDisplay` changes the staged mode, the frame statistics and the frame number only: it
counts the frame, and then a failed present or, on success, the next frame number. -/
lemma presentDisplay_display_eq (kms : KmsResults) (d : HwcDisplay) :
    ∃ m, (d.presentDisplay kms).display =
      { d with stagedMode := m,
               totalStats := ⟨d.totalStats.totalFrames + 1, d.totalStats.failedKmsPresent +
                 if (d.presentDisplay kms).composition.error = .none then 0 else 1⟩,
               frameNo := d.frameNo +
                 if (d.presentDisplay kms).composition.error = .none then 1 else 0 } := by
  have hd := createComposition_display kms
    { d with totalStats.totalFrames := d.totalStats.totalFrames + 1 } {}
  rw [presentDisplay_composition]
  dsimp only [presentDisplay]
  generalize ({ d with totalStats.totalFrames := d.totalStats.totalFrames + 1 } :
    HwcDisplay).createComposition kms {} = r at hd ⊢
  rcases hd with h | h <;> rw [h] <;> split_ifs <;> simp_all


/-! ## The frame counters -/

/-- One call counts what its present counts: a frame, and a success or a failure. -/
lemma call_frame_counters (w : Nat) (d : HwcDisplay) (c : DisplayCall) :
    (d.call w c).totalStats.totalFrames =
        d.totalStats.totalFrames + (presentOutcomes d c).length ∧
      (d.call w c).frameNo = d.frameNo + (presentOutcomes d c).count true ∧
      (d.call w c).totalStats.failedKmsPresent =
        d.totalStats.failedKmsPresent + (presentOutcomes d c).count false := by
  cases c with
  | op o =>
    cases o with
    | setActiveConfig c =>
      obtain ⟨m, cfgs, h⟩ := setActiveConfig_snd d c
      simp [call, step, h, presentOutcomes]
    | createComposition t kms =>
      rcases createComposition_display kms d { testOnly := t } with h | h <;>
        simp [call, step, h, presentOutcomes]
    | presentDisplay kms =>
      obtain ⟨m, h⟩ := presentDisplay_display_eq kms d
      simp only [call, step, h, presentOutcomes]
      split_ifs <;> simp [*]
    | destroyLayer h =>
      simp only [call, step, destroyLayer]
      split <;> simp [presentOutcomes]
    | setLayer h l =>
      simp only [call, step, setLayer]
      split_ifs <;> simp [presentOutcomes]
    | _ => simp [call, step, createLayer, acceptDisplayChanges, presentOutcomes]
  | getDisplayConfigs t n c =>
    simp only [call, getDisplayConfigs]
    split_ifs <;> simp [presentOutcomes]
  | getReleaseFences n l f => simp [call, getReleaseFences, presentOutcomes]

/-- Over every run of calls on a display, `total_frames_` grows by the number of presents,
`frame_no_` by the presents whose composition succeeded and `failed_kms_present_` by those whose
composition failed: each counted frame is either presented or counted as failed, never both, and
no other call touches the three counters. -/
theorem callRun_frame_counters (w : Nat) (d : HwcDisplay) (calls : List DisplayCall) :
    let d' := d.callRun w calls
    let outcomes := callTrace w presentOutcomes d calls
    d'.totalStats.totalFrames = d.totalStats.totalFrames + outcomes.length ∧
      d'.frameNo = d.frameNo + outcomes.count true ∧
      d'.totalStats.failedKmsPresent = d.totalStats.failedKmsPresent + outcomes.count false := by
  induction calls generalizing d with
  | nil => simp [callRun, callTrace]
  | cons c cs ih =>
    obtain ⟨h₁, h₂, h₃⟩ := call_frame_counters w d c
    obtain ⟨i₁, i₂, i₃⟩ := ih (d.call w c)
    simp only [callRun, callTrace, List.length_append, List.count_append] at *
    omega

/-! ## The release fences -/

/-- Without both arrays `GetReleaseFences` writes nothing. -/
lemma releaseFencesLoop_false_fst (n : Nat) (ls : List (Nat × HwcLayer)) (k : Nat) :
    (releaseFencesLoop n false ls k).1 = [] := by
  induction ls generalizing k with
  | nil => rfl
  | cons l ls ih => exact ih _

/-- The handles and fences the loop writes are those of a prefix of the layers. -/
lemma releaseFencesLoop_prefix (n : Nat) (out : Bool) (ls : List (Nat × HwcLayer)) (k : Nat) :
    ∃ m, (releaseFencesLoop n out ls k).1.map Prod.snd =
      (ls.take m).map fun l => (l.1, l.2.releaseFence) := by
  cases out
  · exact ⟨0, by rw [releaseFencesLoop_false_fst]; rfl⟩
  induction ls generalizing k with
  | nil => exact ⟨0, rfl⟩
  | cons l ls ih =>
    obtain ⟨m, hm⟩ := ih ((k + 1) % 2 ^ 32)
    unfold releaseFencesLoop
    simp only [Bool.not_true, Bool.false_eq_true, if_false] at hm ⊢
    split_ifs
    · exact ⟨0, rfl⟩
    · exact ⟨m + 1, by simp only [List.map_cons, hm, List.take_succ_cons]⟩

/-- `GetReleaseFences` moves the fences it writes from the layers to the caller. -/
lemma getReleaseFences_fences (d : HwcDisplay) (n : Nat) (layers fences : Bool) :
    ((d.getReleaseFences n layers fences).2.1.map Prod.snd).filter (·.2 ≠ -1) ++
        (d.getReleaseFences n layers fences).1.heldFences = d.heldFences := by
  obtain ⟨m, hm⟩ := releaseFencesLoop_prefix n (layers && fences) d.layers.entries 0
  have hH : ((releaseFencesLoop n (layers && fences) d.layers.entries 0).1.map (·.2.1)) =
      (d.layers.entries.take m).map Prod.fst := by
    simpa only [List.map_map, Function.comp_def] using congrArg (List.map Prod.fst) hm
  have hnd : (d.layers.entries.map Prod.fst).Nodup := d.layers.keys_nodup
  simp only [getReleaseFences, heldFences, releaseFenceEntries, StdMap.mapWithKey, hm, hH,
    List.map_map]
  generalize d.layers.entries = E at hnd ⊢
  rw [← List.take_append_drop m E, List.map_append, List.nodup_append] at hnd
  set g : Nat × HwcLayer → Nat × Int := fun l => (l.1, l.2.releaseFence)
  set f : Nat × HwcLayer → Nat × HwcLayer := fun e => (e.1,
    if e.1 ∈ (E.take m).map Prod.fst then { e.2 with releaseFence := -1 } else e.2)
  have hcleared : ((E.take m).map (g ∘ f)).filter (·.2 ≠ -1) = [] :=
    List.filter_eq_nil_iff.mpr fun x hx => by
      obtain ⟨e, he, rfl⟩ := List.mem_map.mp hx
      simp only [Function.comp_apply, f, g, if_pos (List.mem_map_of_mem Prod.fst he)]
      decide
  have hkept : (E.drop m).map (g ∘ f) = (E.drop m).map g :=
    List.map_congr_left fun e he => by
      simp only [Function.comp_apply, f, g,
        if_neg fun h => hnd.2.2 h (List.mem_map_of_mem Prod.fst he)]
  rw [← List.take_append_drop m E, List.map_append, List.map_append, List.filter_append,
    List.filter_append, hcleared, hkept, List.nil_append, List.take_append_drop]

/-- A call that leaves the layers hands out no fence and is given none keeps the ledger. -/
lemma subperm_of_layers_eq {d d' : HwcDisplay} (h : d'.layers = d.layers) :
    ([] ++ d'.heldFences).Subperm (d.heldFences ++ []) := by
  simp only [heldFences, releaseFenceEntries, h, List.nil_append, List.append_nil]
  rfl

/-- One call hands out only fences the display held or was given by it. -/
lemma call_release_fences (w : Nat) (d : HwcDisplay) (c : DisplayCall) :
    (releasedFences d c ++ (d.call w c).heldFences).Subperm (d.heldFences ++ givenFences d c) := by
  cases c with
  | op o =>
    cases o with
    | setActiveConfig c =>
      obtain ⟨m, cfgs, h⟩ := setActiveConfig_snd d c
      exact subperm_of_layers_eq (by simp only [call, step, h])
    | createComposition t kms =>
      rcases createComposition_display kms d { testOnly := t } with h | h <;>
        exact subperm_of_layers_eq (by simp only [call, step, h])
    | presentDisplay kms =>
      obtain ⟨m, h⟩ := presentDisplay_display_eq kms d
      exact subperm_of_layers_eq (by simp only [call, step, h])
    | setPowerMode m kms => exact subperm_of_layers_eq rfl
    | createLayer =>
      have hp := ((d.layers.perm_entries_emplace d.layerIdx .new).map
        fun l => (l.1, l.2.releaseFence)).filter fun x => decide (x.2 ≠ -1)
      split_ifs at hp <;> simpa [heldFences, releaseFenceEntries, call, step, createLayer,
        releasedFences, givenFences, HwcLayer.new] using hp.subperm
    | destroyLayer h =>
      simp only [releasedFences, givenFences, call, step, destroyLayer, List.nil_append,
        List.append_nil]
      split
      · rfl
      · exact (((List.filter_sublist _).map _).filter _).subperm
    | setLayer h l =>
      simp only [releasedFences, givenFences, call, step, setLayer, List.nil_append]
      split_ifs with hh
      · have hp := ((d.layers.perm_entries_insertOrAssign h l).map
          fun l => (l.1, l.2.releaseFence)).filter fun x => decide (x.2 ≠ -1)
        refine hp.subperm.trans ?_
        rw [← List.singleton_append, List.map_append, List.filter_append, List.map_singleton]
        exact List.perm_append_comm.subperm.trans ((List.subperm_append_right _).mpr
          (((List.filter_sublist _).map _).filter _).subperm)
      · exact (List.sublist_append_left _ _).subperm
    | acceptDisplayChanges =>
      simp only [releasedFences, givenFences, call, step, acceptDisplayChanges, heldFences,
        releaseFenceEntries, StdMap.mapValues, List.map_map, Function.comp_def, List.nil_append,
        List.append_nil]
      rfl
    | updateConfigs t => exact subperm_of_layers_eq rfl
  | getDisplayConfigs t n c =>
    exact subperm_of_layers_eq (by simp only [call, getDisplayConfigs]; split_ifs <;> rfl)
  | getReleaseFences n l f =>
    rw [releasedFences, call, show givenFences d (.getReleaseFences n l f) = [] from rfl,
      List.append_nil, getReleaseFences_fences]

/-- The layers hold their fences under distinct handles. -/
lemma heldFences_nodup (d : HwcDisplay) : (d.heldFences.map Prod.fst).Nodup := by
  refine List.Nodup.sublist ?_ d.layers.keys_nodup
  simpa [heldFences, releaseFenceEntries, StdMap.keys, List.map_map, Function.comp_def] using
    (List.filter_sublist d.releaseFenceEntries).map Prod.fst

/-- Over every run of calls on a display, the fences handed to the caller together with those
the layers still hold are among the fences the layers held at the start and those the setters
gave, each as often as it was given, so no fence is handed out twice; when no setter gives a
fence, the fences handed out come from distinct layers. -/
theorem callRun_release_fences (w : Nat) (d : HwcDisplay) (calls : List DisplayCall) :
    (callTrace w releasedFences d calls ++ (d.callRun w calls).heldFences).Subperm
        (d.heldFences ++ callTrace w givenFences d calls) ∧
      (callTrace w givenFences d calls = [] →
        ((callTrace w releasedFences d calls).map Prod.fst).Nodup) := by
  have ledger : ∀ d : HwcDisplay, (callTrace w releasedFences d calls ++
      (d.callRun w calls).heldFences).Subperm (d.heldFences ++ callTrace w givenFences d calls) := by
    induction calls with
    | nil => exact fun d => by simpa [callTrace, callRun] using List.Subperm.refl d.heldFences
    | cons c cs ih =>
      intro d
      simp only [callTrace, callRun, List.append_assoc]
      refine ((List.subperm_append_left _).mpr (ih (d.call w c))).trans ?_
      rw [← List.append_assoc, ← List.append_assoc]
      exact (List.subperm_append_right _).mpr (call_release_fences w d c)
  refine ⟨ledger d, fun hg => ?_⟩
  have h := ledger d
  rw [hg, List.append_nil] at h
  obtain ⟨l, hp, hs⟩ := (List.sublist_append_left _ _).subperm.trans h
  exact (hp.map Prod.fst).nodup_iff.mp ((hs.map Prod.fst).nodup (heldFences_nodup d))

/-- A layer holding the fence 7 hands it to the first of two full fills, and nothing to the
second. -/
example :
    let d : HwcDisplay := ⟨⟨[(0, ⟨.device, .device, 0, 7, 0⟩)], by decide⟩, 1, .new, ⟨.empty, 0⟩,
      none, ⟨0, 0⟩, 0, 0⟩
    callTrace 32 releasedFences d [.getReleaseFences 1 true true, .getReleaseFences 1 true true] =
      [(0, 7)] := by
  decide

end HwcDisplay

end DrmHwc
