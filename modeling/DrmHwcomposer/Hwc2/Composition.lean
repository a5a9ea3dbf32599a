import DrmHwcomposer.Hwc2.HwcDisplay

/-!
# Building and committing a composition

`HwcDisplay::CreateComposition` orders the layers by z-order in `z_map`: every Device layer under
its own z-order, and, when some layer was validated Client, the client target under the lowest
Client z-order.  `std::map::emplace` keeps the first entry of a key, so of two layers sharing a
z-order only one reaches the composition.  The layers of `z_map` are imported in z-order, and the
composition is set up, planned and committed together with the staged mode; a successful real
commit clears the staged mode.  `createComposition_commit_composition` says what a commit
composes: the layers of `z_map` in increasing z-order, under each z-order the Device layer with the
lowest handle there, or else the client target when that z-order is the lowest Client one
(`clientZOrder_spec`).

`PresentDisplay` commits a composition for real, `SetActiveConfig` stages the mode of a
configuration, and `SetPowerMode` commits the display's active state.  `createComposition_cases`
says once what a call of `CreateComposition` can do; the staged-mode law is built on it.

`presentDisplay_counts_frames` follows every exit of `CreateComposition` into the frame statistics
of `PresentDisplay`.  The `BadLayer` that `PresentDisplay` reports as a success with the fence -1
comes not only from an empty `z_map` but also from a rejection by `SetLayers`, and both are
counted as failed presents.
-/

namespace DrmHwc

/-- What `z_map` holds: a layer of `layers_`, by handle, or the client target. -/
inductive ZLayer
  | layer (handle : Nat)
  | clientLayer
  deriving DecidableEq, Repr

/-- The Device layers of `layers_` emplaced into `z_map` by z-order, in handle order. -/
def deviceZMap (layers : List (Nat × HwcLayer)) : StdMap (Fin (2 ^ 32)) ZLayer :=
  layers.foldl (fun m l =>
    if l.2.validatedType = .device then m.emplace l.2.zOrder (.layer l.1) else m) .empty

/-- `use_client_layer`: some layer was validated Client. -/
def useClientLayer (layers : List (Nat × HwcLayer)) : Bool :=
  layers.any fun l => l.2.validatedType = .client

/-- `client_z_order`: the lowest z-order of the Client layers, starting from `UINT32_MAX`. -/
def clientZOrder (layers : List (Nat × HwcLayer)) : Fin (2 ^ 32) :=
  layers.foldl (fun z l => if l.2.validatedType = .client then min z l.2.zOrder else z) UINT32_MAX

/-- What the loops of `CreateComposition` offer to `z_map`, in order: each Device layer under its
z-order, in handle order, then the client target under `client_z_order` when it is used. -/
def zCandidates (layers : List (Nat × HwcLayer)) : List (Fin (2 ^ 32) × ZLayer) :=
  ((layers.filter fun l => l.2.validatedType = .device).map fun l => (l.2.zOrder, .layer l.1)) ++
    if useClientLayer layers then [(clientZOrder layers, .clientLayer)] else []

namespace HwcDisplay

/-- The `z_map` of `CreateComposition`. -/
def zMap (d : HwcDisplay) : StdMap (Fin (2 ^ 32)) ZLayer :=
  if useClientLayer d.layers.entries then
    (deviceZMap d.layers.entries).emplace (clientZOrder d.layers.entries) .clientLayer
  else deviceZMap d.layers.entries

/-- The layer an entry of `z_map` points to. -/
def zLayer (d : HwcDisplay) : ZLayer → HwcLayer
  | .layer h => (d.layers.find? h).getD .new
  | .clientLayer => d.clientLayer

end HwcDisplay

/-- The import loop of `CreateComposition`: the layers in z-order, or `none` at the first buffer
that fails to import. -/
def importLayers (kms : KmsResults) : List HwcLayer → Option (List HwcLayer)
  | [] => some []
  | l :: ls => if kms.importBuffer l ≠ 0 then none else (importLayers kms ls).map (l :: ·)

/-- The import loop hands back the layers it was given, or nothing. -/
lemma importLayers_eq_some {kms : KmsResults} {ls ls' : List HwcLayer}
    (h : importLayers kms ls = some ls') : ls' = ls := by
  induction ls generalizing ls' with
  | nil => exact (Option.some.inj h).symm
  | cons l ls ih =>
    rw [importLayers] at h
    split_ifs at h
    obtain ⟨ls'', h', rfl⟩ := Option.map_eq_some'.mp h
    rw [ih h']

/-- What a call of `CreateComposition` leaves: its error, `a_args` afterwards, the arguments of
the atomic commit if one was issued, and the display. -/
structure CompositionResult where
  error : Hwc2Error
  args : AtomicCommitArgs
  commit : Option AtomicCommitArgs
  display : HwcDisplay

namespace HwcDisplay

/-- `HwcDisplay::CreateComposition`. -/
def createComposition (kms : KmsResults) (d : HwcDisplay) (a : AtomicCommitArgs) :
    CompositionResult :=
  if d.zMap.entries = [] then ⟨.badLayer, a, none, d⟩
  else
    match importLayers kms (d.zMap.entries.map fun e => d.zLayer e.2) with
    | none => ⟨.noResources, a, none, d⟩
    | some layers =>
      if kms.setLayers layers ≠ 0 then ⟨.badLayer, a, none, d⟩
      else if kms.plan layers ≠ 0 then ⟨.badConfig, a, none, d⟩
      else
        let a' :=
          { a with composition := some layers, displayMode := d.stagedMode.or a.displayMode }
        if kms.executeAtomicCommit a' ≠ 0 then ⟨.badParameter, a', some a', d⟩
        else
          ⟨.none, { a' with outFence := kms.outFence }, some a',
            if a'.testOnly then d else { d with stagedMode := none }⟩

end HwcDisplay

/-- What a call of `PresentDisplay` leaves: its error, the present fence if it was written, the
composition it built, and the display. -/
structure PresentResult where
  error : Hwc2Error
  presentFence : Option Int
  composition : CompositionResult
  display : HwcDisplay

namespace HwcDisplay

/-- `HwcDisplay::PresentDisplay`. -/
def presentDisplay (kms : KmsResults) (d : HwcDisplay) : PresentResult :=
  let d₁ := { d with totalStats.totalFrames := d.totalStats.totalFrames + 1 }
  let r := d₁.createComposition kms {}
  let d₂ := if r.error ≠ .none then
      { r.display with totalStats.failedKmsPresent := r.display.totalStats.failedKmsPresent + 1 }
    else r.display
  if r.error = .badLayer then ⟨.none, some (-1), r, d₂⟩
  else if r.error ≠ .none then ⟨r.error, none, r, d₂⟩
  else ⟨.none, some r.args.outFence, r, { d₂ with frameNo := d₂.frameNo + 1 }⟩

/-- `HwcDisplay::SetActiveConfig`: an unknown id is `BadConfig`; a known one becomes the active
id and its mode is staged for the next commit. -/
def setActiveConfig (d : HwcDisplay) (config : Int) : Hwc2Error × HwcDisplay :=
  match d.configs.hwcConfigs.find? config with
  | none => (.badConfig, d)
  | some c => (.none, { d with stagedMode := some c.mode,
                               configs := { d.configs with activeConfigId := config } })

/-- `HwcDisplay::GetActiveConfig`: the active id while the table contains it. -/
def getActiveConfig (d : HwcDisplay) : Hwc2Error × Option Int :=
  if d.configs.hwcConfigs.contains d.configs.activeConfigId then
    (.none, some d.configs.activeConfigId)
  else (.badConfig, none)

/-- `HwcDisplay::SetPowerMode` for the `int32_t` mode `Off` (0), `Doze` (1), `On` (2) or
`DozeSuspend` (3): its error and the commit it issued, if any. -/
def setPowerMode (kms : KmsResults) (modeIn : Int) : Hwc2Error × Option AtomicCommitArgs :=
  if modeIn = 0 then
    let a : AtomicCommitArgs := { active := some false }
    (if kms.executeAtomicCommit a ≠ 0 then .badParameter else .none, some a)
  else if modeIn = 2 then (if kms.activateDisplayUsingDPMS = 0 then .none else .badParameter, none)
  else if modeIn = 1 ∨ modeIn = 3 then (.unsupported, none)
  else (.badParameter, none)

/-! ## What a composition can do -/

/-- A call of `CreateComposition` either stops before committing, leaving the display as it was,
or issues one commit carrying the staged mode (or the caller's mode when none is staged); a
successful commit hands back its out fence, a successful real commit clears the staged mode, and
nothing else of the display changes. -/
lemma createComposition_cases (kms : KmsResults) (d : HwcDisplay) (a : AtomicCommitArgs) :
    ((d.createComposition kms a).commit = none ∧ (d.createComposition kms a).display = d ∧
        (d.createComposition kms a).error ≠ .none) ∨
      ∃ a', (d.createComposition kms a).commit = some a' ∧
        a'.displayMode = d.stagedMode.or a.displayMode ∧ a'.testOnly = a.testOnly ∧
        (((d.createComposition kms a).error = .none ∧
            (d.createComposition kms a).args.outFence = kms.outFence ∧
            (d.createComposition kms a).display =
              if a.testOnly then d else { d with stagedMode := none }) ∨
          ((d.createComposition kms a).error = .badParameter ∧
            (d.createComposition kms a).display = d)) := by
  unfold createComposition
  by_cases hz : d.zMap.entries = []
  · rw [if_pos hz]; simp
  rw [if_neg hz]
  cases importLayers kms (d.zMap.entries.map fun e => d.zLayer e.2) with
  | none => simp
  | some layers =>
    dsimp only
    by_cases hs : kms.setLayers layers = 0
    swap
    · rw [if_pos hs]; simp
    rw [if_neg (not_not_intro hs)]
    by_cases hp : kms.plan layers = 0
    swap
    · rw [if_pos hp]; simp
    rw [if_neg (not_not_intro hp)]
    split <;> simp_all

/-- A composition leaves the frame statistics as they were. -/
lemma createComposition_totalStats (kms : KmsResults) (d : HwcDisplay) (a : AtomicCommitArgs) :
    (d.createComposition kms a).display.totalStats = d.totalStats := by
  rcases createComposition_cases kms d a with ⟨-, h, -⟩ | ⟨a', -, -, -, ⟨-, -, h⟩ | ⟨-, h⟩⟩ <;>
    rw [h]
  split_ifs <;> rfl

/-- A successful composition hands back the commit's out fence in its arguments. -/
lemma createComposition_outFence (kms : KmsResults) (d : HwcDisplay) (a : AtomicCommitArgs)
    (h : (d.createComposition kms a).error = .none) :
    (d.createComposition kms a).args.outFence = kms.outFence := by
  rcases createComposition_cases kms d a with ⟨-, -, hne⟩ | ⟨a', -, -, -, ⟨-, hf, -⟩ | ⟨he, -⟩⟩
  · exact absurd h hne
  · exact hf
  · rw [h] at he; cases he

/-- A composition leaves the display as it was, or with the staged mode cleared. -/
lemma createComposition_display (kms : KmsResults) (d : HwcDisplay) (a : AtomicCommitArgs) :
    (d.createComposition kms a).display = d ∨
      (d.createComposition kms a).display = { d with stagedMode := none } := by
  rcases createComposition_cases kms d a with ⟨-, h, -⟩ | ⟨a', -, -, -, ⟨-, -, h⟩ | ⟨-, h⟩⟩
  · exact .inl h
  · rw [h]
    split_ifs <;> simp
  · exact .inl h

/-- `CreateComposition` fails with `BadLayer` exactly when `z_map` is empty, or when every layer
of it imports and `SetLayers` rejects them. -/
lemma createComposition_error_eq_badLayer (kms : KmsResults) (d : HwcDisplay)
    (a : AtomicCommitArgs) :
    (d.createComposition kms a).error = .badLayer ↔ d.zMap.entries = [] ∨
      ∃ layers, importLayers kms (d.zMap.entries.map fun e => d.zLayer e.2) = some layers ∧
        kms.setLayers layers ≠ 0 := by
  unfold createComposition
  by_cases hz : d.zMap.entries = []
  · simp [hz]
  rw [if_neg hz]
  cases importLayers kms (d.zMap.entries.map fun e => d.zLayer e.2) with
  | none => simp [hz]
  | some layers =>
    dsimp only
    by_cases hs : kms.setLayers layers = 0
    · rw [if_neg (not_not_intro hs)]
      split_ifs <;> simp [hz, hs]
    · simp [hz, hs]

/-! ## Coinciding z-orders -/

/-- The Device loop emplaces the Device candidates in order. -/
lemma foldl_deviceZMap (layers : List (Nat × HwcLayer)) (m : StdMap (Fin (2 ^ 32)) ZLayer) :
    layers.foldl (fun m l =>
        if l.2.validatedType = .device then m.emplace l.2.zOrder (.layer l.1) else m) m =
      ((layers.filter fun l => l.2.validatedType = .device).map
        fun l => (l.2.zOrder, ZLayer.layer l.1)).foldl (fun m c => m.emplace c.1 c.2) m := by
  induction layers generalizing m with
  | nil => rfl
  | cons l layers ih =>
    by_cases hl : l.2.validatedType = .device
    · simp only [List.foldl_cons, List.filter_cons, List.map_cons, hl, decide_True,
        eq_self_iff_true, if_true]
      exact ih _
    · simp only [List.foldl_cons, List.filter_cons, hl, decide_False, Bool.false_eq_true, if_false]
      exact ih _

/-- `z_map` is the run of `emplace`s over the candidates. -/
lemma zMap_eq_foldl (d : HwcDisplay) :
    d.zMap = (zCandidates d.layers.entries).foldl (fun m c => m.emplace c.1 c.2) .empty := by
  unfold zMap deviceZMap zCandidates
  rw [foldl_deviceZMap]
  split_ifs <;> simp

/-- Each entry of `z_map` is a candidate, and every candidate's z-order is a key of `z_map`. -/
lemma mem_zMap (d : HwcDisplay) :
    (∀ e ∈ d.zMap.entries, e ∈ zCandidates d.layers.entries) ∧
      ∀ z, z ∈ d.zMap.keys ↔ z ∈ (zCandidates d.layers.entries).map Prod.fst := by
  rw [zMap_eq_foldl]
  refine ⟨fun e he => ?_, fun z => ?_⟩
  · simpa [StdMap.empty] using StdMap.mem_entries_foldl_emplace he
  · rw [StdMap.mem_keys_foldl_emplace]
    simp [StdMap.empty, StdMap.keys]

/-- `z_map` holds, under each z-order, the first candidate offered at it. -/
lemma zMap_find? (d : HwcDisplay) (z : Fin (2 ^ 32)) :
    d.zMap.find? z = ((zCandidates d.layers.entries).find? (·.1 = z)).map Prod.snd := by
  rw [zMap_eq_foldl, StdMap.find?_foldl_emplace,
    if_neg (show z ∉ StdMap.empty.keys from List.not_mem_nil z)]
  congr
  funext e
  exact decide_eq_decide.mpr Iff.rfl

/-- A layer of `layers_` and the client target are each offered under one z-order only. -/
lemma zCandidates_key_unique {layers : List (Nat × HwcLayer)} (hl : (layers.map Prod.fst).Nodup)
    {z₁ z₂ : Fin (2 ^ 32)} {x : ZLayer} (h₁ : (z₁, x) ∈ zCandidates layers)
    (h₂ : (z₂, x) ∈ zCandidates layers) : z₁ = z₂ := by
  cases x with
  | layer h =>
    simp only [zCandidates, List.mem_append, List.mem_map, List.mem_filter, Prod.mk.injEq,
      ZLayer.layer.injEq] at h₁ h₂
    split_ifs at h₁ h₂ <;>
    · simp only [List.mem_singleton, Prod.mk.injEq, reduceCtorEq, and_false, List.not_mem_nil,
        or_false] at h₁ h₂
      obtain ⟨l₁, ⟨hm₁, -⟩, rfl, rfl⟩ := h₁
      obtain ⟨l₂, ⟨hm₂, -⟩, rfl, hh⟩ := h₂
      rw [List.inj_on_of_nodup_map hl hm₁ hm₂ hh.symm]
  | clientLayer =>
    simp only [zCandidates, List.mem_append, List.mem_map, Prod.mk.injEq, reduceCtorEq, and_false,
      exists_false, false_or] at h₁ h₂
    split_ifs at h₁ h₂ <;> simp_all

/-- Two different candidates offered under one z-order (two Device layers sharing a z-order, or a
Device layer at the lowest Client z-order and the client target) never both reach `z_map`, so
one of them is never imported. -/
theorem zMap_drops_coinciding_layers (d : HwcDisplay) (z : Fin (2 ^ 32)) (x y : ZLayer)
    (hxy : x ≠ y) (hx : (z, x) ∈ zCandidates d.layers.entries)
    (hy : (z, y) ∈ zCandidates d.layers.entries) :
    x ∉ d.zMap.entries.map Prod.snd ∨ y ∉ d.zMap.entries.map Prod.snd := by
  by_contra hboth
  simp only [not_or, not_not, List.mem_map, Prod.exists, exists_eq_right] at hboth
  obtain ⟨⟨zx, hzx⟩, ⟨zy, hzy⟩⟩ := hboth
  have hk := d.layers.keys_nodup
  have hzx' : zx = z := zCandidates_key_unique hk ((mem_zMap d).1 _ hzx) hx
  have hzy' : zy = z := zCandidates_key_unique hk ((mem_zMap d).1 _ hzy) hy
  subst hzx' hzy'
  exact hxy (StdMap.eq_of_mem_entries hzx hzy)

/-- Two Device layers at z-order 0: `z_map` keeps the first and the second is never imported,
and with every collaborator succeeding the composition committed holds one layer; a Device layer
at the lowest Client z-order keeps the client target out of `z_map`. -/
theorem zMap_drops_second_device_layer :
    let d₁ : HwcDisplay :=
      ⟨⟨[(0, ⟨.device, .device, 0, -1, 0⟩), (1, ⟨.device, .device, 0, -1, 1⟩)], by decide⟩, 2,
        .new, ⟨.empty, 0⟩, none, ⟨0, 0⟩, 0, 0⟩
    let d₂ : HwcDisplay :=
      ⟨⟨[(0, ⟨.device, .device, 0, -1, 0⟩), (1, ⟨.client, .client, 0, -1, 1⟩)], by decide⟩, 2,
        .new, ⟨.empty, 0⟩, none, ⟨0, 0⟩, 0, 0⟩
    (ZLayer.layer 0 ∉ d₁.zMap.entries.map Prod.snd ∨
        ZLayer.layer 1 ∉ d₁.zMap.entries.map Prod.snd) ∧
      d₁.zMap.entries.map Prod.snd = [.layer 0] ∧
      (d₁.createComposition ⟨fun _ => 0, fun _ => 0, fun _ => 0, fun _ => 0, -1, 0⟩
          {}).commit.bind (·.composition) = some [⟨.device, .device, 0, -1, 0⟩] ∧
      (ZLayer.layer 0 ∉ d₂.zMap.entries.map Prod.snd ∨
        ZLayer.clientLayer ∉ d₂.zMap.entries.map Prod.snd) ∧
      d₂.zMap.entries.map Prod.snd = [.layer 0] :=
  ⟨zMap_drops_coinciding_layers _ 0 (.layer 0) (.layer 1) (by decide) (by decide) (by decide),
    by decide, by decide,
    zMap_drops_coinciding_layers _ 0 (.layer 0) .clientLayer (by decide) (by decide) (by decide),
    by decide⟩

/-! ## The frames `PresentDisplay` counts as failed -/

/-- `z_map` is empty exactly when no layer was validated Device or Client. -/
lemma zMap_entries_eq_nil (d : HwcDisplay) :
    d.zMap.entries = [] ↔
      ∀ l ∈ d.layers.entries, l.2.validatedType ≠ .device ∧ l.2.validatedType ≠ .client := by
  have hk : ∀ z, z ∈ d.zMap.entries.map Prod.fst ↔
      z ∈ (zCandidates d.layers.entries).map Prod.fst := (mem_zMap d).2
  rw [← @List.map_eq_nil_iff _ _ Prod.fst, List.eq_nil_iff_forall_not_mem]
  simp only [hk, ← List.eq_nil_iff_forall_not_mem, List.map_eq_nil_iff]
  simp [zCandidates, useClientLayer, List.filter_eq_nil_iff, imp_and, forall_and]

/-- `PresentDisplay` leaves the staged mode and the configurations its composition left. -/
lemma presentDisplay_display (kms : KmsResults) (d : HwcDisplay) :
    (d.presentDisplay kms).display.stagedMode =
        (d.presentDisplay kms).composition.display.stagedMode ∧
      (d.presentDisplay kms).display.configs =
        (d.presentDisplay kms).composition.display.configs := by
  dsimp only [presentDisplay]
  split_ifs <;> simp

/-- The composition `PresentDisplay` builds is a real one on the display as it was, but for the
frame count. -/
lemma presentDisplay_composition (kms : KmsResults) (d : HwcDisplay) :
    (d.presentDisplay kms).composition =
      ({ d with totalStats.totalFrames := d.totalStats.totalFrames + 1 }).createComposition
        kms {} := by
  dsimp only [presentDisplay]
  split_ifs <;> rfl

/-- What `PresentDisplay` returns and counts, by the error of the composition it built. -/
lemma presentDisplay_spec (kms : KmsResults) (d : HwcDisplay) :
    let p := d.presentDisplay kms
    p.display.totalStats =
        ⟨d.totalStats.totalFrames + 1,
          d.totalStats.failedKmsPresent + if p.composition.error = .none then 0 else 1⟩ ∧
      p.error = (if p.composition.error = .badLayer then .none else p.composition.error) ∧
      p.presentFence = if p.composition.error = .badLayer then some (-1)
        else if p.composition.error = .none then some p.composition.args.outFence else none := by
  have hs := createComposition_totalStats kms
    { d with totalStats.totalFrames := d.totalStats.totalFrames + 1 } {}
  dsimp only [presentDisplay]
  split_ifs <;> simp_all

/-- `PresentDisplay`, for every layer map and every outcome of the imports, `SetLayers`, `Plan`
and the commit, counts one frame.  It reports a success with the fence -1 exactly when no layer
was validated Device or Client or when `SetLayers` rejects the imported layers, and counts such a
frame as a failed present; every other failure is counted and returned, and a committed frame
returns the commit's out fence and is not counted as failed. -/
theorem presentDisplay_counts_frames (kms : KmsResults) (d : HwcDisplay) :
    let p := d.presentDisplay kms
    p.display.totalStats.totalFrames = d.totalStats.totalFrames + 1 ∧
      (((∀ l ∈ d.layers.entries, l.2.validatedType ≠ .device ∧ l.2.validatedType ≠ .client) ∨
          ∃ layers, importLayers kms (d.zMap.entries.map fun e => d.zLayer e.2) = some layers ∧
            kms.setLayers layers ≠ 0) ↔
        p.error = .none ∧ p.presentFence = some (-1) ∧
          p.display.totalStats.failedKmsPresent = d.totalStats.failedKmsPresent + 1) ∧
      (p.error ≠ .none → p.error = p.composition.error ∧ p.presentFence = none ∧
          p.display.totalStats.failedKmsPresent = d.totalStats.failedKmsPresent + 1) ∧
      (p.composition.error = .none → p.error = .none ∧ p.presentFence = some kms.outFence ∧
          p.display.totalStats.failedKmsPresent = d.totalStats.failedKmsPresent) := by
  obtain ⟨hstats, herr, hfence⟩ := presentDisplay_spec kms d
  have hbad : (d.presentDisplay kms).composition.error = .badLayer ↔
      (∀ l ∈ d.layers.entries, l.2.validatedType ≠ .device ∧ l.2.validatedType ≠ .client) ∨
        ∃ layers, importLayers kms (d.zMap.entries.map fun e => d.zLayer e.2) = some layers ∧
          kms.setLayers layers ≠ 0 := by
    rw [presentDisplay_composition, createComposition_error_eq_badLayer, zMap_entries_eq_nil]
    exact Iff.rfl
  have hout : (d.presentDisplay kms).composition.error = .none →
      (d.presentDisplay kms).composition.args.outFence = kms.outFence := by
    rw [presentDisplay_composition]
    exact createComposition_outFence kms _ {}
  dsimp only
  rw [← hbad, hstats, herr, hfence]
  generalize (d.presentDisplay kms).composition.error = e at hout ⊢
  rcases em (e = .badLayer) with rfl | hb
  · simp
  rcases em (e = .none) with rfl | hn
  · simp [hout]
  · simp [hb, hn]

/-- Two frames `PresentDisplay` reports as presented, with the fence -1, and counts as failed: one
with no layers, and one whose Device layer imports but is rejected by `SetLayers`, a failure of a
non-empty frame that never reaches the caller. -/
theorem presentDisplay_counts_frames_set_layers_failure :
    let kms : KmsResults := ⟨fun _ => 0, fun _ => 1, fun _ => 0, fun _ => 0, -1, 0⟩
    let d₀ : HwcDisplay := ⟨.empty, 0, .new, ⟨.empty, 0⟩, none, ⟨0, 0⟩, 0, 0⟩
    let d₁ : HwcDisplay :=
      ⟨⟨[(0, ⟨.device, .device, 0, -1, 0⟩)], by decide⟩, 1, .new, ⟨.empty, 0⟩, none, ⟨0, 0⟩, 0, 0⟩
    ((d₀.presentDisplay kms).error = .none ∧ (d₀.presentDisplay kms).presentFence = some (-1) ∧
        (d₀.presentDisplay kms).display.totalStats.failedKmsPresent = 1) ∧
      d₁.zMap.entries ≠ [] ∧
      (d₁.presentDisplay kms).error = .none ∧ (d₁.presentDisplay kms).presentFence = some (-1) ∧
        (d₁.presentDisplay kms).display.totalStats.failedKmsPresent = 1 :=
  ⟨(presentDisplay_counts_frames _ _).2.1.mp (.inl (by decide)), by decide,
    (presentDisplay_counts_frames _ _).2.1.mp
      (.inr ⟨[⟨.device, .device, 0, -1, 0⟩], by decide, by decide⟩)⟩

/-! ## The layers a commit composes -/

/-- The Client loop of `CreateComposition` from any start: its result is at most the start and
at most every Client z-order, and it is the start or one of those z-orders. -/
lemma foldl_clientZOrder (layers : List (Nat × HwcLayer)) (z₀ : Fin (2 ^ 32)) :
    let v := layers.foldl
      (fun z l => if l.2.validatedType = .client then min z l.2.zOrder else z) z₀
    v ≤ z₀ ∧ (∀ l ∈ layers, l.2.validatedType = .client → v ≤ l.2.zOrder) ∧
      (v = z₀ ∨ ∃ l ∈ layers, l.2.validatedType = .client ∧ l.2.zOrder = v) := by
  induction layers generalizing z₀ with
  | nil => exact ⟨le_refl _, fun _ h => absurd h (List.not_mem_nil _), .inl rfl⟩
  | cons l layers ih =>
    simp only [List.foldl_cons, List.mem_cons, forall_eq_or_imp, exists_eq_or_imp]
    by_cases hl : l.2.validatedType = .client
    · rw [if_pos hl]
      obtain ⟨hle, hall, hv⟩ := ih (min z₀ l.2.zOrder)
      refine ⟨le_trans hle (min_le_left _ _),
        ⟨fun _ => le_trans hle (min_le_right _ _), hall⟩, ?_⟩
      rcases hv with hv | hv
      · rcases min_choice z₀ l.2.zOrder with h | h
        · exact .inl (hv.trans h)
        · exact .inr (.inl ⟨hl, (hv.trans h).symm⟩)
      · exact .inr (.inr hv)
    · rw [if_neg hl]
      obtain ⟨hle, hall, hv⟩ := ih z₀
      exact ⟨hle, ⟨fun h => absurd h hl, hall⟩, hv.imp_right .inr⟩

/-- `client_z_order` is the least z-order of the Client layers, and `UINT32_MAX` when there is
none. -/
lemma clientZOrder_spec (layers : List (Nat × HwcLayer)) :
    (∀ l ∈ layers, l.2.validatedType = .client → clientZOrder layers ≤ l.2.zOrder) ∧
      (clientZOrder layers = UINT32_MAX ∨
        ∃ l ∈ layers, l.2.validatedType = .client ∧ l.2.zOrder = clientZOrder layers) :=
  (foldl_clientZOrder layers UINT32_MAX).2

/-- Every z-order is at most `UINT32_MAX`. -/
lemma le_UINT32_MAX (z : Fin (2 ^ 32)) : z ≤ UINT32_MAX :=
  Fin.le_iff_val_le_val.mpr (Nat.le_pred_of_lt z.2)

/-- The client target is offered at `z` exactly when some Client layer sits at `z` and none
lower. -/
lemma useClientLayer_and_clientZOrder_eq_iff (layers : List (Nat × HwcLayer)) (z : Fin (2 ^ 32)) :
    (useClientLayer layers ∧ clientZOrder layers = z) ↔
      (∃ l ∈ layers, l.2.validatedType = .client ∧ l.2.zOrder = z) ∧
        ∀ l ∈ layers, l.2.validatedType = .client → z ≤ l.2.zOrder := by
  obtain ⟨hlow, hattained⟩ := clientZOrder_spec layers
  simp only [useClientLayer, List.any_eq_true, decide_eq_true_eq]
  constructor
  · rintro ⟨⟨l, hl, hc⟩, rfl⟩
    refine ⟨?_, hlow⟩
    rcases hattained with hmax | h
    · exact ⟨l, hl, hc, le_antisymm (hmax ▸ le_UINT32_MAX _) (hlow l hl hc)⟩
    · exact h
  · rintro ⟨⟨l, hl, hc, rfl⟩, hmin⟩
    refine ⟨⟨l, hl, hc⟩, le_antisymm (hlow l hl hc) ?_⟩
    rcases hattained with hmax | ⟨l', hl', hc', h⟩
    · exact hmax ▸ le_UINT32_MAX _
    · exact h ▸ hmin l' hl' hc'

/-- What a commit of `CreateComposition` composes: the layers of `z_map`, whose keys a `std::map`
keeps in increasing order; under a z-order `z_map` holds the Device layer with the lowest handle
at it, or, when there is none, the client target if `z` is the lowest Client z-order. -/
theorem createComposition_commit_composition (kms : KmsResults) (d : HwcDisplay)
    (a : AtomicCommitArgs) :
    (d.createComposition kms a).commit.map (·.composition) =
        (d.createComposition kms a).commit.map
          (fun _ => some (d.zMap.entries.map fun e => d.zLayer e.2)) ∧
      ∀ z, d.zMap.find? z =
        ((d.layers.entries.find? fun l => l.2.validatedType = .device ∧ l.2.zOrder = z).map
            fun l => ZLayer.layer l.1).or
          (if (∃ l ∈ d.layers.entries, l.2.validatedType = .client ∧ l.2.zOrder = z) ∧
              ∀ l ∈ d.layers.entries, l.2.validatedType = .client → z ≤ l.2.zOrder then
            some .clientLayer
          else none) := by
  refine ⟨?_, fun z => ?_⟩
  · unfold createComposition
    by_cases hz : d.zMap.entries = []
    · rw [if_pos hz]; rfl
    rw [if_neg hz]
    split
    · rfl
    · rename_i layers h
      rw [← importLayers_eq_some h]
      by_cases hs : kms.setLayers layers = 0
      swap
      · rw [if_pos hs]; rfl
      rw [if_neg (not_not_intro hs)]
      by_cases hp : kms.plan layers = 0
      swap
      · rw [if_pos hp]; rfl
      rw [if_neg (not_not_intro hp)]
      dsimp only
      split <;> rfl
  · rw [zMap_find?, zCandidates, List.find?_append, List.find?_map, List.find?_filter]
    rw [Option.map_or', Option.map_map]
    congr 1
    · simp only [Function.comp_def, Bool.decide_and, decide_eq_true_eq]
    · simp only [← useClientLayer_and_clientZOrder_eq_iff]
      by_cases hu : useClientLayer d.layers.entries <;>
        by_cases hz : clientZOrder d.layers.entries = z <;> simp [hu, hz]

/-- Device layers at z-orders 1 and 0 and Client layers at 5 and 2: the composition takes the
Device layers in z-order, then the client target at z-order 2. -/
example : (⟨⟨[(0, ⟨.device, .device, 1, -1, 0⟩), (1, ⟨.device, .device, 0, -1, 1⟩),
      (2, ⟨.client, .client, 5, -1, 2⟩), (3, ⟨.client, .client, 2, -1, 3⟩)], by decide⟩, 4, .new,
      ⟨.empty, 0⟩, none, ⟨0, 0⟩, 0, 0⟩ : HwcDisplay).zMap.entries =
    [(0, .layer 1), (1, .layer 0), (2, .clientLayer)] := by decide

end HwcDisplay

end DrmHwc
