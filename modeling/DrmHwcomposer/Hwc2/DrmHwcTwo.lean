import DrmHwcomposer.Drm.ResourceManager
import DrmHwcomposer.Hwc2.HwcDisplay

/-!
# Bringing up the displays

`DrmHwcTwo::Init` runs `ResourceManager::Init` and, when it returns 0, creates one display per
entry of `connectors_`, in key order, under the handles `kPrimaryDisplay`,
`kPrimaryDisplay + 1`, ….  A display is represented by the connector it is created for.

`reorderConnectors_numbers_displays` says what the two numberings give for any discovery and any
candidate list.  `resourceManagerInit_ignores_device_failures` shows two boots the sources accept
although they bring up no display, or a display on a device whose initialisation failed.
-/

namespace DrmHwc

/-- The display loop of `DrmHwcTwo::Init`: `displays_[disp_handle] = disp; disp_handle++` for each
entry of `connectors_`, starting from `kPrimaryDisplay`. -/
def createDisplays (kPrimaryDisplay : Nat) (connectors : StdMap Nat ConnectorRef) :
    StdMap Nat ConnectorRef :=
  (connectors.entries.foldl (fun acc e => (acc.1.insertOrAssign acc.2 e.2, acc.2 + 1))
    (StdMap.empty, kPrimaryDisplay)).1

/-- `DrmHwcTwo::Init` on what `ResourceManager::Init` left: `NoResources` when it failed, and
otherwise `None` with `displays_`. -/
def drmHwcTwoInit (kPrimaryDisplay : Nat) (rm : ResourceManagerResult) :
    Hwc2Error × StdMap Nat ConnectorRef :=
  if rm.ret ≠ 0 then (.noResources, .empty)
  else (.none, createDisplays kPrimaryDisplay rm.connectors)

/-- The display loop appends the entries under consecutive handles. -/
lemma foldl_createDisplays (es : List (Nat × ConnectorRef)) (m : StdMap Nat ConnectorRef) (h : Nat)
    (hk : ∀ x ∈ m.keys, x < h) :
    (es.foldl (fun acc e => (acc.1.insertOrAssign acc.2 e.2, acc.2 + 1)) (m, h)).1.entries =
      m.entries ++ (es.map Prod.snd).enumFrom h := by
  induction es generalizing m h with
  | nil => simp
  | cons e es ih =>
    have hk' : ∀ x ∈ (m.insertOrAssign h e.2).keys, x < h + 1 := by
      intro x hx
      rcases StdMap.mem_keys_emplace.mp hx with rfl | hx
      · omega
      · exact Nat.lt_succ_of_lt (hk x (StdMap.mem_keys_erase.mp hx).1)
    rw [List.foldl_cons, ih _ _ hk', StdMap.insertOrAssign_of_lt _ hk]
    simp

/-- With nothing owned beforehand, any discovery and any candidate list, `connectors_` holds the
numbered connectors under the keys `1, …, n`, the first candidate (or else the first internal or
external connector) under key 1 and the other internal and external connectors after it in
discovery order; they are distinct; and `DrmHwcTwo::Init` creates their displays under the
handles `kPrimaryDisplay, …, kPrimaryDisplay + n - 1` in the same order. -/
theorem reorderConnectors_numbers_displays (drms : List (List DrmConnector))
    (primaryCandidates : List ConnectorRef) (kPrimaryDisplay : Nat) :
    let s := reorderConnectorsWith (allConnectors drms) primaryCandidates fun _ => false
    s.connectors.entries =
        (displayedConnectors drms primaryCandidates).enumFrom 1 ∧
      (displayedConnectors drms primaryCandidates).Nodup ∧
      (createDisplays kPrimaryDisplay s.connectors).entries =
        (displayedConnectors drms primaryCandidates).enumFrom kPrimaryDisplay := by
  intro s
  have he := reorderConnectors_entries drms primaryCandidates
  refine ⟨he, displayedConnectors_nodup drms primaryCandidates, ?_⟩
  rw [createDisplays, foldl_createDisplays _ _ _ (by simp [StdMap.empty, StdMap.keys]), he,
    List.enumFrom_map_snd]
  rfl

/-- Two boots with the order `HDMI-A-1` that `ResourceManager::Init` accepts with 0, after which
`DrmHwcTwo::Init` reports `None`: without any device node, with no connector and no display; and
with one device, which `IsKMSDev` accepts for its Crtc, encoder and connector, whose
`DrmDevice::Init` enumerates them and then fails to read the plane resources, with a display on
its connected HDMI connector. -/
theorem resourceManagerInit_ignores_device_failures :
    (resourceManagerInit "/dev/dri/card%" ⟨false, 0, 0, false, none, none⟩ [] "HDMI-A-1" true
        0).map (fun r => (r.ret, r.connectors.entries)) = some (0, []) ∧
      (resourceManagerInit "/dev/dri/card%" ⟨false, 0, 0, false, none, none⟩ [] "HDMI-A-1" true
        0).map (fun r => ((drmHwcTwoInit 0 r).1, (drmHwcTwoInit 0 r).2.entries)) =
        some (.none, []) ∧
      (resourceManagerInit "/dev/dri/card%" ⟨false, 0, 0, false, none, none⟩
        [⟨true, 0, 0, true,
          some ⟨[some ⟨31⟩], [some ⟨45, 31, [0]⟩], [some ⟨40, 11, 1, .connected, 45, [0]⟩]⟩, none⟩]
        "HDMI-A-1" true 0).map (fun r => (r.ret, r.drms.map Prod.fst)) =
        some (0, [-ENOENT]) ∧
      (resourceManagerInit "/dev/dri/card%" ⟨false, 0, 0, false, none, none⟩
        [⟨true, 0, 0, true,
          some ⟨[some ⟨31⟩], [some ⟨45, 31, [0]⟩], [some ⟨40, 11, 1, .connected, 45, [0]⟩]⟩, none⟩]
        "HDMI-A-1" true 0).map
          (fun r => ((drmHwcTwoInit 0 r).1, (drmHwcTwoInit 0 r).2.entries)) =
        some (.none, [(0, (0, ⟨40, 11, 1, .connected, 45, [0]⟩))]) := by
  decide

end DrmHwc
