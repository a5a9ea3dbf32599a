import DrmHwcomposer.Hwc2.Composition
import DrmHwcomposer.Drm.PrimaryCandidates

/-!
# Bringing up one display

`HwcDisplay::Init` initialises the compositor, splits the planes it is given into primary and
overlay planes, looks up the display's Crtc and connector, starts the two vsync workers, sets the
backend, and ends with `ChosePreferredConfig`, which asks `HwcDisplayConfigs::Update` for the
configuration table and activates its preferred id.  Everything but the plane split and the
choice of configuration happens in collaborators outside the sources, whose answers are inputs
(`DisplayInitResults`).

Whether overlay planes are used is read from the property `vendor.hwc.drm.use_overlay_planes`
(default `1`) with `strtol(…, nullptr, 10)`, converted to `bool`.  `strtol` is modelled after the
C standard on a 64-bit `long`: leading white space, an optional sign, then the longest run of
decimal digits, with the value clamped to `[LONG_MIN, LONG_MAX]`.  `strtol_eq_zero_iff` reduces
the conversion to that run of digits: it is zero exactly when every digit is `0`.

`init_planes_and_config` says what `Init` leaves for every answer of the collaborators.
-/

namespace DrmHwc

/-! ## `strtol` in base 10 -/

/-- `LONG_MAX` of a 64-bit `long`. -/
def LONG_MAX : Int := 9223372036854775807

/-- `LONG_MIN` of a 64-bit `long`. -/
def LONG_MIN : Int := -9223372036854775808

/-- The sign `strtol` reads after the white space, and the text after it. -/
def strtolSign : List Char → Bool × List Char
  | '-' :: u => (true, u)
  | '+' :: u => (false, u)
  | u => (false, u)

/-- The run of decimal digits `strtol` converts: the longest one after the white space and the
sign. -/
def strtolDigits (s : List Char) : List Char :=
  (strtolSign (s.dropWhile isSpace)).2.takeWhile Char.isDigit

/-- The value of a run of decimal digits, most significant first. -/
def decimalValue (ds : List Char) : Nat :=
  ds.foldl (fun n c => 10 * n + (c.toNat - '0'.toNat)) 0

/-- `strtol(s, nullptr, 10)`: the signed value of the digits, clamped to `[LONG_MIN, LONG_MAX]`
when it overflows; 0 when no digit follows the sign. -/
def strtol (s : List Char) : Int :=
  let v : Int := decimalValue (strtolDigits s)
  if (strtolSign (s.dropWhile isSpace)).1 then max (-v) LONG_MIN else min v LONG_MAX

example : strtol " -12x".toList = -12 ∧ strtol "0x1".toList = 0 ∧ strtol "+007".toList = 7 := by
  decide

/-- A fold of decimal digits is zero exactly when it starts from zero and every digit is `0`. -/
lemma foldl_decimal_eq_zero_iff (ds : List Char) (n : Nat) (h : ∀ c ∈ ds, c.isDigit) :
    ds.foldl (fun n c => 10 * n + (c.toNat - '0'.toNat)) n = 0 ↔
      n = 0 ∧ ∀ c ∈ ds, c = '0' := by
  induction ds generalizing n with
  | nil => simp
  | cons c ds ih =>
    have h48 : 48 ≤ c.toNat := by
      have := h c (List.mem_cons_self c ds)
      simp only [Char.isDigit, Bool.and_eq_true, decide_eq_true_eq] at this
      exact this.1
    have h0 : '0'.toNat = 48 := rfl
    have hc : c.toNat - '0'.toNat = 0 ↔ c = '0' :=
      ⟨fun hz => Char.ext (UInt32.toNat.inj (show c.toNat = 48 by omega)),
        fun hz => by subst hz; rfl⟩
    have hn : 10 * n = 0 ↔ n = 0 := by omega
    rw [List.foldl_cons, ih _ fun c hc => h c (List.mem_cons_of_mem _ hc), List.forall_mem_cons,
      Nat.add_eq_zero_iff, hn, hc, and_assoc]

/-- `strtol` returns zero exactly when every digit of the run it converts is `0` (also when the
run is empty): the clamps never reach zero. -/
lemma strtol_eq_zero_iff (s : List Char) : strtol s = 0 ↔ ∀ c ∈ strtolDigits s, c = '0' := by
  have hv : decimalValue (strtolDigits s) = 0 ↔ ∀ c ∈ strtolDigits s, c = '0' := by
    rw [decimalValue, foldl_decimal_eq_zero_iff (strtolDigits s) 0 fun c hc =>
      List.mem_takeWhile_imp hc, and_iff_right rfl]
  rw [strtol, ← hv]
  unfold LONG_MAX LONG_MIN
  split <;> omega

/-! ## The plane split -/

/-- The planes a display keeps for composition, `primary_planes_` and `overlay_planes_`. -/
structure DisplayPlanes where
  primary : List DrmPlane
  overlay : List DrmPlane
  deriving DecidableEq, Repr

/-- The plane loop of `HwcDisplay::Init`: primary planes are always kept, overlay planes only
with `use_overlay_planes`, cursor planes never. -/
def splitPlanes (useOverlayPlanes : Bool) (acc : DisplayPlanes) : List DrmPlane → DisplayPlanes
  | [] => acc
  | p :: ps =>
    splitPlanes useOverlayPlanes
      (if p.type = .primary then { acc with primary := acc.primary ++ [p] }
      else if useOverlayPlanes ∧ p.type = .overlay then { acc with overlay := acc.overlay ++ [p] }
      else acc) ps

/-- The split appends the primary planes, and the overlay planes when they are used, in the
order given. -/
lemma splitPlanes_eq (u : Bool) (acc : DisplayPlanes) (ps : List DrmPlane) :
    splitPlanes u acc ps = ⟨acc.primary ++ ps.filter (·.type = .primary),
      acc.overlay ++ if u then ps.filter (·.type = .overlay) else []⟩ := by
  induction ps generalizing acc with
  | nil => cases u <;> simp [splitPlanes]
  | cons p ps ih =>
    rw [splitPlanes, ih]
    rcases p with ⟨_, _ | _ | _, _⟩ <;> cases u <;> simp

/-! ## `Init` and `ChosePreferredConfig` -/

/-- The answers of the collaborators `HwcDisplay::Init` calls: `compositor_.Init`, whether
`GetCrtcForDisplay` and `GetConnectorForDisplay` found a Crtc and a connector, the `Init` of the
vsync worker and of the flattening vsync worker, `SetBackendForDisplay`, and
`HwcDisplayConfigs::Update` with its error, the table it leaves and its `preferred_config_id`. -/
structure DisplayInitResults where
  compositorInit : Int
  crtcFound : Bool
  connectorFound : Bool
  vsyncWorkerInit : Int
  flatteningVsyncWorkerInit : Int
  setBackendForDisplay : Int
  configsUpdate : Hwc2Error
  configs : HwcDisplayConfigs
  preferredConfigId : Int

namespace HwcDisplay

/-- `HwcDisplay::ChosePreferredConfig`: `BadDisplay` when `Update` fails, and otherwise
`SetActiveConfig` of the preferred id. -/
def chosePreferredConfig (r : DisplayInitResults) (d : HwcDisplay) : Hwc2Error × HwcDisplay :=
  let d := { d with configs := r.configs }
  if r.configsUpdate ≠ .none then (.badDisplay, d)
  else d.setActiveConfig r.preferredConfigId

/-- `HwcDisplay::Init` with the planes it is given and the value of
`vendor.hwc.drm.use_overlay_planes`: its error, the display and the planes it keeps. -/
def init (r : DisplayInitResults) (useOverlayPlanesProp : String) (planes : List DrmPlane)
    (d : HwcDisplay) (dp : DisplayPlanes) : Hwc2Error × HwcDisplay × DisplayPlanes :=
  if r.compositorInit ≠ 0 then (.noResources, d, dp)
  else
    let useOverlayPlanes := strtol (propertyGet useOverlayPlanesProp "1").toList ≠ 0
    let dp := splitPlanes useOverlayPlanes dp planes
    if !r.crtcFound then (.badDisplay, d, dp)
    else if !r.connectorFound then (.badDisplay, d, dp)
    else if r.vsyncWorkerInit ≠ 0 then (.badDisplay, d, dp)
    else if r.flatteningVsyncWorkerInit ≠ 0 then (.badDisplay, d, dp)
    else if r.setBackendForDisplay ≠ 0 then (.badDisplay, d, dp)
    else
      let res := d.chosePreferredConfig r
      (res.1, res.2, dp)

/-- `ChosePreferredConfig` succeeds exactly when `Update` does and its table holds the preferred
id, which it then activates, staging that configuration's mode. -/
lemma chosePreferredConfig_spec (r : DisplayInitResults) (d : HwcDisplay) :
    ((d.chosePreferredConfig r).1 = .none ↔
        r.configsUpdate = .none ∧ r.configs.hwcConfigs.contains r.preferredConfigId) ∧
      ((d.chosePreferredConfig r).1 = .none →
        (d.chosePreferredConfig r).2.configs.activeConfigId = r.preferredConfigId ∧
          (d.chosePreferredConfig r).2.stagedMode =
            (r.configs.hwcConfigs.find? r.preferredConfigId).map (·.mode)) := by
  unfold chosePreferredConfig setActiveConfig
  by_cases hu : r.configsUpdate = .none
  · rw [if_neg (not_not.mpr hu), StdMap.contains_iff, ← StdMap.isSome_find?_iff]
    dsimp only
    cases r.configs.hwcConfigs.find? r.preferredConfigId <;> simp [hu]
  · simp [hu]

/-- Past a compositor that initialised, `Init` keeps the planes of the split whatever fails after
it, and ends as `ChosePreferredConfig` when every other collaborator succeeds. -/
lemma init_of_compositorInit {r : DisplayInitResults} (prop : String) (planes : List DrmPlane)
    (d : HwcDisplay) (dp : DisplayPlanes) (h0 : r.compositorInit = 0) :
    let ok := r.crtcFound ∧ r.connectorFound ∧ r.vsyncWorkerInit = 0 ∧
      r.flatteningVsyncWorkerInit = 0 ∧ r.setBackendForDisplay = 0
    d.init r prop planes dp =
      (if ok then (d.chosePreferredConfig r).1 else .badDisplay,
        if ok then (d.chosePreferredConfig r).2 else d,
        splitPlanes (strtol (propertyGet prop "1").toList ≠ 0) dp planes) := by
  unfold init
  rw [if_neg (not_not.mpr h0)]
  dsimp only
  simp only [← ite_or]
  by_cases hg : r.crtcFound ∧ r.connectorFound ∧ r.vsyncWorkerInit = 0 ∧
      r.flatteningVsyncWorkerInit = 0 ∧ r.setBackendForDisplay = 0
  · rw [if_pos hg, if_pos hg, if_neg (by simpa [not_or] using hg)]
  · rw [if_neg hg, if_neg hg, if_pos (by simpa [or_iff_not_and_not] using hg)]

/-- What `Init` leaves, for every answer of the collaborators: a failed compositor changes
nothing; otherwise the primary planes are kept, and the overlay planes exactly when the digits
`strtol` reads from the property (by default `1`) are not all `0`, in the order given; `Init`
succeeds exactly when every collaborator does and the table `Update` leaves holds the preferred
id, and then that id is active and its mode staged. -/
theorem init_planes_and_config (r : DisplayInitResults) (prop : String) (planes : List DrmPlane)
    (d : HwcDisplay) (dp : DisplayPlanes) :
    (r.compositorInit ≠ 0 → d.init r prop planes dp = (.noResources, d, dp)) ∧
      (r.compositorInit = 0 → (d.init r prop planes dp).2.2 =
        ⟨dp.primary ++ planes.filter (·.type = .primary),
          dp.overlay ++ if ∀ c ∈ strtolDigits (propertyGet prop "1").toList, c = '0' then []
            else planes.filter (·.type = .overlay)⟩) ∧
      ((d.init r prop planes dp).1 = .none ↔
        r.compositorInit = 0 ∧ r.crtcFound ∧ r.connectorFound ∧ r.vsyncWorkerInit = 0 ∧
          r.flatteningVsyncWorkerInit = 0 ∧ r.setBackendForDisplay = 0 ∧
          r.configsUpdate = .none ∧ r.configs.hwcConfigs.contains r.preferredConfigId) ∧
      ((d.init r prop planes dp).1 = .none →
        (d.init r prop planes dp).2.1.configs.activeConfigId = r.preferredConfigId ∧
          (d.init r prop planes dp).2.1.stagedMode =
            (r.configs.hwcConfigs.find? r.preferredConfigId).map (·.mode)) := by
  by_cases h0 : r.compositorInit = 0
  · have hc := chosePreferredConfig_spec r d
    rw [init_of_compositorInit prop planes d dp h0]
    refine ⟨fun h => absurd h0 h, fun _ => ?_, ?_⟩
    · simp only [splitPlanes_eq, ← strtol_eq_zero_iff]
      by_cases hz : strtol (propertyGet prop "1").toList = 0 <;> simp [hz]
    · generalize d.chosePreferredConfig r = res at hc
      split_ifs with hg
      · refine ⟨hc.1.trans ?_, hc.2⟩
        simp [h0, hg]
      · simp_all
  · unfold init
    simp [h0]

end HwcDisplay

end DrmHwc
