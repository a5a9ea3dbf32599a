import DrmHwcomposer.Hwc2.Composition
import DrmHwcomposer.Hwc2.Queries

/-!
# Display attributes

`HwcDisplay::GetDisplayAttribute` answers, for a configuration of the table, its width, height,
vsync period, dots per 1000 inches along either axis, or refresh-rate group;
`GetDisplayVsyncPeriod` asks it about the active configuration.  The connector's physical size
(`mm_width`, `mm_height`, `uint32_t`) is a parameter, and so is the vsync period of a mode, which
the code computes in floating point from `DrmMode::v_refresh`, outside the sources.

The dots per 1000 inches are computed in 32-bit unsigned arithmetic and cast to `int`
(`dotsPerKiloInch`).  `getDisplayConfigs_ids_accepted` follows a client through the handshake: the ids a
fill of `GetDisplayConfigs` hands out after its counting call are accepted by
`GetDisplayAttribute` and `SetActiveConfig`, after which the display reports the id as active,
provided the refreshed table keys each configuration by its own id.
-/

namespace DrmHwc

/-! ## The attributes of a configuration -/

/-- `static_cast<int>` of a `uint32_t`: the two's-complement reading of its 32 bits. -/
def toInt32 (x : Nat) : Int :=
  if x < 2 ^ 31 then x else (x : Int) - 2 ^ 32

/-- `kUmPerInch`, micrometres per inch. -/
def kUmPerInch : Nat := 25400

/-- The dots per 1000 inches of `px` pixels over `mm` millimetres, as `GetDisplayAttribute`
computes them: the product in 32 bits, an unsigned division by the `uint32_t` size, and a cast to
`int`; -1 when the size is 0. -/
def dotsPerKiloInch (px mm : Nat) : Int :=
  if mm ≠ 0 then toInt32 (px * kUmPerInch % 2 ^ 32 / mm) else -1

namespace HwcDisplay

/-- `HwcDisplay::GetDisplayAttribute` for the `int32_t` attribute `Width` (1), `Height` (2),
`VsyncPeriod` (3), `DpiX` (4), `DpiY` (5) or `ConfigGroup` (7): its error and the value written,
if any.  An unknown configuration writes nothing; an unknown attribute writes -1. -/
def getDisplayAttribute (d : HwcDisplay) (mmWidth mmHeight : Nat) (vsyncPeriod : DrmMode → Int)
    (config attributeIn : Int) : Hwc2Error × Option Int :=
  match d.configs.hwcConfigs.find? config with
  | none => (.badConfig, none)
  | some c =>
    if attributeIn = 1 then (.none, some (toInt32 c.mode.hDisplay))
    else if attributeIn = 2 then (.none, some (toInt32 c.mode.vDisplay))
    else if attributeIn = 3 then (.none, some (vsyncPeriod c.mode))
    else if attributeIn = 4 then (.none, some (dotsPerKiloInch c.mode.hDisplay mmWidth))
    else if attributeIn = 5 then (.none, some (dotsPerKiloInch c.mode.vDisplay mmHeight))
    else if attributeIn = 7 then (.none, some c.groupId)
    else (.badConfig, some (-1))

/-- `HwcDisplay::GetDisplayVsyncPeriod`: the vsync period of the active configuration. -/
def getDisplayVsyncPeriod (d : HwcDisplay) (mmWidth mmHeight : Nat)
    (vsyncPeriod : DrmMode → Int) : Hwc2Error × Option Int :=
  d.getDisplayAttribute mmWidth mmHeight vsyncPeriod d.configs.activeConfigId 3

end HwcDisplay

/-- `HwcDisplay::GetDisplayConnectionType`: `Internal` (0) for an internal connector, `External`
(1) for an external one, and `BadConfig` for any other. -/
def getDisplayConnectionType (c : DrmConnector) : Hwc2Error × Option Nat :=
  if c.internal then (.none, some 0)
  else if c.external then (.none, some 1)
  else (.badConfig, none)

/-! ## The configuration handshake -/

/-- `find` gives the configuration stored under an id. -/
lemma find?_hwcConfigs_of_mem {d : HwcDisplay} {k : Int} {c : HwcDisplayConfig}
    (h : (k, c) ∈ d.configs.hwcConfigs.entries) : d.configs.hwcConfigs.find? k = some c :=
  StdMap.find?_of_mem h

/-- Every id a fill writes is the id of an enabled configuration of the list. -/
lemma mem_displayConfigsLoop (n : Nat) (cs : List HwcDisplayConfig) (idx : Nat) :
    ∀ w ∈ (displayConfigsLoop n true cs idx).1,
      ∃ c ∈ cs, c.disabled = false ∧ c.id = w.2 := by
  induction cs generalizing idx with
  | nil => simp [displayConfigsLoop]
  | cons c cs ih =>
    unfold displayConfigsLoop
    by_cases hd : c.disabled
    · rw [if_pos hd]
      intro w hw
      obtain ⟨c', hc', h⟩ := ih idx w hw
      exact ⟨c', List.mem_cons_of_mem _ hc', h⟩
    · by_cases hn : n ≤ idx
      · simp [hd, hn]
      · simp only [hd, hn, and_false, if_false, if_true, Bool.false_eq_true, List.mem_cons,
          forall_eq_or_imp]
        refine ⟨⟨c, .inl rfl, by simpa using hd, rfl⟩, fun w hw => ?_⟩
        obtain ⟨c', hc', h⟩ := ih _ w hw
        exact ⟨c', .inr hc', h⟩

namespace HwcDisplay

/-- A known configuration answers every attribute. -/
lemma getDisplayAttribute_fst {d : HwcDisplay} {config : Int} {c : HwcDisplayConfig}
    (hc : d.configs.hwcConfigs.find? config = some c) (mmWidth mmHeight : Nat)
    (vsyncPeriod : DrmMode → Int) {a : Int} (ha : a ∈ [1, 2, 3, 4, 5, 7]) :
    (d.getDisplayAttribute mmWidth mmHeight vsyncPeriod config a).1 = .none := by
  simp only [List.mem_cons, List.mem_singleton, List.not_mem_nil, or_false] at ha
  unfold getDisplayAttribute
  rw [hc]
  rcases ha with rfl | rfl | rfl | rfl | rfl | rfl <;> rfl

/-- The handshake of a client with a display: after the counting call of `GetDisplayConfigs`
refreshes the table, every id a fill hands out is a configuration whose every attribute
`GetDisplayAttribute` answers, and `SetActiveConfig` accepts it, after which `GetActiveConfig`
reports it and `GetDisplayVsyncPeriod` answers for its mode; provided the refreshed table keys each
configuration by its own id. -/
theorem getDisplayConfigs_ids_accepted (d : HwcDisplay) (refreshed : StdMap Int HwcDisplayConfig)
    (hkey : ∀ e ∈ refreshed.entries, e.2.id = e.1) (m n : Nat) (mmWidth mmHeight : Nat)
    (vsyncPeriod : DrmMode → Int) :
    let d₁ := (d.getDisplayConfigs refreshed m false).1
    ∀ w ∈ (d₁.getDisplayConfigs refreshed n true).2.1,
      ∃ c, d₁.configs.hwcConfigs.find? w.2 = some c ∧
        (∀ a ∈ [1, 2, 3, 4, 5, 7],
          (d₁.getDisplayAttribute mmWidth mmHeight vsyncPeriod w.2 a).1 = .none) ∧
        (d₁.setActiveConfig w.2).1 = .none ∧
        ((d₁.setActiveConfig w.2).2.getActiveConfig = (.none, some w.2)) ∧
        (d₁.setActiveConfig w.2).2.getDisplayVsyncPeriod mmWidth mmHeight vsyncPeriod =
          (.none, some (vsyncPeriod c.mode)) := by
  intro d₁ w hw
  obtain ⟨c, hc, -, hid⟩ := mem_displayConfigsLoop n _ 0 w hw
  obtain ⟨⟨k, c'⟩, he, rfl⟩ := List.mem_map.mp hc
  have hk : k = w.2 := (hkey _ he).symm.trans hid
  subst hk
  have hfind : d₁.configs.hwcConfigs.find? w.2 = some c' := find?_hwcConfigs_of_mem he
  refine ⟨c', hfind, fun a ha => getDisplayAttribute_fst hfind _ _ _ ha, ?_, ?_, ?_⟩
  · simp [setActiveConfig, hfind]
  · simpa [setActiveConfig, getActiveConfig, hfind, StdMap.keys] using
      List.mem_map_of_mem Prod.fst he
  · simp [setActiveConfig, getDisplayVsyncPeriod, getDisplayAttribute, hfind]

/-- The handshake on a display whose refreshed table holds one configuration, with id 1. -/
theorem getDisplayConfigs_ids_accepted_one_config :
    let c : HwcDisplayConfig :=
      ⟨1, 0, ⟨0, 1920, 0, 0, 0, 0, 1080, 0, 0, 0, 0, 60, 0, 0, ""⟩, false⟩
    let refreshed : StdMap Int HwcDisplayConfig := ⟨[(1, c)], by decide⟩
    let d : HwcDisplay := ⟨.empty, 0, .new, ⟨.empty, 0⟩, none, ⟨0, 0⟩, 0, 0⟩
    (∀ e ∈ refreshed.entries, e.2.id = e.1) ∧
      let d₁ := (d.getDisplayConfigs refreshed 0 false).1
      ∀ w ∈ (d₁.getDisplayConfigs refreshed 1 true).2.1,
        ∃ c, d₁.configs.hwcConfigs.find? w.2 = some c ∧
          (∀ a ∈ [1, 2, 3, 4, 5, 7],
            (d₁.getDisplayAttribute 344 194 (fun _ => 16666666) w.2 a).1 = .none) ∧
          (d₁.setActiveConfig w.2).1 = .none ∧
          ((d₁.setActiveConfig w.2).2.getActiveConfig = (.none, some w.2)) ∧
          (d₁.setActiveConfig w.2).2.getDisplayVsyncPeriod 344 194 (fun _ => 16666666) =
            (.none, some 16666666) := by
  intro c refreshed d
  exact ⟨by decide, getDisplayConfigs_ids_accepted d refreshed (by decide) 0 1 344 194 _⟩

end HwcDisplay

end DrmHwc
