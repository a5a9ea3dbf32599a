import DrmHwcomposer.Hwc2.DrmHwcTwo
import DrmHwcomposer.Hwc2.Attributes
import DrmHwcomposer.Hwc2.Flattening

/-!
# The client's callbacks

`DrmHwcTwo::RegisterCallback` stores the function and data pointers of the client's hotplug,
refresh, vsync and vsync 2.4 callbacks (with `PLATFORM_SDK_VERSION > 29`, as for
`GetDisplayConnectionType`); any other descriptor is ignored.  Registering the hotplug callback
also runs `Init` when there is no display yet, and then hands every display to
`HandleHotplug(true)`.  Each registration sees `ResourceManager::Init` anew, so its outcome is
part of the registration.

The callbacks are read on three paths: `SendHotplugEventToClient`, the refresh request of the
flattening worker, and the vsync worker `HwcDisplay::Init` starts, which prefers the vsync 2.4
callback and passes it the period `GetDisplayVsyncPeriod` writes.  Each path calls the client
only when both pointers are set.

`registerRun_client_calls` says whom the client is called through after any run of
registrations: the last callback registered for the descriptor.  `registerRun_displays` says when
the displays come up: at the first hotplug registration whose `Init` brings up any, never to
change afterwards, and which displays each registration hands to `HandleHotplug`.
-/

namespace DrmHwc

/-! ## The callbacks and their registration -/

/-- `HWC2::Callback::Hotplug`. -/
def HWC2_CALLBACK_HOTPLUG : Int := 1

/-- `HWC2::Callback::Refresh`. -/
def HWC2_CALLBACK_REFRESH : Int := 2

/-- `HWC2::Callback::Vsync`. -/
def HWC2_CALLBACK_VSYNC : Int := 3

/-- `HWC2::Callback::Vsync_2_4`. -/
def HWC2_CALLBACK_VSYNC_2_4 : Int := 4

/-- A stored callback: the function pointer and the client's data pointer, 0 for `nullptr`. -/
structure HwcCallback where
  function : Nat
  data : Nat
  deriving DecidableEq, Repr

/-- Whether the client can be called through the callback: both pointers are set. -/
def HwcCallback.isSet (cb : HwcCallback) : Bool :=
  cb.function ≠ 0 && cb.data ≠ 0

/-- The members of `DrmHwcTwo` that registration and the callback paths use: `displays_`, keyed by
handle, and the four stored callbacks. -/
structure DrmHwcTwo where
  displays : StdMap Nat ConnectorRef
  hotplugCallback : HwcCallback
  refreshCallback : HwcCallback
  vsyncCallback : HwcCallback
  vsync24Callback : HwcCallback

/-- One call of `RegisterCallback`: the descriptor, the callback, and what `ResourceManager::Init`
returns should this call run `Init`. -/
structure Registration where
  descriptor : Int
  callback : HwcCallback
  resourceManager : ResourceManagerResult

namespace DrmHwcTwo

/-- `UpdateAllDiaplaysHotplugState`: the displays it hands to `HandleHotplug`, in handle order. -/
def updateAllDiaplaysHotplugState (t : DrmHwcTwo) : List Nat :=
  t.displays.keys

/-- `DrmHwcTwo::RegisterCallback`, displays numbered from `kPrimaryDisplay`: its error, the state
it leaves, and the displays it hands to `HandleHotplug(true)`.  `Init` is only run on an empty
`displays_`, so the displays it creates are all there is. -/
def registerCallback (kPrimaryDisplay : Nat) (t : DrmHwcTwo) (r : Registration) :
    Hwc2Error × DrmHwcTwo × List Nat :=
  if r.descriptor = HWC2_CALLBACK_HOTPLUG then
    let t := { t with hotplugCallback := r.callback }
    let t := if t.displays.size = 0 then
        { t with displays := (drmHwcTwoInit kPrimaryDisplay r.resourceManager).2 }
      else t
    (.none, t, t.updateAllDiaplaysHotplugState)
  else if r.descriptor = HWC2_CALLBACK_REFRESH then
    (.none, { t with refreshCallback := r.callback }, [])
  else if r.descriptor = HWC2_CALLBACK_VSYNC then
    (.none, { t with vsyncCallback := r.callback }, [])
  else if r.descriptor = HWC2_CALLBACK_VSYNC_2_4 then
    (.none, { t with vsync24Callback := r.callback }, [])
  else (.none, t, [])

/-- A run of registrations: the state it leaves, and for each registration the displays it hands
to `HandleHotplug`. -/
def registerRun (kPrimaryDisplay : Nat) (t : DrmHwcTwo) :
    List Registration → DrmHwcTwo × List (List Nat)
  | [] => (t, [])
  | r :: rs =>
    let s := t.registerCallback kPrimaryDisplay r
    let rest := registerRun kPrimaryDisplay s.2.1 rs
    (rest.1, s.2.2 :: rest.2)

/-! ## The paths that call the client -/

/-- `SendHotplugEventToClient`: the call of the hotplug callback with `HWC2_CONNECTION_CONNECTED`
(1) or `HWC2_CONNECTION_DISCONNECTED` (2), if both its pointers are set. -/
def sendHotplugEventToClient (t : DrmHwcTwo) (displayid : Nat) (connected : Bool) :
    Option (HwcCallback × Nat × Int) :=
  if t.hotplugCallback.isSet then some (t.hotplugCallback, displayid, if connected then 1 else 2)
  else none

/-- A call of one of the client's vsync callbacks. -/
inductive VsyncCall
  | vsync24 (cb : HwcCallback) (display : Nat) (timestamp : Int) (periodNs : Nat)
  | vsync (cb : HwcCallback) (display : Nat) (timestamp : Int)
  deriving DecidableEq, Repr

/-- The period the vsync 2.4 callback receives: `period_ns` starts at 0, and
`GetDisplayVsyncPeriod` writes the active configuration's period through an `int32_t` pointer
into the `uint32_t`. -/
def vsyncPeriodNs (d : HwcDisplay) (mmWidth mmHeight : Nat) (vsyncPeriod : DrmMode → Int) : Nat :=
  ((d.getDisplayVsyncPeriod mmWidth mmHeight vsyncPeriod).2.getD 0 % 2 ^ 32).toNat

/-- The callback `HwcDisplay::Init` gives the vsync worker of the display `handle`, in the display
state `d`: the vsync 2.4 callback if both its pointers are set, else the vsync callback if both
of its are. -/
def onVsync (t : DrmHwcTwo) (d : HwcDisplay) (mmWidth mmHeight : Nat)
    (vsyncPeriod : DrmMode → Int) (handle : Nat) (timestamp : Int) : Option VsyncCall :=
  if t.vsync24Callback.isSet then
    some (.vsync24 t.vsync24Callback handle timestamp
      (vsyncPeriodNs d mmWidth mmHeight vsyncPeriod))
  else if t.vsyncCallback.isSet then some (.vsync t.vsyncCallback handle timestamp)
  else none

/-- The callback `HwcDisplay::Init` gives the flattening vsync worker: one tick of the countdown,
with the refresh callback it calls, if any. -/
def onFlatteningVsync (t : DrmHwcTwo) (state : Int) : Int × Option HwcCallback :=
  let r := flatteningTick state t.refreshCallback.isSet
  (r.1, if r.2 then some t.refreshCallback else none)

end DrmHwcTwo

/-! ## The log of a run of registrations -/

/-- The callback last registered for a descriptor, or `init` when none is. -/
def lastRegistration (descriptor : Int) (init : HwcCallback) (rs : List Registration) :
    HwcCallback :=
  (((rs.filter (·.descriptor = descriptor)).getLast?).map (·.callback)).getD init

/-- The displays `Init` creates at the first hotplug registration where it creates any, or none. -/
def firstDisplays (kPrimaryDisplay : Nat) : List Registration → StdMap Nat ConnectorRef
  | [] => .empty
  | r :: rs =>
    if r.descriptor = HWC2_CALLBACK_HOTPLUG ∧
        (drmHwcTwoInit kPrimaryDisplay r.resourceManager).2.size ≠ 0 then
      (drmHwcTwoInit kPrimaryDisplay r.resourceManager).2
    else firstDisplays kPrimaryDisplay rs

/-- The displays after a run of registrations from `t`: those `t` has, or else those of the first
hotplug registration that brings any up. -/
def displaysAfter (kPrimaryDisplay : Nat) (t : DrmHwcTwo) (rs : List Registration) :
    StdMap Nat ConnectorRef :=
  if t.displays.size = 0 then firstDisplays kPrimaryDisplay rs else t.displays

/-- The last registration of a log is that of its tail, or else that of its first call. -/
lemma lastRegistration_cons (descriptor : Int) (init : HwcCallback) (r : Registration)
    (rs : List Registration) :
    lastRegistration descriptor init (r :: rs) =
      lastRegistration descriptor (if r.descriptor = descriptor then r.callback else init) rs := by
  unfold lastRegistration
  by_cases h : r.descriptor = descriptor
  · rw [List.filter_cons_of_pos (by simpa using h), List.getLast?_cons]
    cases (rs.filter (·.descriptor = descriptor)).getLast? <;> simp [h]
  · rw [List.filter_cons_of_neg (by simpa using h)]
    simp [h]

namespace DrmHwcTwo

/-- What one registration does: it stores the callback under its descriptor, runs `Init` for a
hotplug registration while there is no display, and hands the displays it then has to
`HandleHotplug`. -/
lemma registerCallback_spec (k : Nat) (t : DrmHwcTwo) (r : Registration) :
    let s := (t.registerCallback k r).2.1
    s.hotplugCallback =
        (if r.descriptor = HWC2_CALLBACK_HOTPLUG then r.callback else t.hotplugCallback) ∧
      s.refreshCallback =
        (if r.descriptor = HWC2_CALLBACK_REFRESH then r.callback else t.refreshCallback) ∧
      s.vsyncCallback =
        (if r.descriptor = HWC2_CALLBACK_VSYNC then r.callback else t.vsyncCallback) ∧
      s.vsync24Callback =
        (if r.descriptor = HWC2_CALLBACK_VSYNC_2_4 then r.callback else t.vsync24Callback) ∧
      s.displays = (if r.descriptor = HWC2_CALLBACK_HOTPLUG ∧ t.displays.size = 0 then
          (drmHwcTwoInit k r.resourceManager).2 else t.displays) ∧
      (t.registerCallback k r).2.2 =
        if r.descriptor = HWC2_CALLBACK_HOTPLUG then s.displays.keys else [] := by
  obtain ⟨desc, cb, rm⟩ := r
  simp only [registerCallback, HWC2_CALLBACK_HOTPLUG, HWC2_CALLBACK_REFRESH, HWC2_CALLBACK_VSYNC,
    HWC2_CALLBACK_VSYNC_2_4]
  by_cases h1 : desc = 1
  · subst h1
    by_cases hd : t.displays.size = 0 <;> simp [hd, updateAllDiaplaysHotplugState]
  by_cases h2 : desc = 2
  · subst h2; simp
  by_cases h3 : desc = 3
  · subst h3; simp
  by_cases h4 : desc = 4
  · subst h4; simp
  simp [h1, h2, h3, h4]

/-- A registration moves the displays after any later run as the run from before it would. -/
lemma displaysAfter_registerCallback (k : Nat) (t : DrmHwcTwo) (r : Registration)
    (p : List Registration) :
    displaysAfter k (t.registerCallback k r).2.1 p = displaysAfter k t (r :: p) := by
  simp only [displaysAfter, firstDisplays]
  rw [(registerCallback_spec k t r).2.2.2.2.1]
  by_cases h0 : t.displays.size = 0
  · by_cases hh : r.descriptor = HWC2_CALLBACK_HOTPLUG
    · by_cases hi : (drmHwcTwoInit k r.resourceManager).2.size = 0 <;> simp [h0, hh, hi]
    · simp [h0, hh]
  · simp [h0]

/-- The displays a run leaves. -/
lemma registerRun_fst_displays (k : Nat) (t : DrmHwcTwo) (rs : List Registration) :
    (registerRun k t rs).1.displays = displaysAfter k t rs := by
  induction rs generalizing t with
  | nil =>
    unfold displaysAfter firstDisplays
    split_ifs with h
    · exact StdMap.eq_empty_of_size_eq_zero h
    · rfl
  | cons r rs ih => rw [registerRun, ih, displaysAfter_registerCallback]

/-- Each registration of a run hands to `HandleHotplug` the displays there are right after it, if
it is a hotplug registration, and nothing otherwise. -/
lemma registerRun_snd (k : Nat) (t : DrmHwcTwo) (rs : List Registration) :
    (registerRun k t rs).2 = rs.mapIdx fun i r =>
      if r.descriptor = HWC2_CALLBACK_HOTPLUG then (displaysAfter k t (rs.take (i + 1))).keys
      else [] := by
  induction rs generalizing t with
  | nil => rfl
  | cons r rs ih =>
    rw [registerRun, ih, List.mapIdx_cons]
    dsimp only
    congr 1
    · rw [(registerCallback_spec k t r).2.2.2.2.2, Nat.zero_add, List.take_succ_cons,
        ← displaysAfter_registerCallback, ← registerRun_fst_displays]
      rfl
    · simp only [List.take_succ_cons, displaysAfter_registerCallback]

/-- The callbacks a run leaves: for each descriptor, the last one registered. -/
lemma registerRun_callbacks (k : Nat) (t : DrmHwcTwo) (rs : List Registration) :
    (registerRun k t rs).1.hotplugCallback =
        lastRegistration HWC2_CALLBACK_HOTPLUG t.hotplugCallback rs ∧
      (registerRun k t rs).1.refreshCallback =
        lastRegistration HWC2_CALLBACK_REFRESH t.refreshCallback rs ∧
      (registerRun k t rs).1.vsyncCallback =
        lastRegistration HWC2_CALLBACK_VSYNC t.vsyncCallback rs ∧
      (registerRun k t rs).1.vsync24Callback =
        lastRegistration HWC2_CALLBACK_VSYNC_2_4 t.vsync24Callback rs := by
  induction rs generalizing t with
  | nil => exact ⟨rfl, rfl, rfl, rfl⟩
  | cons r rs ih =>
    obtain ⟨h1, h2, h3, h4, -⟩ := registerCallback_spec k t r
    simp only [registerRun, lastRegistration_cons, ← h1, ← h2, ← h3, ← h4]
    exact ih _

/-- The period the vsync 2.4 callback receives is the active configuration's, as a `uint32_t`,
and 0 when the active id has no configuration. -/
lemma vsyncPeriodNs_eq (d : HwcDisplay) (mmWidth mmHeight : Nat) (vsyncPeriod : DrmMode → Int) :
    vsyncPeriodNs d mmWidth mmHeight vsyncPeriod =
      ((d.configs.hwcConfigs.find? d.configs.activeConfigId).map fun c =>
        (vsyncPeriod c.mode % 2 ^ 32).toNat).getD 0 := by
  unfold vsyncPeriodNs HwcDisplay.getDisplayVsyncPeriod HwcDisplay.getDisplayAttribute
  cases d.configs.hwcConfigs.find? d.configs.activeConfigId <;> rfl

/-- After any run of registrations, the client is called through the callback last registered for
each descriptor, and only when both its pointers are set: hotplug events through the hotplug
callback; a vsync through the vsync 2.4 callback, with the active configuration's period (0 when
the active id has no configuration), and otherwise through the vsync callback; the refresh
request of the flattening countdown, on its tick from 1, through the refresh callback. -/
theorem registerRun_client_calls (k : Nat) (t : DrmHwcTwo) (rs : List Registration) :
    let t' := (registerRun k t rs).1
    let hotplug := lastRegistration HWC2_CALLBACK_HOTPLUG t.hotplugCallback rs
    let refresh := lastRegistration HWC2_CALLBACK_REFRESH t.refreshCallback rs
    let vsync := lastRegistration HWC2_CALLBACK_VSYNC t.vsyncCallback rs
    let vsync24 := lastRegistration HWC2_CALLBACK_VSYNC_2_4 t.vsync24Callback rs
    (∀ displayid connected, t'.sendHotplugEventToClient displayid connected =
        if hotplug.isSet then some (hotplug, displayid, if connected then 1 else 2) else none) ∧
      (∀ d mmWidth mmHeight vsyncPeriod handle timestamp,
        t'.onVsync d mmWidth mmHeight vsyncPeriod handle timestamp =
          if vsync24.isSet then
            some (.vsync24 vsync24 handle timestamp
              (((d.configs.hwcConfigs.find? d.configs.activeConfigId).map fun c =>
                (vsyncPeriod c.mode % 2 ^ 32).toNat).getD 0))
          else if vsync.isSet then some (.vsync vsync handle timestamp) else none) ∧
      (∀ state, t'.onFlatteningVsync state =
        ((flatteningTick state refresh.isSet).1,
          if state = 1 ∧ refresh.isSet then some refresh else none)) := by
  obtain ⟨h1, h2, h3, h4⟩ := registerRun_callbacks k t rs
  refine ⟨fun id c => by rw [sendHotplugEventToClient, h1], fun d w h p n ts => ?_,
    fun st => ?_⟩
  · rw [onVsync, h3, h4, vsyncPeriodNs_eq]
  · rw [onFlatteningVsync, h2, flatteningTick_snd]
    simp

/-- Once a run has brought displays up, no later registration changes them. -/
lemma firstDisplays_append (k : Nat) (rs rs' : List Registration)
    (h : (firstDisplays k rs).size ≠ 0) : firstDisplays k (rs ++ rs') = firstDisplays k rs := by
  induction rs with
  | nil => exact absurd rfl h
  | cons r rs ih =>
    simp only [List.cons_append, firstDisplays] at h ⊢
    split_ifs at h ⊢ with hr
    · rfl
    · exact ih h

/-- From any state without displays, a run of registrations brings the displays up at its first
hotplug registration whose `Init` brings up any, and they never change afterwards; each hotplug
registration hands to `HandleHotplug(true)` the displays there are right after it, and the other
registrations hand none. -/
theorem registerRun_displays (k : Nat) (t : DrmHwcTwo) (rs : List Registration) :
    let t₀ := { t with displays := StdMap.empty }
    (registerRun k t₀ rs).1.displays = firstDisplays k rs ∧
      (∀ rs', (firstDisplays k rs').size ≠ 0 →
        (registerRun k t₀ (rs' ++ rs)).1.displays = firstDisplays k rs') ∧
      (registerRun k t₀ rs).2 = rs.mapIdx fun i r =>
        if r.descriptor = HWC2_CALLBACK_HOTPLUG then (firstDisplays k (rs.take (i + 1))).keys
        else [] := by
  intro t₀
  have h0 : t₀.displays.size = 0 := rfl
  refine ⟨by rw [registerRun_fst_displays, displaysAfter, if_pos h0], fun rs' h => ?_, ?_⟩
  · rw [registerRun_fst_displays, displaysAfter, if_pos h0, firstDisplays_append k rs' rs h]
  · rw [registerRun_snd]
    simp only [displaysAfter, if_pos h0]

end DrmHwcTwo

end DrmHwc
