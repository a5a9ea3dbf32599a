import DrmHwcomposer.Utils.StdMap
import DrmHwcomposer.Drm.Connector

/-!
# The state of a display

`HwcDisplay` as the modelled operations read and write it: the layers keyed by handle with the
allocation counter `layer_idx_`, the client target layer, the configuration table with the active
configuration, the mode staged for the next commit, the frame statistics and the flattening state.

The layer type `HwcLayer`, the configuration table `HwcDisplayConfigs` and the commit arguments
`AtomicCommitArgs` are declared in headers that are not among the sources; they are reduced here
to the fields the display's code reads.  Configuration ids are kept as the `int` keys of the
table: the code casts a `hwc2_config_t` to `int` on the way in and back on the way out, and the
two casts are inverse bijections.
-/

namespace DrmHwc

/-- `HWC2::Composition`. -/
inductive Composition
  | invalid
  | client
  | device
  | solidColor
  | cursor
  | sideband
  deriving DecidableEq, Repr

/-- `HWC2::Error`. -/
inductive Hwc2Error
  | none
  | badConfig
  | badDisplay
  | badLayer
  | badParameter
  | hasChanges
  | noResources
  | notValidated
  | unsupported
  deriving DecidableEq, Repr

/-- `UINT32_MAX`, the largest z-order. -/
def UINT32_MAX : Fin (2 ^ 32) := ⟨2 ^ 32 - 1, by decide⟩

/-- Modelled from the spec: a layer as the display reads it: the composition type the client
asked for, the type validation assigned, its z-order (a `uint32_t`), its release fence and its
buffer. -/
structure HwcLayer where
  sfType : Composition
  validatedType : Composition
  zOrder : Fin (2 ^ 32)
  releaseFence : Int
  buffer : Nat
  deriving DecidableEq, Repr

/-- Modelled from the spec: a freshly created layer (`HwcLayer()`). -/
def HwcLayer.new : HwcLayer := ⟨.invalid, .invalid, 0, -1, 0⟩

/-- Modelled from the spec: one configuration of the table: its id, its refresh-rate group, its
mode, and whether it is disabled. -/
structure HwcDisplayConfig where
  id : Int
  groupId : Int
  mode : DrmMode
  disabled : Bool
  deriving DecidableEq, Repr

/-- Modelled from the spec: `HwcDisplayConfigs`, the table keyed by config id and the active id. -/
structure HwcDisplayConfigs where
  hwcConfigs : StdMap Int HwcDisplayConfig
  activeConfigId : Int

/-- Modelled from the spec: the frame statistics `PresentDisplay` keeps, `total_frames_` and
`failed_kms_present_` of `HwcDisplay::Stats`.  The header that declares them is not among the
sources, so they are counted as natural numbers, with no wrap. -/
structure Stats where
  totalFrames : Nat
  failedKmsPresent : Nat
  deriving DecidableEq, Repr

/-- The fields of `HwcDisplay` the modelled operations use.  Modelled from the spec:
`total_stats_`, `frame_no_` and `flattenning_state_`, declared in a header that is not among the
sources; the counters are natural numbers and the flattening state an integer. -/
structure HwcDisplay where
  layers : StdMap Nat HwcLayer
  layerIdx : Nat
  clientLayer : HwcLayer
  configs : HwcDisplayConfigs
  stagedMode : Option DrmMode
  totalStats : Stats
  frameNo : Nat
  flattenningState : Int

/-- Modelled from the spec: `AtomicCommitArgs`, the arguments of one atomic commit: the mode to
set, the active state to set, whether the commit only tests, the layers of the composition,
whether it clears the active composition, and the out fence the commit returns.  The defaults are
those of `AtomicCommitArgs{}`. -/
structure AtomicCommitArgs where
  displayMode : Option DrmMode := none
  active : Option Bool := none
  testOnly : Bool := false
  composition : Option (List HwcLayer) := none
  clearActiveComposition : Bool := false
  outFence : Int := -1
  deriving DecidableEq, Repr

/-- The answers of the collaborators the display calls: the buffer import of each layer,
`SetLayers` and `Plan` of the composition, `ExecuteAtomicCommit` with the out fence it sets, and
`ActivateDisplayUsingDPMS`. -/
structure KmsResults where
  importBuffer : HwcLayer → Int
  setLayers : List HwcLayer → Int
  plan : List HwcLayer → Int
  executeAtomicCommit : AtomicCommitArgs → Int
  outFence : Int
  activateDisplayUsingDPMS : Int

end DrmHwc
