import DrmHwcomposer.Drm.Objects
import DrmHwcomposer.Drm.Connector
import DrmHwcomposer.Drm.Device
import DrmHwcomposer.Drm.Modes
import DrmHwcomposer.Drm.DisplayPipeline
import DrmHwcomposer.Drm.PipelineOwnership
import DrmHwcomposer.Utils.StdMap
import DrmHwcomposer.Hwc2.HwcDisplay
import DrmHwcomposer.Hwc2.Layers
import DrmHwcomposer.Hwc2.Flattening
import DrmHwcomposer.Hwc2.DisplayDump
import DrmHwcomposer.Hwc2.Composition
import DrmHwcomposer.Hwc2.StagedMode
import DrmHwcomposer.Drm.PrimaryCandidates
import DrmHwcomposer.Drm.ResourceManager
import DrmHwcomposer.Hwc2.DrmHwcTwo
import DrmHwcomposer.Hwc2.Queries
import DrmHwcomposer.Hwc2.DisplayRuns
import DrmHwcomposer.Hwc2.Attributes
import DrmHwcomposer.Hwc2.Color
import DrmHwcomposer.Hwc2.DisplayInit
import DrmHwcomposer.Hwc2.Callbacks
