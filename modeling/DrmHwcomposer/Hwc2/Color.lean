import DrmHwcomposer.Hwc2.HwcDisplay

/-!
# Colour modes and the colour transform

`SetColorMode`, `SetColorModeWithIntent` and `SetColorTransform` are the only writers of a
display's `color_mode_`, `color_transform_hint_` and `color_transform_matrix_`, and nothing else
of the display reads or writes them, so `ColorState` holds them apart from `HwcDisplay`.
`GetColorModes` and `GetRenderIntents` advertise the one mode and the one intent the display
supports: native and colorimetric.

`colorRun_last_writes` describes any run of the three setters by its log: a call succeeds exactly
when it writes, and each field holds the value of the last call that wrote it.  A mode call writes
exactly when its mode, and its intent, are ones the getters advertise; a transform call writes the
hint when it is an `android_color_transform_t` value, given with a matrix if it is
`ARBITRARY_MATRIX`, and writes the matrix only with that hint.
-/

namespace DrmHwc

/-! ## The colour state and its setters -/

/-- `HAL_COLOR_MODE_NATIVE`. -/
def HAL_COLOR_MODE_NATIVE : Int := 0

/-- `HAL_COLOR_MODE_BT2100_HLG`, the last colour mode. -/
def HAL_COLOR_MODE_BT2100_HLG : Int := 12

/-- `HAL_COLOR_TRANSFORM_IDENTITY`, the first colour transform. -/
def HAL_COLOR_TRANSFORM_IDENTITY : Int := 0

/-- `HAL_COLOR_TRANSFORM_ARBITRARY_MATRIX`. -/
def HAL_COLOR_TRANSFORM_ARBITRARY_MATRIX : Int := 1

/-- `HAL_COLOR_TRANSFORM_CORRECT_TRITANOPIA`, the last colour transform. -/
def HAL_COLOR_TRANSFORM_CORRECT_TRITANOPIA : Int := 6

/-- `HAL_RENDER_INTENT_COLORIMETRIC`, the first render intent. -/
def HAL_RENDER_INTENT_COLORIMETRIC : Int := 0

/-- `HAL_RENDER_INTENT_TONE_MAP_ENHANCE`, the last render intent. -/
def HAL_RENDER_INTENT_TONE_MAP_ENHANCE : Int := 3

/-- `color_mode_`, `color_transform_hint_` and `color_transform_matrix_`, a matrix of
`MATRIX_SIZE` (16) floats. -/
structure ColorState where
  colorMode : Int
  colorTransformHint : Int
  colorTransformMatrix : Fin 16 → Float

/-- The colour state the constructor leaves: the identity hint and the identity matrix, with
`color_mode_` as its initialiser in the header sets it. -/
def ColorState.initial (colorMode : Int) : ColorState :=
  ⟨colorMode, HAL_COLOR_TRANSFORM_IDENTITY, fun i => if i.val % 5 = 0 then 1.0 else 0.0⟩

namespace ColorState

/-- `HwcDisplay::SetColorMode`. -/
def setColorMode (s : ColorState) (mode : Int) : Hwc2Error × ColorState :=
  if mode < HAL_COLOR_MODE_NATIVE ∨ mode > HAL_COLOR_MODE_BT2100_HLG then (.badParameter, s)
  else if mode ≠ HAL_COLOR_MODE_NATIVE then (.unsupported, s)
  else (.none, { s with colorMode := mode })

/-- `HwcDisplay::SetColorModeWithIntent`. -/
def setColorModeWithIntent (s : ColorState) (mode intent : Int) : Hwc2Error × ColorState :=
  if intent < HAL_RENDER_INTENT_COLORIMETRIC ∨ intent > HAL_RENDER_INTENT_TONE_MAP_ENHANCE then
    (.badParameter, s)
  else if mode < HAL_COLOR_MODE_NATIVE ∨ mode > HAL_COLOR_MODE_BT2100_HLG then (.badParameter, s)
  else if mode ≠ HAL_COLOR_MODE_NATIVE then (.unsupported, s)
  else if intent ≠ HAL_RENDER_INTENT_COLORIMETRIC then (.unsupported, s)
  else (.none, { s with colorMode := mode })

/-- `HwcDisplay::SetColorTransform`, with `matrix` null or the 16 floats it points to. -/
def setColorTransform (s : ColorState) (matrix : Option (Fin 16 → Float)) (hint : Int) :
    Hwc2Error × ColorState :=
  if hint < HAL_COLOR_TRANSFORM_IDENTITY ∨ hint > HAL_COLOR_TRANSFORM_CORRECT_TRITANOPIA then
    (.badParameter, s)
  else if matrix.isNone ∧ hint = HAL_COLOR_TRANSFORM_ARBITRARY_MATRIX then (.badParameter, s)
  else
    let s := { s with colorTransformHint := hint }
    (.none, match matrix with
      | some m =>
        if hint = HAL_COLOR_TRANSFORM_ARBITRARY_MATRIX then { s with colorTransformMatrix := m }
        else s
      | none => s)

end ColorState

/-- `HwcDisplay::GetColorModes` with an output array when `modes` holds: the writes and the count
reported.  A fill writes the native mode whatever the capacity `numModes`, and reports the
capacity back. -/
def getColorModes (numModes : Nat) (modes : Bool) : List (Nat × Int) × Nat :=
  if modes then ([(0, HAL_COLOR_MODE_NATIVE)], numModes) else ([], 1)

/-- `HwcDisplay::GetRenderIntents` with an output array when `intents` holds: its error, the
writes and the count reported, if any. -/
def getRenderIntents (mode : Int) (intents : Bool) : Hwc2Error × List (Nat × Int) × Option Nat :=
  if mode ≠ HAL_COLOR_MODE_NATIVE then (.badParameter, [], none)
  else if !intents then (.none, [], some 1)
  else (.none, [(0, HAL_RENDER_INTENT_COLORIMETRIC)], some 1)

/-- A call of one of the colour setters. -/
inductive ColorCall
  | setColorMode (mode : Int)
  | setColorModeWithIntent (mode intent : Int)
  | setColorTransform (matrix : Option (Fin 16 → Float)) (hint : Int)

namespace ColorState

/-- One call of a colour setter: its error and the colour state it leaves. -/
def call (s : ColorState) : ColorCall → Hwc2Error × ColorState
  | .setColorMode mode => s.setColorMode mode
  | .setColorModeWithIntent mode intent => s.setColorModeWithIntent mode intent
  | .setColorTransform matrix hint => s.setColorTransform matrix hint

/-- A run of colour setter calls. -/
def run (s : ColorState) : List ColorCall → ColorState
  | [] => s
  | c :: cs => (s.call c).2.run cs

end ColorState

/-! ## The log of a run -/

/-- The colour modes `GetColorModes` advertises. -/
def advertisedColorModes : List Int :=
  (getColorModes 1 true).1.map Prod.snd

/-- The render intents `GetRenderIntents` advertises for a mode. -/
def advertisedRenderIntents (mode : Int) : List Int :=
  (getRenderIntents mode true).2.1.map Prod.snd

namespace ColorCall

/-- The colour mode a call writes: the one it asks for, when the getters advertise it and the
intent it asks for. -/
def modeWrite? : ColorCall → Option Int
  | .setColorMode mode => if mode ∈ advertisedColorModes then some mode else none
  | .setColorModeWithIntent mode intent =>
    if mode ∈ advertisedColorModes ∧ intent ∈ advertisedRenderIntents mode then some mode
    else none
  | .setColorTransform _ _ => none

/-- The hint a call writes: an `android_color_transform_t` value, given with a matrix when it is
`ARBITRARY_MATRIX`. -/
def hintWrite? : ColorCall → Option Int
  | .setColorTransform matrix hint =>
    if HAL_COLOR_TRANSFORM_IDENTITY ≤ hint ∧ hint ≤ HAL_COLOR_TRANSFORM_CORRECT_TRITANOPIA ∧
        (hint = HAL_COLOR_TRANSFORM_ARBITRARY_MATRIX → matrix.isSome) then some hint
    else none
  | _ => none

/-- The matrix a call writes: the one given with the `ARBITRARY_MATRIX` hint. -/
def matrixWrite? : ColorCall → Option (Fin 16 → Float)
  | .setColorTransform (some m) hint =>
    if hint = HAL_COLOR_TRANSFORM_ARBITRARY_MATRIX then some m else none
  | _ => none

end ColorCall

/-- The last value a log of calls writes with `w`, or `init` when none writes. -/
def lastWrite {β : Type} (w : ColorCall → Option β) (init : β) (calls : List ColorCall) : β :=
  ((calls.filterMap w).getLast?).getD init

/-- The last write of a log is that of its tail, or else that of its first call. -/
lemma lastWrite_cons {β : Type} (w : ColorCall → Option β) (init : β) (c : ColorCall)
    (cs : List ColorCall) : lastWrite w init (c :: cs) = lastWrite w ((w c).getD init) cs := by
  unfold lastWrite
  cases h : w c with
  | none => simp [List.filterMap_cons, h]
  | some v => simp [List.filterMap_cons, h, List.getLast?_cons]

namespace ColorState

/-- A call that writes nothing and reports an error leaves the colour state as it was. -/
lemma call_spec_of_rejected {s : ColorState} {c : ColorCall} {e : Hwc2Error}
    (hr : s.call c = (e, s)) (he : e ≠ .none) (hm : c.modeWrite? = none)
    (hh : c.hintWrite? = none) (hx : c.matrixWrite? = none) :
    (s.call c).2 = ⟨c.modeWrite?.getD s.colorMode, c.hintWrite?.getD s.colorTransformHint,
        c.matrixWrite?.getD s.colorTransformMatrix⟩ ∧
      ((s.call c).1 = .none ↔ c.modeWrite?.isSome ∨ c.hintWrite?.isSome) := by
  simp [hr, he, hm, hh, hx]

/-- What one call does: it writes the mode, the hint and the matrix it writes, and it succeeds
exactly when it writes a mode or a hint. -/
lemma call_spec (s : ColorState) (c : ColorCall) :
    (s.call c).2 = ⟨c.modeWrite?.getD s.colorMode, c.hintWrite?.getD s.colorTransformHint,
        c.matrixWrite?.getD s.colorTransformMatrix⟩ ∧
      ((s.call c).1 = .none ↔ c.modeWrite?.isSome ∨ c.hintWrite?.isSome) := by
  cases c with
  | setColorMode mode =>
    simp only [call, setColorMode, ColorCall.modeWrite?, ColorCall.hintWrite?,
      ColorCall.matrixWrite?, advertisedColorModes, getColorModes, HAL_COLOR_MODE_NATIVE,
      HAL_COLOR_MODE_BT2100_HLG]
    by_cases h : mode = 0
    · subst h; simp
    · split_ifs <;> simp_all
  | setColorModeWithIntent mode intent =>
    by_cases h : mode = 0 ∧ intent = 0
    · obtain ⟨rfl, rfl⟩ := h
      exact ⟨rfl, iff_of_true rfl (.inl rfl)⟩
    · have hw : ColorCall.modeWrite? (.setColorModeWithIntent mode intent) = none := by
        simp only [ColorCall.modeWrite?, advertisedColorModes, advertisedRenderIntents,
          getColorModes, getRenderIntents, HAL_COLOR_MODE_NATIVE, HAL_RENDER_INTENT_COLORIMETRIC]
        by_cases hm : mode = 0 <;> simp_all
      obtain ⟨e, he, hr⟩ :
          ∃ e, e ≠ Hwc2Error.none ∧ s.setColorModeWithIntent mode intent = (e, s) := by
        unfold setColorModeWithIntent
        simp only [HAL_COLOR_MODE_NATIVE, HAL_COLOR_MODE_BT2100_HLG,
          HAL_RENDER_INTENT_COLORIMETRIC, HAL_RENDER_INTENT_TONE_MAP_ENHANCE]
        split_ifs
        any_goals exact ⟨_, by decide, rfl⟩
        exact absurd ⟨by omega, by omega⟩ h
      exact call_spec_of_rejected hr he hw rfl rfl
  | setColorTransform matrix hint =>
    by_cases hr : hint < 0 ∨ hint > 6
    · -- a hint out of range: rejected, whatever the matrix
      have hx : ColorCall.matrixWrite? (.setColorTransform matrix hint) = none := by
        cases matrix
        · rfl
        · exact if_neg (by unfold HAL_COLOR_TRANSFORM_ARBITRARY_MATRIX; omega)
      refine @call_spec_of_rejected s _ .badParameter (if_pos hr) (by decide) rfl
        (if_neg fun ⟨h0, h6, _⟩ => ?_) hx
      unfold HAL_COLOR_TRANSFORM_IDENTITY HAL_COLOR_TRANSFORM_CORRECT_TRITANOPIA at *
      omega
    · have hin : ¬(hint < HAL_COLOR_TRANSFORM_IDENTITY ∨
          hint > HAL_COLOR_TRANSFORM_CORRECT_TRITANOPIA) := hr
      have hw : HAL_COLOR_TRANSFORM_IDENTITY ≤ hint ∧
          hint ≤ HAL_COLOR_TRANSFORM_CORRECT_TRITANOPIA := by
        unfold HAL_COLOR_TRANSFORM_IDENTITY HAL_COLOR_TRANSFORM_CORRECT_TRITANOPIA
        omega
      cases matrix <;>
      · simp only [call, setColorTransform, if_neg hin, ColorCall.modeWrite?,
          ColorCall.hintWrite?, ColorCall.matrixWrite?, hw, true_and]
        split_ifs <;> simp_all

/-- A run of the colour setters, described by its log: every call succeeds exactly when it
writes, and each field of the colour state holds the last value written to it, the mode only by
a call whose mode and intent the getters advertise, the matrix only with the `ARBITRARY_MATRIX`
hint; a rejected call changes nothing. -/
theorem colorRun_last_writes (s : ColorState) (calls : List ColorCall) :
    (∀ (t : ColorState) (c : ColorCall),
        (t.call c).1 = .none ↔ c.modeWrite?.isSome ∨ c.hintWrite?.isSome) ∧
      s.run calls = ⟨lastWrite ColorCall.modeWrite? s.colorMode calls,
        lastWrite ColorCall.hintWrite? s.colorTransformHint calls,
        lastWrite ColorCall.matrixWrite? s.colorTransformMatrix calls⟩ := by
  refine ⟨fun t c => (call_spec t c).2, ?_⟩
  induction calls generalizing s with
  | nil => rfl
  | cons c cs ih =>
    rw [run, ih, (call_spec s c).1]
    simp only [lastWrite_cons]

end ColorState

end DrmHwc
