import DrmHwcomposer.Drm.Device

/-!
# The modes of a connector

`DrmConnector::UpdateModes` reads the connector again from the kernel and rebuilds `modes_` from
the modes the kernel reports for it: a reported mode is appended unless a mode already kept
equals it under `DrmMode::operator==` against the kernel's `drmModeModeInfo`.  A `DrmMode` copies
the kernel's record, so the model keeps one type for both.

`DrmMode::operator==` is declared in a source that is not among the sources.  It compares a fixed
selection of the fields of the two records, so it is the equality of a key of the mode
(`modeEq key`), and everything below holds for every key.  Over every report, `modes_` is the
list of first occurrences of the report under that equality (`firstOccurrences`): no two of its
modes are equal, every reported mode equals one of them, and they keep the order of their first
occurrence (`updateModes_first_occurrences`).  The loop invariant is that the modes kept are the
first occurrences of the modes read so far (`addModes_firstOccurrences`).
-/

namespace DrmHwc

/-- Modelled from the spec: `DrmMode::operator==` against a `drmModeModeInfo`, the equality of
the fields it compares, which `key` selects. -/
def modeEq {κ : Type} [DecidableEq κ] (key : DrmMode → κ) (a b : DrmMode) : Bool :=
  key a = key b

namespace DrmConnector

/-- The loop of `UpdateModes` over the reported modes from `modes_ = modes`: a reported mode is
appended unless a kept mode equals it (`mode == connector_->modes[i]`, with `eq` for
`DrmMode::operator==`). -/
def addModes (eq : DrmMode → DrmMode → Bool) (modes : List DrmMode) :
    List DrmMode → List DrmMode
  | [] => modes
  | m :: ms => addModes eq (if modes.any (eq · m) then modes else modes ++ [m]) ms

/-- `DrmConnector::UpdateModes` on the kernel's answer, the connector and the modes it reports:
`-ENODEV` with nothing changed when the connector cannot be read, and otherwise `0`, the
connector the kernel reports and `modes_` rebuilt from its modes. -/
def updateModes (eq : DrmMode → DrmMode → Bool) (kernel : Option (DrmConnector × List DrmMode))
    (connector : DrmConnector) (modes : List DrmMode) : Int × DrmConnector × List DrmMode :=
  match kernel with
  | none => (-ENODEV, connector, modes)
  | some (c, reported) => (0, c, addModes eq [] reported)

end DrmConnector

/-! ## First occurrences -/

/-- The first occurrences in `ms` under `eq`, in the words of the spec: the modes of `ms` that no
earlier mode of `ms` equals, in their order. -/
def firstOccurrences (eq : DrmMode → DrmMode → Bool) (ms : List DrmMode) : List DrmMode :=
  (ms.enum.filter fun p => !(ms.take p.1).any (eq · p.2)).map Prod.snd

/-- A mode read after `ms` is a first occurrence exactly when no mode of `ms` equals it. -/
lemma firstOccurrences_append_singleton (eq : DrmMode → DrmMode → Bool) (ms : List DrmMode)
    (m : DrmMode) :
    firstOccurrences eq (ms ++ [m]) =
      firstOccurrences eq ms ++ if ms.any (eq · m) then [] else [m] := by
  unfold firstOccurrences
  rw [List.enum_append, List.filter_append, List.map_append]
  congr 1
  · congr 1
    refine List.filter_congr fun p hp => ?_
    rw [List.take_append_of_le_length (List.fst_lt_of_mem_enum hp).le]
  · split_ifs with h <;> simp [List.take_left, h]

/-- The first occurrences are modes of `ms`, in their order. -/
lemma firstOccurrences_sublist (eq : DrmMode → DrmMode → Bool) (ms : List DrmMode) :
    (firstOccurrences eq ms).Sublist ms := by
  simpa [List.enum_map_snd] using (List.filter_sublist ms.enum).map Prod.snd

section Key

variable {κ : Type} [DecidableEq κ] (key : DrmMode → κ)

/-- Equality under a key is transitive. -/
lemma modeEq_trans {a b c : DrmMode} (hab : modeEq key a b) (hbc : modeEq key b c) :
    modeEq key a c := by
  simp only [modeEq, decide_eq_true_eq] at hab hbc ⊢
  exact hab.trans hbc

/-- Every mode of `ms` equals one of its first occurrences. -/
lemma exists_mem_firstOccurrences (ms : List DrmMode) :
    ∀ m ∈ ms, ∃ x ∈ firstOccurrences (modeEq key) ms, modeEq key x m := by
  induction ms using List.reverseRecOn with
  | nil => simp
  | append_singleton ms m ih =>
    rw [firstOccurrences_append_singleton]
    intro x hx
    rcases List.mem_append.mp hx with hx | hx
    · obtain ⟨y, hy, hyx⟩ := ih x hx
      exact ⟨y, List.mem_append_left _ hy, hyx⟩
    · rw [List.mem_singleton] at hx
      subst hx
      split_ifs with h
      · obtain ⟨y, hy, hyx⟩ := List.any_eq_true.mp h
        obtain ⟨z, hz, hzy⟩ := ih y hy
        exact ⟨z, List.mem_append_left _ hz, modeEq_trans key hzy hyx⟩
      · exact ⟨x, by simp, by simp [modeEq]⟩

/-- A mode equals one of the first occurrences of `ms` exactly when it equals a mode of `ms`. -/
lemma any_firstOccurrences (ms : List DrmMode) (m : DrmMode) :
    (firstOccurrences (modeEq key) ms).any (modeEq key · m) = ms.any (modeEq key · m) := by
  rw [Bool.eq_iff_iff, List.any_eq_true, List.any_eq_true]
  constructor
  · rintro ⟨x, hx, h⟩
    exact ⟨x, (firstOccurrences_sublist _ ms).subset hx, h⟩
  · rintro ⟨x, hx, h⟩
    obtain ⟨y, hy, hyx⟩ := exists_mem_firstOccurrences key ms x hx
    exact ⟨y, hy, modeEq_trans key hyx h⟩

/-- No two first occurrences are equal. -/
lemma firstOccurrences_pairwise (ms : List DrmMode) :
    (firstOccurrences (modeEq key) ms).Pairwise fun a b => modeEq key a b = false := by
  induction ms using List.reverseRecOn with
  | nil => simp [firstOccurrences]
  | append_singleton ms m ih =>
    rw [firstOccurrences_append_singleton]
    split_ifs with h
    · simpa using ih
    · refine List.pairwise_append.mpr ⟨ih, List.pairwise_singleton _ _, fun x hx y hy => ?_⟩
      rw [List.mem_singleton] at hy
      subst hy
      simp only [Bool.not_eq_true, List.any_eq_false] at h
      exact h x ((firstOccurrences_sublist _ ms).subset hx)

/-- The loop invariant of `UpdateModes`: from the first occurrences of the modes read so far,
the rest of the report leaves the first occurrences of the whole report. -/
lemma addModes_firstOccurrences (ms rest : List DrmMode) :
    DrmConnector.addModes (modeEq key) (firstOccurrences (modeEq key) ms) rest =
      firstOccurrences (modeEq key) (ms ++ rest) := by
  induction rest generalizing ms with
  | nil => simp [DrmConnector.addModes]
  | cons m rest ih =>
    have hstep : (if (firstOccurrences (modeEq key) ms).any (modeEq key · m) then
          firstOccurrences (modeEq key) ms else firstOccurrences (modeEq key) ms ++ [m]) =
        firstOccurrences (modeEq key) (ms ++ [m]) := by
      rw [any_firstOccurrences, firstOccurrences_append_singleton]
      split_ifs <;> simp
    rw [DrmConnector.addModes, hstep, ih, List.append_assoc, List.singleton_append]

/-- After a successful `UpdateModes`, over every report of the kernel and whatever fields
`DrmMode::operator==` compares: `modes_` is the list of first occurrences of the reported modes,
no two of its modes are equal, every reported mode equals one of them, and they keep the order of
the report. -/
theorem DrmConnector.updateModes_first_occurrences (connector c : DrmConnector)
    (modes reported : List DrmMode) :
    let r := DrmConnector.updateModes (modeEq key) (some (c, reported)) connector modes
    r.1 = 0 ∧ r.2.1 = c ∧ r.2.2 = firstOccurrences (modeEq key) reported ∧
      r.2.2.Pairwise (fun a b => modeEq key a b = false) ∧
      (∀ m ∈ reported, ∃ x ∈ r.2.2, modeEq key x m) ∧ r.2.2.Sublist reported := by
  have hr : DrmConnector.addModes (modeEq key) [] reported =
      firstOccurrences (modeEq key) reported := by
    simpa using addModes_firstOccurrences key [] reported
  refine ⟨rfl, rfl, hr, ?_, ?_, ?_⟩ <;> simp only [DrmConnector.updateModes, hr]
  · exact firstOccurrences_pairwise key reported
  · exact exists_mem_firstOccurrences key reported
  · exact firstOccurrences_sublist _ reported

end Key

example :
    (DrmConnector.updateModes (modeEq fun m => (m.hDisplay, m.vDisplay))
      (some (⟨40, 11, 1, .connected, 0, []⟩,
        [⟨148500, 1920, 2008, 2052, 2200, 0, 1080, 1084, 1089, 1125, 0, 60, 5, 72, "1920x1080"⟩,
         ⟨74250, 1280, 1390, 1430, 1650, 0, 720, 725, 730, 750, 0, 60, 5, 64, "1280x720"⟩,
         ⟨148352, 1920, 2008, 2052, 2200, 0, 1080, 1084, 1089, 1125, 0, 60, 5, 64, "1920x1080"⟩]))
      ⟨40, 11, 1, .connected, 0, []⟩ []).2.2.map (·.clock) = [148500, 74250] := by
  decide

end DrmHwc
