import DrmHwcomposer.Hwc2.Composition
import DrmHwcomposer.Hwc2.Layers

/-!
# The staged mode over runs of a display

A display is driven by a run of operations: `SetActiveConfig` with any id, compositions with any
`test_only` flag and any outcome of the buffer imports, `Plan` and the atomic commit,
`PresentDisplay`, `SetPowerMode`, the layer operations and refreshes of the configuration table.
`HwcDisplay.run` executes a run and records what it shows of the mode handling as a log of
`DisplayEvent`s: each successful `SetActiveConfig` and each atomic commit.

The spec describes the staged mode and the active configuration by the log alone: `pendingMode`
is the mode of the most recent successful `SetActiveConfig` that no successful real commit of a
composition followed, and `activeConfig` is the id of the last successful `SetActiveConfig`.
`carriesPending` says that each commit of a composition carries the mode pending when it was
issued and that each commit of `SetPowerMode` carries no mode.

`step_spec` says once what one operation does to these three; `run_spec` lifts it to whole runs,
and `stagedMode_run_law` reads off the consequences for the display.
-/

namespace DrmHwc

/-- The operations of a run on one display: the hwc2 entry points that touch the mode handling,
with the answers of the collaborators each one calls. -/
inductive DisplayOp
  | setActiveConfig (config : Int)
  | createComposition (testOnly : Bool) (kms : KmsResults)
  | presentDisplay (kms : KmsResults)
  | setPowerMode (mode : Int) (kms : KmsResults)
  | createLayer
  | destroyLayer (layer : Nat)
  | setLayer (layer : Nat) (l : HwcLayer)
  | acceptDisplayChanges
  /-- Modelled from the spec: a refresh of the configuration table (`HwcDisplayConfigs::Update`,
  declared in a header that is not among the sources) replaces the table. -/
  | updateConfigs (table : StdMap Int HwcDisplayConfig)

/-- What a run shows of the mode handling: a successful `SetActiveConfig` with the mode it
staged, and each atomic commit with whether it succeeded and whether `CreateComposition` issued
it. -/
inductive DisplayEvent
  | activeConfigSet (config : Int) (mode : DrmMode)
  | commit (args : AtomicCommitArgs) (ok : Bool) (composition : Bool)

namespace HwcDisplay

/-- The commit a composition issued, as an event. -/
def compositionEvents (r : CompositionResult) : List DisplayEvent :=
  r.commit.toList.map fun a => .commit a (r.error = .none) true

/-- Modelled from the spec: the `HwcLayer` setters, which replace what they set in a live layer. -/
def setLayer (d : HwcDisplay) (layer : Nat) (l : HwcLayer) : HwcDisplay :=
  if layer ∈ d.layers.keys then { d with layers := d.layers.insertOrAssign layer l } else d

/-- `HwcDisplay::AcceptDisplayChanges`: every layer accepts its type change; `AcceptTypeChange`,
declared in a header that is not among the sources, is modelled from the spec: the validated type
becomes the requested one. -/
def acceptDisplayChanges (d : HwcDisplay) : HwcDisplay :=
  { d with layers := d.layers.mapValues fun l => { l with sfType := l.validatedType } }

/-- One operation with `layer_idx_` of width `w`: the display afterwards and what it showed. -/
def step (w : Nat) (d : HwcDisplay) : DisplayOp → HwcDisplay × List DisplayEvent
  | .setActiveConfig c =>
    ((d.setActiveConfig c).2,
      match d.configs.hwcConfigs.find? c with
      | some cfg => [.activeConfigSet c cfg.mode]
      | none => [])
  | .createComposition t kms =>
    ((d.createComposition kms { testOnly := t }).display,
      compositionEvents (d.createComposition kms { testOnly := t }))
  | .presentDisplay kms =>
    ((d.presentDisplay kms).display, compositionEvents (d.presentDisplay kms).composition)
  | .setPowerMode m kms =>
    (d, (setPowerMode kms m).2.toList.map fun a => .commit a ((setPowerMode kms m).1 = .none) false)
  | .createLayer => ((d.createLayer w).1, [])
  | .destroyLayer h => ((d.destroyLayer h).1, [])
  | .setLayer h l => (d.setLayer h l, [])
  | .acceptDisplayChanges => (d.acceptDisplayChanges, [])
  | .updateConfigs t => ({ d with configs := { d.configs with hwcConfigs := t } }, [])

/-- A run of operations: the display afterwards and the events, in order. -/
def run (w : Nat) (d : HwcDisplay) : List DisplayOp → HwcDisplay × List DisplayEvent
  | [] => (d, [])
  | op :: ops => ((d.step w op).1.run w ops |>.1, (d.step w op).2 ++ ((d.step w op).1.run w ops).2)

end HwcDisplay

/-! ## The mode pending in a log -/

/-- The events that decide the staged mode: a successful `SetActiveConfig` and a successful real
commit of a composition. -/
def DisplayEvent.decidesMode : DisplayEvent → Bool
  | .activeConfigSet _ _ => true
  | .commit a ok composition => ok && composition && !a.testOnly

/-- The staged mode after a log, in the words of the spec: the mode of the most recent successful
`SetActiveConfig` not followed by a successful real commit of a composition, and `init` when the
log has neither. -/
def pendingMode (init : Option DrmMode) (log : List DisplayEvent) : Option DrmMode :=
  match log.reverse.find? DisplayEvent.decidesMode with
  | some (.activeConfigSet _ m) => some m
  | some (.commit _ _ _) => none
  | none => init

/-- The id a successful `SetActiveConfig` made active. -/
def DisplayEvent.configSet? : DisplayEvent → Option Int
  | .activeConfigSet c _ => some c
  | .commit _ _ _ => none

/-- The active id after a log, in the words of the spec: the id of the last successful
`SetActiveConfig`, and `init` when there is none. -/
def activeConfig (init : Int) (log : List DisplayEvent) : Int :=
  ((log.filterMap DisplayEvent.configSet?).getLast?).getD init

/-- An event is consistent with the mode `staged` pending before it: a commit of a composition
carries `staged`, and a commit of `SetPowerMode` carries no mode. -/
def DisplayEvent.carries (staged : Option DrmMode) : DisplayEvent → Bool
  | .activeConfigSet _ _ => true
  | .commit a _ composition => a.displayMode = if composition then staged else none

/-- Every event of a log is consistent with the mode pending before it, starting from `init`. -/
def carriesPending (init : Option DrmMode) : List DisplayEvent → Bool
  | [] => true
  | e :: es => e.carries init && carriesPending (pendingMode init [e]) es

@[simp] lemma pendingMode_nil (init : Option DrmMode) : pendingMode init [] = init := rfl

/-- The mode pending after two logs is read off the second from the first's. -/
lemma pendingMode_append (init : Option DrmMode) (l₁ l₂ : List DisplayEvent) :
    pendingMode init (l₁ ++ l₂) = pendingMode (pendingMode init l₁) l₂ := by
  unfold pendingMode
  rw [List.reverse_append, List.find?_append]
  rcases l₂.reverse.find? DisplayEvent.decidesMode with _ | e
  · rfl
  · cases e <;> rfl

@[simp] lemma pendingMode_activeConfigSet (init : Option DrmMode) (c : Int) (m : DrmMode) :
    pendingMode init [.activeConfigSet c m] = some m := rfl

@[simp] lemma pendingMode_commit (init : Option DrmMode) (a : AtomicCommitArgs)
    (ok composition : Bool) :
    pendingMode init [.commit a ok composition] =
      if ok && composition && !a.testOnly then none else init := by
  unfold pendingMode
  cases h : ok && composition && !a.testOnly <;> simp [DisplayEvent.decidesMode, h]

/-- With no `SetActiveConfig` in the log, nothing is pending after a log that starts from
nothing. -/
lemma exists_activeConfigSet_of_pendingMode {log : List DisplayEvent}
    (h : pendingMode none log ≠ none) : ∃ c m, DisplayEvent.activeConfigSet c m ∈ log := by
  unfold pendingMode at h
  split at h
  · rename_i c m hf
    exact ⟨c, m, List.mem_reverse.mp (List.mem_of_find?_eq_some hf)⟩
  all_goals exact absurd rfl h

@[simp] lemma activeConfig_nil (init : Int) : activeConfig init [] = init := rfl

/-- The active id after two logs is read off the second from the first's. -/
lemma activeConfig_append (init : Int) (l₁ l₂ : List DisplayEvent) :
    activeConfig init (l₁ ++ l₂) = activeConfig (activeConfig init l₁) l₂ := by
  unfold activeConfig
  rw [List.filterMap_append, List.getLast?_append]
  cases (l₂.filterMap DisplayEvent.configSet?).getLast? <;> rfl

/-- The commits of a composition leave the active id alone. -/
lemma activeConfig_compositionEvents (init : Int) (r : CompositionResult) :
    activeConfig init (HwcDisplay.compositionEvents r) = init := by
  cases h : r.commit <;>
    simp [HwcDisplay.compositionEvents, activeConfig, h, DisplayEvent.configSet?]

@[simp] lemma carriesPending_nil (init : Option DrmMode) : carriesPending init [] = true := rfl

/-- Two logs are consistent when each is, the second from the mode the first leaves. -/
lemma carriesPending_append (init : Option DrmMode) (l₁ l₂ : List DisplayEvent) :
    carriesPending init (l₁ ++ l₂) =
      (carriesPending init l₁ && carriesPending (pendingMode init l₁) l₂) := by
  induction l₁ generalizing init with
  | nil => simp
  | cons e l₁ ih =>
    rw [List.cons_append, carriesPending, carriesPending, ih, Bool.and_assoc,
      ← pendingMode_append, List.singleton_append]

/-- In a consistent log, each event is consistent with the mode pending just before it. -/
lemma carries_of_carriesPending {init : Option DrmMode} {pre post : List DisplayEvent}
    {e : DisplayEvent} (h : carriesPending init (pre ++ e :: post) = true) :
    e.carries (pendingMode init pre) = true := by
  rw [carriesPending_append, carriesPending, Bool.and_eq_true, Bool.and_eq_true] at h
  exact h.2.1

/-! ## What one operation does -/

namespace HwcDisplay

/-- What a composition with the caller's arguments `{ testOnly := t }` shows: nothing and no
change, or one commit carrying the staged mode that clears it when it succeeds for real. -/
lemma createComposition_event (kms : KmsResults) (d : HwcDisplay) (t : Bool) :
    (compositionEvents (d.createComposition kms { testOnly := t }) = [] ∧
        (d.createComposition kms { testOnly := t }).display = d) ∨
      ∃ a ok,
        compositionEvents (d.createComposition kms { testOnly := t }) = [.commit a ok true] ∧
        a.displayMode = d.stagedMode ∧ a.testOnly = t ∧
        (d.createComposition kms { testOnly := t }).display =
          if ok && !t then { d with stagedMode := none } else d := by
  rcases createComposition_cases kms d { testOnly := t } with
    ⟨hc, hd, -⟩ | ⟨a, hc, hm, ht, ⟨he, -, hd⟩ | ⟨he, hd⟩⟩
  · exact Or.inl ⟨by simp [compositionEvents, hc], hd⟩
  · refine Or.inr ⟨a, true, by simp [compositionEvents, hc, he], by simpa using hm, ht, ?_⟩
    cases t <;> simpa using hd
  · exact Or.inr ⟨a, false, by simp [compositionEvents, hc, he], by simpa using hm, ht,
      by simpa using hd⟩

/-- The three facts of a composition's log that the mode handling reads. -/
lemma createComposition_spec (kms : KmsResults) (d : HwcDisplay) (t : Bool) :
    (d.createComposition kms { testOnly := t }).display.stagedMode =
        pendingMode d.stagedMode (compositionEvents (d.createComposition kms { testOnly := t })) ∧
      (d.createComposition kms { testOnly := t }).display.configs = d.configs ∧
      carriesPending d.stagedMode (compositionEvents (d.createComposition kms { testOnly := t })) =
        true := by
  rcases createComposition_event kms d t with ⟨he, hd⟩ | ⟨a, ok, he, hm, ht, hd⟩
  · simp [he, hd]
  · rw [he, hd]
    cases ok <;> cases t <;> simp [carriesPending, DisplayEvent.carries, hm, ht]

/-- One operation keeps the staged mode and the active id as the log says, and its log is
consistent with the mode staged before it. -/
lemma step_spec (w : Nat) (d : HwcDisplay) (op : DisplayOp) :
    (d.step w op).1.stagedMode = pendingMode d.stagedMode (d.step w op).2 ∧
      (d.step w op).1.configs.activeConfigId =
        activeConfig d.configs.activeConfigId (d.step w op).2 ∧
      carriesPending d.stagedMode (d.step w op).2 = true := by
  cases op with
  | setActiveConfig c =>
    rcases hf : d.configs.hwcConfigs.find? c with _ | cfg <;>
      simp [step, setActiveConfig, hf, activeConfig, DisplayEvent.configSet?, carriesPending,
        DisplayEvent.carries]
  | createComposition t kms =>
    obtain ⟨h₁, h₂, h₃⟩ := createComposition_spec kms d t
    exact ⟨h₁, by rw [step, h₂, activeConfig_compositionEvents], h₃⟩
  | presentDisplay kms =>
    obtain ⟨h₁, h₂, h₃⟩ := createComposition_spec kms
      { d with totalStats.totalFrames := d.totalStats.totalFrames + 1 } false
    obtain ⟨hs, hc⟩ := presentDisplay_display kms d
    refine ⟨?_, ?_, ?_⟩ <;> simp only [step, hs, hc, presentDisplay_composition]
    · exact h₁
    · rw [h₂, activeConfig_compositionEvents]
    · exact h₃
  | setPowerMode m kms =>
    simp only [step, setPowerMode]
    split_ifs <;> simp [activeConfig, DisplayEvent.configSet?, carriesPending, DisplayEvent.carries]
  | createLayer => exact ⟨rfl, rfl, rfl⟩
  | destroyLayer h =>
    simp only [step, destroyLayer]
    split <;> exact ⟨rfl, rfl, rfl⟩
  | setLayer h l =>
    simp only [step, setLayer]
    split_ifs <;> exact ⟨rfl, rfl, rfl⟩
  | acceptDisplayChanges => exact ⟨rfl, rfl, rfl⟩
  | updateConfigs t => exact ⟨rfl, rfl, rfl⟩

/-- Along a whole run the staged mode and the active id are those the log says, and the log is
consistent. -/
lemma run_spec (w : Nat) (d : HwcDisplay) (ops : List DisplayOp) :
    (d.run w ops).1.stagedMode = pendingMode d.stagedMode (d.run w ops).2 ∧
      (d.run w ops).1.configs.activeConfigId =
        activeConfig d.configs.activeConfigId (d.run w ops).2 ∧
      carriesPending d.stagedMode (d.run w ops).2 = true := by
  induction ops generalizing d with
  | nil => exact ⟨rfl, rfl, rfl⟩
  | cons op ops ih =>
    obtain ⟨h₁, h₂, h₃⟩ := step_spec w d op
    obtain ⟨i₁, i₂, i₃⟩ := ih (d.step w op).1
    simp only [run, pendingMode_append, activeConfig_append, carriesPending_append, ← h₁, ← h₂,
      h₃, i₁, i₂, i₃, Bool.and_self, and_self]

/-! ## The staged-mode law -/

/-- After every run: the staged mode is the mode the log leaves pending; each commit of a
composition carries the mode pending when it was issued and each commit of `SetPowerMode` carries
none; `SetActiveConfig` with an unknown id is `BadConfig` and changes nothing; `GetActiveConfig`
returns the id of the last successful `SetActiveConfig` while the table contains it; and a mode
carried by a successful real commit of a composition is carried by no later one unless a
`SetActiveConfig` staged a mode in between. -/
theorem stagedMode_run_law (w : Nat) (d : HwcDisplay) (ops : List DisplayOp) :
    let d' := (d.run w ops).1
    let log := (d.run w ops).2
    d'.stagedMode = pendingMode d.stagedMode log ∧
      (∀ pre a ok post, log = pre ++ .commit a ok true :: post →
        a.displayMode = pendingMode d.stagedMode pre) ∧
      (∀ pre a ok post, log = pre ++ .commit a ok false :: post → a.displayMode = none) ∧
      (∀ c, d'.configs.hwcConfigs.find? c = none → d'.setActiveConfig c = (.badConfig, d')) ∧
      d'.getActiveConfig =
        (if d'.configs.hwcConfigs.contains (activeConfig d.configs.activeConfigId log) then
          (.none, some (activeConfig d.configs.activeConfigId log))
        else (.badConfig, none)) ∧
      (∀ pre a mid b post,
        log = pre ++ .commit a true true :: (mid ++ .commit b true true :: post) →
        a.testOnly = false → b.displayMode ≠ none → ∃ c m, .activeConfigSet c m ∈ mid) := by
  intro d' log
  obtain ⟨h₁, h₂, h₃⟩ := run_spec w d ops
  change carriesPending d.stagedMode log = true at h₃
  have carried : ∀ pre a ok c post, log = pre ++ .commit a ok c :: post →
      a.displayMode = if c then pendingMode d.stagedMode pre else none := by
    rintro pre a ok c post hl
    simpa [DisplayEvent.carries] using carries_of_carriesPending (hl ▸ h₃ :)
  refine ⟨h₁, fun pre a ok post hl => carried pre a ok true post hl,
    fun pre a ok post hl => carried pre a ok false post hl,
    fun c hc => by simp [setActiveConfig, hc],
    by rw [getActiveConfig, h₂], ?_⟩
  rintro pre a mid b post hl ha hb
  have hb' := carried (pre ++ .commit a true true :: mid) b true true post (by simp [hl])
  rw [if_pos rfl, List.append_cons, pendingMode_append, pendingMode_append, pendingMode_commit,
    ha] at hb'
  exact exists_activeConfigSet_of_pendingMode (hb' ▸ hb)

end HwcDisplay

end DrmHwc
