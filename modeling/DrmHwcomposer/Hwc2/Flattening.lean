import DrmHwcomposer.Hwc2.HwcDisplay

/-!
# The client-flattening countdown

`flattenning_state_` is an `int`: the sink states `Disabled`, `NotRequired` and `Flattened` lie
below `ClientRefreshRequested`, and a positive value counts vsyncs down.  An external policy arms
the countdown, writing a count and enabling the flattening vsync worker, or writes one of the sink
states.  Each tick of the worker runs `flatteningTick` under the callback lock: a positive state is
decremented, and when it reaches `ClientRefreshRequested` with a refresh callback registered the
callback is invoked once and the worker disabled.

`flatteningTick_countdown` is the law of the countdown, built from what one tick does
(`flatteningTick_fst`, `flatteningTick_snd`) and what a run of ticks does (`run_ticks`): ticks
never touch a state at or below `ClientRefreshRequested`, a countdown from `N` ends at
`max (N - k) 0` after `k` ticks, and the refresh is requested exactly once, at the `N`-th tick,
if the callback was registered then.
-/

namespace DrmHwc

namespace ClientFlattenningState

/-- Modelled from the spec: `ClientFlattenningState::Disabled`, a sink state below the countdown. -/
def disabled : Int := -3

/-- Modelled from the spec: `ClientFlattenningState::NotRequired`, a sink state. -/
def notRequired : Int := -2

/-- Modelled from the spec: `ClientFlattenningState::Flattened`, a sink state. -/
def flattened : Int := -1

/-- Modelled from the spec: `ClientFlattenningState::ClientRefreshRequested`, the end of the
countdown. -/
def clientRefreshRequested : Int := 0

end ClientFlattenningState

open ClientFlattenningState

/-- The flattening worker's callback: the state after the tick and whether the refresh callback
was invoked (which also disables the worker).  `registered` says whether a refresh callback is
registered at the time of the tick. -/
def flatteningTick (state : Int) (registered : Bool) : Int × Bool :=
  if state > clientRefreshRequested then
    if state - 1 = clientRefreshRequested ∧ registered then (state - 1, true)
    else (state - 1, false)
  else (state, false)

/-- The flattening state with its worker, and the number of refresh requests sent so far. -/
structure FlatteningWorker where
  state : Int
  enabled : Bool
  refreshes : Nat
  deriving DecidableEq, Repr

/-- What can happen to the flattening state: a tick of the worker, arming the countdown, or an
external write of a sink state. -/
inductive FlatteningEvent
  | tick (registered : Bool)
  | arm (count : Int)
  | write (state : Int)
  deriving DecidableEq, Repr

/-- One event. -/
def FlatteningWorker.step (w : FlatteningWorker) : FlatteningEvent → FlatteningWorker
  | .tick registered =>
    let r := flatteningTick w.state registered
    ⟨r.1, w.enabled && !r.2, w.refreshes + if r.2 then 1 else 0⟩
  | .arm count => { w with state := count, enabled := true }
  | .write state => { w with state := state }

/-- The worker after a run of events. -/
def FlatteningWorker.run (w : FlatteningWorker) (es : List FlatteningEvent) : FlatteningWorker :=
  es.foldl FlatteningWorker.step w

/-! ## One tick -/

/-- A tick leaves every state at or below `ClientRefreshRequested` alone and sends nothing. -/
lemma flatteningTick_of_le {state : Int} (h : state ≤ clientRefreshRequested) (r : Bool) :
    flatteningTick state r = (state, false) := by
  simp [flatteningTick, not_lt.mpr h]

/-- A tick decrements a positive state and leaves any other alone. -/
lemma flatteningTick_fst (state : Int) (r : Bool) :
    (flatteningTick state r).1 = if 0 < state then state - 1 else state := by
  unfold flatteningTick clientRefreshRequested
  split_ifs <;> rfl

/-- A tick sends the refresh exactly from the state `1` with a callback registered. -/
lemma flatteningTick_snd (state : Int) (r : Bool) :
    (flatteningTick state r).2 = (decide (state = 1) && r) := by
  unfold flatteningTick clientRefreshRequested
  by_cases h1 : state = 1
  · subst h1; cases r <;> simp
  · split_ifs <;> simp_all
    omega

/-! ## A countdown -/

@[simp] lemma run_cons (w : FlatteningWorker) (e : FlatteningEvent) (es : List FlatteningEvent) :
    w.run (e :: es) = (w.step e).run es := rfl

/-- A countdown from `n` over the ticks `rs` ends at `n - k`, floored at zero, and has sent one
refresh exactly when its `n`-th tick came with a callback registered. -/
lemma run_ticks (n : Nat) (rs : List Bool) (w : FlatteningWorker) (hw : w.state = n) :
    (w.run (rs.map .tick)).state = (n - rs.length : Nat) ∧
      (w.run (rs.map .tick)).refreshes =
        w.refreshes + if 0 < n ∧ rs[n - 1]? = some true then 1 else 0 := by
  induction rs generalizing n w with
  | nil => simp [FlatteningWorker.run, hw]
  | cons r rs ih =>
    have hstate : (w.step (.tick r)).state = (n - 1 : Nat) := by
      simp only [FlatteningWorker.step, flatteningTick_fst, hw]
      split_ifs <;> omega
    obtain ⟨h1, h2⟩ := ih (n - 1) _ hstate
    rw [List.map_cons, run_cons, h1, h2]
    refine ⟨by simp only [List.length_cons]; omega, ?_⟩
    simp only [FlatteningWorker.step, flatteningTick_snd, hw]
    rcases n with _ | _ | n <;> cases r <;> simp
    all_goals omega

/-- The law of the countdown.  A tick leaves a state at or below `ClientRefreshRequested` alone
and sends nothing from it, never enters a state below it, enters it only from `1`, and decrements
every positive state by one.  After arming with `N ≥ 1` and `k` ticks the state is
`max (N - k) 0`, and one refresh has been sent if the `N`-th tick found a callback registered,
none otherwise, however many ticks follow. -/
theorem flatteningTick_countdown :
    (∀ state r, state ≤ clientRefreshRequested → flatteningTick state r = (state, false)) ∧
    (∀ state r, (flatteningTick state r).1 < clientRefreshRequested →
      (flatteningTick state r).1 = state) ∧
    (∀ state r, (flatteningTick state r).1 = clientRefreshRequested →
      state ≠ clientRefreshRequested → state = 1) ∧
    (∀ state r, clientRefreshRequested < state → (flatteningTick state r).1 = state - 1) ∧
    (∀ (w : FlatteningWorker) (N : Int) (rs : List Bool), 1 ≤ N →
      (w.run (.arm N :: rs.map .tick)).state = max (N - rs.length) 0 ∧
      (w.run (.arm N :: rs.map .tick)).refreshes =
        w.refreshes + if rs[N.toNat - 1]? = some true then 1 else 0) := by
  refine ⟨fun _ r h => flatteningTick_of_le h r, fun s r => ?_, fun s r => ?_, fun s r h => ?_,
    fun w N rs hN => ?_⟩
  · rw [flatteningTick_fst]; unfold clientRefreshRequested; split_ifs <;> omega
  · rw [flatteningTick_fst]; unfold clientRefreshRequested; split_ifs <;> omega
  · rw [flatteningTick_fst]; unfold clientRefreshRequested at h; simp [h]
  · obtain ⟨h1, h2⟩ :=
      run_ticks N.toNat rs (w.step (.arm N)) (by simp [FlatteningWorker.step]; omega)
    rw [run_cons, h1, h2]
    refine ⟨by omega, ?_⟩
    simp [FlatteningWorker.step, show 0 < N.toNat by omega]

/-- A countdown of three, ticked three times with a callback registered, ends at
`ClientRefreshRequested` having sent one refresh. -/
theorem flatteningTick_countdown_three :
    1 ≤ (3 : Int) ∧
      ((⟨notRequired, false, 0⟩ : FlatteningWorker).run
          (.arm 3 :: [true, true, true].map .tick)).state = max (3 - [true, true, true].length) 0 ∧
      ((⟨notRequired, false, 0⟩ : FlatteningWorker).run
          (.arm 3 :: [true, true, true].map .tick)).refreshes =
        (⟨notRequired, false, 0⟩ : FlatteningWorker).refreshes +
          if [true, true, true][(3 : Int).toNat - 1]? = some true then 1 else 0 :=
  ⟨by decide, flatteningTick_countdown.2.2.2.2 _ 3 _ (by decide)⟩

end DrmHwc
