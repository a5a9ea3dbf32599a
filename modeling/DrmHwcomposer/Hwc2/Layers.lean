import DrmHwcomposer.Hwc2.HwcDisplay

/-!
# Creating and destroying layers

`HwcDisplay::CreateLayer` emplaces a fresh layer under the value of the counter `layer_idx_`,
hands that value out as the layer's handle and increments the counter; `DestroyLayer` erases a
live layer.  The counter is declared in a header that is not among the sources, narrower than
`hwc2_layer_t`; its width is the parameter `w`, so the increment is taken modulo `2 ^ w`.

While fewer than `2 ^ w` handles have been handed out every handle is new, but the counter then
returns to its first value.  A display needs no more than two live layers to get there:
`createLayer_reuses_handle` keeps the first layer, creates and destroys a layer `2 ^ w - 1` times,
and the next `CreateLayer` hands out the first layer's handle again, with `emplace` leaving the
layer map unchanged.
-/

namespace DrmHwc

namespace HwcDisplay

/-- `HwcDisplay::CreateLayer` with `layer_idx_` of width `w`: the display afterwards and the
handle it returns (the call always returns `HWC2::Error::None`). -/
def createLayer (w : Nat) (d : HwcDisplay) : HwcDisplay × Nat :=
  ({ d with layers := d.layers.emplace d.layerIdx .new, layerIdx := (d.layerIdx + 1) % 2 ^ w },
    d.layerIdx)

/-- `HwcDisplay::DestroyLayer`: a handle that names no live layer is `BadLayer`. -/
def destroyLayer (d : HwcDisplay) (layer : Nat) : HwcDisplay × Hwc2Error :=
  match d.layers.find? layer with
  | none => (d, .badLayer)
  | some _ => ({ d with layers := d.layers.erase layer }, .none)

/-- One `CreateLayer` followed by `DestroyLayer` of the handle it returned. -/
def createDestroyLayer (w : Nat) (d : HwcDisplay) : HwcDisplay :=
  let r := createLayer w d
  (destroyLayer r.1 r.2).1

/-- A layer created under a handle that names no live layer and destroyed again leaves the
display as it was, but for the counter. -/
lemma createDestroyLayer_of_not_mem {w : Nat} {d : HwcDisplay} (h : d.layerIdx ∉ d.layers.keys) :
    createDestroyLayer w d = { d with layerIdx := (d.layerIdx + 1) % 2 ^ w } := by
  simp only [createDestroyLayer, createLayer, destroyLayer, StdMap.find?_emplace, true_and,
    if_pos h, StdMap.erase_emplace _ h]

/-- Rounds of creating and destroying a layer under handles that name no live layer only advance
the counter. -/
lemma createDestroyLayer_iterate {w : Nat} {d : HwcDisplay} (hd : d.layerIdx < 2 ^ w) (j : Nat)
    (hfree : ∀ i < j, (d.layerIdx + i) % 2 ^ w ∉ d.layers.keys) :
    (createDestroyLayer w)^[j] d = { d with layerIdx := (d.layerIdx + j) % 2 ^ w } := by
  induction j with
  | zero => rw [Nat.add_zero, Nat.mod_eq_of_lt hd]; rfl
  | succ j ih =>
    rw [Function.iterate_succ_apply', ih fun i hi => hfree i (by omega),
      createDestroyLayer_of_not_mem (hfree j (by omega)), Nat.mod_add_mod, Nat.add_assoc]

/-- On a display with no layer and the counter at 0, keep the first layer, handle 0, and create
and destroy a layer `2 ^ w - 1` times: between the rounds layer 0 is the only live layer, and the
next `CreateLayer` returns 0, the handle of that live layer, while `layers_` does not grow. -/
theorem createLayer_reuses_handle (w : Nat) (d : HwcDisplay) :
    let d₀ : HwcDisplay := { d with layers := .empty, layerIdx := 0 }
    let d₁ := (createLayer w d₀).1
    (createLayer w d₀).2 = 0 ∧
      (∀ j < 2 ^ w, ((createDestroyLayer w)^[j] d₁).layers.keys = [0]) ∧
      (createLayer w ((createDestroyLayer w)^[2 ^ w - 1] d₁)).2 = 0 ∧
      (createLayer w ((createDestroyLayer w)^[2 ^ w - 1] d₁)).1.layers =
        ((createDestroyLayer w)^[2 ^ w - 1] d₁).layers := by
  intro d₀ d₁
  have hpos := Nat.two_pow_pos w
  have hkeys : d₁.layers.keys = [0] := rfl
  -- every round before the last runs on a handle other than 0
  have hrun : ∀ j < 2 ^ w, (createDestroyLayer w)^[j] d₁ =
      { d₁ with layerIdx := (1 % 2 ^ w + j) % 2 ^ w } := by
    intro j hj
    refine createDestroyLayer_iterate (Nat.mod_lt _ hpos) j fun i hi => ?_
    have h1 : 1 < 2 ^ w := by omega
    show (1 % 2 ^ w + i) % 2 ^ w ∉ [0]
    rw [Nat.mod_eq_of_lt h1, Nat.mod_eq_of_lt (by omega), List.mem_singleton]
    omega
  have hlast := hrun (2 ^ w - 1) (by omega)
  have hidx : (1 % 2 ^ w + (2 ^ w - 1)) % 2 ^ w = 0 := by
    rw [Nat.mod_add_mod, Nat.add_sub_of_le hpos, Nat.mod_self]
  refine ⟨rfl, fun j hj => by rw [hrun j hj]; exact hkeys, ?_, ?_⟩
  · rw [hlast]
    exact hidx
  · rw [hlast]
    simp only [createLayer, hidx]
    exact StdMap.emplace_of_mem _ (by rw [hkeys]; exact List.mem_singleton_self 0)

/-- With a two-bit counter: handle 0 is kept, handles 1, 2 and 3 are created and destroyed, and
the fifth `CreateLayer` hands out 0 again. -/
example :
    let d₀ : HwcDisplay := ⟨.empty, 0, .new, ⟨.empty, 0⟩, none, ⟨0, 0⟩, 0, 0⟩
    (createLayer 2 ((createDestroyLayer 2)^[3] (createLayer 2 d₀).1)).2 = 0 ∧
      ((createDestroyLayer 2)^[3] (createLayer 2 d₀).1).layers.keys = [0] := by
  decide

end HwcDisplay

end DrmHwc
