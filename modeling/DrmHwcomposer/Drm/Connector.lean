import Mathlib.Data.Nat.Digits
import DrmHwcomposer.Drm.Objects

/-!
# Connectors

`DrmConnector` as the binder and the display-ordering policy read it: the kernel's connector type
and type index, which give the connector's name (`DrmConnector::name`) and its classification
(`internal`, `external`, `writeback`), its connection state, and the encoder data the pipeline
binder starts from.

The connector types are the kernel's `DRM_MODE_CONNECTOR_*` codes; `kNames` is the table of the
sources, in which each code is the index of its name, so the codes below can be read off it.

A name is the type's name from the table, a dash and the decimal type index. Some table names
hold a dash themselves (`DVI-I`, `HDMI-A`), but a decimal numeral never does, so the last dash
splits a name back into its two parts and `name_eq_name_iff` says which connectors share one.
-/

namespace DrmHwc

/-- The connection states of a connector (`DRM_MODE_CONNECTED` and the others). -/
inductive DrmModeConnection
  | connected
  | disconnected
  | unknownConnection
  deriving DecidableEq, Repr

/-- A display mode as the kernel describes it (`drmModeModeInfo`), which `DrmMode` copies. -/
structure DrmMode where
  clock : Nat
  hDisplay : Nat
  hSyncStart : Nat
  hSyncEnd : Nat
  hTotal : Nat
  hSkew : Nat
  vDisplay : Nat
  vSyncStart : Nat
  vSyncEnd : Nat
  vTotal : Nat
  vScan : Nat
  vRefresh : Nat
  flags : Nat
  type : Nat
  name : String
  deriving DecidableEq, Repr

/-- A connector: its id, its kernel type and the index of that type, its connection state, the id
of the encoder the kernel reports bound to it, and the positions of the encoders it can use. -/
structure DrmConnector where
  id : Nat
  connectorType : Nat
  connectorTypeId : Nat
  state : DrmModeConnection
  currentEncoderId : Nat
  possibleEncoders : List Nat
  deriving DecidableEq, Repr

/-- The number of connector types `name` knows. -/
def kTypesCount : Nat := 21

/-- The names of the connector types, indexed by the kernel's type code. -/
def kNames : List String :=
  ["None", "VGA", "DVI-I", "DVI-D", "DVI-A", "Composite", "SVIDEO", "LVDS", "Component", "DIN",
   "DP", "HDMI-A", "HDMI-B", "TV", "eDP", "Virtual", "DSI", "DPI", "Writeback", "SPI", "USB"]

namespace DrmConnector

/-- `DrmConnector::name`: the type's name, a dash and the type index, or `None` for a type
outside the table. -/
def name (c : DrmConnector) : String :=
  if c.connectorType < kTypesCount then
    kNames.getD c.connectorType "None" ++ "-" ++ toString c.connectorTypeId
  else "None"

/-- `DrmConnector::internal`: LVDS (7), eDP (14), DSI (16), VIRTUAL (15), DPI (17) or SPI (19). -/
def internal (c : DrmConnector) : Bool :=
  c.connectorType ∈ [7, 14, 16, 15, 17, 19]

/-- `DrmConnector::external`: HDMIA (11), DisplayPort (10), DVID (3), DVII (2), VGA (1) or
USB (20). -/
def external (c : DrmConnector) : Bool :=
  c.connectorType ∈ [11, 10, 3, 2, 1, 20]

/-- `DrmConnector::writeback`: WRITEBACK (18). -/
def writeback (c : DrmConnector) : Bool :=
  c.connectorType = 18

/-- Modelled from the spec: `DrmConnector::SupportsEncoder`, membership of the encoder at
position `e` in the connector's compatibility set. -/
def supportsEncoder (c : DrmConnector) (e : Nat) : Bool :=
  e ∈ c.possibleEncoders

/-- No connector is both internal and external. -/
lemma not_internal_and_external (c : DrmConnector) :
    ¬(c.internal = true ∧ c.external = true) := by
  simp only [internal, external, decide_eq_true_eq]
  rintro ⟨hi, he⟩
  simp only [List.mem_cons, List.mem_singleton, List.not_mem_nil, or_false] at hi he
  omega

end DrmConnector

/-! ## Names -/

/-- `toDigitsCore` prepends the digits it computes to what it was given. -/
lemma toDigitsCore_append (b fuel n : Nat) (ds : List Char) :
    Nat.toDigitsCore b fuel n ds = Nat.toDigitsCore b fuel n [] ++ ds := by
  induction fuel generalizing n ds with
  | zero => rfl
  | succ f ih =>
    simp only [Nat.toDigitsCore]
    split_ifs
    · rfl
    · rw [ih, ih _ [_], List.append_assoc, List.singleton_append]

/-- Once the fuel exceeds the number, more fuel gives the same decimal digits. -/
lemma toDigitsCore_ten_fuel {fuel fuel' n : Nat} (h : n < fuel) (h' : n < fuel') :
    Nat.toDigitsCore 10 fuel n [] = Nat.toDigitsCore 10 fuel' n [] := by
  induction fuel generalizing fuel' n with
  | zero => omega
  | succ f ih =>
    obtain ⟨f', rfl⟩ : ∃ f', fuel' = f' + 1 := ⟨fuel' - 1, by omega⟩
    simp only [Nat.toDigitsCore]
    split_ifs
    · rfl
    · rw [toDigitsCore_append, toDigitsCore_append _ f', @ih f' (n / 10) (by omega) (by omega)]

/-- The decimal digits of `n`: those of `n / 10`, unless it is zero, then the last digit. -/
lemma toDigits_ten (n : Nat) :
    Nat.toDigits 10 n =
      (if n / 10 = 0 then [] else Nat.toDigits 10 (n / 10)) ++ [Nat.digitChar (n % 10)] := by
  rw [Nat.toDigits, Nat.toDigitsCore]
  split_ifs with hn
  · rfl
  · rw [toDigitsCore_append, Nat.toDigits, toDigitsCore_ten_fuel (by omega) (Nat.lt_succ_self _)]

/-- A decimal numeral has no dash. -/
lemma dash_not_mem_toDigits (n : Nat) : '-' ∉ Nat.toDigits 10 n := by
  induction n using Nat.strong_induction_on with
  | _ n ih =>
    have hd : ∀ k < 10, Nat.digitChar k ≠ '-' := by decide
    rw [toDigits_ten, List.mem_append, List.mem_singleton, not_or]
    refine ⟨?_, fun h => hd (n % 10) (Nat.mod_lt _ (by omega)) h.symm⟩
    split_ifs with hn
    · exact List.not_mem_nil _
    · exact ih _ (by omega)

/-- Distinct numbers have distinct decimal numerals. -/
lemma toDigits_ten_injective : Function.Injective (Nat.toDigits 10) := by
  intro n
  induction n using Nat.strong_induction_on with
  | _ n ih =>
    intro m h
    have hd : ∀ k < 10, ∀ j < 10, Nat.digitChar k = Nat.digitChar j → k = j := by decide
    rw [toDigits_ten n, toDigits_ten m] at h
    obtain ⟨hp, hl⟩ := List.append_inj' h rfl
    have hlast : n % 10 = m % 10 :=
      hd _ (Nat.mod_lt _ (by omega)) _ (Nat.mod_lt _ (by omega)) (List.singleton_inj.mp hl)
    have hne : ∀ k, Nat.toDigits 10 k ≠ [] := fun k hk => by simp [toDigits_ten k] at hk
    split_ifs at hp with hn hm hm
    · omega
    · exact absurd hp.symm (hne _)
    · exact absurd hp (hne _)
    · have := ih _ (by omega) hp
      omega

/-- A dash followed by a dashless tail splits a list in one way only. -/
lemma append_dash_inj {a b x y : List Char} (hx : '-' ∉ x) (hy : '-' ∉ y)
    (h : a ++ '-' :: x = b ++ '-' :: y) : a = b ∧ x = y := by
  induction a generalizing b with
  | nil =>
    cases b with
    | nil => exact ⟨rfl, (List.cons.inj h).2⟩
    | cons c b =>
      obtain ⟨-, rfl⟩ := List.cons.inj h
      exact absurd (List.mem_append_right _ (List.mem_cons_self _ _)) hx
  | cons c a ih =>
    cases b with
    | nil =>
      obtain ⟨-, rfl⟩ := List.cons.inj h
      exact absurd (List.mem_append_right _ (List.mem_cons_self _ _)) hy
    | cons d b =>
      simp only [List.cons_append, List.cons.injEq] at h
      obtain ⟨rfl, h⟩ := h
      exact (ih h).imp_left (congrArg _)

namespace DrmConnector

/-- The characters of a name from the table: the type's name, a dash, the type index. -/
lemma name_data {c : DrmConnector} (hc : c.connectorType < kTypesCount) :
    c.name.data =
      (kNames.getD c.connectorType "None").data ++ '-' :: Nat.toDigits 10 c.connectorTypeId := by
  rw [name, if_pos hc, String.data_append, String.data_append, List.append_assoc]
  rfl

/-- Two connectors bear the same name exactly when they have the same type from the table and the
same type index, or when both have a type outside the table, which all bear the name `None`. -/
theorem name_eq_name_iff (c c' : DrmConnector) :
    c.name = c'.name ↔
      (c.connectorType < kTypesCount ∧ c.connectorType = c'.connectorType ∧
          c.connectorTypeId = c'.connectorTypeId) ∨
        (kTypesCount ≤ c.connectorType ∧ kTypesCount ≤ c'.connectorType) := by
  have hnone : '-' ∉ "None".data := by decide
  have hdash {c : DrmConnector} (hc : c.connectorType < kTypesCount) : '-' ∈ c.name.data := by
    rw [name_data hc]
    exact List.mem_append_right _ (List.mem_cons_self _ _)
  by_cases hc : c.connectorType < kTypesCount <;> by_cases hc' : c'.connectorType < kTypesCount
  · have hnodup : kNames.Nodup := by decide
    constructor
    · intro h
      have hdata := congrArg String.data h
      rw [name_data hc, name_data hc'] at hdata
      obtain ⟨ht, hi⟩ := append_dash_inj (dash_not_mem_toDigits _) (dash_not_mem_toDigits _) hdata
      have hl : c.connectorType < kNames.length := hc
      have hl' : c'.connectorType < kNames.length := hc'
      have ht : kNames[c.connectorType] = kNames[c'.connectorType] := by
        simpa only [List.getD_eq_getElem?_getD, List.getElem?_eq_getElem hl,
          List.getElem?_eq_getElem hl', Option.getD_some] using String.ext ht
      exact .inl ⟨hc, hnodup.getElem_inj_iff.mp ht, toDigits_ten_injective hi⟩
    · rintro (⟨-, ht, hi⟩ | ⟨h, -⟩)
      · simp only [name, ht, hi]
      · omega
  · have h' : c'.name = "None" := if_neg hc'
    refine ⟨fun h => absurd (h ▸ hdash hc) (h' ▸ hnone), ?_⟩
    rintro (⟨-, ht, -⟩ | ⟨h, -⟩) <;> omega
  · have h : c.name = "None" := if_neg hc
    refine ⟨fun h' => absurd (h' ▸ hdash hc') (h ▸ hnone), ?_⟩
    rintro (⟨h, -⟩ | ⟨-, h⟩) <;> omega
  · simp only [name, if_neg hc, if_neg hc', true_iff]
    exact .inr ⟨by omega, by omega⟩

end DrmConnector

end DrmHwc
