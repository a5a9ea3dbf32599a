import DrmHwcomposer.Drm.Device
import DrmHwcomposer.Drm.Objects
import DrmHwcomposer.Drm.PrimaryCandidates
import DrmHwcomposer.Utils.StdMap

/-!
# The resource manager

`ResourceManager::Init` opens the device nodes `/dev/dri/card0`, `card1`, … that `IsKMSDev`
accepts one after the other with `AddDrmDevice`, which keeps each device in `drms_` whatever its `DrmDevice::Init` returned, and
stops after the first failure.  `ReorderConnectors` then numbers the connectors of all kept devices:
the first primary candidate under key 1, then every internal or external connector in discovery
order under the next keys, each connector owned at most once through `OwnDrmObject`.

`DrmDevice.init` models `DrmDevice::Init`: the connectors of a device are kept as soon as they are
enumerated, before the planes are read, so a device whose planes fail still brings its connectors.

`reorderConnectors_entries` gives `connectors_` after any discovery and any candidate list; the
loop invariant is `ReorderInv`, kept by one step (`ReorderInv.addConnector`) and by the whole loop
(`ReorderInv.foldl`).
-/

namespace DrmHwc

/-! ## Initialising the devices -/

/-- `DrmDevice::IsKMSDev`: the node opens and its mode resources list at least one Crtc, one
connector and one encoder.  It reads the same kernel answers as the node's `DrmDevice::Init`. -/
def isKMSDev (k : KernelDevice) : Bool :=
  k.opened && match k.resources with
    | some res => 0 < res.crtcs.length && 0 < res.connectors.length && 0 < res.encoders.length
    | none => false

/-- The device loop of `ResourceManager::Init` over the nodes `stat` finds, in order, up to the
first it misses: its last `ret` and `drms_`, the result and connectors of each device kept.
`AddDrmDevice` keeps a device whatever its `Init` returned, and the loop stops after a failure. -/
def addDrmDevices : List KernelDevice → Int × List (Int × DrmDevice)
  | [] => (0, [])
  | node :: nodes =>
    if isKMSDev node then
      if (DrmDevice.init node).1 ≠ 0 then ((DrmDevice.init node).1, [DrmDevice.init node])
      else ((addDrmDevices nodes).1, DrmDevice.init node :: (addDrmDevices nodes).2)
    else addDrmDevices nodes

/-! ## Numbering the connectors -/

/-- The state of `ReorderConnectors`: `connectors_`, `found_primary`, `num_displays` and the
ownership records of the connectors. -/
structure ReorderState where
  connectors : StdMap Nat ConnectorRef
  foundPrimary : Bool
  numDisplays : Nat
  owned : ConnectorRef → Bool

/-- `connectors_[num_displays] = owned_conn; ++num_displays` when `OwnDrmObject` hands out an
owner of `conn`, and nothing otherwise.  Both branches of the discovery loop do this; the first
also sets `found_primary`, which the second finds set already. -/
def ReorderState.addConnector (s : ReorderState) (conn : ConnectorRef) : ReorderState :=
  match ownDrmObject conn s.owned with
  | some owned =>
    { connectors := s.connectors.insertOrAssign s.numDisplays conn, foundPrimary := true,
      numDisplays := s.numDisplays + 1, owned := owned }
  | none => s

/-- `ResourceManager::ReorderConnectors` once `MakePrimaryDisplayCandidates` has returned
`primaryCandidates`: the first candidate becomes display 1, then the discovery loop numbers the
internal and external connectors. -/
def reorderConnectorsWith (allConnectors primaryCandidates : List ConnectorRef)
    (owned : ConnectorRef → Bool) : ReorderState :=
  let s : ReorderState := ⟨.empty, false, 1, owned⟩
  let s := match primaryCandidates with
    | c :: _ => if !s.foundPrimary then s.addConnector c else s
    | [] => s
  allConnectors.foldl (fun s conn =>
    if conn.2.external || conn.2.internal then s.addConnector conn else s) s

/-- The connectors of all devices in device-then-connector order, each with its position. -/
def allConnectors (drms : List (List DrmConnector)) : List ConnectorRef :=
  drms.flatten.enum

/-- `ResourceManager::ReorderConnectors`, or `none` where `MakePrimaryDisplayCandidates` has
undefined behaviour. -/
def reorderConnectors (displayOrder : List String) (drms : List (List DrmConnector))
    (owned : ConnectorRef → Bool) : Option ReorderState :=
  (makePrimaryDisplayCandidates displayOrder (allConnectors drms)).map fun primaryCandidates =>
    reorderConnectorsWith (allConnectors drms) primaryCandidates owned

/-- What `ResourceManager::Init` leaves: its result, `connectors_`, and `drms_`. -/
structure ResourceManagerResult where
  ret : Int
  connectors : StdMap Nat ConnectorRef
  drms : List (Int × DrmDevice)

/-- `ResourceManager::Init` with the property values `vendor.hwc.drm.device` (`pathPattern`) and
`vendor.hwc.drm.primary_display_order` (`orderProp`): one device at the path, or, for a pattern
ending in `%`, the nodes `nodes`; then `ReorderConnectors`, the empty-map branch, the
`BufferInfoGetter` instance and the uevent listener.  `none` where `ReorderConnectors` has
undefined behaviour. -/
def resourceManagerInit (pathPattern : String) (single : KernelDevice) (nodes : List KernelDevice)
    (orderProp : String) (bufferInfoGetter : Bool) (ueventInit : Int) :
    Option ResourceManagerResult := do
  let devices := if pathPattern.toList.getLast? ≠ some '%' then
      ((DrmDevice.init single).1, [DrmDevice.init single])
    else addDrmDevices nodes
  let s ← reorderConnectors (readPrimaryDisplayOrderProp orderProp)
    (devices.2.map (·.2.connectors)) fun _ => false
  if s.connectors.entries = [] then
    some ⟨if devices.1 ≠ 0 then -EINVAL else devices.1, s.connectors, devices.2⟩
  else if !bufferInfoGetter then some ⟨-EINVAL, s.connectors, devices.2⟩
  else if ueventInit ≠ 0 then some ⟨ueventInit, s.connectors, devices.2⟩
  else some ⟨0, s.connectors, devices.2⟩

/-! ## The numbering loop -/

/-- The invariant of the numbering: `connectors_` holds `vals` under the keys `1, 2, …`,
`num_displays` is the next key, and exactly the connectors of `vals` are owned. -/
def ReorderInv (vals : List ConnectorRef) (s : ReorderState) : Prop :=
  s.connectors.entries = vals.enumFrom 1 ∧
    s.numDisplays = vals.length + 1 ∧ ∀ c, s.owned c = true ↔ c ∈ vals

/-- The state before the loop numbers nothing and owns nothing. -/
lemma reorderInv_init : ReorderInv [] ⟨.empty, false, 1, fun _ => false⟩ :=
  ⟨rfl, rfl, by simp⟩

/-- An owned connector is not numbered again, and a free one is numbered next. -/
lemma ReorderInv.addConnector {vals : List ConnectorRef} {s : ReorderState}
    (hs : ReorderInv vals s) (c : ConnectorRef) :
    (c ∈ vals → s.addConnector c = s) ∧
      (c ∉ vals → ReorderInv (vals ++ [c]) (s.addConnector c)) := by
  obtain ⟨he, hn, ho⟩ := hs
  refine ⟨fun hc => by simp [ReorderState.addConnector, ownDrmObject_of_owned ((ho c).mpr hc)],
    fun hc => ?_⟩
  have hfree : s.owned c = false := Bool.eq_false_iff.mpr fun h => hc ((ho c).mp h)
  have hlt : ∀ x ∈ s.connectors.keys, x < s.numDisplays := by
    intro x hx
    obtain ⟨e, he', rfl⟩ := List.mem_map.mp hx
    rw [he] at he'
    have := (List.mem_enumFrom he').2.1
    simp only [hn]
    omega
  simp only [ReorderState.addConnector, ownDrmObject_of_free hfree]
  refine ⟨?_, by simp [hn], fun x => ?_⟩
  · rw [StdMap.insertOrAssign_of_lt _ hlt, he, List.enumFrom_append, hn, Nat.add_comm]
    rfl
  · by_cases hx : x = c <;> simp [hx, ho x]

/-- The discovery loop over distinct connectors numbers, after `vals`, every internal or external
connector not numbered yet, in order. -/
lemma ReorderInv.foldl {vals : List ConnectorRef} {s : ReorderState} (hs : ReorderInv vals s)
    {xs : List ConnectorRef} (hxs : xs.Nodup) :
    ReorderInv (vals ++ xs.filter fun c => (c.2.external || c.2.internal) && c ∉ vals)
      (xs.foldl (fun s conn =>
        if conn.2.external || conn.2.internal then s.addConnector conn else s) s) := by
  induction xs generalizing vals s with
  | nil => simpa using hs
  | cons x xs ih =>
    obtain ⟨hx, hxs⟩ := List.nodup_cons.mp hxs
    have hrest : ∀ v, (xs.filter fun c => (c.2.external || c.2.internal) && c ∉ v ++ [x]) =
        xs.filter fun c => (c.2.external || c.2.internal) && c ∉ v := fun v =>
      List.filter_congr fun c hc => by
        have : c ≠ x := fun h => hx (h ▸ hc)
        simp [this]
    rw [List.foldl_cons]
    by_cases hie : x.2.external || x.2.internal
    · by_cases hv : x ∈ vals
      · rw [if_pos hie, (hs.addConnector x).1 hv]
        simpa [hv] using ih hs hxs
      · have h := ih ((hs.addConnector x).2 hv) hxs
        rw [hrest, List.append_assoc, List.singleton_append] at h
        rw [if_pos hie, List.filter_cons_of_pos (by simp [hie, hv])]
        exact h
    · rw [if_neg hie]
      simpa [hie] using ih hs hxs

/-- Modelled from the spec: the connectors `ReorderConnectors` numbers, in key order: the first
primary candidate, then every other internal or external connector of every device, in discovery
order. -/
def displayedConnectors (drms : List (List DrmConnector)) (primaryCandidates : List ConnectorRef) :
    List ConnectorRef :=
  primaryCandidates.head?.toList ++
    drms.flatten.enum.filter fun c =>
      (c.2.external || c.2.internal) && c ∉ primaryCandidates.head?.toList

/-- The positions make the discovered connectors distinct. -/
lemma allConnectors_nodup (drms : List (List DrmConnector)) : (allConnectors drms).Nodup :=
  List.Nodup.of_map Prod.fst (by simpa [allConnectors] using List.nodup_range _)

/-- With nothing owned beforehand, `connectors_` holds `displayedConnectors` under the keys
`1, 2, …, n`. -/
lemma reorderConnectors_entries (drms : List (List DrmConnector))
    (primaryCandidates : List ConnectorRef) :
    (reorderConnectorsWith (allConnectors drms) primaryCandidates
        (fun _ => false)).connectors.entries =
      (displayedConnectors drms primaryCandidates).enumFrom 1 := by
  cases primaryCandidates with
  | nil => exact (reorderInv_init.foldl (allConnectors_nodup drms)).1
  | cons c cs =>
    exact ((reorderInv_init.addConnector c).2 (List.not_mem_nil c) |>.foldl
      (allConnectors_nodup drms)).1

/-- The numbered connectors are distinct. -/
lemma displayedConnectors_nodup (drms : List (List DrmConnector))
    (primaryCandidates : List ConnectorRef) :
    (displayedConnectors drms primaryCandidates).Nodup := by
  refine List.nodup_append.mpr ⟨?_, (allConnectors_nodup drms).filter _, fun c hc hc' => ?_⟩
  · cases primaryCandidates <;> simp
  · simp only [List.mem_filter, Bool.and_eq_true, decide_eq_true_eq] at hc'
    exact hc'.2.2 hc

/-! ## What the result of `Init` says -/

/-- The device loop ends with 0 exactly when every device it kept initialised. -/
lemma addDrmDevices_ret (nodes : List KernelDevice) :
    (addDrmDevices nodes).1 = 0 ↔ ∀ d ∈ (addDrmDevices nodes).2, d.1 = 0 := by
  induction nodes with
  | nil => simp [addDrmDevices]
  | cons node nodes ih =>
    unfold addDrmDevices
    split_ifs with hk hd
    · simp [hd]
    · simp [not_not.mp hd, ih]
    · exact ih

/-- `ResourceManager::Init` returns 0 in two cases only: no connector was numbered and every device
kept initialised, or some connector was numbered and the `BufferInfoGetter` instance and the
uevent listener are there; in the second case the results of the devices are not looked at. -/
lemma resourceManagerInit_ret_eq_zero {pathPattern orderProp : String} {single : KernelDevice}
    {nodes : List KernelDevice} {bufferInfoGetter : Bool} {ueventInit : Int}
    {r : ResourceManagerResult}
    (h : resourceManagerInit pathPattern single nodes orderProp bufferInfoGetter ueventInit =
      some r)
    (hr : r.ret = 0) :
    (r.connectors.entries = [] ∧ ∀ d ∈ r.drms, d.1 = 0) ∨
      (r.connectors.entries ≠ [] ∧ bufferInfoGetter = true ∧ ueventInit = 0) := by
  unfold resourceManagerInit at h
  generalize hd : (if pathPattern.toList.getLast? ≠ some '%' then
      ((DrmDevice.init single).1, [DrmDevice.init single])
    else addDrmDevices nodes) = devices at h
  have hdev : devices.1 = 0 → ∀ d ∈ devices.2, d.1 = 0 := by
    subst hd
    split_ifs
    · simp
    · exact (addDrmDevices_ret nodes).mp
  obtain ⟨s, -, h⟩ := Option.bind_eq_some.mp h
  by_cases he : s.connectors.entries = []
  · rw [if_pos he] at h
    cases h
    refine Or.inl ⟨he, hdev ?_⟩
    by_contra hret
    simp [hret, EINVAL] at hr
  · rw [if_neg he] at h
    split_ifs at h with hb hu <;> cases h <;> simp only at hr
    · simp [EINVAL] at hr
    · exact absurd hr hu
    · exact Or.inr ⟨he, by simpa using hb, not_not.mp hu⟩

end DrmHwc
