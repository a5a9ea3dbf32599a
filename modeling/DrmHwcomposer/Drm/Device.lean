import DrmHwcomposer.Drm.Connector

/-!
# Devices

A `DrmDevice` holds the ordered collections of Crtcs, encoders, connectors and planes that
`DrmDevice::Init` enumerates.  The kernel's answers to the calls `Init` makes are an input,
`KernelDevice`: whether the node opens, the results of the capability calls, the resources with
the outcome of each object's `CreateInstance`, and the plane resources with the outcome of each
plane's initialisation.

The point of the model is where `Init` can fail: before anything is enumerated (open, caps,
master, resources) or after the connectors were enumerated (plane resources, a plane), in which
case the device keeps its connectors.  `DrmDevice.init_spec` says it in closed form: `Init`
returns 0 exactly when every check passes and every listed plane reads and initialises, and the
device holds the objects whose `CreateInstance` succeeded, in the kernel's order and with the
writeback connectors apart, and the planes up to the first failing one.  The writeback and modifier capabilities never decide the result, and the resolution bounds
`Init` records are not modelled.
-/

namespace DrmHwc

/-! ## The device -/

/-- The objects of one device, in the order the kernel listed them. -/
structure DrmDevice where
  crtcs : List DrmCrtc
  encoders : List DrmEncoder
  connectors : List DrmConnector
  writebackConnectors : List DrmConnector
  planes : List DrmPlane
  deriving DecidableEq, Repr

namespace DrmDevice

/-- A device with nothing enumerated. -/
def empty : DrmDevice := ⟨[], [], [], [], []⟩

/-- Modelled from the spec: `DrmDevice::FindCrtcById`, the position of the first Crtc with the
given id. -/
def findCrtcById (dev : DrmDevice) (id : Nat) : Option Nat :=
  (dev.crtcs.enum.find? (·.2.id = id)).map Prod.fst

/-- Modelled from the spec: `DrmDevice::FindEncoderById`, the first encoder with the given id,
with its position. -/
def findEncoderById (dev : DrmDevice) (id : Nat) : Option (Nat × DrmEncoder) :=
  dev.encoders.enum.find? (·.2.id = id)

end DrmDevice

/-! ## Initialisation -/

/-- `ENOENT`. -/
def ENOENT : Int := 2

/-- `EACCES`. -/
def EACCES : Int := 13

/-- `ENODEV`. -/
def ENODEV : Int := 19

/-- `EINVAL`. -/
def EINVAL : Int := 22

/-- The mode resources: the outcome of `CreateInstance` for each listed Crtc, encoder and
connector (`none` when it failed). -/
structure KernelResources where
  crtcs : List (Option DrmCrtc)
  encoders : List (Option DrmEncoder)
  connectors : List (Option DrmConnector)
  deriving DecidableEq, Repr

/-- One listed plane: what `drmModeGetPlane` returned and the result of `DrmPlane::Init`. -/
structure KernelPlane where
  plane : Option DrmPlane
  initResult : Int
  deriving DecidableEq, Repr

/-- The kernel's answers to the calls of `DrmDevice::Init`. -/
structure KernelDevice where
  opened : Bool
  universalPlanesCap : Int
  atomicCap : Int
  isMaster : Bool
  resources : Option KernelResources
  planeResources : Option (List KernelPlane)
  deriving DecidableEq, Repr

/-- A property of a mode object as `drmModeGetProperty` reads it: its name and value. -/
structure KernelProperty where
  name : String
  value : Nat
  deriving DecidableEq, Repr

/-- `DrmDevice::GetProperty` on the properties `drmModeObjectGetProperties` reads for an object
(`none` when it fails): 0 with the first property of that name, `-ENODEV`, or `-ENOENT` when no
property has the name. -/
def getProperty (props : Option (List KernelProperty)) (propName : String) :
    Int × Option KernelProperty :=
  match props with
  | none => (-ENODEV, none)
  | some ps =>
    match ps.find? (·.name = propName) with
    | some p => (0, some p)
    | none => (-ENOENT, none)

/-- What the kernel answers for one listed connector id: the connector `drmModeGetConnector`
reads, if any, and the connector's properties. -/
structure KernelConnector where
  connector : Option DrmConnector
  props : Option (List KernelProperty)
  deriving DecidableEq, Repr

/-- `GetConnectorProperty`: `GetProperty` found the connector's property. -/
def getConnectorProperty (k : KernelConnector) (propName : String) : Bool :=
  (getProperty k.props propName).1 = 0

/-- `DrmConnector::CreateInstance`: the connector, unless it cannot be read or lacks `DPMS`,
`CRTC_ID` or, for a writeback connector, one of its three writeback properties.  The result of
`UpdateEdidProperty` is ignored. -/
def DrmConnector.createInstance (k : KernelConnector) : Option DrmConnector :=
  match k.connector with
  | none => none
  | some c =>
    if !getConnectorProperty k "DPMS" || !getConnectorProperty k "CRTC_ID" then none
    else if c.writeback && (!getConnectorProperty k "WRITEBACK_PIXEL_FORMATS" ||
        !getConnectorProperty k "WRITEBACK_FB_ID" ||
        !getConnectorProperty k "WRITEBACK_OUT_FENCE_PTR") then none
    else some c

/-- The plane loop of `DrmDevice::Init`: planes are kept up to the first that cannot be read
(`-ENODEV`) or initialised (its error), which ends the loop with that error. -/
def initPlanes : List KernelPlane → Int × List DrmPlane
  | [] => (0, [])
  | kp :: rest =>
    match kp.plane with
    | none => (-ENODEV, [])
    | some p =>
      if kp.initResult ≠ 0 then (kp.initResult, [])
      else ((initPlanes rest).1, p :: (initPlanes rest).2)

/-- The enumeration loops of `DrmDevice::Init`: every object whose `CreateInstance` succeeded is
kept, and writeback connectors go to their own list. -/
def enumerateResources (res : KernelResources) : DrmDevice :=
  let conns := res.connectors.filterMap id
  { crtcs := res.crtcs.filterMap id
    encoders := res.encoders.filterMap id
    connectors := conns.filter (!·.writeback)
    writebackConnectors := conns.filter (·.writeback)
    planes := [] }

/-- `DrmDevice::Init`, its return value and the device it leaves. -/
def DrmDevice.init (k : KernelDevice) : Int × DrmDevice :=
  if !k.opened then (-ENODEV, .empty)
  else if k.universalPlanesCap ≠ 0 then (k.universalPlanesCap, .empty)
  else if k.atomicCap ≠ 0 then (k.atomicCap, .empty)
  else if !k.isMaster then (-EACCES, .empty)
  else
    match k.resources with
    | none => (-ENODEV, .empty)
    | some res =>
      let dev := enumerateResources res
      match k.planeResources with
      | none => (-ENOENT, dev)
      | some planes => ((initPlanes planes).1, { dev with planes := (initPlanes planes).2 })

/-! ## What `Init` leaves -/

/-- A listed plane that `drmModeGetPlane` reads and `DrmPlane::Init` accepts. -/
def KernelPlane.ok (kp : KernelPlane) : Bool :=
  kp.plane.isSome && kp.initResult == 0

/-- The plane loop keeps the planes before the first that fails, and returns 0 exactly when none
fails. -/
lemma initPlanes_spec (kps : List KernelPlane) :
    (initPlanes kps).2 = (kps.takeWhile KernelPlane.ok).filterMap (·.plane) ∧
      ((initPlanes kps).1 = 0 ↔ ∀ kp ∈ kps, kp.ok) := by
  induction kps with
  | nil => simp [initPlanes]
  | cons kp kps ih =>
    obtain ⟨plane, r⟩ := kp
    cases plane with
    | none => simp [initPlanes, KernelPlane.ok, ENODEV]
    | some p =>
      by_cases hr : r = 0
      · simp [initPlanes, KernelPlane.ok, hr, ih.1, ih.2]
      · simp [initPlanes, KernelPlane.ok, hr]

/-- `DrmDevice::Init` returns 0 exactly when the node opens, both client capabilities are set,
the process is master, and the resources and every listed plane are read and initialised.  Once
the checks pass and the resources are read, the device holds every Crtc, encoder and connector
whose `CreateInstance` succeeded, whatever happens to the planes, with the planes before the
first failing one; before that it holds nothing. -/
theorem DrmDevice.init_spec (k : KernelDevice) :
    ((DrmDevice.init k).1 = 0 ↔ k.opened ∧ k.universalPlanesCap = 0 ∧ k.atomicCap = 0 ∧
        k.isMaster ∧ k.resources.isSome ∧
        ∃ planes, k.planeResources = some planes ∧ ∀ kp ∈ planes, kp.ok) ∧
      (DrmDevice.init k).2 =
        if k.opened ∧ k.universalPlanesCap = 0 ∧ k.atomicCap = 0 ∧ k.isMaster then
          match k.resources with
          | some res =>
            { crtcs := res.crtcs.filterMap id
              encoders := res.encoders.filterMap id
              connectors := (res.connectors.filterMap id).filter (!·.writeback)
              writebackConnectors := (res.connectors.filterMap id).filter (·.writeback)
              planes := ((k.planeResources.getD []).takeWhile KernelPlane.ok).filterMap (·.plane) }
          | none => .empty
        else .empty := by
  obtain ⟨opened, up, ac, master, res, planes⟩ := k
  by_cases hg : opened = true ∧ up = 0 ∧ ac = 0 ∧ master = true
  · obtain ⟨rfl, rfl, rfl, rfl⟩ := hg
    cases res with
    | none => simp [DrmDevice.init, ENODEV]
    | some res =>
      cases planes with
      | none => simp [DrmDevice.init, ENOENT]; rfl
      | some planes => simp [DrmDevice.init, initPlanes_spec, enumerateResources]
  · -- a failed check returns an error and enumerates nothing
    have hfail : ∃ e : Int, e ≠ 0 ∧
        DrmDevice.init ⟨opened, up, ac, master, res, planes⟩ = (e, .empty) := by
      unfold DrmDevice.init
      cases opened
      · exact ⟨-ENODEV, by decide, rfl⟩
      by_cases hup : up = 0
      · by_cases hac : ac = 0
        · cases master
          · exact ⟨-EACCES, by decide, by simp [hup, hac]⟩
          · exact absurd ⟨rfl, hup, hac, rfl⟩ hg
        · exact ⟨ac, hac, by simp [hup, hac]⟩
      · exact ⟨up, hup, by simp [hup]⟩
    obtain ⟨e, he, h⟩ := hfail
    rw [h, if_neg hg]
    exact ⟨iff_of_false he fun h' => hg ⟨h'.1, h'.2.1, h'.2.2.1, h'.2.2.2.1⟩, rfl⟩

end DrmHwc
