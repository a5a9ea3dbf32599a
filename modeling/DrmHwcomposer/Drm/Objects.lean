import Mathlib.Algebra.Group.Nat.Basic
import Mathlib.Data.List.Nodup
import Mathlib.Tactic.Lemma

/-!
# DRM objects and their ownership records

The mode-setting objects a `DrmDevice` enumerates: Crtcs, encoders and planes, with the
compatibility data the kernel reports for each (the Crtcs an encoder or a plane can work with).
An object is named by its kind and its position in the device's list (`DrmObject`); the position
plays the part of the object's address in the sources.

Each claimable object carries a weak reference `owned` to its current owner.  `OwnDrmObject`
hands out an owner only while that reference has expired, and the reference expires again when
the last copy of the owner is destroyed.  These helpers are declared in a header that is not among
the sources, so `ownDrmObject`, `takeDrmObject` and `releaseDrmObjects` follow the ownership
contract of the spec: an ownership table records for each object whether its reference is live,
a claim on a live object fails and changes nothing, and destroying owners lets their references
expire.
-/

namespace DrmHwc

/-! ## Crtcs, encoders and planes -/

/-- The values of a plane's `type` property. -/
inductive DrmPlaneType
  | overlay
  | primary
  | cursor
  deriving DecidableEq, Repr

/-- A Crtc, as far as the pipeline binder reads it: its kernel object id. -/
structure DrmCrtc where
  id : Nat
  deriving DecidableEq, Repr

/-- An encoder: its id, the id of the Crtc the kernel reports bound to it, and the positions of
the Crtcs it can drive. -/
structure DrmEncoder where
  id : Nat
  currentCrtcId : Nat
  possibleCrtcs : List Nat
  deriving DecidableEq, Repr

/-- A plane: its id, its type and the positions of the Crtcs it can feed. -/
structure DrmPlane where
  id : Nat
  type : DrmPlaneType
  possibleCrtcs : List Nat
  deriving DecidableEq, Repr

/-- Modelled from the spec: `DrmEncoder::SupportsCrtc`, membership of the Crtc at position `c`
in the encoder's fixed compatibility set. -/
def DrmEncoder.supportsCrtc (enc : DrmEncoder) (c : Nat) : Bool :=
  c ∈ enc.possibleCrtcs

/-- Modelled from the spec: `DrmPlane::IsCrtcSupported`, membership of the Crtc at position `c`
in the plane's compatibility set. -/
def DrmPlane.isCrtcSupported (plane : DrmPlane) (c : Nat) : Bool :=
  c ∈ plane.possibleCrtcs

/-- A claimable object, named by its kind and its position in the device's list. -/
inductive DrmObject
  | encoder (i : Nat)
  | crtc (i : Nat)
  | plane (i : Nat)
  deriving DecidableEq, Repr

/-! ## Ownership records -/

section Ownership

variable {α : Type} [DecidableEq α]

/-- The ownership table `owned` with live references added on the objects `os`. -/
def addClaims (os : List α) (owned : α → Bool) : α → Bool :=
  fun x => decide (x ∈ os) || owned x

/-- Modelled from the spec: `OwnDrmObject`.  A claim on an object whose reference is live
fails without side effects; otherwise the object's reference now points to the new owner. -/
def ownDrmObject (o : α) (owned : α → Bool) : Option (α → Bool) :=
  if owned o then none else some (addClaims [o] owned)

/-- Modelled from the spec: `TakeDrmObject`, used for the primary plane.  Its call site reads a
null result as "already owned", so it fails exactly when `ownDrmObject` does. -/
def takeDrmObject (o : α) (owned : α → Bool) : Option (α → Bool) :=
  ownDrmObject o owned

/-- Modelled from the spec: destroying the owners of the objects `os` lets their references
expire. -/
def releaseDrmObjects (os : List α) (owned : α → Bool) : α → Bool :=
  fun x => owned x && !decide (x ∈ os)

@[simp] lemma addClaims_apply (os : List α) (owned : α → Bool) (x : α) :
    addClaims os owned x = (decide (x ∈ os) || owned x) := rfl

@[simp] lemma releaseDrmObjects_apply (os : List α) (owned : α → Bool) (x : α) :
    releaseDrmObjects os owned x = (owned x && !decide (x ∈ os)) := rfl

@[simp] lemma addClaims_nil (owned : α → Bool) : addClaims [] owned = owned := by
  funext x; simp

/-- Two rounds of claims are one round over both lists. -/
lemma addClaims_addClaims (os os' : List α) (owned : α → Bool) :
    addClaims os (addClaims os' owned) = addClaims (os ++ os') owned := by
  funext x; simp [Bool.or_assoc]

/-- Claims depend only on which objects are claimed. -/
lemma addClaims_congr {os os' : List α} (owned : α → Bool) (h : ∀ x, x ∈ os ↔ x ∈ os') :
    addClaims os owned = addClaims os' owned := by
  funext x; simp [h x]

/-- A claim fails exactly on an object that is already owned. -/
lemma ownDrmObject_of_owned {o : α} {owned : α → Bool} (h : owned o = true) :
    ownDrmObject o owned = none := by
  simp [ownDrmObject, h]

/-- A claim on a free object records it and nothing else. -/
lemma ownDrmObject_of_free {o : α} {owned : α → Bool} (h : owned o = false) :
    ownDrmObject o owned = some (addClaims [o] owned) := by
  simp [ownDrmObject, h]

/-- Destroying the owners just handed out restores the table they were taken from. -/
lemma releaseDrmObjects_addClaims {os : List α} {owned : α → Bool}
    (h : ∀ o ∈ os, owned o = false) : releaseDrmObjects os (addClaims os owned) = owned := by
  funext x
  by_cases hx : x ∈ os
  · simp [hx, h x hx]
  · simp [hx]

end Ownership

end DrmHwc
