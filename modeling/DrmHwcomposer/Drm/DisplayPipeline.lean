import DrmHwcomposer.Drm.Device

/-!
# Binding a display pipeline

`DrmDisplayPipeline::CreatePipeline` looks for an encoder, a Crtc and planes for a connector.
It tries the encoder the kernel reports bound to the connector first, then every encoder the
connector supports; for each encoder it tries the Crtc bound to it first, then every Crtc the
encoder supports; and `TryCreatePipeline` turns one (encoder, Crtc) pair into a pipeline by
claiming the encoder, the Crtc, the Crtc's only primary plane and whichever of its overlay planes
are free.  Claims live in owner objects, so every early return of `TryCreatePipeline` releases
what it had claimed.

The search is correct because of that release: a failed attempt leaves the ownership table as it
found it (`tryCreatePipeline_eq`), so each candidate is judged against the original table and
`createPipeline` is the first success of a search over all candidate pairs
(`createPipeline_eq_outcome`).  `referencePipeline` states the search of the spec from the
device's lists by position, without the binder's candidate lists, and
`createPipeline_eq_referencePipeline` says the binder computes it.
-/

namespace DrmHwc

/-- A display pipeline: the connector it serves and the positions of the encoder, the Crtc, the
primary plane and the overlay planes its owners `enc_holder`, `crtc_holder`, `primary_plane`
and `overlay_planes` hold. -/
structure DrmDisplayPipeline where
  connector : DrmConnector
  crtc : Nat
  encoder : Nat
  primaryPlane : Nat
  overlayPlanes : List Nat
  deriving DecidableEq, Repr

/-- The objects a pipeline holds, one for each of its owners. -/
def DrmDisplayPipeline.objects (p : DrmDisplayPipeline) : List DrmObject :=
  .encoder p.encoder :: .crtc p.crtc :: .plane p.primaryPlane :: p.overlayPlanes.map .plane

/-! ## The binder -/

/-- The positions of the device's planes of type `t` that can feed the Crtc at position `c`,
in device order. -/
def planesFor (dev : DrmDevice) (c : Nat) (t : DrmPlaneType) : List Nat :=
  (dev.planes.enum.filter fun ip => ip.2.isCrtcSupported c && ip.2.type = t).map Prod.fst

/-- The overlay loop of `TryCreatePipeline`: each plane is claimed if it is free and skipped
otherwise. -/
def ownOverlayPlanes : List Nat → (DrmObject → Bool) → List Nat × (DrmObject → Bool)
  | [], owned => ([], owned)
  | p :: ps, owned =>
    match ownDrmObject (.plane p) owned with
    | some owned' => (p :: (ownOverlayPlanes ps owned').1, (ownOverlayPlanes ps owned').2)
    | none => ownOverlayPlanes ps owned

/-- `TryCreatePipeline` for the encoder at position `e` and the Crtc at position `c`.  At each
early return the owners created so far go out of scope and release their objects. -/
def tryCreatePipeline (dev : DrmDevice) (conn : DrmConnector) (e c : Nat)
    (owned : DrmObject → Bool) : Option DrmDisplayPipeline × (DrmObject → Bool) :=
  match ownDrmObject (.encoder e) owned with
  | none => (none, owned)
  | some owned₁ =>
    match ownDrmObject (.crtc c) owned₁ with
    | none => (none, releaseDrmObjects [.encoder e] owned₁)
    | some owned₂ =>
      -- no primary plane, or more than one
      match planesFor dev c .primary with
      | [p] =>
        match takeDrmObject (.plane p) owned₂ with
        | none => (none, releaseDrmObjects [.crtc c, .encoder e] owned₂)
        | some owned₃ =>
          let overlays := ownOverlayPlanes (planesFor dev c .overlay) owned₃
          (some ⟨conn, c, e, p, overlays.1⟩, overlays.2)
      | _ => (none, releaseDrmObjects [.crtc c, .encoder e] owned₂)

/-- The loops of the binder: try the candidates in order, each attempt starting from the table
the previous one left, and stop at the first pipeline. -/
def firstPipeline {β : Type}
    (f : β → (DrmObject → Bool) → Option DrmDisplayPipeline × (DrmObject → Bool)) :
    List β → (DrmObject → Bool) → Option DrmDisplayPipeline × (DrmObject → Bool)
  | [], owned => (none, owned)
  | b :: bs, owned =>
    match f b owned with
    | (some p, owned') => (some p, owned')
    | (none, owned') => firstPipeline f bs owned'

/-- The Crtcs tried for an encoder: the Crtc the kernel reports bound to it, if the device has
one with that id, then every Crtc the encoder supports, in device order. -/
def crtcCandidates (dev : DrmDevice) (enc : DrmEncoder) : List Nat :=
  (dev.findCrtcById enc.currentCrtcId).toList ++
    (dev.crtcs.enum.filter fun ic => enc.supportsCrtc ic.1).map Prod.fst

/-- `TryCreatePipelineUsingEncoder`: the currently bound Crtc first, then the others. -/
def tryCreatePipelineUsingEncoder (dev : DrmDevice) (conn : DrmConnector) (enc : Nat × DrmEncoder)
    (owned : DrmObject → Bool) : Option DrmDisplayPipeline × (DrmObject → Bool) :=
  firstPipeline (tryCreatePipeline dev conn enc.1) (crtcCandidates dev enc.2) owned

/-- The encoders tried for a connector: the encoder the kernel reports bound to it, if the device
has one with that id, then every encoder the connector supports, in device order. -/
def encoderCandidates (dev : DrmDevice) (conn : DrmConnector) : List (Nat × DrmEncoder) :=
  (dev.findEncoderById conn.currentEncoderId).toList ++
    dev.encoders.enum.filter fun ie => conn.supportsEncoder ie.1

/-- `DrmDisplayPipeline::CreatePipeline`: the pipeline, if one was found, and the ownership
table afterwards. -/
def createPipeline (dev : DrmDevice) (conn : DrmConnector) (owned : DrmObject → Bool) :
    Option DrmDisplayPipeline × (DrmObject → Bool) :=
  firstPipeline (tryCreatePipelineUsingEncoder dev conn) (encoderCandidates dev conn) owned

/-! ## Viable pairs -/

/-- The primary plane of the Crtc at position `c`, when exactly one primary plane feeds it. -/
def primaryPlaneOf (dev : DrmDevice) (c : Nat) : Option Nat :=
  match planesFor dev c .primary with
  | [p] => some p
  | _ => none

/-- The pipeline the pair `(e, c)` yields against the table `owned`: defined when the encoder,
the Crtc and the Crtc's only primary plane are free, with the free overlay planes of the Crtc. -/
def viablePipeline (dev : DrmDevice) (conn : DrmConnector) (owned : DrmObject → Bool)
    (e c : Nat) : Option DrmDisplayPipeline :=
  match primaryPlaneOf dev c with
  | some p =>
    if !owned (.encoder e) && !owned (.crtc c) && !owned (.plane p) then
      some ⟨conn, c, e, p, (planesFor dev c .overlay).filter fun q => !owned (.plane q)⟩
    else none
  | none => none

/-- What a search whose answer is `r` leaves: the pipeline with its objects claimed, or nothing
and the table unchanged. -/
def outcome (owned : DrmObject → Bool) :
    Option DrmDisplayPipeline → Option DrmDisplayPipeline × (DrmObject → Bool)
  | some q => (some q, addClaims q.objects owned)
  | none => (none, owned)

@[simp] lemma outcome_none (owned : DrmObject → Bool) : outcome owned none = (none, owned) := rfl

@[simp] lemma outcome_some (owned : DrmObject → Bool) (q : DrmDisplayPipeline) :
    outcome owned (some q) = (some q, addClaims q.objects owned) := rfl

/-! ## Failed attempts are undone -/

/-- No plane is listed twice for a Crtc. -/
lemma planesFor_nodup (dev : DrmDevice) (c : Nat) (t : DrmPlaneType) :
    (planesFor dev c t).Nodup := by
  have h := (List.filter_sublist (p := fun ip : Nat × DrmPlane =>
    ip.2.isCrtcSupported c && ip.2.type = t) dev.planes.enum).map Prod.fst
  rw [List.enum_map_fst] at h
  exact (List.nodup_range _).sublist h

/-- A plane listed for type `t` has type `t`. -/
lemma planesFor_type {dev : DrmDevice} {c : Nat} {t : DrmPlaneType} {q : Nat}
    (h : q ∈ planesFor dev c t) : ∃ hq : q < dev.planes.length, dev.planes[q].type = t := by
  simp only [planesFor, List.mem_map, List.mem_filter] at h
  obtain ⟨⟨i, pl⟩, ⟨hmem, hsup⟩, rfl⟩ := h
  obtain ⟨hi, hpl⟩ := List.mem_enum hmem
  exact ⟨hi, by simp_all⟩

/-- A plane is listed under one type only. -/
lemma not_mem_planesFor_of_mem {dev : DrmDevice} {c c' q : Nat} {t t' : DrmPlaneType}
    (h : q ∈ planesFor dev c t) (ht : t ≠ t') : q ∉ planesFor dev c' t' := by
  intro h'
  obtain ⟨_, h1⟩ := planesFor_type h
  obtain ⟨_, h2⟩ := planesFor_type h'
  exact ht (h1.symm.trans h2)

/-- The overlay loop claims exactly the overlay planes that were free, in order. -/
lemma ownOverlayPlanes_eq {ps : List Nat} (hps : ps.Nodup) (owned : DrmObject → Bool) :
    ownOverlayPlanes ps owned =
      (ps.filter fun q => !owned (.plane q),
        addClaims ((ps.filter fun q => !owned (.plane q)).map .plane) owned) := by
  induction ps generalizing owned with
  | nil => simp [ownOverlayPlanes]
  | cons p ps ih =>
    obtain ⟨hp, hps⟩ := List.nodup_cons.mp hps
    cases hown : owned (.plane p)
    · have hfilter : (ps.filter fun q => !addClaims [.plane p] owned (.plane q)) =
          ps.filter fun q => !owned (.plane q) :=
        List.filter_congr fun q hq => by simp [show q ≠ p from fun h => hp (h ▸ hq)]
      simp only [ownOverlayPlanes, ownDrmObject_of_free hown, ih hps, hfilter, List.filter_cons,
        hown, Bool.not_false, ite_true, List.map_cons, addClaims_addClaims]
      exact Prod.ext rfl (addClaims_congr _ fun x => by simp [or_comm])
    · simp [ownOverlayPlanes, ownDrmObject_of_owned hown, ih hps, List.filter_cons, hown]


/-- A failed attempt leaves the table as it found it; a successful one claims exactly the
objects of the pipeline of a viable pair. -/
lemma tryCreatePipeline_eq (dev : DrmDevice) (conn : DrmConnector) (e c : Nat)
    (owned : DrmObject → Bool) :
    tryCreatePipeline dev conn e c owned = outcome owned (viablePipeline dev conn owned e c) := by
  unfold tryCreatePipeline viablePipeline primaryPlaneOf
  cases he : owned (.encoder e)
  case true =>
    simp only [ownDrmObject_of_owned he]
    split <;> rfl
  case false =>
    simp only [ownDrmObject_of_free he]
    cases hc : owned (.crtc c)
    case true =>
      simp only [ownDrmObject_of_owned
          (show addClaims [.encoder e] owned (.crtc c) = true by simp [hc]),
        releaseDrmObjects_addClaims
          (by simp [he] : ∀ o ∈ [DrmObject.encoder e], owned o = false)]
      split <;> simp [hc]
    case false =>
      have hfree : ∀ o ∈ [DrmObject.crtc c, .encoder e], owned o = false := by simp [he, hc]
      simp only [ownDrmObject_of_free
          (show addClaims [.encoder e] owned (.crtc c) = false by simp [hc]),
        addClaims_addClaims, List.singleton_append]
      split
      case h_1 p hp =>
        simp only [takeDrmObject]
        cases hpl : owned (.plane p)
        case true =>
          rw [ownDrmObject_of_owned (by simp [hpl]), releaseDrmObjects_addClaims hfree]
          simp [hpl]
        case false =>
          have hov : ∀ q ∈ planesFor dev c .overlay, q ≠ p := fun q hq hqp =>
            not_mem_planesFor_of_mem (hqp ▸ hq) (show DrmPlaneType.overlay ≠ .primary by decide)
              (by rw [hp]; exact List.mem_singleton_self p)
          have hfilter : (planesFor dev c .overlay).filter
              (fun q => !addClaims ([.plane p] ++ [.crtc c, .encoder e]) owned (.plane q)) =
              (planesFor dev c .overlay).filter fun q => !owned (.plane q) :=
            List.filter_congr fun q hq => by simp [hov q hq]
          simp only [ownDrmObject_of_free
              (show addClaims [.crtc c, .encoder e] owned (.plane p) = false by simp [hpl]),
            addClaims_addClaims, ownOverlayPlanes_eq (planesFor_nodup dev c .overlay), hfilter]
          refine Prod.ext rfl (addClaims_congr _ fun x => ?_)
          simp only [DrmDisplayPipeline.objects, List.mem_append, List.mem_singleton,
            List.mem_cons, List.mem_nil_iff]
          tauto
      case h_2 hp =>
        rw [releaseDrmObjects_addClaims hfree]
        simp
        
/-- When no attempt changes the table unless it succeeds, the loop returns the first success. -/
lemma firstPipeline_eq_outcome {β : Type}
    {f : β → (DrmObject → Bool) → Option DrmDisplayPipeline × (DrmObject → Bool)}
    {g : β → Option DrmDisplayPipeline} {owned : DrmObject → Bool} (bs : List β)
    (hf : ∀ b ∈ bs, f b owned = outcome owned (g b)) :
    firstPipeline f bs owned = outcome owned (bs.findSome? g) := by
  induction bs with
  | nil => rfl
  | cons b bs ih =>
    rw [firstPipeline, hf b (List.mem_cons_self b bs), List.findSome?_cons]
    cases g b with
    | some q => rfl
    | none => exact ih fun b' hb' => hf b' (List.mem_cons_of_mem b hb')

/-- The binder is the first success over the encoders, and for each over its Crtcs, against the
table it was called with. -/
lemma createPipeline_eq_outcome (dev : DrmDevice) (conn : DrmConnector)
    (owned : DrmObject → Bool) :
    createPipeline dev conn owned =
      outcome owned ((encoderCandidates dev conn).findSome? fun enc =>
        (crtcCandidates dev enc.2).findSome? (viablePipeline dev conn owned enc.1)) :=
  firstPipeline_eq_outcome _ fun enc _ =>
    firstPipeline_eq_outcome _ fun c _ =>
      tryCreatePipeline_eq dev conn enc.1 c owned

/-- A search over a flattened list is a search over the parts. -/
lemma findSome?_flatMap {α β γ : Type} (l : List α) (g : α → List β) (f : β → Option γ) :
    (l.flatMap g).findSome? f = l.findSome? fun a => (g a).findSome? f := by
  induction l with
  | nil => rfl
  | cons a l ih =>
    rw [List.flatMap_cons, List.findSome?_append, ih, List.findSome?_cons]
    cases (g a).findSome? f <;> rfl

/-! ## The reference search

The search of the spec, written from the device's lists by position and not through the binder's
candidate lists: the encoder the connector is bound to, then every encoder it supports; for each,
the Crtc the encoder is bound to, then every Crtc it supports; and for a pair, the Crtc's only
primary plane and its free overlay planes. -/

/-- Modelled from the spec: the positions of the planes of type `t` that can feed the Crtc at
position `c`, in device order. -/
def refPlanes (dev : DrmDevice) (c : Nat) (t : DrmPlaneType) : List Nat :=
  (List.range dev.planes.length).filter fun i =>
    (dev.planes[i]?).any fun pl => pl.isCrtcSupported c && pl.type = t

/-- Modelled from the spec: the encoders tried for a connector, by position: the one
`FindEncoderById` finds for the encoder the connector is bound to, then every encoder the
connector supports, in device order. -/
def refEncoderCandidates (dev : DrmDevice) (conn : DrmConnector) : List Nat :=
  ((dev.findEncoderById conn.currentEncoderId).map Prod.fst).toList ++
    (List.range dev.encoders.length).filter conn.supportsEncoder

/-- Modelled from the spec: the Crtcs tried for the encoder at position `e`: the one
`FindCrtcById` finds for the Crtc the encoder is bound to, then every Crtc the encoder supports,
in device order. -/
def refCrtcCandidates (dev : DrmDevice) (e : Nat) : List Nat :=
  match dev.encoders[e]? with
  | some enc =>
    (dev.findCrtcById enc.currentCrtcId).toList ++
      (List.range dev.crtcs.length).filter enc.supportsCrtc
  | none => []

/-- Modelled from the spec: the pipeline of the pair `(e, c)` against the claims `owned`, when
exactly one primary plane feeds the Crtc and the encoder, the Crtc and that plane are unclaimed;
it takes the unclaimed overlay planes of the Crtc. -/
def refPipelineOf (dev : DrmDevice) (conn : DrmConnector) (owned : DrmObject → Bool)
    (e c : Nat) : Option DrmDisplayPipeline :=
  match refPlanes dev c .primary with
  | [p] =>
    if !owned (.encoder e) && !owned (.crtc c) && !owned (.plane p) then
      some ⟨conn, c, e, p, (refPlanes dev c .overlay).filter fun q => !owned (.plane q)⟩
    else none
  | _ => none

/-- Modelled from the spec: the binder as the spec describes it: the pipeline of the first pair
in preference order that gives one, with its objects claimed on top of `owned`, or nothing and
`owned` unchanged. -/
def referencePipeline (dev : DrmDevice) (conn : DrmConnector) (owned : DrmObject → Bool) :
    Option DrmDisplayPipeline × (DrmObject → Bool) :=
  match ((refEncoderCandidates dev conn).flatMap fun e =>
      (refCrtcCandidates dev e).map (e, ·)).findSome? fun ec =>
      refPipelineOf dev conn owned ec.1 ec.2 with
  | some q => (some q, addClaims q.objects owned)
  | none => (none, owned)

/-- Searches that agree on every member find the same. -/
lemma findSome?_congr {α β : Type} {l : List α} {f g : α → Option β}
    (h : ∀ a ∈ l, f a = g a) : l.findSome? f = l.findSome? g := by
  induction l with
  | nil => rfl
  | cons a l ih =>
    rw [List.findSome?_cons, List.findSome?_cons, h a (List.mem_cons_self a l),
      ih fun b hb => h b (List.mem_cons_of_mem a hb)]

/-- The positions kept by a filter on `enum` that reads only the position. -/
lemma map_fst_filter_enum_pos {α : Type} (l : List α) (p : Nat → Bool) :
    (l.enum.filter fun ix => p ix.1).map Prod.fst = (List.range l.length).filter p := by
  rw [← List.enum_map_fst, List.filter_map]
  rfl

/-- The positions kept by a filter on `enum`, counted up over the list's positions. -/
lemma map_fst_filter_enum {α : Type} (l : List α) (q : Nat × α → Bool) :
    (l.enum.filter q).map Prod.fst =
      (List.range l.length).filter fun i => (l[i]?).any fun x => q (i, x) := by
  induction l generalizing q with
  | nil => rfl
  | cons a l ih =>
    have h := ih (q ∘ Prod.map (· + 1) id)
    rw [List.enum_cons, List.enumFrom_eq_map_enum, List.length_cons, List.range_succ_eq_map,
      List.filter_cons, List.filter_cons, List.filter_map, List.filter_map]
    simp only [Function.comp_def, Prod.map_apply, id_eq, Nat.succ_eq_add_one,
      List.getElem?_cons_zero, List.getElem?_cons_succ, Option.any_some] at h ⊢
    rw [← h]
    cases q (0, a) <;> simp

/-- The binder lists the planes of the reference search. -/
lemma planesFor_eq_refPlanes (dev : DrmDevice) (c : Nat) (t : DrmPlaneType) :
    planesFor dev c t = refPlanes dev c t :=
  map_fst_filter_enum _ _

/-- The binder's encoder candidates are those of the reference search, with each encoder. -/
lemma map_fst_encoderCandidates (dev : DrmDevice) (conn : DrmConnector) :
    (encoderCandidates dev conn).map Prod.fst = refEncoderCandidates dev conn := by
  rw [encoderCandidates, List.map_append, map_fst_filter_enum_pos, refEncoderCandidates]
  cases dev.findEncoderById conn.currentEncoderId <;> rfl

/-- Each encoder candidate sits at its position in the device. -/
lemma getElem?_of_mem_encoderCandidates {dev : DrmDevice} {conn : DrmConnector}
    {enc : Nat × DrmEncoder} (h : enc ∈ encoderCandidates dev conn) :
    dev.encoders[enc.1]? = some enc.2 := by
  simp only [encoderCandidates, DrmDevice.findEncoderById, List.mem_append, Option.mem_toList,
    Option.mem_def, List.mem_filter] at h
  rcases h with h | ⟨h, -⟩
  · exact List.mem_enum_iff_getElem?.mp (List.mem_of_find?_eq_some h)
  · exact List.mem_enum_iff_getElem?.mp h

/-- For an encoder candidate, the binder tries the Crtcs of the reference search. -/
lemma crtcCandidates_eq_refCrtcCandidates {dev : DrmDevice} {conn : DrmConnector}
    {enc : Nat × DrmEncoder} (h : enc ∈ encoderCandidates dev conn) :
    crtcCandidates dev enc.2 = refCrtcCandidates dev enc.1 := by
  rw [refCrtcCandidates, getElem?_of_mem_encoderCandidates h, crtcCandidates,
    map_fst_filter_enum_pos]

/-- A pair gives the binder's pipeline exactly when it gives the reference one. -/
lemma viablePipeline_eq_refPipelineOf (dev : DrmDevice) (conn : DrmConnector)
    (owned : DrmObject → Bool) : viablePipeline dev conn owned = refPipelineOf dev conn owned := by
  funext e c
  simp only [viablePipeline, primaryPlaneOf, refPipelineOf, planesFor_eq_refPlanes]
  rcases refPlanes dev c .primary with _ | ⟨p, _ | _⟩ <;> rfl

/-- `CreatePipeline` is the preference-ordered search of the spec: every failed attempt is
undone, so the result is the first viable pair against the original claims. -/
theorem createPipeline_eq_referencePipeline (dev : DrmDevice) (conn : DrmConnector)
    (owned : DrmObject → Bool) :
    createPipeline dev conn owned = referencePipeline dev conn owned := by
  have hcrtcs : ((encoderCandidates dev conn).findSome? fun enc =>
      (crtcCandidates dev enc.2).findSome? (refPipelineOf dev conn owned enc.1)) =
      (encoderCandidates dev conn).findSome? fun enc =>
        ((refCrtcCandidates dev enc.1).map (enc.1, ·)).findSome? fun ec =>
          refPipelineOf dev conn owned ec.1 ec.2 :=
    findSome?_congr fun enc h => by
      rw [crtcCandidates_eq_refCrtcCandidates h, List.findSome?_map]; rfl
  rw [createPipeline_eq_outcome, viablePipeline_eq_refPipelineOf, hcrtcs, referencePipeline,
    findSome?_flatMap, ← map_fst_encoderCandidates, List.findSome?_map, Function.comp_def]
  cases List.findSome? _ (encoderCandidates dev conn) <;> rfl

/-! ## Claims of a bound pipeline -/

/-- A viable pair yields a pipeline whose objects are distinct and were all free. -/
lemma viablePipeline_objects {dev : DrmDevice} {conn : DrmConnector} {owned : DrmObject → Bool}
    {e c : Nat} {q : DrmDisplayPipeline} (h : viablePipeline dev conn owned e c = some q) :
    q.objects.Nodup ∧ ∀ o ∈ q.objects, owned o = false := by
  rcases hp : planesFor dev c .primary with _ | ⟨p, _ | ⟨p', rest⟩⟩ <;>
    simp only [viablePipeline, primaryPlaneOf, hp, reduceCtorEq] at h
  split_ifs at h with hfree
  cases h
  simp only [Bool.and_eq_true, Bool.not_eq_true'] at hfree
  obtain ⟨⟨he, hc⟩, hpl⟩ := hfree
  have hp_ov : p ∉ planesFor dev c .overlay :=
    not_mem_planesFor_of_mem (by rw [hp]; exact List.mem_singleton_self p)
      (show DrmPlaneType.primary ≠ .overlay by decide)
  refine ⟨?_, ?_⟩
  · have hnd : (((planesFor dev c .overlay).filter fun q => !owned (.plane q)).map
        DrmObject.plane).Nodup :=
      ((planesFor_nodup dev c .overlay).filter _).map fun _ _ h => DrmObject.plane.inj h
    simp only [DrmDisplayPipeline.objects, List.nodup_cons, hnd]
    simp only [List.mem_cons, List.mem_map, List.mem_filter, reduceCtorEq, DrmObject.plane.injEq]
    refine ⟨by simp, by simp, fun ⟨q, ⟨hq, _⟩, hqp⟩ => hp_ov (hqp ▸ hq), trivial⟩
  · intro o ho
    simp only [DrmDisplayPipeline.objects, List.mem_cons, List.mem_map, List.mem_filter] at ho
    rcases ho with rfl | rfl | rfl | ⟨q, ⟨_, hq⟩, rfl⟩ <;> simp_all

/-- What one call of the binder can do: fail and leave the table as it was, or return a pipeline
whose objects are distinct, were all free, and are now claimed. -/
lemma createPipeline_cases (dev : DrmDevice) (conn : DrmConnector) (owned : DrmObject → Bool) :
    createPipeline dev conn owned = (none, owned) ∨
      ∃ q, createPipeline dev conn owned = (some q, addClaims q.objects owned) ∧
        q.objects.Nodup ∧ ∀ o ∈ q.objects, owned o = false := by
  rw [createPipeline_eq_outcome]
  rcases h : List.findSome? _ (encoderCandidates dev conn) with _ | q
  · exact Or.inl rfl
  · obtain ⟨enc, -, henc⟩ := List.exists_of_findSome?_eq_some h
    obtain ⟨c, -, hc⟩ := List.exists_of_findSome?_eq_some henc
    exact Or.inr ⟨q, rfl, viablePipeline_objects hc⟩

end DrmHwc
