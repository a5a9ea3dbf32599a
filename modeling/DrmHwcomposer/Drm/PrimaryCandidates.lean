import Mathlib.Data.List.DropRight
import Mathlib.Data.List.Perm.Basic
import DrmHwcomposer.Drm.Connector

/-!
# Ordering the primary-display candidates

`MakePrimaryDisplayCandidates` keeps the connected connectors in discovery order and reorders them
by the property `vendor.hwc.drm.primary_display_order`, a comma-separated list of connector names
that may end with the catch-all marker `...`.  For each name of the list it searches the vector
from its beginning for a connector of that name and swaps it into `curr_connector`, which then
advances.  With the marker, the connectors behind `curr_connector` are partitioned so that the
internal ones come first; without it they are dropped.

The property is read by `ReadPrimaryDisplayOrderProp`, which splits the value with `std::getline`
at the commas and trims each field.  `property_get` never returns an empty value, so the order
is never empty and `display_order.back()` is always defined; on every nonempty value the order is
the comma-separated fields of the spec, trimmed (`readPrimaryDisplayOrderProp_fields`).

Connectors are handled by pointer in the sources; here a connector is named by its position in
`all_connectors` together with the connector (`ConnectorRef`), so that two connectors of equal
fields on two devices stay distinct.  `iter_swap` on a position past the last element is undefined
behaviour, which the model reports as `none`.

`std::partition` leaves the order inside each part to the library; `partition` is the algorithm
of libc++ for bidirectional iterators, and `partition_perm` with `partition_true_first` are the
two properties the standard asks of it.

Every run without undefined behaviour returns connected connectors, each at most once
(`makePrimaryDisplayCandidates_subperm`).  When no name repeats in the order and no two connected
connectors share a name, the loop keeps the invariant `PutFirstInv` and the candidates are the
listed connectors followed by the partitioned rest (`makePrimaryDisplayCandidates_of_nodup`).
A repeated name breaks this: the search from the beginning of the vector finds the connector
already moved to the front (`makePrimaryDisplayCandidates_repeated_names`).
-/

namespace DrmHwc

/-- A connector as `ResourceManager` holds it: its position in `all_connectors`, which plays the
part of its address, and the connector. -/
abbrev ConnectorRef := Nat × DrmConnector

/-! ## Reading the property -/

/-- `std::isspace` in the C locale. -/
def isSpace (c : Char) : Bool :=
  c = ' ' || c = '\t' || c = '\n' || c = '\x0b' || c = '\x0c' || c = '\r'

/-- `Trim`: the characters without their leading and trailing white space. -/
def trim (s : List Char) : List Char :=
  ((s.dropWhile isSpace).reverse.dropWhile isSpace).reverse

/-- The fields `std::getline` reads from the characters with the delimiter `,`: the text between
two commas, an empty last field not counted. -/
def getlineFields (s : List Char) : List (List Char) :=
  s.foldr (fun c fields =>
    if c = ',' then [] :: fields
    else match fields with
      | [] => [[c]]
      | f :: fs => (c :: f) :: fs) []

/-- `property_get`: the value of the property, or `defaultValue` when it is unset or empty (an
unset property reads as the empty value). -/
def propertyGet (value defaultValue : String) : String :=
  if value = "" then defaultValue else value

/-- `ReadPrimaryDisplayOrderProp` on the value `property_get` returned (`...` when the property is
unset or empty, `propertyGet`): its fields, each trimmed. -/
def readPrimaryDisplayOrderProp (value : String) : List String :=
  (getlineFields value.toList).map fun f => String.mk (trim f)

example : readPrimaryDisplayOrderProp " HDMI-A-1 ,DP-1," = ["HDMI-A-1", "DP-1"] := by decide

/-! ## The fields of the property

The getline loop is compared with the spec's description of the fields through one equation,
`splitOn_eq_getlineFields`: splitting at the commas gives the fields `std::getline` reads,
followed by one empty piece exactly when the text is empty or ends with a comma.  The fields have
no comma, and `Trim` removes white space at the two ends and nowhere else. -/

/-- One character of the getline loop: a comma closes the field, any other character joins it. -/
lemma getlineFields_cons (c : Char) (s : List Char) :
    getlineFields (c :: s) =
      if c = ',' then [] :: getlineFields s
      else match getlineFields s with
        | [] => [[c]]
        | f :: fs => (c :: f) :: fs := rfl

/-- `std::getline` reads no field exactly from an empty text. -/
lemma getlineFields_eq_nil {s : List Char} : getlineFields s = [] ↔ s = [] := by
  cases s with
  | nil => simp [getlineFields]
  | cons c s =>
    rw [getlineFields_cons]
    split_ifs
    · simp
    · split <;> simp

/-- Splitting at the commas gives the fields `std::getline` reads, and one empty piece more when
the text is empty or ends with a comma. -/
lemma splitOn_eq_getlineFields (s : List Char) :
    s.splitOn ',' = getlineFields s ++ if s.getLast?.all (· = ',') then [[]] else [] := by
  induction s with
  | nil => rfl
  | cons c s ih =>
    rw [List.splitOn, List.splitOnP_cons, ← List.splitOn, ih, getlineFields_cons]
    by_cases hc : c = ','
    · cases s with
      | nil => simp [hc, getlineFields]
      | cons d s => simp [hc]
    · cases hg : getlineFields s with
      | nil =>
        obtain rfl := getlineFields_eq_nil.mp hg
        simp [hc]
      | cons f fs =>
        have hs : s ≠ [] := fun h => by simp [h, getlineFields] at hg
        obtain ⟨d, s', rfl⟩ := List.exists_cons_of_ne_nil hs
        simp [hc]

/-- The comma-separated fields of the characters, in the words of the spec: the pieces between
the commas, without the empty piece after a final comma. -/
def commaFields (s : List Char) : List (List Char) :=
  if s.getLast? = some ',' then (s.splitOn ',').dropLast else s.splitOn ','

/-- On a nonempty text the getline loop reads the spec's fields. -/
lemma getlineFields_eq_commaFields {s : List Char} (hs : s ≠ []) :
    getlineFields s = commaFields s := by
  obtain ⟨c, hc⟩ := Option.isSome_iff_exists.mp (List.getLast?_isSome.mpr hs)
  unfold commaFields
  rw [splitOn_eq_getlineFields, hc]
  by_cases h : c = ',' <;> simp [h]

/-- A field holds no comma. -/
lemma comma_not_mem_of_mem_getlineFields {s f : List Char} (hf : f ∈ getlineFields s) :
    ',' ∉ f := by
  induction s generalizing f with
  | nil => simp [getlineFields] at hf
  | cons c s ih =>
    rw [getlineFields_cons] at hf
    split_ifs at hf with hc
    · rcases List.mem_cons.mp hf with rfl | hf
      · simp
      · exact ih hf
    · split at hf
      · simp only [List.mem_singleton] at hf
        subst hf
        simpa [eq_comm] using hc
      · rename_i g gs hg
        rcases List.mem_cons.mp hf with rfl | hf
        · simpa [Ne.symm hc] using ih (hg ▸ List.mem_cons_self g gs)
        · exact ih (hg ▸ List.mem_cons_of_mem g hf)

/-- `Trim` drops white space from the front, then from the back. -/
lemma trim_eq_rdropWhile (s : List Char) : trim s = (s.dropWhile isSpace).rdropWhile isSpace :=
  rfl

/-- What `rdropWhile` drops is what `rtakeWhile` takes. -/
lemma rdropWhile_append_rtakeWhile {α : Type} (p : α → Bool) (l : List α) :
    l.rdropWhile p ++ l.rtakeWhile p = l := by
  rw [List.rdropWhile, List.rtakeWhile, ← List.reverse_append, List.takeWhile_append_dropWhile,
    List.reverse_reverse]

/-- `Trim` removes white space, and only at the two ends. -/
lemma trim_spec (s : List Char) :
    ∃ a b, s = a ++ trim s ++ b ∧ (∀ c ∈ a, isSpace c) ∧ ∀ c ∈ b, isSpace c := by
  refine ⟨s.takeWhile isSpace, (s.dropWhile isSpace).rtakeWhile isSpace, ?_,
    fun c hc => List.mem_takeWhile_imp hc, fun c hc => List.mem_rtakeWhile_imp hc⟩
  rw [List.append_assoc, trim_eq_rdropWhile, rdropWhile_append_rtakeWhile,
    List.takeWhile_append_dropWhile]

/-- A trimmed text begins and ends with a character that is not white space. -/
lemma trim_ends (s : List Char) :
    (∀ c ∈ (trim s).head?, isSpace c = false) ∧ ∀ c ∈ (trim s).getLast?, isSpace c = false := by
  constructor
  · intro c hc
    obtain ⟨r, hr⟩ := List.head?_eq_some_iff.mp hc
    obtain ⟨t, ht⟩ := List.rdropWhile_prefix isSpace (s.dropWhile isSpace)
    rw [← trim_eq_rdropWhile, hr, List.cons_append] at ht
    have hne : s.dropWhile isSpace ≠ [] := by rw [← ht]; exact List.cons_ne_nil _ _
    simpa [← ht] using List.head_dropWhile_not isSpace s hne
  · intro c hc
    have hne : trim s ≠ [] := fun h => by simp [h] at hc
    rw [List.getLast?_eq_getLast _ hne, Option.mem_def, Option.some.injEq] at hc
    subst hc
    simpa using List.rdropWhile_last_not isSpace (s.dropWhile isSpace) hne

/-- `property_get` with the default `...` never returns the empty value. -/
lemma propertyGet_ne_empty (value : String) : propertyGet value "..." ≠ "" := by
  unfold propertyGet
  split_ifs with h
  · decide
  · exact h

/-- A nonempty value has at least one field. -/
lemma readPrimaryDisplayOrderProp_ne_nil {s : String} (hs : s ≠ "") :
    readPrimaryDisplayOrderProp s ≠ [] := by
  rw [readPrimaryDisplayOrderProp, Ne, List.map_eq_nil_iff, getlineFields_eq_nil]
  exact fun h => hs (String.ext h)

/-- Whatever the property holds, `display_order` is nonempty, so `display_order.back()` is
defined.  On a nonempty value `s` the order is the spec's comma-separated fields of `s`, each
trimmed: `Trim` removes white space at the two ends of a field and nowhere else, so no entry
holds a comma, and no entry begins or ends with white space. -/
theorem readPrimaryDisplayOrderProp_fields (s : String) (hs : s ≠ "") :
    (∀ value, (readPrimaryDisplayOrderProp (propertyGet value "...")).getLast?.isSome) ∧
      readPrimaryDisplayOrderProp s ≠ [] ∧
      readPrimaryDisplayOrderProp s = (commaFields s.toList).map (fun f => String.mk (trim f)) ∧
      (∀ f ∈ commaFields s.toList, ∃ a b, f = a ++ trim f ++ b ∧ (∀ c ∈ a, isSpace c) ∧
        ∀ c ∈ b, isSpace c) ∧
      ∀ e ∈ readPrimaryDisplayOrderProp s, ',' ∉ e.toList ∧
        (∀ c ∈ e.toList.head?, isSpace c = false) ∧ ∀ c ∈ e.toList.getLast?, isSpace c = false := by
  have hfields : getlineFields s.toList = commaFields s.toList :=
    getlineFields_eq_commaFields fun h => hs (String.ext h)
  refine ⟨fun value => List.getLast?_isSome.mpr
      (readPrimaryDisplayOrderProp_ne_nil (propertyGet_ne_empty value)),
    readPrimaryDisplayOrderProp_ne_nil hs, by rw [readPrimaryDisplayOrderProp, hfields],
    fun f _ => trim_spec f, fun e he => ?_⟩
  obtain ⟨f, hf, rfl⟩ := List.mem_map.mp he
  obtain ⟨a, b, hab, -, -⟩ := trim_spec f
  refine ⟨fun h => comma_not_mem_of_mem_getlineFields hf ?_, trim_ends f⟩
  rw [hab]
  exact List.mem_append_left _ (List.mem_append_right _ h)

/-- The law on the value ` HDMI-A-1 ,DP-1,`, which the spec splits into ` HDMI-A-1 ` and `DP-1`. -/
theorem readPrimaryDisplayOrderProp_fields_trailing_comma :
    " HDMI-A-1 ,DP-1," ≠ "" ∧
      ((∀ value, (readPrimaryDisplayOrderProp (propertyGet value "...")).getLast?.isSome) ∧
        readPrimaryDisplayOrderProp " HDMI-A-1 ,DP-1," ≠ [] ∧
        readPrimaryDisplayOrderProp " HDMI-A-1 ,DP-1," =
          (commaFields " HDMI-A-1 ,DP-1,".toList).map (fun f => String.mk (trim f)) ∧
        (∀ f ∈ commaFields " HDMI-A-1 ,DP-1,".toList, ∃ a b, f = a ++ trim f ++ b ∧
          (∀ c ∈ a, isSpace c) ∧ ∀ c ∈ b, isSpace c) ∧
        ∀ e ∈ readPrimaryDisplayOrderProp " HDMI-A-1 ,DP-1,", ',' ∉ e.toList ∧
          (∀ c ∈ e.toList.head?, isSpace c = false) ∧
          ∀ c ∈ e.toList.getLast?, isSpace c = false) :=
  ⟨by decide, readPrimaryDisplayOrderProp_fields _ (by decide)⟩

/-! ## The swap loop and the partition -/

/-- `std::iter_swap` on the positions `i` and `j` of a vector; a position past the last element
is undefined behaviour, `none`. -/
def iterSwap {α : Type} (l : List α) (i j : Nat) : Option (List α) :=
  match l[i]?, l[j]? with
  | some a, some b => some ((l.set i b).set j a)
  | _, _ => none

/-- One turn of the loop over `display_order`: the first candidate named `displayName`, searched
from the beginning of the vector, is swapped into `curr_connector`, which then advances. -/
def putFirst (displayName : String) (s : List ConnectorRef × Nat) :
    Option (List ConnectorRef × Nat) :=
  if s.1.findIdx (fun c => c.2.name = displayName) < s.1.length then
    (iterSwap s.1 (s.1.findIdx fun c => c.2.name = displayName) s.2).map fun l => (l, s.2 + 1)
  else some s

/-- `std::partition` as libc++ runs it on bidirectional iterators: skip the leading elements that
satisfy `p`; at the first `x` that does not, take the last element `y` that does, swap the two and
continue between them; when no such `y` is left, stop. -/
def partition {α : Type} (p : α → Bool) : List α → List α
  | [] => []
  | x :: xs =>
    if p x then x :: partition p xs
    else
      match _h : xs.reverse.dropWhile (fun y => !p y) with
      | [] => x :: xs
      | y :: mid =>
        y :: partition p mid.reverse ++ x :: (xs.reverse.takeWhile fun y => !p y).reverse
termination_by l => l.length
decreasing_by
  all_goals simp_wf
  have hsuf := congrArg List.length _h
  have hle := (List.dropWhile_suffix (fun y => !p y) : _ <:+ xs.reverse).length_le
  simp only [List.length_cons, List.length_reverse] at hsuf hle
  omega

/-- `MakePrimaryDisplayCandidates` with the order `display_order` read from the property: the
candidates, or `none` where the code has undefined behaviour (`back()` of an empty order, or an
`iter_swap` past the end). -/
def makePrimaryDisplayCandidates (displayOrder : List String) (connectors : List ConnectorRef) :
    Option (List ConnectorRef) := do
  let primaryCandidates := connectors.filter fun c => c.2.state = .connected
  let back ← displayOrder.getLast?
  let (primaryCandidates, currConnector) ←
    displayOrder.foldlM (fun s n => putFirst n s) (primaryCandidates, 0)
  if back = "..." then
    some (primaryCandidates.take currConnector ++
      partition (fun c => c.2.internal) (primaryCandidates.drop currConnector))
  else some (primaryCandidates.take currConnector)

/-! ## What `std::partition` guarantees -/

section Partition

variable {α : Type} (p : α → Bool)

/-- The swap case of `partition`: the list splits at `y`, the last element satisfying `p`. -/
lemma partition_swap {x y : α} {xs mid : List α} (hx : ¬p x = true)
    (h : xs.reverse.dropWhile (fun y => !p y) = y :: mid) :
    partition p (x :: xs) =
      y :: partition p mid.reverse ++ x :: (xs.reverse.takeWhile fun y => !p y).reverse ∧
      xs = mid.reverse ++ y :: (xs.reverse.takeWhile fun y => !p y).reverse := by
  constructor
  · rw [partition, if_neg hx]
    split <;> simp_all
  · have hs := List.takeWhile_append_dropWhile (fun y => !p y) xs.reverse
    rw [h] at hs
    simpa using congrArg List.reverse hs.symm

/-- `std::partition` permutes its range. -/
theorem partition_perm (l : List α) : (partition p l).Perm l := by
  induction l using partition.induct p with
  | case1 => simp [partition]
  | case2 x xs hx ih => rw [partition, if_pos hx]; exact ih.cons x
  | case3 x xs hx h => rw [partition, if_neg hx]; split <;> simp_all
  | case4 x xs hx y mid h ih =>
    obtain ⟨hp, hxs⟩ := partition_swap p hx h
    rw [hp]
    conv_rhs => rw [hxs]
    have hm := (ih.append_right (xs.reverse.takeWhile fun y => !p y).reverse).cons y
    exact (List.perm_middle.cons y).trans <| (List.Perm.swap x y _).trans <|
      (hm.cons x).trans (List.perm_middle.symm.cons x)

/-- `std::partition` puts every element satisfying `p` before every element that does not. -/
theorem partition_true_first (l : List α) :
    ∃ a b, partition p l = a ++ b ∧ (∀ x ∈ a, p x = true) ∧ ∀ x ∈ b, p x = false := by
  induction l using partition.induct p with
  | case1 => exact ⟨[], [], by simp [partition]⟩
  | case2 x xs hx ih =>
    obtain ⟨a, b, he, ha, hb⟩ := ih
    refine ⟨x :: a, b, by rw [partition, if_pos hx, he]; rfl, ?_, hb⟩
    simpa [hx] using ha
  | case3 x xs hx h =>
    have hxs := List.dropWhile_eq_nil_iff.mp h
    refine ⟨[], x :: xs, by rw [partition, if_neg hx]; split <;> simp_all, by simp, ?_⟩
    simp only [List.mem_cons, forall_eq_or_imp, Bool.not_eq_true] at hx ⊢
    exact ⟨hx, fun z hz => by simpa using hxs z (List.mem_reverse.mpr hz)⟩
  | case4 x xs hx y mid h ih =>
    obtain ⟨a, b, he, ha, hb⟩ := ih
    have hy : p y = true := by
      simpa [h] using List.head_dropWhile_not (fun y => !p y) xs.reverse (by simp [h])
    refine ⟨y :: a, b ++ x :: (xs.reverse.takeWhile fun y => !p y).reverse,
      by rw [(partition_swap p hx h).1, he]; simp, by simpa [hy] using ha, ?_⟩
    simp only [List.mem_append, List.mem_cons, List.mem_reverse]
    rintro z (hz | rfl | hz)
    · exact hb z hz
    · simpa using hx
    · simpa using List.mem_takeWhile_imp hz

end Partition

/-! ## The swap loop -/

section IterSwap

variable {α : Type}

/-- Within the vector, `iter_swap` exchanges the two elements. -/
lemma iterSwap_eq {l : List α} {i j : Nat} (hi : i < l.length) (hj : j < l.length) :
    iterSwap l i j = some ((l.set i l[j]).set j l[i]) := by
  simp [iterSwap, List.getElem?_eq_getElem hi, List.getElem?_eq_getElem hj]

/-- An `iter_swap` without undefined behaviour had both positions inside the vector. -/
lemma lt_of_iterSwap {l l' : List α} {i j : Nat} (h : iterSwap l i j = some l') :
    ∃ (hi : i < l.length) (hj : j < l.length), l' = (l.set i l[j]).set j l[i] := by
  unfold iterSwap at h
  split at h
  · rename_i a b ha hb
    obtain ⟨hi, rfl⟩ := List.getElem?_eq_some_iff.mp ha
    obtain ⟨hj, rfl⟩ := List.getElem?_eq_some_iff.mp hb
    exact ⟨hi, hj, (Option.some.inj h).symm⟩
  · cases h

/-- `iter_swap` permutes the vector. -/
lemma perm_of_iterSwap [DecidableEq α] {l l' : List α} {i j : Nat}
    (h : iterSwap l i j = some l') : l'.Perm l := by
  obtain ⟨hi, hj, rfl⟩ := lt_of_iterSwap h
  rw [List.perm_iff_count]
  intro x
  have hci : l[i] = x → 0 < l.count x := fun h =>
    List.count_pos_iff.mpr (h ▸ List.getElem_mem hi)
  rw [List.count_set _ _ _ _ (by simpa using hj), List.count_set _ _ _ _ hi]
  simp only [List.getElem_set, ite_self, beq_iff_eq]
  by_cases hxi : l[i] = x
  · have := hci hxi
    split_ifs <;> omega
  · split_ifs <;> omega

/-- Swapping the element at `i` into `j ≤ i` puts it behind the first `j` elements. -/
lemma take_iterSwap {l l' : List α} {i j : Nat} (hji : j ≤ i) (h : iterSwap l i j = some l') :
    l'.take (j + 1) = l.take j ++ [l.get ⟨i, (lt_of_iterSwap h).1⟩] := by
  obtain ⟨hi, hj, rfl⟩ := lt_of_iterSwap h
  apply List.ext_getElem
  · simp; omega
  · intro k hk _
    simp only [List.length_take, List.length_set] at hk
    simp only [List.getElem_take, List.getElem_set, List.getElem_append, List.length_take]
    split_ifs with h₁ <;> first | omega | rfl | (subst h₁; simp [hj.le])

end IterSwap

/-! ## The loop keeps a permutation -/

/-- One turn of the loop permutes the vector and keeps `curr_connector` inside it. -/
lemma putFirst_perm {n : String} {s s' : List ConnectorRef × Nat} (h : putFirst n s = some s')
    (hs : s.2 ≤ s.1.length) : s'.1.Perm s.1 ∧ s'.2 ≤ s'.1.length := by
  unfold putFirst at h
  split_ifs at h
  · obtain ⟨l, hl, rfl⟩ := Option.map_eq_some'.mp h
    obtain ⟨-, hj, -⟩ := lt_of_iterSwap hl
    have hp := perm_of_iterSwap hl
    exact ⟨hp, by simp only [hp.length_eq]; omega⟩
  · cases h
    exact ⟨List.Perm.refl _, hs⟩

/-- The whole loop permutes the vector and keeps `curr_connector` inside it. -/
lemma foldlM_putFirst_perm (order : List String) {s s' : List ConnectorRef × Nat}
    (h : order.foldlM (fun s n => putFirst n s) s = some s') (hs : s.2 ≤ s.1.length) :
    s'.1.Perm s.1 ∧ s'.2 ≤ s'.1.length := by
  induction order generalizing s with
  | nil => cases h; exact ⟨List.Perm.refl _, hs⟩
  | cons n order ih =>
    obtain ⟨s₁, h₁, h'⟩ := Option.bind_eq_some.mp h
    obtain ⟨hp₁, hs₁⟩ := putFirst_perm h₁ hs
    obtain ⟨hp, hs'⟩ := ih h' hs₁
    exact ⟨hp.trans hp₁, hs'⟩

/-- The candidates are the reordered vector cut or partitioned at `curr_connector`. -/
lemma makePrimaryDisplayCandidates_eq (displayOrder : List String)
    (connectors : List ConnectorRef) :
    makePrimaryDisplayCandidates displayOrder connectors =
      displayOrder.getLast?.bind fun back =>
        (displayOrder.foldlM (fun s n => putFirst n s)
            (connectors.filter fun c => c.2.state = .connected, 0)).map fun s =>
          if back = "..." then s.1.take s.2 ++ partition (fun c => c.2.internal) (s.1.drop s.2)
          else s.1.take s.2 := by
  unfold makePrimaryDisplayCandidates
  dsimp only
  rcases displayOrder.getLast? with _ | back
  · rfl
  · rcases displayOrder.foldlM (fun s n => putFirst n s)
      (connectors.filter fun c => c.2.state = .connected, 0) with _ | ⟨l, c⟩
    · rfl
    · by_cases hb : back = "..." <;> simp [hb]

/-- Every run without undefined behaviour returns connected connectors, none of them twice when
the connectors are distinct; with the catch-all marker it returns all connected connectors. -/
theorem makePrimaryDisplayCandidates_subperm {displayOrder : List String}
    {connectors r : List ConnectorRef}
    (h : makePrimaryDisplayCandidates displayOrder connectors = some r) :
    r.Subperm (connectors.filter fun c => c.2.state = .connected) ∧
      (displayOrder.getLast? = some "..." →
        r.Perm (connectors.filter fun c => c.2.state = .connected)) := by
  rw [makePrimaryDisplayCandidates_eq] at h
  obtain ⟨back, hback, h⟩ := Option.bind_eq_some.mp h
  obtain ⟨s, hs, rfl⟩ := Option.map_eq_some'.mp h
  obtain ⟨hp, hle⟩ := foldlM_putFirst_perm displayOrder hs (Nat.zero_le _)
  have hpart : (s.1.take s.2 ++ partition (fun c => c.2.internal) (s.1.drop s.2)).Perm s.1 :=
    ((partition_perm _ _).append_left _).trans (by rw [List.take_append_drop])
  by_cases hb : back = "..."
  · simp only [hb, if_true]
    exact ⟨(hpart.trans hp).subperm, fun _ => hpart.trans hp⟩
  · simp only [hb, if_false]
    refine ⟨((List.take_sublist _ _).subperm).trans hp.subperm, fun h => ?_⟩
    exact absurd (Option.some.inj (hback.symm.trans h)) hb

/-! ## The order without repeated names -/

/-- Modelled from the spec: the connectors the order puts first, for each name of the order the
first connected connector bearing it. -/
def listedCandidates (displayOrder : List String) (connected : List ConnectorRef) :
    List ConnectorRef :=
  displayOrder.filterMap fun n => connected.find? fun c => c.2.name = n

/-- A listed candidate bears one of the names of the order. -/
lemma name_mem_of_mem_listedCandidates {done : List String} {connected : List ConnectorRef}
    {c : ConnectorRef} (h : c ∈ listedCandidates done connected) : c.2.name ∈ done := by
  obtain ⟨n, hn, hf⟩ := List.mem_filterMap.mp h
  have hc := List.find?_some hf
  rw [decide_eq_true_eq] at hc
  exact hc ▸ hn

/-- Among connectors of distinct names, the search for a connector's name finds it. -/
lemma find?_name_eq {connected : List ConnectorRef} (hN : (connected.map (·.2.name)).Nodup)
    {c : ConnectorRef} (hc : c ∈ connected) :
    connected.find? (fun d => d.2.name = c.2.name) = some c := by
  have hs : (connected.find? fun d => d.2.name = c.2.name).isSome :=
    List.find?_isSome.mpr ⟨c, hc, by simp⟩
  obtain ⟨c', hf⟩ := Option.isSome_iff_exists.mp hs
  have hc' := List.find?_some hf
  rw [decide_eq_true_eq] at hc'
  rw [hf, List.inj_on_of_nodup_map hN (List.mem_of_find?_eq_some hf) hc hc']

/-- The invariant of the loop over the names `done`: the vector is a permutation of the connected
connectors, and its first `curr_connector` elements are those the names put first. -/
def PutFirstInv (connected : List ConnectorRef) (done : List String)
    (s : List ConnectorRef × Nat) : Prop :=
  s.1.Perm connected ∧ s.1.take s.2 = listedCandidates done connected ∧ s.2 ≤ s.1.length

/-- A name not met before finds its connector behind `curr_connector`, and the swap keeps the
invariant. -/
lemma putFirst_inv {connected : List ConnectorRef} (hN : (connected.map (·.2.name)).Nodup)
    {done : List String} {n : String} (hn : n ∉ done) {s : List ConnectorRef × Nat}
    (hs : PutFirstInv connected done s) :
    ∃ s', putFirst n s = some s' ∧ PutFirstInv connected (done ++ [n]) s' := by
  obtain ⟨hp, ht, hle⟩ := hs
  set it := s.1.findIdx (fun c => c.2.name = n) with hit
  by_cases hex : ∃ c ∈ s.1, c.2.name = n
  · have hlt : it < s.1.length := List.findIdx_lt_length.mpr (by simpa using hex)
    have hname : s.1[it].2.name = n := by simpa using @List.findIdx_getElem _ _ _ hlt
    have hge : s.2 ≤ it := by
      by_contra hlt'
      have hmem : s.1[it] ∈ listedCandidates done connected := by
        rw [← ht, List.mem_take_iff_getElem]
        exact ⟨it, by omega, rfl⟩
      exact hn (hname ▸ name_mem_of_mem_listedCandidates hmem)
    obtain ⟨l', hsw⟩ : ∃ l', iterSwap s.1 it s.2 = some l' :=
      ⟨_, iterSwap_eq hlt (by omega)⟩
    have hp' := perm_of_iterSwap hsw
    refine ⟨(l', s.2 + 1), by simp [putFirst, ← hit, hlt, hsw], hp'.trans hp, ?_, ?_⟩
    · rw [take_iterSwap hge hsw, ht]
      simp only [listedCandidates, List.filterMap_append, List.filterMap_cons, List.filterMap_nil,
        List.get_eq_getElem, ← hname, find?_name_eq hN (hp.subset (List.getElem_mem hlt))]
    · simp only [hp'.length_eq]; omega
  · have hfind : connected.find? (fun c => c.2.name = n) = none :=
      List.find?_eq_none.mpr fun c hc h => hex ⟨c, hp.symm.subset hc, of_decide_eq_true h⟩
    have hidx : ¬it < s.1.length := by rw [hit, List.findIdx_lt_length]; simpa using hex
    refine ⟨s, by simp [putFirst, ← hit, hidx], hp, ?_, hle⟩
    simp only [ht, listedCandidates, List.filterMap_append, List.filterMap_cons,
      List.filterMap_nil, hfind, List.append_nil]

/-- Over names met once each, the loop keeps the invariant. -/
lemma foldlM_putFirst_inv {connected : List ConnectorRef} (hN : (connected.map (·.2.name)).Nodup)
    (rest : List String) {done : List String} {s : List ConnectorRef × Nat}
    (hd : (done ++ rest).Nodup) (hs : PutFirstInv connected done s) :
    ∃ s', rest.foldlM (fun s n => putFirst n s) s = some s' ∧
      PutFirstInv connected (done ++ rest) s' := by
  induction rest generalizing done s with
  | nil => exact ⟨s, rfl, by simpa using hs⟩
  | cons n rest ih =>
    have hn : n ∉ done := fun h => (List.nodup_append.mp hd).2.2 h (List.mem_cons_self n rest)
    obtain ⟨s₁, h₁, hs₁⟩ := putFirst_inv hN hn hs
    obtain ⟨s', h', hs'⟩ := ih (by simpa using hd) hs₁
    exact ⟨s', by simp [h₁, h'], by simpa using hs'⟩

/-- When no name repeats in the order and no two connected connectors share a name, the
candidates are, for each name of the order, the connected connector bearing it, followed with the
catch-all marker by the other connected connectors, internal ones first, and by nothing
otherwise. -/
theorem makePrimaryDisplayCandidates_of_nodup (displayOrder : List String)
    (connectors : List ConnectorRef) (hne : displayOrder ≠ []) (hL : displayOrder.Nodup)
    (hN : ((connectors.filter fun c => c.2.state = .connected).map (·.2.name)).Nodup) :
    let connected := connectors.filter fun c => c.2.state = .connected
    ∃ R, makePrimaryDisplayCandidates displayOrder connectors =
        some (listedCandidates displayOrder connected ++ R) ∧
      (displayOrder.getLast? ≠ some "..." → R = []) ∧
      (displayOrder.getLast? = some "..." →
        R.Perm (connected.filter fun c => c ∉ listedCandidates displayOrder connected) ∧
        ∃ a b, R = a ++ b ∧ (∀ c ∈ a, c.2.internal = true) ∧
          ∀ c ∈ b, c.2.internal = false) := by
  intro connected
  obtain ⟨⟨l, curr⟩, hrun, hp, ht, -⟩ :=
    foldlM_putFirst_inv hN displayOrder (by simpa using hL)
    (show PutFirstInv connected [] (connected, 0) from ⟨List.Perm.refl _, rfl, Nat.zero_le _⟩)
  rw [List.nil_append] at ht
  obtain ⟨back, hback⟩ := Option.isSome_iff_exists.mp (List.getLast?_isSome.mpr hne)
  have hmk := makePrimaryDisplayCandidates_eq displayOrder connectors
  rw [hback, Option.some_bind] at hmk
  erw [hrun] at hmk
  rw [Option.map_some'] at hmk
  have hnd : l.Nodup := hp.nodup_iff.mpr (List.Nodup.of_map _ hN)
  have hrest : (l.drop curr).Perm
      (connected.filter fun c => c ∉ listedCandidates displayOrder connected) := by
    have hdis := (List.nodup_append.mp ((List.take_append_drop curr l).symm ▸ hnd)).2.2
    refine List.Perm.trans ?_ (hp.filter _)
    conv_rhs => rw [← List.take_append_drop curr l, List.filter_append]
    rw [List.filter_eq_nil_iff.mpr (fun c hc => by simpa [← ht] using hc),
      List.filter_eq_self.mpr (fun c hc => by simpa [← ht] using fun h => hdis h hc)]
    rfl
  by_cases hb : back = "..."
  · refine ⟨partition (fun c => c.2.internal) (l.drop curr), by rw [hmk, if_pos hb, ht],
      fun h => absurd (hb ▸ hback) h, fun _ => ⟨(partition_perm _ _).trans hrest,
        partition_true_first _ _⟩⟩
  · exact ⟨[], by rw [hmk, if_neg hb, ht, List.append_nil], fun _ => rfl,
      fun h => absurd (Option.some.inj (hback.symm.trans h)) hb⟩

/-! ## Repeated names -/

/-- A repeated entry of the order finds the connector already moved to the front and swaps it
back: with the order `HDMI-A-1,HDMI-A-1` and two connected connectors `HDMI-A-1` and `DP-1`, the
unlisted `DP-1` becomes the first candidate although no catch-all marker is given; with `HDMI-A-1`
alone connected the second swap reaches past the end.  A name borne by two connectors finds the
one a previous swap moved first, not the first discovered. -/
theorem makePrimaryDisplayCandidates_repeated_names :
    makePrimaryDisplayCandidates ["HDMI-A-1", "HDMI-A-1"]
        [(0, ⟨40, 11, 1, .connected, 0, []⟩), (1, ⟨41, 10, 1, .connected, 0, []⟩)] =
      some [(1, ⟨41, 10, 1, .connected, 0, []⟩), (0, ⟨40, 11, 1, .connected, 0, []⟩)] ∧
    makePrimaryDisplayCandidates ["HDMI-A-1", "HDMI-A-1"]
        [(0, ⟨40, 11, 1, .connected, 0, []⟩)] = none ∧
    makePrimaryDisplayCandidates ["DP-1", "HDMI-A-1"]
        [(0, ⟨40, 11, 1, .connected, 0, []⟩), (1, ⟨40, 11, 1, .connected, 0, []⟩),
          (2, ⟨41, 10, 1, .connected, 0, []⟩)] =
      some [(2, ⟨41, 10, 1, .connected, 0, []⟩), (1, ⟨40, 11, 1, .connected, 0, []⟩)] := by
  decide

end DrmHwc
