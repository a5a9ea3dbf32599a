import Mathlib.Data.List.Sort
import Mathlib.Order.Basic

/-!
# Ordered maps

`std::map` as the code uses it: entries in increasing key order, each key at most once, which
`StdMap` carries as a field so that no other map can be built.  `emplace` inserts only when the
key is absent (a present key silently keeps its value), `insertOrAssign` is `operator[]` followed by an assignment, and iteration is `entries`.
-/

namespace DrmHwc

variable {κ α : Type} [LinearOrder κ]

/-- Insertion of `(k, v)` in key order, for a key that is not yet present. -/
def insertEntry (k : κ) (v : α) : List (κ × α) → List (κ × α)
  | [] => [(k, v)]
  | e :: es => if k < e.1 then (k, v) :: e :: es else e :: insertEntry k v es

/-- Inserting an entry adds its key. -/
lemma mem_keys_insertEntry {k x : κ} {v : α} {es : List (κ × α)} :
    x ∈ (insertEntry k v es).map Prod.fst ↔ x = k ∨ x ∈ es.map Prod.fst := by
  induction es with
  | nil => simp [insertEntry]
  | cons e es ih =>
    unfold insertEntry
    split_ifs <;> simp [ih, or_left_comm]

/-- Inserting an entry adds it and keeps the others. -/
lemma mem_insertEntry {k : κ} {v : α} {e : κ × α} {es : List (κ × α)} :
    e ∈ insertEntry k v es ↔ e = (k, v) ∨ e ∈ es := by
  induction es with
  | nil => simp [insertEntry]
  | cons e' es ih =>
    unfold insertEntry
    split_ifs <;> simp [ih, or_left_comm]

/-- A key above every present key goes at the end. -/
lemma insertEntry_of_lt {k : κ} {v : α} {es : List (κ × α)} (h : ∀ e ∈ es, e.1 < k) :
    insertEntry k v es = es ++ [(k, v)] := by
  induction es with
  | nil => rfl
  | cons e es ih =>
    simp only [List.mem_cons, forall_eq_or_imp] at h
    rw [insertEntry, if_neg (not_lt.mpr h.1.le), ih h.2]
    rfl

/-- Inserting an entry in key order puts it among the others. -/
lemma perm_insertEntry (k : κ) (v : α) (es : List (κ × α)) :
    (insertEntry k v es).Perm ((k, v) :: es) := by
  induction es with
  | nil => rfl
  | cons e es ih =>
    unfold insertEntry
    split_ifs
    · rfl
    · exact (ih.cons e).trans (List.Perm.swap _ _ _)

/-- Looking a key up after inserting an absent key finds the new entry or what was there. -/
lemma find?_insertEntry {k x : κ} {v : α} {es : List (κ × α)} (hk : k ∉ es.map Prod.fst) :
    (insertEntry k v es).find? (·.1 = x) = if k = x then some (k, v) else es.find? (·.1 = x) := by
  induction es with
  | nil => by_cases h : k = x <;> simp [insertEntry, h]
  | cons e es ih =>
    simp only [List.map_cons, List.mem_cons, not_or] at hk
    rw [insertEntry]
    by_cases hlt : k < e.1
    · rw [if_pos hlt]
      split_ifs with h <;> simp [h]
    · rw [if_neg hlt, List.find?_cons, List.find?_cons, ih hk.2]
      by_cases h : k = x
      · subst h
        simp [Ne.symm hk.1]
      · simp [h]

/-- Inserting an absent key keeps the keys increasing. -/
lemma sorted_insertEntry {k : κ} {v : α} {es : List (κ × α)}
    (hs : (es.map Prod.fst).Sorted (· < ·)) (hk : k ∉ es.map Prod.fst) :
    ((insertEntry k v es).map Prod.fst).Sorted (· < ·) := by
  induction es with
  | nil => simp [insertEntry]
  | cons e es ih =>
    rw [List.map_cons, List.sorted_cons] at hs
    simp only [List.map_cons, List.mem_cons, not_or] at hk
    unfold insertEntry
    split_ifs with hlt
    · refine List.sorted_cons.mpr ⟨?_, by simpa using hs⟩
      simp only [List.map_cons, List.mem_cons, forall_eq_or_imp]
      exact ⟨hlt, fun b hb => hlt.trans (hs.1 b hb)⟩
    · have hek : e.1 < k := lt_of_le_of_ne (not_lt.mp hlt) (Ne.symm hk.1)
      refine List.sorted_cons.mpr ⟨fun b hb => ?_, ih hs.2 hk.2⟩
      rcases mem_keys_insertEntry.mp hb with rfl | hb
      · exact hek
      · exact hs.1 b hb

/-- Removing a key just inserted, when it was absent, gives the entries back. -/
lemma filter_insertEntry {k : κ} {v : α} {es : List (κ × α)} (hk : k ∉ es.map Prod.fst) :
    (insertEntry k v es).filter (·.1 ≠ k) = es := by
  induction es with
  | nil => simp [insertEntry]
  | cons e es ih =>
    simp only [List.map_cons, List.mem_cons, not_or] at hk
    have hes : es.filter (·.1 ≠ k) = es := List.filter_eq_self.mpr fun x hx =>
      decide_eq_true fun h => hk.2 (h ▸ List.mem_map_of_mem Prod.fst hx)
    have he : decide (e.1 ≠ k) = true := decide_eq_true (Ne.symm hk.1)
    unfold insertEntry
    split_ifs
    · rw [List.filter_cons, if_neg (by simp), List.filter_cons, if_pos he, hes]
    · rw [List.filter_cons, if_pos he, ih hk.2]

/-- `std::map<κ, α>`: the entries in increasing key order. -/
structure StdMap (κ α : Type) [LinearOrder κ] where
  entries : List (κ × α)
  sorted : (entries.map Prod.fst).Sorted (· < ·)

namespace StdMap

/-- The empty map. -/
def empty : StdMap κ α := ⟨[], List.sorted_nil⟩

/-- The keys, in increasing order. -/
def keys (m : StdMap κ α) : List κ := m.entries.map Prod.fst

/-- `size()`. -/
def size (m : StdMap κ α) : Nat := m.entries.length

/-- `find`: the value stored under `k`. -/
def find? (m : StdMap κ α) (k : κ) : Option α :=
  (m.entries.find? (·.1 = k)).map Prod.snd

/-- `count(k) != 0`. -/
def contains (m : StdMap κ α) (k : κ) : Bool := k ∈ m.keys

/-- `emplace`: inserts `(k, v)` unless `k` is present, in which case the map is unchanged. -/
def emplace (m : StdMap κ α) (k : κ) (v : α) : StdMap κ α :=
  if h : k ∈ m.keys then m else ⟨insertEntry k v m.entries, sorted_insertEntry m.sorted h⟩

/-- `erase(k)`. -/
def erase (m : StdMap κ α) (k : κ) : StdMap κ α :=
  ⟨m.entries.filter (·.1 ≠ k), m.sorted.sublist ((List.filter_sublist _).map _)⟩

/-- `m[k] = v`: the entry under `k` replaced, or inserted. -/
def insertOrAssign (m : StdMap κ α) (k : κ) (v : α) : StdMap κ α :=
  (m.erase k).emplace k v

/-- The map with `f` applied to every value. -/
def mapValues {β : Type} (f : α → β) (m : StdMap κ α) : StdMap κ β :=
  ⟨m.entries.map fun e => (e.1, f e.2), by simpa [Function.comp_def] using m.sorted⟩

/-- The map with `f` applied to every value, given its key. -/
def mapWithKey {β : Type} (f : κ → α → β) (m : StdMap κ α) : StdMap κ β :=
  ⟨m.entries.map fun e => (e.1, f e.1 e.2), by simpa [Function.comp_def] using m.sorted⟩

/-- A map holds each key once. -/
lemma keys_nodup (m : StdMap κ α) : m.keys.Nodup :=
  m.sorted.nodup

@[simp] lemma contains_iff (m : StdMap κ α) (k : κ) : m.contains k = true ↔ k ∈ m.keys := by
  simp [contains]

/-- A map of size zero is the empty map. -/
lemma eq_empty_of_size_eq_zero {m : StdMap κ α} (h : m.size = 0) : m = empty := by
  obtain ⟨es, hs⟩ := m
  obtain rfl : es = [] := List.eq_nil_of_length_eq_zero h
  rfl

/-- Erasing a key just emplaced, when it was absent, gives the map back. -/
lemma erase_emplace {m : StdMap κ α} {k : κ} (v : α) (h : k ∉ m.keys) :
    (m.emplace k v).erase k = m := by
  obtain ⟨es, hs⟩ := m
  simp only [emplace, erase, dif_neg h]
  congr 1
  exact filter_insertEntry h

/-- `emplace` on a present key leaves the map unchanged. -/
lemma emplace_of_mem {m : StdMap κ α} {k : κ} (v : α) (h : k ∈ m.keys) :
    m.emplace k v = m := by
  simp [emplace, h]

/-- After `emplace` the key is present, next to the keys that were. -/
lemma mem_keys_emplace {m : StdMap κ α} {k x : κ} {v : α} :
    x ∈ (m.emplace k v).keys ↔ x = k ∨ x ∈ m.keys := by
  unfold emplace
  split_ifs with h
  · constructor
    · exact Or.inr
    · rintro (rfl | hx) <;> assumption
  · exact mem_keys_insertEntry

/-- `emplace` on an absent key adds one entry. -/
lemma size_emplace_of_not_mem {m : StdMap κ α} {k : κ} (v : α) (h : k ∉ m.keys) :
    (m.emplace k v).size = m.size + 1 := by
  simp only [emplace, h, dite_false, size]
  induction m.entries with
  | nil => rfl
  | cons e es ih => unfold insertEntry; split_ifs <;> simp [ih]

/-- `emplace` adds at most its own entry. -/
lemma mem_entries_emplace {m : StdMap κ α} {k : κ} {v : α} {e : κ × α} :
    e ∈ (m.emplace k v).entries → e = (k, v) ∨ e ∈ m.entries := by
  unfold emplace
  split_ifs
  · exact Or.inr
  · exact mem_insertEntry.mp

/-- A map holds one value under a key. -/
lemma eq_of_mem_entries {m : StdMap κ α} {k : κ} {v v' : α} (h : (k, v) ∈ m.entries)
    (h' : (k, v') ∈ m.entries) : v = v' :=
  (Prod.mk.inj (List.inj_on_of_nodup_map m.keys_nodup h h' rfl)).2

/-- The map a run of `emplace`s leaves: its entries come from the start or from the run. -/
lemma mem_entries_foldl_emplace {cs : List (κ × α)} {m : StdMap κ α} {e : κ × α}
    (h : e ∈ (cs.foldl (fun m c => m.emplace c.1 c.2) m).entries) :
    e ∈ m.entries ∨ e ∈ cs := by
  induction cs generalizing m with
  | nil => exact Or.inl h
  | cons c cs ih =>
    rcases ih h with h | h
    · rcases mem_entries_emplace h with rfl | h
      · exact Or.inr (List.mem_cons_self _ _)
      · exact Or.inl h
    · exact Or.inr (List.mem_cons_of_mem _ h)

/-- A run of `emplace`s loses no key. -/
lemma mem_keys_foldl_emplace {cs : List (κ × α)} {m : StdMap κ α} {k : κ} :
    k ∈ (cs.foldl (fun m c => m.emplace c.1 c.2) m).keys ↔
      k ∈ m.keys ∨ k ∈ cs.map Prod.fst := by
  induction cs generalizing m with
  | nil => simp
  | cons c cs ih =>
    simp only [List.foldl_cons, ih, mem_keys_emplace, List.map_cons, List.mem_cons]
    tauto

/-- A key that is absent has no value. -/
lemma find?_eq_none {m : StdMap κ α} {x : κ} (h : x ∉ m.keys) : m.find? x = none := by
  simp only [find?, Option.map_eq_none', List.find?_eq_none, decide_eq_true_eq]
  exact fun e he hx => h (hx ▸ List.mem_map_of_mem Prod.fst he)

/-- `find` finds a value exactly under the keys of the map. -/
lemma isSome_find?_iff {m : StdMap κ α} {k : κ} : (m.find? k).isSome ↔ k ∈ m.keys := by
  simp [find?, keys, List.find?_isSome]

/-- `find` after `emplace`: the new value under a key that was absent, else what was there. -/
lemma find?_emplace (m : StdMap κ α) (k x : κ) (v : α) :
    (m.emplace k v).find? x = if k = x ∧ k ∉ m.keys then some v else m.find? x := by
  unfold emplace
  split_ifs with hk hx hx
  · exact absurd hk hx.2
  · rfl
  · simp only [find?, find?_insertEntry hk, if_pos hx.1, Option.map_some']
  · simp only [find?, find?_insertEntry hk]
    rw [if_neg fun h => hx ⟨h, hk⟩]

/-- `find` gives the value stored under a key. -/
lemma find?_of_mem {m : StdMap κ α} {k : κ} {v : α} (h : (k, v) ∈ m.entries) :
    m.find? k = some v := by
  have hs : (m.entries.find? (·.1 = k)).isSome := List.find?_isSome.mpr ⟨(k, v), h, by simp⟩
  obtain ⟨e, he⟩ := Option.isSome_iff_exists.mp hs
  have hek : e.1 = k := by simpa using List.find?_some he
  have hmem : (k, e.2) ∈ m.entries := by rw [← hek]; exact List.mem_of_find?_eq_some he
  simp only [find?, he, Option.map_some', eq_of_mem_entries hmem h]

/-- A run of `emplace`s keeps what the map held and adds, under each new key, the first value
offered for it. -/
lemma find?_foldl_emplace (cs : List (κ × α)) (m : StdMap κ α) (x : κ) :
    (cs.foldl (fun m c => m.emplace c.1 c.2) m).find? x =
      if x ∈ m.keys then m.find? x else (cs.find? (·.1 = x)).map Prod.snd := by
  induction cs generalizing m with
  | nil =>
    split_ifs with h
    · rfl
    · exact find?_eq_none h
  | cons c cs ih =>
    rw [List.foldl_cons, ih, find?_emplace]
    by_cases hx : x ∈ m.keys
    · have hc : ¬(c.1 = x ∧ c.1 ∉ m.keys) := fun h => h.2 (h.1 ▸ hx)
      simp [hx, mem_keys_emplace, hc]
    · by_cases hc : c.1 = x
      · simp [hx, hc, mem_keys_emplace]
      · simp [hx, hc, mem_keys_emplace, Ne.symm hc]

/-- `erase` removes its key and no other. -/
lemma mem_keys_erase {m : StdMap κ α} {k x : κ} :
    x ∈ (m.erase k).keys ↔ x ∈ m.keys ∧ x ≠ k := by
  simp [erase, keys]

/-- `emplace` adds its entry when the key is absent, and nothing when it is present. -/
lemma perm_entries_emplace (m : StdMap κ α) (k : κ) (v : α) :
    (m.emplace k v).entries.Perm (if k ∈ m.keys then m.entries else (k, v) :: m.entries) := by
  unfold emplace
  split_ifs
  · rfl
  · exact perm_insertEntry k v m.entries

/-- `m[k] = v` replaces the entry under `k`, if any, by `(k, v)`. -/
lemma perm_entries_insertOrAssign (m : StdMap κ α) (k : κ) (v : α) :
    (m.insertOrAssign k v).entries.Perm ((k, v) :: m.entries.filter (·.1 ≠ k)) := by
  have hk : k ∉ (m.erase k).keys := fun hk => (mem_keys_erase.mp hk).2 rfl
  simp only [insertOrAssign, emplace, hk, dite_false]
  exact perm_insertEntry k v _

/-- `m[k] = v` with a key above every present key appends the entry. -/
lemma insertOrAssign_of_lt {m : StdMap κ α} {k : κ} (v : α) (h : ∀ x ∈ m.keys, x < k) :
    (m.insertOrAssign k v).entries = m.entries ++ [(k, v)] := by
  have hk : k ∉ (m.erase k).keys := fun hk => (mem_keys_erase.mp hk).2 rfl
  have herase : (m.erase k).entries = m.entries :=
    List.filter_eq_self.mpr fun e he => by
      simpa using (h e.1 (List.mem_map_of_mem Prod.fst he)).ne
  simp only [insertOrAssign, emplace, hk, dite_false, herase]
  exact insertEntry_of_lt fun e he => h e.1 (List.mem_map_of_mem Prod.fst he)

end StdMap

end DrmHwc
