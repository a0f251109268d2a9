import Mathlib.Data.List.Nodup

namespace XelisP2p

/-!
# Core — `HashMap<u64, V>`

The server keeps its registry of connections and its channels in `HashMap`s keyed by
peer id.  A map is modelled by its entries, one per key, the key uniqueness carried as a
field.  `HashMap` has no specified iteration order; the model iterates in list order, which is
one of the orders a `HashMap` may use.

* `KeyMap.insert` and `KeyMap.remove` return the displaced value, as Rust's do;
* `mem_keys_insert`, `mem_keys_remove`, `get_insert`, `get_remove` — their effect on the keys
  and on lookups, which is all the server's invariants use.
-/

/-- `HashMap<u64, V>`: its entries, one per key. -/
structure KeyMap (V : Type) where
  entries : List (UInt64 × V)
  nodup : (entries.map Prod.fst).Nodup
deriving DecidableEq

section KeyMap

variable {V : Type}

/-- `HashMap::new`. -/
def KeyMap.empty : KeyMap V := ⟨[], List.nodup_nil⟩

/-- The keys, in iteration order. -/
def KeyMap.keys (m : KeyMap V) : List UInt64 := m.entries.map Prod.fst

/-- `values()`, in iteration order. -/
def KeyMap.values (m : KeyMap V) : List V := m.entries.map Prod.snd

/-- `len()`. -/
def KeyMap.len (m : KeyMap V) : Nat := m.entries.length

/-- `get(&k)`. -/
def KeyMap.get (m : KeyMap V) (k : UInt64) : Option V := m.entries.lookup k

/-- `contains_key(&k)`. -/
def KeyMap.containsKey (m : KeyMap V) (k : UInt64) : Bool := (m.get k).isSome

/-- The entries under every key but `k`. -/
def KeyMap.erase (m : KeyMap V) (k : UInt64) : List (UInt64 × V) :=
  m.entries.filter fun e => e.1 != k

theorem KeyMap.nodup_erase (m : KeyMap V) (k : UInt64) : ((m.erase k).map Prod.fst).Nodup :=
  m.nodup.sublist ((List.filter_sublist _).map _)

theorem KeyMap.mem_keys_erase {m : KeyMap V} {k k' : UInt64} :
    k' ∈ (m.erase k).map Prod.fst ↔ k' ≠ k ∧ k' ∈ m.keys := by
  simp only [KeyMap.erase, KeyMap.keys, List.mem_map, List.mem_filter, bne_iff_ne, ne_eq]
  constructor
  · rintro ⟨e, ⟨he, hne⟩, rfl⟩; exact ⟨hne, e, he, rfl⟩
  · rintro ⟨hne, e, he, rfl⟩; exact ⟨e, ⟨he, hne⟩, rfl⟩

/-- `insert(k, v)`: the value it displaces, and the map. -/
def KeyMap.insert (m : KeyMap V) (k : UInt64) (v : V) : Option V × KeyMap V :=
  (m.get k, ⟨m.erase k ++ [(k, v)], by
    rw [List.map_append, List.nodup_append]
    refine ⟨m.nodup_erase k, List.nodup_singleton _, ?_⟩
    simp only [List.map_cons, List.map_nil, List.disjoint_singleton]
    exact fun h => (KeyMap.mem_keys_erase.mp h).1 rfl⟩)

/-- `remove(&k)`: the value it removes, and the map. -/
def KeyMap.remove (m : KeyMap V) (k : UInt64) : Option V × KeyMap V :=
  (m.get k, ⟨m.erase k, m.nodup_erase k⟩)

@[simp] theorem KeyMap.keys_empty : (KeyMap.empty : KeyMap V).keys = [] := rfl

@[simp] theorem KeyMap.get_empty (k : UInt64) : (KeyMap.empty : KeyMap V).get k = none := rfl

@[simp] theorem KeyMap.keys_insert_empty (k : UInt64) (v : V) :
    ((KeyMap.empty : KeyMap V).insert k v).2.keys = [k] := rfl

theorem KeyMap.get_isSome {m : KeyMap V} {k : UInt64} : (m.get k).isSome ↔ k ∈ m.keys := by
  simp only [KeyMap.get, KeyMap.keys, List.lookup_isSome_iff, List.mem_map, beq_iff_eq]
  exact ⟨fun ⟨p, hp, h⟩ => ⟨p, hp, h.symm⟩, fun ⟨p, hp, h⟩ => ⟨p, hp, h.symm⟩⟩

theorem KeyMap.get_eq_none {m : KeyMap V} {k : UInt64} : m.get k = none ↔ k ∉ m.keys := by
  rw [← KeyMap.get_isSome, Option.not_isSome_iff_eq_none]

theorem KeyMap.containsKey_iff {m : KeyMap V} {k : UInt64} : m.containsKey k ↔ k ∈ m.keys :=
  KeyMap.get_isSome

@[simp] theorem KeyMap.insert_fst (m : KeyMap V) (k : UInt64) (v : V) :
    (m.insert k v).1 = m.get k := rfl

@[simp] theorem KeyMap.remove_fst (m : KeyMap V) (k : UInt64) : (m.remove k).1 = m.get k := rfl

theorem KeyMap.mem_keys_insert {m : KeyMap V} {k k' : UInt64} {v : V} :
    k' ∈ (m.insert k v).2.keys ↔ k' = k ∨ k' ∈ m.keys := by
  simp only [KeyMap.insert, KeyMap.keys, List.map_append, List.mem_append, List.map_cons,
    List.map_nil, List.mem_singleton]
  rw [show k' ∈ (m.erase k).map Prod.fst ↔ _ from KeyMap.mem_keys_erase]
  by_cases h : k' = k <;> simp [h, KeyMap.keys]

theorem KeyMap.mem_keys_remove {m : KeyMap V} {k k' : UInt64} :
    k' ∈ (m.remove k).2.keys ↔ k' ≠ k ∧ k' ∈ m.keys :=
  KeyMap.mem_keys_erase

theorem KeyMap.len_remove_le (m : KeyMap V) (k : UInt64) : (m.remove k).2.len ≤ m.len :=
  List.length_filter_le _ _

theorem KeyMap.len_insert {m : KeyMap V} {k : UInt64} {v : V} (h : m.get k = none) :
    (m.insert k v).2.len = m.len + 1 := by
  have hk : k ∉ m.keys := KeyMap.get_eq_none.mp h
  have : m.erase k = m.entries := List.filter_eq_self.mpr fun e he => by
    have : e.1 ≠ k := fun hek => hk (hek ▸ List.mem_map_of_mem Prod.fst he)
    simpa using this
  simp [KeyMap.insert, KeyMap.len, this]

theorem KeyMap.lookup_filter_ne (l : List (UInt64 × V)) (k k' : UInt64) :
    (l.filter fun e => e.1 != k).lookup k' = if k' = k then none else l.lookup k' := by
  induction l with
  | nil => simp
  | cons e es ih =>
    obtain ⟨a, b⟩ := e
    by_cases ha : a = k
    · subst ha
      rw [List.filter_cons_of_neg (by simp), ih]
      by_cases h : k' = a
      · simp [h]
      · simp [List.lookup_cons, h, beq_false_of_ne h]
    · by_cases h : k' = a
      · subst h; simp [List.lookup_cons, ha]
      · simp [List.lookup_cons, List.filter_cons, ha, ih, beq_false_of_ne h]

theorem KeyMap.get_insert {m : KeyMap V} {k k' : UInt64} {v : V} :
    (m.insert k v).2.get k' = if k' = k then some v else m.get k' := by
  simp only [KeyMap.insert, KeyMap.get, KeyMap.erase, List.lookup_append,
    KeyMap.lookup_filter_ne]
  by_cases h : k' = k
  · simp [h]
  · simp [h, List.lookup_cons, beq_false_of_ne h]

theorem KeyMap.get_remove {m : KeyMap V} {k k' : UInt64} :
    (m.remove k).2.get k' = if k' = k then none else m.get k' :=
  KeyMap.lookup_filter_ne m.entries k k'

end KeyMap

end XelisP2p
