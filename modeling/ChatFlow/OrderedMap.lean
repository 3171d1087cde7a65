/-!
# ChatFlow — ordered maps

A map that remembers the order in which its keys first came in. Replacing a value keeps the
key's place; removing a key closes the gap. The questions and transitions of a graph, the flows
of a store and the keys of a flow document are all kept this way, because the order shows in
every listing.

## Results

* `get?_insert`       — a look-up after an insertion.
* `get?_erase`        — a look-up after a removal.
* `keys_insert`       — a new key goes to the end, a known one stays where it is.
* `contains_iff_mem`  — membership in terms of the key list.
-/

namespace ChatFlow

/-- Pairs of pairwise distinct keys and their values, oldest key first. -/
structure OrderedMap (κ ν : Type) where
  entries : List (κ × ν)
  nodup : (entries.map Prod.fst).Nodup

namespace OrderedMap

variable {κ ν : Type}

instance [DecidableEq κ] [DecidableEq ν] : DecidableEq (OrderedMap κ ν) := fun a b =>
  if h : a.entries = b.entries then
    isTrue (by cases a; cases b; cases h; rfl)
  else
    isFalse (fun e => h (congrArg entries e))

theorem ext {a b : OrderedMap κ ν} (h : a.entries = b.entries) : a = b := by
  cases a; cases b; cases h; rfl

/-- The map without entries. -/
def empty : OrderedMap κ ν := ⟨[], List.nodup_nil⟩

instance : EmptyCollection (OrderedMap κ ν) := ⟨empty⟩

instance : Inhabited (OrderedMap κ ν) := ⟨empty⟩

def keys (m : OrderedMap κ ν) : List κ := m.entries.map Prod.fst

def values (m : OrderedMap κ ν) : List ν := m.entries.map Prod.snd

def size (m : OrderedMap κ ν) : Nat := m.entries.length

def isEmpty (m : OrderedMap κ ν) : Bool := m.entries.isEmpty

/-- The entries whose value passes the test, in the same order. -/
def filterValues (keep : ν → Bool) (m : OrderedMap κ ν) : OrderedMap κ ν where
  entries := m.entries.filter fun e => keep e.2
  nodup := (List.filter_sublist.map Prod.fst).nodup m.nodup

section Lookup

variable [DecidableEq κ]

/-- The value of the first entry with this key. -/
def find? (key : κ) : List (κ × ν) → Option ν
  | [] => none
  | (k, v) :: rest => if k = key then some v else find? key rest

def get? (m : OrderedMap κ ν) (key : κ) : Option ν := find? key m.entries

def contains (m : OrderedMap κ ν) (key : κ) : Bool := (m.get? key).isSome

/-- Replaces the value of the first entry with this key, or appends a new entry. -/
def put (key : κ) (value : ν) : List (κ × ν) → List (κ × ν)
  | [] => [(key, value)]
  | (k, v) :: rest => if k = key then (k, value) :: rest else (k, v) :: put key value rest

theorem map_fst_put (key : κ) (value : ν) (entries : List (κ × ν)) :
    (put key value entries).map Prod.fst =
      if key ∈ entries.map Prod.fst then entries.map Prod.fst
      else entries.map Prod.fst ++ [key] := by
  induction entries with
  | nil => simp [put]
  | cons e rest ih =>
    by_cases h : e.1 = key
    · simp [put, h]
    · have h' : ¬ key = e.1 := fun e' => h e'.symm
      simp only [put, h, if_false, List.map_cons, ih, List.mem_cons, h', false_or]
      split <;> simp

theorem nodup_put {key : κ} {value : ν} {entries : List (κ × ν)}
    (h : (entries.map Prod.fst).Nodup) : ((put key value entries).map Prod.fst).Nodup := by
  rw [map_fst_put]
  split
  · exact h
  · next hmem =>
    rw [List.nodup_append]
    exact ⟨h, by simp, fun a ha b hb e => hmem (by simp at hb; exact hb ▸ e ▸ ha)⟩

/-- Adds an entry at the end, or replaces the value of a key that is already there. -/
def insert (m : OrderedMap κ ν) (key : κ) (value : ν) : OrderedMap κ ν :=
  ⟨put key value m.entries, nodup_put m.nodup⟩

/-- Takes the entry with this key out; the others keep their order. -/
def erase (m : OrderedMap κ ν) (key : κ) : OrderedMap κ ν where
  entries := m.entries.filter fun e => decide (e.1 ≠ key)
  nodup := (List.filter_sublist.map Prod.fst).nodup m.nodup

/-! ## Look-ups after a change -/

theorem find?_put (key : κ) (value : ν) (entries : List (κ × ν)) (k : κ) :
    find? k (put key value entries) = if key = k then some value else find? k entries := by
  induction entries with
  | nil => simp [put, find?]
  | cons e rest ih => grind [put, find?]

@[simp] theorem get?_insert (m : OrderedMap κ ν) (key : κ) (value : ν) (k : κ) :
    (m.insert key value).get? k = if key = k then some value else m.get? k :=
  find?_put key value m.entries k

theorem find?_filter_ne (key : κ) (entries : List (κ × ν)) (k : κ) :
    find? k (entries.filter fun e => decide (e.1 ≠ key)) =
      if key = k then none else find? k entries := by
  induction entries with
  | nil => simp [find?]
  | cons e rest ih => grind [find?]

@[simp] theorem get?_erase (m : OrderedMap κ ν) (key k : κ) :
    (m.erase key).get? k = if key = k then none else m.get? k :=
  find?_filter_ne key m.entries k

theorem keys_insert (m : OrderedMap κ ν) (key : κ) (value : ν) :
    (m.insert key value).keys = if key ∈ m.keys then m.keys else m.keys ++ [key] :=
  map_fst_put key value m.entries

theorem isSome_find?_iff (key : κ) (entries : List (κ × ν)) :
    (find? key entries).isSome = true ↔ key ∈ entries.map Prod.fst := by
  induction entries with
  | nil => simp [find?]
  | cons e rest ih =>
    by_cases h : e.1 = key
    · simp [find?, h]
    · have h' : ¬ key = e.1 := fun e' => h e'.symm
      simp [find?, h, h', ih]

theorem contains_iff_mem (m : OrderedMap κ ν) (key : κ) :
    m.contains key = true ↔ key ∈ m.keys :=
  isSome_find?_iff key m.entries

/-- A look-up that succeeds names an entry. -/
theorem mem_of_find? {key : κ} {value : ν} {entries : List (κ × ν)}
    (h : find? key entries = some value) : (key, value) ∈ entries := by
  induction entries with
  | nil => simp [find?] at h
  | cons e rest ih =>
    by_cases hk : e.1 = key
    · simp [find?, hk] at h
      subst h hk
      exact List.mem_cons_self ..
    · simp [find?, hk] at h
      exact List.mem_cons_of_mem _ (ih h)

theorem mem_of_get? {m : OrderedMap κ ν} {key : κ} {value : ν} (h : m.get? key = some value) :
    (key, value) ∈ m.entries :=
  mem_of_find? h

/-- Every entry is found under its key. -/
theorem get?_of_mem {m : OrderedMap κ ν} {key : κ} {value : ν} (h : (key, value) ∈ m.entries) :
    m.get? key = some value := by
  obtain ⟨entries, nodup⟩ := m
  simp only [get?] at *
  induction entries with
  | nil => simp at h
  | cons e rest ih =>
    simp only [List.map_cons, List.nodup_cons] at nodup
    rcases List.mem_cons.1 h with rfl | hr
    · simp [find?]
    · have hne : ¬ e.1 = key := fun he =>
        nodup.1 (he ▸ List.mem_map.2 ⟨(key, value), hr, rfl⟩)
      simp [find?, hne, ih nodup.2 hr]

/-! ## Agreement -/

/-- The same keys with the same values, in whatever order. -/
def agrees [DecidableEq ν] (a b : OrderedMap κ ν) : Bool :=
  a.size = b.size && a.entries.all fun e => b.get? e.1 = some e.2

theorem agrees_self [DecidableEq ν] (m : OrderedMap κ ν) : m.agrees m = true := by
  simp only [agrees, Bool.and_eq_true, List.all_eq_true, decide_eq_true_eq]
  exact ⟨trivial, fun e he => get?_of_mem he⟩

end Lookup

end OrderedMap

end ChatFlow
