import ChatFlow.Proofs.Collection.Basic
import ChatFlow.Proofs.Collection.Map

/-!
# ChatFlow — collections kept in ordered maps

The store and the repository in memory keep their flows in an `OrderedMap`, each flow under its own
id. Such a map is the same as the list of its values: look-ups, insertions and removals are those
of the list.

## Results

* `get?_eq_lookup?`, `contains_iff`    — look-ups.
* `values_insert`, `values_erase`     — changes.
* `values_insertAll`                  — several insertions.
* `Keyed.eq_of_values_eq`             — the values fix the map.
-/

namespace ChatFlow.Collection

open FlowFile (put)

/-- Every flow stands under its own id. -/
def Keyed (m : OrderedMap FlowId Flow) : Prop := ∀ e ∈ m.entries, e.2.id = e.1

/-- Inserts flows one after the other, each under its own id. -/
def insertAll (flows : List Flow) (m : OrderedMap FlowId Flow) : OrderedMap FlowId Flow :=
  flows.foldl (fun m f => m.insert f.id f) m

variable {m : OrderedMap FlowId Flow} {f : Flow} {k : FlowId}

@[simp] theorem insertAll_nil (m : OrderedMap FlowId Flow) : insertAll [] m = m := rfl

@[simp] theorem insertAll_cons (f : Flow) (rest : List Flow) (m : OrderedMap FlowId Flow) :
    insertAll (f :: rest) m = insertAll rest (m.insert f.id f) := rfl

theorem contains_insert (m : OrderedMap FlowId Flow) (key : FlowId) (f : Flow) (k : FlowId) :
    (m.insert key f).contains k = (decide (key = k) || m.contains k) := by
  rw [OrderedMap.contains, OrderedMap.contains, OrderedMap.get?_insert]
  by_cases h : key = k <;> simp [h]

theorem keyed_empty : Keyed ∅ := fun _ he => absurd he (List.not_mem_nil)

/-- The values give the entries, since each key is the id of its flow. -/
theorem Keyed.entries_eq (hm : Keyed m) : m.entries = m.values.map fun f => (f.id, f) :=
  OrderedMap.entries_eq_map_values hm

/-- Two such maps with the same flows in the same order are the same. -/
theorem Keyed.eq_of_values_eq {a b : OrderedMap FlowId Flow} (ha : Keyed a) (hb : Keyed b)
    (h : a.values = b.values) : a = b :=
  OrderedMap.ext (by rw [ha.entries_eq, hb.entries_eq, h])

theorem Keyed.keys_eq (hm : Keyed m) : m.keys = ids m.values := (OrderedMap.map_values hm).symm

/-- No id occurs twice among the flows of a map. -/
theorem Keyed.distinct (hm : Keyed m) : Distinct m.values := OrderedMap.nodup_map_values hm

/-! ## Look-ups -/

/-- A look-up in the map is one in the list of its flows. -/
theorem Keyed.get?_eq_lookup? (hm : Keyed m) (k : FlowId) : m.get? k = lookup? k m.values := by
  -- both walk the same list, the one by keys and the other by ids
  have hFind : ∀ flows : List Flow,
      OrderedMap.find? k (flows.map fun f => (f.id, f)) = lookup? k flows := by
    intro flows
    induction flows with
    | nil => rfl
    | cons f rest ih => simp [OrderedMap.find?, ih]
  rw [OrderedMap.get?, hm.entries_eq, hFind]

theorem Keyed.contains_iff (hm : Keyed m) : m.contains k = true ↔ k ∈ ids m.values := by
  rw [OrderedMap.contains_iff_mem, hm.keys_eq]

/-- No flow has an id that is not known. -/
theorem Keyed.not_mem_ids (hm : Keyed m) (h : m.contains k = false) : k ∉ ids m.values := by
  intro hMem
  have hKnown := hm.contains_iff.2 hMem
  rw [h] at hKnown
  cases hKnown

/-! ## Changes -/

/-- An insertion keeps every flow under its id. -/
theorem Keyed.insert (hm : Keyed m) (f : Flow) : Keyed (m.insert f.id f) := by
  intro e he
  -- an entry is the new one, or it was there
  rcases OrderedMap.mem_of_mem_insert he with rfl | hOld
  · rfl
  · exact hm e hOld

/-- An insertion puts the flow in the list. -/
theorem Keyed.values_insert (hm : Keyed m) (f : Flow) :
    (m.insert f.id f).values = put f m.values := by
  -- on the entries the insertion does what `put` does on the flows
  have hPut : ∀ flows : List Flow,
      OrderedMap.put f.id f (flows.map fun f => (f.id, f)) =
        (put f flows).map fun f => (f.id, f) := by
    intro flows
    induction flows with
    | nil => rfl
    | cons g rest ih =>
      by_cases hg : g.id = f.id
      · simp [OrderedMap.put, put, hg]
      · simp [OrderedMap.put, put, hg, ih]
  -- the values are all that is left to compare
  show (OrderedMap.put f.id f m.entries).map Prod.snd = _
  rw [hm.entries_eq, hPut, List.map_map]
  exact List.map_id _

theorem Keyed.erase (hm : Keyed m) (k : FlowId) : Keyed (m.erase k) :=
  fun e he => hm e (List.mem_filter.1 he).1

/-- An erasure takes the flow out of the list. -/
theorem Keyed.values_erase (hm : Keyed m) (k : FlowId) :
    (m.erase k).values = remove k m.values := by
  -- a filter by key is one by id
  show (m.entries.filter fun e => decide (e.1 ≠ k)).map Prod.snd = _
  rw [hm.entries_eq, List.filter_map, List.map_map]
  exact List.map_id _

/-- Several insertions keep every flow under its id. -/
theorem Keyed.insertAll (hm : Keyed m) (flows : List Flow) : Keyed (insertAll flows m) := by
  induction flows generalizing m with
  | nil => exact hm
  | cons f rest ih => exact ih (hm.insert f)

/-- Several insertions put the flows one after the other. -/
theorem Keyed.values_insertAll (hm : Keyed m) (flows : List Flow) :
    (Collection.insertAll flows m).values = putAll flows m.values := by
  induction flows generalizing m with
  | nil => rfl
  | cons f rest ih => rw [insertAll_cons, ih (hm.insert f), hm.values_insert, putAll_cons]

end ChatFlow.Collection
