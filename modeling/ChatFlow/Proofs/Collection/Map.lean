import ChatFlow.OrderedMap
import Mathlib.Data.List.Basic

/-!
# ChatFlow — ordered maps of things that name themselves

A map may keep each value under a key that can be told from the value. Then the values say all: a
map is what comes of inserting its values one after the other.

## Results

* `mem_of_mem_insert`        — the entries after an insertion.
* `entries_insert_of_mem`, `entries_insert_perm` — the same for a known key and for any key.
* `mem_keys_insert`          — the keys after an insertion.
* `filterMap_get?_of_sublist` — the values, looked up among all keys there ever were.
* `entries_eq_map_values`    — the entries from the values.
* `insertEach_values`        — the map from its values.
-/

namespace ChatFlow.OrderedMap

variable {κ ν : Type} [DecidableEq κ] {m : OrderedMap κ ν} {k : κ} {v : ν} {e : κ × ν}

/-- An entry after a change is the new one, or it was there. -/
theorem mem_of_mem_put {entries : List (κ × ν)} (h : e ∈ put k v entries) :
    e = (k, v) ∨ e ∈ entries := by
  induction entries with
  | nil => exact Or.inl (List.mem_singleton.1 h)
  | cons d rest ih =>
    -- the change meets the head, or it happens behind it
    by_cases hk : d.1 = k
    · rw [put, if_pos hk] at h
      rcases List.mem_cons.1 h with rfl | hr
      · exact Or.inl (by rw [hk])
      · exact Or.inr (List.mem_cons_of_mem d hr)
    · rw [put, if_neg hk] at h
      rcases List.mem_cons.1 h with rfl | hr
      · exact Or.inr (List.mem_cons_self ..)
      · exact (ih hr).imp_right (List.mem_cons_of_mem d)

theorem mem_of_mem_insert (h : e ∈ (m.insert k v).entries) : e = (k, v) ∨ e ∈ m.entries :=
  mem_of_mem_put h

/-- A new key goes to the end. -/
theorem put_of_not_mem {entries : List (κ × ν)} (h : k ∉ entries.map Prod.fst) :
    put k v entries = entries ++ [(k, v)] := by
  induction entries with
  | nil => rfl
  | cons d rest ih =>
    simp only [List.map_cons, List.mem_cons, not_or] at h
    rw [put, if_neg (Ne.symm h.1), ih h.2, List.cons_append]

theorem entries_insert_of_not_mem (h : k ∉ m.keys) :
    (m.insert k v).entries = m.entries ++ [(k, v)] :=
  put_of_not_mem h

/-- A known key keeps its place. -/
theorem put_of_mem {entries : List (κ × ν)} (hd : (entries.map Prod.fst).Nodup)
    (h : k ∈ entries.map Prod.fst) :
    put k v entries = entries.map fun e => if e.1 = k then (k, v) else e := by
  induction entries with
  | nil => exact absurd h List.not_mem_nil
  | cons d rest ih =>
    obtain ⟨hNew, hRest⟩ := List.nodup_cons.1 hd
    by_cases hk : d.1 = k
    · -- the key is found, and no other entry has it
      have hOthers : rest.map (fun e => if e.1 = k then (k, v) else e) = rest := by
        refine (List.map_congr_left fun e he => if_neg fun hSame : e.1 = k => ?_).trans
          (List.map_id _)
        exact hNew (hk.trans hSame.symm ▸ List.mem_map_of_mem he)
      rw [put, if_pos hk, List.map_cons, if_pos hk, hOthers, hk]
    · -- the head has another key, so the one in question is further behind
      have hIn : k ∈ rest.map Prod.fst :=
        (List.mem_cons.1 h).resolve_left fun hSame => hk hSame.symm
      rw [put, if_neg hk, List.map_cons, if_neg hk, ih hRest hIn]

theorem entries_insert_of_mem (h : k ∈ m.keys) :
    (m.insert k v).entries = m.entries.map fun e => if e.1 = k then (k, v) else e :=
  put_of_mem m.nodup h

/-- Whether or not the key is known, an insertion adds one entry and leaves those of other keys. -/
theorem put_perm {entries : List (κ × ν)} (hd : (entries.map Prod.fst).Nodup) :
    (put k v entries).Perm ((entries.filter fun e => decide (e.1 ≠ k)) ++ [(k, v)]) := by
  induction entries with
  | nil => exact .refl _
  | cons d rest ih =>
    obtain ⟨hNew, hRest⟩ := List.nodup_cons.1 hd
    by_cases hk : d.1 = k
    · -- the key stands at the head, so the rest is without it
      have hOthers : rest.filter (fun e => decide (e.1 ≠ k)) = rest := by
        refine List.filter_eq_self.2 fun e he => decide_eq_true fun hSame => hNew ?_
        exact hk.trans hSame.symm ▸ List.mem_map_of_mem he
      rw [put, if_pos hk, List.filter_cons_of_neg (by simpa using hk), hOthers, hk]
      exact (List.perm_append_singleton _ _).symm
    · rw [put, if_neg hk, List.filter_cons_of_pos (by simpa using hk)]
      exact (ih hRest).cons d

/-- The entries after an insertion, up to their order. -/
theorem entries_insert_perm (m : OrderedMap κ ν) (k : κ) (v : ν) :
    (m.insert k v).entries.Perm ((m.entries.filter fun e => decide (e.1 ≠ k)) ++ [(k, v)]) :=
  put_perm m.nodup

/-! ## Keys and values after a change -/

theorem values_insert_of_not_mem (h : k ∉ m.keys) : (m.insert k v).values = m.values ++ [v] := by
  rw [values, entries_insert_of_not_mem h, List.map_append]
  rfl

/-- The keys after an insertion. -/
theorem mem_keys_insert {key : κ} : key ∈ (m.insert k v).keys ↔ key = k ∨ key ∈ m.keys := by
  rw [keys_insert]
  split
  · next hIn => exact ⟨.inr, fun h => h.elim (fun hSame => hSame ▸ hIn) id⟩
  · rw [List.mem_append, List.mem_singleton, or_comm]

theorem keys_erase (m : OrderedMap κ ν) (k : κ) :
    (m.erase k).keys = m.keys.filter fun key => decide (key ≠ k) := by
  rw [keys, keys, erase, List.filter_map]
  rfl

/-- An erasure keeps the order of the values. -/
theorem values_erase_sublist (m : OrderedMap κ ν) (k : κ) :
    (m.erase k).values.Sublist m.values :=
  List.filter_sublist.map Prod.snd

/-- Where values say their keys, an erasure takes out those with this key. -/
theorem values_erase {key : ν → κ} (h : ∀ e ∈ m.entries, key e.2 = e.1) (k : κ) :
    (m.erase k).values = m.values.filter fun v => decide (key v ≠ k) := by
  rw [values, values, erase, List.filter_map]
  refine congrArg (List.map Prod.snd) (List.filter_congr fun e he => ?_)
  rw [Function.comp_apply, h e he]

omit [DecidableEq κ] in
theorem values_filterValues (keep : ν → Bool) (m : OrderedMap κ ν) :
    (m.filterValues keep).values = m.values.filter keep := by
  rw [values, values, filterValues, List.filter_map]
  rfl

theorem mem_keys_of_get? (h : m.get? k = some v) : k ∈ m.keys :=
  List.mem_map_of_mem (mem_of_get? h)

theorem not_mem_keys_of_get? (h : m.get? k = none) : k ∉ m.keys := fun hIn => by
  have hSome := (m.contains_iff_mem k).2 hIn
  rw [contains, h] at hSome
  cases hSome

/-! ## Values by their keys -/

/-- The keys, looked up one after the other, give the values. -/
theorem filterMap_get?_keys (m : OrderedMap κ ν) : m.keys.filterMap m.get? = m.values := by
  rw [keys, values, List.filterMap_map, List.filterMap_eq_map_iff_forall_eq_some]
  exact fun e he => get?_of_mem he

omit [DecidableEq κ] in
/-- What gives nothing may be left out. -/
theorem filterMap_of_sublist {f : κ → Option ν} {ks l : List κ} (h : ks.Sublist l) (hd : l.Nodup)
    (hNone : ∀ k ∈ l, k ∉ ks → f k = none) : l.filterMap f = ks.filterMap f := by
  induction h with
  | slnil => rfl
  | @cons ks l k hSub ih =>
    obtain ⟨hNew, hRest⟩ := List.nodup_cons.1 hd
    -- a key that is left out gives nothing
    have hk : f k = none := hNone k (List.mem_cons_self ..) fun hIn => hNew (hSub.subset hIn)
    rw [List.filterMap_cons_none hk]
    exact ih hRest fun j hj => hNone j (List.mem_cons_of_mem k hj)
  | @cons_cons ks l k hSub ih =>
    obtain ⟨hNew, hRest⟩ := List.nodup_cons.1 hd
    rw [List.filterMap_cons, List.filterMap_cons, ih hRest fun j hj hOut => ?_]
    -- a key of the rest is not the head again, since no key occurs twice
    refine hNone j (List.mem_cons_of_mem k hj) fun hIn => ?_
    rcases List.mem_cons.1 hIn with rfl | hOld
    · exact hNew hj
    · exact hOut hOld

/-- The values in their order, looked up among all keys there ever were. -/
theorem filterMap_get?_of_sublist {l : List κ} (h : m.keys.Sublist l) (hd : l.Nodup) :
    l.filterMap m.get? = m.values := by
  rw [filterMap_of_sublist h hd fun k _ hOut => ?_, filterMap_get?_keys]
  -- a key that is not in the map has no value
  cases hValue : m.get? k with
  | none => rfl
  | some v => exact absurd (mem_keys_of_get? hValue) hOut

/-! ## Values that say their keys -/

omit [DecidableEq κ] in
/-- Where values say their keys, they say all keys in their order. -/
theorem map_values {key : ν → κ} (h : ∀ e ∈ m.entries, key e.2 = e.1) :
    m.values.map key = m.keys := by
  rw [values, keys, List.map_map]
  exact List.map_congr_left h

omit [DecidableEq κ] in
theorem nodup_map_values {key : ν → κ} (h : ∀ e ∈ m.entries, key e.2 = e.1) :
    (m.values.map key).Nodup := by
  rw [map_values h]
  exact m.nodup

omit [DecidableEq κ] in
/-- The values say the entries. -/
theorem entries_eq_map_values {key : ν → κ} (h : ∀ e ∈ m.entries, key e.2 = e.1) :
    m.entries = m.values.map fun v => (key v, v) := by
  rw [values, List.map_map]
  refine ((List.map_congr_left fun e he => ?_).trans (List.map_id _)).symm
  exact Prod.ext (h e he) rfl

/-- Inserts values one after the other, each under its own key. -/
def insertEach (key : ν → κ) (values : List ν) (m : OrderedMap κ ν) : OrderedMap κ ν :=
  values.foldl (fun m v => m.insert (key v) v) m

/-- Of several new values, those behind the first stay new when it is inserted. -/
theorem not_mem_keys_insert {key : ν → κ} {rest : List ν} (hd : ((v :: rest).map key).Nodup)
    (hNew : ∀ w ∈ v :: rest, key w ∉ m.keys) :
    ∀ w ∈ rest, key w ∉ (m.insert (key v) v).keys := by
  intro w hw
  simp only [List.map_cons, List.nodup_cons] at hd
  have hFirst : key v ∉ m.keys := hNew v (List.mem_cons_self ..)
  rw [keys_insert, if_neg hFirst, List.mem_append, List.mem_singleton]
  -- a key of the rest that is known now was known before, or it is the first one
  rintro (hOld | hSame)
  · exact hNew w (List.mem_cons_of_mem v hw) hOld
  · exact hd.1 (hSame ▸ List.mem_map_of_mem hw)

/-- New values go to the end, in their order. -/
theorem entries_insertEach {key : ν → κ} {values : List ν} (hd : (values.map key).Nodup)
    (hNew : ∀ v ∈ values, key v ∉ m.keys) :
    (insertEach key values m).entries = m.entries ++ values.map fun v => (key v, v) := by
  induction values generalizing m with
  | nil => simp [insertEach]
  | cons v rest ih =>
    have hStep := ih (List.nodup_cons.1 hd).2 (not_mem_keys_insert hd hNew)
    rw [entries_insert_of_not_mem (hNew v (List.mem_cons_self ..))] at hStep
    rw [insertEach, List.foldl_cons]
    rw [insertEach] at hStep
    rw [hStep, List.map_cons, List.append_assoc]
    rfl

/-- A map that keeps each value under its own key comes of its values. -/
theorem insertEach_values {key : ν → κ} (h : ∀ e ∈ m.entries, key e.2 = e.1) :
    insertEach key m.values ∅ = m := by
  refine ext ?_
  rw [entries_insertEach (nodup_map_values h) fun v _ => List.not_mem_nil]
  exact (entries_eq_map_values h).symm

end ChatFlow.OrderedMap
