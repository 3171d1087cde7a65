import ChatFlow.Storage.FlowFile

/-!
# ChatFlow — collections of flows

Stores and repositories alike keep a list of flows. A flow with a known id takes the place of the
first flow with that id, any other flow goes to the end (`FlowFile.put`), and a removal takes out
every flow with the id. This module says what such changes do to the flow found under an id
(`lookup?`), to the ids in order (`ids`), and to the members of a list without repeated ids
(`Distinct`).

## Results

* `lookup?_put`, `lookup?_remove`   — the flow under an id after a change.
* `ids_put`                       — a known flow keeps its place, a new one goes to the end.
* `put_of_lookup?`                 — putting what is already there changes nothing.
* `lookup?_putAll`                 — several flows put one after the other.
* `eq_of_lookup?_eq`               — the ids in order and the flow under each id fix the list.
* `firsts`                        — the first flow of every id.
* `Distinct.length_active_le`     — flows of which one id at most is active.
-/

namespace ChatFlow.Collection

open FlowFile (put)

/-- The first flow with this id. -/
def lookup? (id : FlowId) (flows : List Flow) : Option Flow := flows.find? fun f => f.id = id

def ids (flows : List Flow) : List FlowId := flows.map Flow.id

/-- No id occurs twice. -/
def Distinct (flows : List Flow) : Prop := (ids flows).Nodup

instance (flows : List Flow) : Decidable (Distinct flows) :=
  inferInstanceAs (Decidable (ids flows).Nodup)

/-- Takes out every flow with this id. -/
def remove (id : FlowId) (flows : List Flow) : List Flow := flows.filter fun f => f.id ≠ id

/-- Puts flows one after the other. -/
def putAll (changes flows : List Flow) : List Flow :=
  changes.foldl (fun flows f => put f flows) flows

variable {f g : Flow} {id k : FlowId} {flows changes : List Flow}

@[simp] theorem lookup?_nil (k : FlowId) : lookup? k [] = none := rfl

@[simp] theorem lookup?_cons (k : FlowId) (f : Flow) (flows : List Flow) :
    lookup? k (f :: flows) = if f.id = k then some f else lookup? k flows := by
  by_cases h : f.id = k <;> simp [lookup?, h]

@[simp] theorem ids_nil : ids [] = [] := rfl

@[simp] theorem ids_cons (f : Flow) (flows : List Flow) : ids (f :: flows) = f.id :: ids flows :=
  rfl

@[simp] theorem putAll_nil (flows : List Flow) : putAll [] flows = flows := rfl

@[simp] theorem putAll_cons (f : Flow) (changes flows : List Flow) :
    putAll (f :: changes) flows = putAll changes (put f flows) := rfl

/-! ## The flow under an id -/

theorem id_of_lookup? (h : lookup? k flows = some f) : f.id = k := by
  simpa using List.find?_some h

theorem mem_of_lookup? (h : lookup? k flows = some f) : f ∈ flows :=
  List.mem_of_find?_eq_some h

theorem mem_ids_of_mem (h : f ∈ flows) : f.id ∈ ids flows := List.mem_map_of_mem h

theorem lookup?_eq_none_iff : lookup? k flows = none ↔ k ∉ ids flows := by
  simp [lookup?, ids]

theorem exists_lookup?_of_mem (h : k ∈ ids flows) : ∃ f, lookup? k flows = some f := by
  cases hk : lookup? k flows with
  | none => exact absurd h (lookup?_eq_none_iff.1 hk)
  | some f => exact ⟨f, rfl⟩

theorem mem_ids_of_lookup? (h : lookup? k flows = some f) : k ∈ ids flows := by
  rw [← id_of_lookup? h]
  exact mem_ids_of_mem (mem_of_lookup? h)

/-- Where no id occurs twice, a flow of the list is found under its id, and no other one is. -/
theorem Distinct.lookup?_eq_some_iff (hd : Distinct flows) :
    lookup? k flows = some f ↔ f ∈ flows ∧ f.id = k := by
  constructor
  · intro h
    exact ⟨mem_of_lookup? h, id_of_lookup? h⟩
  · rintro ⟨hf, rfl⟩
    induction flows with
    | nil => simp at hf
    | cons g rest ih =>
      simp only [Distinct, ids_cons, List.nodup_cons] at hd
      rcases List.mem_cons.1 hf with rfl | hr
      · simp
      · -- a flow behind the head has another id, so the look-up passes the head by
        have hne : g.id ≠ f.id := fun e => hd.1 (e ▸ mem_ids_of_mem hr)
        simp [hne, ih hd.2 hr]

theorem Distinct.lookup?_of_mem (hd : Distinct flows) (hf : f ∈ flows) :
    lookup? f.id flows = some f :=
  hd.lookup?_eq_some_iff.2 ⟨hf, rfl⟩

/-- No two flows share an id. -/
theorem Distinct.eq_of_id_eq (hd : Distinct flows) (hf : f ∈ flows) (hg : g ∈ flows)
    (hId : f.id = g.id) : f = g := by
  have hEntry := hd.lookup?_of_mem hf
  rw [hId, hd.lookup?_of_mem hg] at hEntry
  exact (Option.some.inj hEntry).symm

/-- Two lists with the same ids in order and the same flow under each id are the same. -/
theorem eq_of_lookup?_eq {a b : List Flow} (hIds : ids a = ids b) (hd : Distinct a)
    (h : ∀ k, lookup? k a = lookup? k b) : a = b := by
  induction a generalizing b with
  | nil =>
    cases b with
    | nil => rfl
    | cons g rest => simp at hIds
  | cons f rest ih =>
    cases b with
    | nil => simp at hIds
    | cons g rest' =>
      simp only [ids_cons, List.cons.injEq] at hIds
      obtain ⟨hId, hRest⟩ := hIds
      simp only [Distinct, ids_cons, List.nodup_cons] at hd
      -- the two heads have one id, and each is the flow found under it
      have hfg : f = g := by simpa [hId] using h f.id
      subst hfg
      congr 1
      refine ih hRest hd.2 fun k => ?_
      -- the id of the head is in neither rest
      by_cases hk : f.id = k
      · subst hk
        rw [lookup?_eq_none_iff.2 hd.1, lookup?_eq_none_iff.2 (hRest ▸ hd.1)]
      · simpa [hk] using h k

/-! ## Putting a flow -/

/-- The flow under an id after one was put: the new one under its own id, else the one of before. -/
@[simp] theorem lookup?_put (f : Flow) (flows : List Flow) (k : FlowId) :
    lookup? k (put f flows) = if f.id = k then some f else lookup? k flows := by
  induction flows with
  | nil => simp [put]
  | cons g rest ih => grind [put, lookup?_cons]

/-- A known id keeps its place, and a new one goes to the end. -/
theorem ids_put (f : Flow) (flows : List Flow) :
    ids (put f flows) = if f.id ∈ ids flows then ids flows else ids flows ++ [f.id] := by
  induction flows with
  | nil => simp [put]
  | cons g rest ih => grind [put, ids_cons]

theorem ids_put_of_mem (h : f.id ∈ ids flows) : ids (put f flows) = ids flows := by
  simp [ids_put, h]

/-- A flow whose id is new goes to the end. -/
theorem put_of_not_mem (h : f.id ∉ ids flows) : put f flows = flows ++ [f] := by
  induction flows with
  | nil => rfl
  | cons g rest ih =>
    simp only [ids_cons, List.mem_cons, not_or] at h
    simp [put, Ne.symm h.1, ih h.2]

theorem mem_of_mem_put (h : g ∈ put f flows) : g = f ∨ g ∈ flows := by
  induction flows with
  | nil => exact Or.inl (by simpa [put] using h)
  | cons e rest ih => grind [put]

/-- A put repeats no id. -/
theorem Distinct.put (hd : Distinct flows) (f : Flow) : Distinct (put f flows) := by
  rw [Distinct, ids_put]
  split
  · exact hd
  · next h =>
    -- the new id goes to the end, and no flow before it has it
    rw [List.nodup_append]
    refine ⟨hd, by simp, fun a ha b hb hab => h ?_⟩
    rw [List.mem_singleton] at hb
    exact hb ▸ hab ▸ ha

/-- The members after a flow was put: the flow, and all others with another id. -/
theorem Distinct.mem_put_iff (hd : Distinct flows) :
    g ∈ FlowFile.put f flows ↔ g = f ∨ g ∈ flows ∧ g.id ≠ f.id := by
  -- membership is a look-up, and look-ups after a put are known
  have hPut := (hd.put f).lookup?_eq_some_iff (k := g.id) (f := g)
  have hOld := hd.lookup?_eq_some_iff (k := g.id) (f := g)
  rw [lookup?_put] at hPut
  by_cases h : f.id = g.id
  · grind
  · grind

/-- Putting a flow under a known id, as a change of that one flow. -/
theorem Distinct.put_eq_map (hd : Distinct flows) (h : f.id ∈ ids flows) :
    FlowFile.put f flows = flows.map fun g => if g.id = f.id then f else g := by
  induction flows with
  | nil => simp at h
  | cons g rest ih =>
    simp only [Distinct, ids_cons, List.nodup_cons] at hd
    by_cases hg : g.id = f.id
    · -- the flow is found, and no other flow has its id
      have hRest : rest.map (fun e => if e.id = f.id then f else e) = rest := by
        refine List.map_congr_left (fun e he => ?_) |>.trans (List.map_id _)
        have hne : e.id ≠ f.id := fun e' => hd.1 (hg ▸ e' ▸ mem_ids_of_mem he)
        simp [hne]
      simp [FlowFile.put, hg, hRest]
    · -- the head has another id, so the one in question is further behind
      have hmem : f.id ∈ ids rest := by simpa [Ne.symm hg] using h
      simp [FlowFile.put, hg, ih hd.2 hmem]

/-- The flows of another id stay what they are, in their order. -/
theorem filter_put_ne (h : f.id ≠ k) :
    (put f flows).filter (fun g => g.id = k) = flows.filter fun g => g.id = k := by
  induction flows with
  | nil => simp [put, h]
  | cons g rest ih => grind [put]

/-- Of the flows with the id of the flow that was put, it has the place of the first. -/
theorem filter_put_self (f : Flow) (flows : List Flow) :
    (put f flows).filter (fun g => g.id = f.id) =
      f :: (flows.filter fun g => g.id = f.id).tail := by
  induction flows with
  | nil => simp [put]
  | cons g rest ih =>
    by_cases h : g.id = f.id
    · simp [put, h]
    · simp [put, h, ih]

/-! ## Removing an id -/

/-- The flow under an id after a removal. -/
@[simp] theorem lookup?_remove (id : FlowId) (flows : List Flow) (k : FlowId) :
    lookup? k (remove id flows) = if id = k then none else lookup? k flows := by
  induction flows with
  | nil => simp [remove]
  | cons g rest ih => grind [remove, lookup?_cons]

theorem mem_remove : g ∈ remove id flows ↔ g ∈ flows ∧ g.id ≠ id := by simp [remove]

theorem Distinct.remove (hd : Distinct flows) (id : FlowId) : Distinct (remove id flows) :=
  (List.filter_sublist.map Flow.id).nodup hd

/-- What is put can be taken out again, with all its namesakes. -/
theorem remove_put (f : Flow) (flows : List Flow) :
    remove f.id (put f flows) = remove f.id flows := by
  induction flows with
  | nil => simp [put, remove]
  | cons g rest ih =>
    by_cases hg : g.id = f.id
    · simp [put, remove, hg]
    · simpa [put, remove, hg] using ih

theorem remove_of_not_mem (h : id ∉ ids flows) : remove id flows = flows := by
  refine List.filter_eq_self.2 fun g hg => ?_
  have hne : g.id ≠ id := fun e => h (e ▸ mem_ids_of_mem hg)
  simp [hne]

/-- The list is as long as before just if no flow had the id. -/
theorem length_remove_iff : (remove id flows).length = flows.length ↔ id ∉ ids flows := by
  rw [remove, List.length_filter_eq_length_iff]
  simp [ids]

/-! ## Putting several flows -/

/-- Several puts repeat no id either. -/
theorem Distinct.putAll (hd : Distinct flows) (changes : List Flow) :
    Distinct (putAll changes flows) := by
  induction changes generalizing flows with
  | nil => exact hd
  | cons f rest ih => exact ih (hd.put f)

/-- Flows with known ids change neither the ids nor their order. -/
theorem ids_putAll (h : ∀ f ∈ changes, f.id ∈ ids flows) :
    ids (putAll changes flows) = ids flows := by
  induction changes generalizing flows with
  | nil => rfl
  | cons f rest ih =>
    -- one put leaves the ids alone, so the rest is known afterwards as well
    have hf : ids (FlowFile.put f flows) = ids flows := ids_put_of_mem (h f (List.mem_cons_self ..))
    rw [putAll_cons, ih fun g hg => hf ▸ h g (List.mem_cons_of_mem _ hg), hf]

/-- The flows that are put all stand in `target`; afterwards the flow under each of their ids is
the one in `target`, and all others are as they were. -/
theorem lookup?_putAll {target : List Flow} (h : ∀ f ∈ changes, lookup? f.id target = some f) :
    lookup? k (putAll changes flows) =
      if k ∈ ids changes then lookup? k target else lookup? k flows := by
  induction changes generalizing flows with
  | nil => simp
  | cons f rest ih =>
    have hf : lookup? f.id target = some f := h f (List.mem_cons_self ..)
    rw [putAll_cons, ih fun g hg => h g (List.mem_cons_of_mem _ hg), lookup?_put]
    -- the put of the head and all later ones under its id agree in `target`
    by_cases hk : f.id = k
    · subst hk
      simp [hf]
    · simp [hk, Ne.symm hk]

/-- Under an id that is not put the flow stays what it is. -/
theorem lookup?_putAll_of_not_mem (h : k ∉ ids changes) :
    lookup? k (putAll changes flows) = lookup? k flows := by
  induction changes generalizing flows with
  | nil => rfl
  | cons f rest ih =>
    simp only [ids_cons, List.mem_cons, not_or] at h
    rw [putAll_cons, ih h.2, lookup?_put, if_neg (Ne.symm h.1)]

/-- Changes of other ids pass the first flow by. -/
theorem putAll_cons_of_not_mem (h : f.id ∉ ids changes) :
    putAll changes (f :: flows) = f :: putAll changes flows := by
  induction changes generalizing flows with
  | nil => rfl
  | cons g rest ih =>
    simp only [ids_cons, List.mem_cons, not_or] at h
    rw [putAll_cons, putAll_cons, put, if_neg h.1, ih h.2]

/-- New flows with pairwise distinct ids go to the end, in their order. -/
theorem putAll_of_new (hd : Distinct changes) (h : ∀ f ∈ changes, f.id ∉ ids flows) :
    putAll changes flows = flows ++ changes := by
  induction changes generalizing flows with
  | nil => simp
  | cons f rest ih =>
    simp only [Distinct, ids_cons, List.nodup_cons] at hd
    rw [putAll_cons, put_of_not_mem (h f (List.mem_cons_self ..)), ih hd.2, List.append_assoc]
    · rfl
    · intro g hg hmem
      -- an id behind the head differs from those that were there and from the head's
      simp only [ids, List.map_append, List.map_cons, List.map_nil, List.mem_append,
        List.mem_singleton] at hmem
      rcases hmem with hOld | hNew
      · exact h g (List.mem_cons_of_mem _ hg) hOld
      · exact hd.1 (hNew ▸ mem_ids_of_mem hg)

/-- Putting changed flows and then the flows as they were restores the list. -/
theorem putAll_restore {kept : List Flow} (hd : Distinct flows) (hIds : ids kept = ids changes)
    (hKept : ∀ f ∈ kept, lookup? f.id flows = some f) :
    putAll kept (putAll changes flows) = flows := by
  -- both lists name ids of the collection only
  have hMem : ∀ f ∈ changes, f.id ∈ ids flows := by
    intro f hf
    have hk : f.id ∈ ids kept := hIds ▸ mem_ids_of_mem hf
    obtain ⟨g, hg, hgf⟩ := List.mem_map.1 hk
    exact hgf ▸ mem_ids_of_lookup? (hKept g hg)
  have hChanged : ids (putAll changes flows) = ids flows := ids_putAll hMem
  have hBack : ids (putAll kept (putAll changes flows)) = ids flows := by
    rw [ids_putAll, hChanged]
    intro f hf
    exact hChanged ▸ mem_ids_of_lookup? (hKept f hf)
  -- both passes keep the ids in order, so it is enough to compare the flow under each id
  refine eq_of_lookup?_eq hBack ((hd.putAll _).putAll _) fun k => ?_
  rw [lookup?_putAll hKept]
  split
  · rfl
  · next hk => exact lookup?_putAll_of_not_mem (hIds ▸ hk)

/-! ## The first flow of every id -/

/-- Leaves the first flow of every id. -/
def firsts : List Flow → List Flow
  | [] => []
  | f :: rest => f :: remove f.id (firsts rest)

/-- No id is left twice. -/
theorem distinct_firsts (flows : List Flow) : Distinct (firsts flows) := by
  induction flows with
  | nil => exact List.nodup_nil
  | cons f rest ih =>
    simp only [firsts, Distinct, ids_cons, List.nodup_cons]
    refine ⟨?_, ih.remove f.id⟩
    rw [← lookup?_eq_none_iff]
    simp

/-- What is left was there before. -/
theorem mem_of_mem_firsts (h : f ∈ firsts flows) : f ∈ flows := by
  induction flows with
  | nil => exact h
  | cons g rest ih =>
    rcases List.mem_cons.1 h with rfl | hr
    · exact List.mem_cons_self ..
    · exact List.mem_cons_of_mem g (ih (mem_remove.1 hr).1)

/-- Under every id the same flow is found as before. -/
@[simp] theorem lookup?_firsts (flows : List Flow) (k : FlowId) :
    lookup? k (firsts flows) = lookup? k flows := by
  induction flows with
  | nil => rfl
  | cons f rest ih =>
    simp only [firsts, lookup?_cons, lookup?_remove, ih]
    split <;> rfl

/-- What is taken out leaves the first flows of the other ids. -/
theorem firsts_remove (id : FlowId) (flows : List Flow) :
    firsts (remove id flows) = remove id (firsts flows) := by
  induction flows with
  | nil => rfl
  | cons f rest ih =>
    by_cases hf : f.id = id
    · -- the head goes, and its namesakes behind it went before
      have hTwice : remove id (remove id (firsts rest)) = remove id (firsts rest) := by
        simp [remove]
      simpa [remove, firsts, hf] using ih.trans hTwice.symm
    · -- the head stays, and the two removals behind it commute
      have hSwap : remove f.id (remove id (firsts rest)) =
          remove id (remove f.id (firsts rest)) := by
        simp only [remove, List.filter_filter, Bool.and_comm]
      simpa [remove, firsts, hf] using (congrArg (remove f.id) ih).trans hSwap

/-- Where no id occurs twice nothing is left out. -/
theorem firsts_of_distinct (hd : Distinct flows) : firsts flows = flows := by
  induction flows with
  | nil => rfl
  | cons f rest ih =>
    simp only [Distinct, ids_cons, List.nodup_cons] at hd
    rw [firsts, ih hd.2, remove_of_not_mem hd.1]

/-! ## Active flows -/

/-- No flow is active but with the given id. -/
def ActiveOnly (active : Option FlowId) (flows : List Flow) : Prop :=
  ∀ f ∈ flows, f.isActive → active = some f.id

theorem Distinct.active_unique (hd : Distinct flows) {active : Option FlowId}
    (h : ActiveOnly active flows) (hf : f ∈ flows) (hg : g ∈ flows) (hfAct : f.isActive)
    (hgAct : g.isActive) : f = g :=
  hd.eq_of_id_eq hf hg (Option.some.inj ((h f hf hfAct).symm.trans (h g hg hgAct)))

/-- The first active flow is the only one. -/
theorem Distinct.find?_isActive_iff (hd : Distinct flows) {active : Option FlowId}
    (h : ActiveOnly active flows) :
    flows.find? Flow.isActive = some f ↔ f ∈ flows ∧ f.isActive := by
  constructor
  · exact fun hFound => ⟨List.mem_of_find?_eq_some hFound, List.find?_some hFound⟩
  · rintro ⟨hf, hAct⟩
    -- some active flow is the first, and there is no other
    cases hFound : flows.find? Flow.isActive with
    | none => exact absurd hAct (List.find?_eq_none.1 hFound f hf)
    | some g =>
      have hg := List.mem_of_find?_eq_some hFound
      rw [hd.active_unique h hg hf (List.find?_some hFound) hAct]

/-- At most one flow is active. -/
theorem Distinct.length_active_le (hd : Distinct flows) {active : Option FlowId}
    (h : ActiveOnly active flows) : (flows.filter Flow.isActive).length ≤ 1 := by
  -- the active flows are part of a list in which no id occurs twice
  have hDistinct : Distinct (flows.filter Flow.isActive) :=
    (List.filter_sublist.map Flow.id).nodup hd
  rcases hList : flows.filter Flow.isActive with _ | ⟨f, _ | ⟨g, rest⟩⟩
  · simp
  · simp
  · -- two active flows would be the same flow, and so have the same id
    rw [hList] at hDistinct
    have hf : f ∈ flows.filter Flow.isActive := by simp [hList]
    have hg : g ∈ flows.filter Flow.isActive := by simp [hList]
    rw [List.mem_filter] at hf hg
    have hfg : f = g := hd.active_unique h hf.1 hg.1 hf.2 hg.2
    simp [Distinct, hfg] at hDistinct

end ChatFlow.Collection
