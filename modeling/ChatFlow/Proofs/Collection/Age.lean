import ChatFlow.Proofs.Collection.Basic
import Mathlib.Data.List.Sort

/-!
# ChatFlow — collections by age

A store reads its flows oldest first, flows of the same age in the order of the repository
(`byAge`). Of several flows with one id it takes the eldest (`eldest?`). This module says how both
follow a change of the collection. The decisive fact is about repeated ids: `FlowFile.put` writes
over the first flow with the id, which need not be the eldest; if the new flow is as old as the
eldest, it is the eldest afterwards, because it comes first among its equals (`eldest?_put`).

## Results

* `filter_byAge`          — sorting by age is stable: it commutes with every selection.
* `byAge_append`          — the youngest flow goes to the end.
* `byAge_put`             — a change that keeps the age keeps the place.
* `eldest?_put`           — the eldest flow under an id after a flow of its age was put.
* `eldest?_remove`        — the eldest flow under an id after a removal.
-/

namespace ChatFlow.Collection

open FlowFile (put)

/-- The first flow is at least as old as the second. -/
def noYounger (f g : Flow) : Bool := f.createdAt.le g.createdAt

theorem noYounger_trans (a b c : Flow) (hab : noYounger a b = true) (hbc : noYounger b c = true) :
    noYounger a c = true :=
  Timestamp.le_trans hab hbc

theorem noYounger_total (a b : Flow) : (noYounger a b || noYounger b a) = true :=
  Timestamp.le_total a.createdAt b.createdAt

theorem noYounger_refl (f : Flow) : noYounger f f = true := by simpa using noYounger_total f f

/-- Flows in the order of creation; flows of the same age keep their order. -/
def byAge (flows : List Flow) : List Flow := flows.mergeSort noYounger

/-- The eldest flow with this id. -/
def eldest? (id : FlowId) (flows : List Flow) : Option Flow := lookup? id (byAge flows)

variable {f g : Flow} {id k : FlowId} {flows : List Flow}

theorem byAge_perm (flows : List Flow) : (byAge flows).Perm flows := List.mergeSort_perm ..

@[simp] theorem mem_byAge : f ∈ byAge flows ↔ f ∈ flows := List.mem_mergeSort

theorem Distinct.byAge (hd : Distinct flows) : Distinct (byAge flows) :=
  ((byAge_perm flows).map Flow.id).nodup_iff.2 hd

theorem mem_ids_byAge : k ∈ ids (byAge flows) ↔ k ∈ ids flows :=
  ((byAge_perm flows).map Flow.id).mem_iff

/-- Sorted by age, no flow stands before an older one. -/
theorem pairwise_byAge (flows : List Flow) :
    (byAge flows).Pairwise fun a b => noYounger a b = true :=
  List.pairwise_mergeSort noYounger_trans noYounger_total flows

/-! ## One flow at a time -/

/-- Puts a flow before the first one that is at most as old. -/
def insertByAge (f : Flow) : List Flow → List Flow :=
  List.orderedInsert (fun a b : Flow => noYounger a b = true) f

@[simp] theorem insertByAge_nil (f : Flow) : insertByAge f [] = [f] := rfl

/-- A flow stops before the first one that is not older. -/
theorem insertByAge_cons (f g : Flow) (rest : List Flow) :
    insertByAge f (g :: rest) =
      if noYounger f g = true then f :: g :: rest else g :: insertByAge f rest := rfl

/-- A flow that is older than all others, or as old, goes to the front. -/
theorem insertByAge_eq_cons (h : ∀ g ∈ flows, noYounger f g = true) :
    insertByAge f flows = f :: flows := by
  cases flows with
  | nil => rfl
  | cons g rest => rw [insertByAge_cons, if_pos (h g (List.mem_cons_self ..))]

/-- What stands before `f` is older, and `f` is not younger than what stands behind it. -/
theorem insertByAge_eq {before behind : List Flow}
    (hBefore : ∀ g ∈ before, noYounger f g = false)
    (hBehind : ∀ g ∈ behind, noYounger f g = true) :
    insertByAge f (before ++ behind) = before ++ f :: behind := by
  induction before with
  | nil => exact insertByAge_eq_cons hBehind
  | cons g rest ih =>
    -- an older flow is passed by, and the rest is by induction
    rw [List.cons_append, insertByAge_cons, hBefore g (List.mem_cons_self ..)]
    simp [ih fun e he => hBefore e (List.mem_cons_of_mem _ he)]

@[simp] theorem byAge_nil : byAge [] = [] := List.mergeSort_nil

/-- Sorting is insertion, one flow after the other. -/
theorem byAge_cons (f : Flow) (flows : List Flow) :
    byAge (f :: flows) = insertByAge f (byAge flows) := by
  obtain ⟨before, behind, hNew, hOld, hBefore⟩ :=
    List.mergeSort_cons noYounger_trans noYounger_total f flows
  -- the flows behind `f` are no older, because the result is sorted; those before it are older,
  -- because the sort is stable
  have hSorted := pairwise_byAge (f :: flows)
  simp only [byAge, hNew, hOld] at hSorted ⊢
  have hBehind := (List.pairwise_cons.1 (List.pairwise_append.1 hSorted).2.1).1
  exact (insertByAge_eq (fun g hg => by simpa using hBefore g hg) hBehind).symm

/-! ## Stability -/

/-- A selection may be made before an insertion or after it. -/
theorem filter_insertByAge (p : Flow → Bool) (f : Flow)
    (h : flows.Pairwise fun a b => noYounger a b = true) :
    (insertByAge f flows).filter p =
      if p f then insertByAge f (flows.filter p) else flows.filter p := by
  induction flows with
  | nil => cases hp : p f <;> simp [hp]
  | cons g rest ih =>
    rw [List.pairwise_cons] at h
    by_cases hfg : noYounger f g = true
    · -- `f` comes first, also before those that the selection keeps
      have hAll : ∀ e ∈ (g :: rest).filter p, noYounger f e = true := by
        intro e he
        rcases List.mem_cons.1 (List.mem_of_mem_filter he) with rfl | hr
        · exact hfg
        · exact Timestamp.le_trans hfg (h.1 e hr)
      rw [insertByAge_cons, if_pos hfg, List.filter_cons, insertByAge_eq_cons hAll]
    · -- an older head stays in front, whether it is selected or not
      rw [insertByAge_cons, if_neg hfg, List.filter_cons, List.filter_cons, ih h.2]
      cases hg : p g <;> cases hp : p f <;> simp [insertByAge_cons, hfg]

/-- Sorting by age commutes with every selection. -/
theorem filter_byAge (p : Flow → Bool) (flows : List Flow) :
    (byAge flows).filter p = byAge (flows.filter p) := by
  induction flows with
  | nil => simp
  | cons f rest ih =>
    rw [byAge_cons, filter_insertByAge p f (pairwise_byAge rest), ih, List.filter_cons]
    cases p f with
    | true => exact (byAge_cons ..).symm
    | false => rfl

/-- A removal may be made before sorting or after it. -/
theorem byAge_remove (id : FlowId) (flows : List Flow) :
    byAge (remove id flows) = remove id (byAge flows) :=
  (filter_byAge ..).symm

/-- A flow than which no other is younger goes to the end. -/
theorem byAge_append (h : ∀ g ∈ flows, noYounger g f = true) :
    byAge (flows ++ [f]) = byAge flows ++ [f] := by
  induction flows with
  | nil => simp [byAge_cons]
  | cons g rest ih =>
    have hgf : noYounger g f = true := h g (List.mem_cons_self ..)
    rw [List.cons_append, byAge_cons, byAge_cons, ih fun e he => h e (List.mem_cons_of_mem _ he)]
    -- `g` stops before `f` at the latest
    induction byAge rest with
    | nil => simp [insertByAge_cons, hgf]
    | cons e tail ihTail =>
      rw [List.cons_append, insertByAge_cons, insertByAge_cons]
      split
      · rfl
      · rw [ihTail, List.cons_append]

/-- A flow that is as old as the one it replaces takes its place. -/
theorem byAge_put (hd : Distinct flows) (hg : lookup? f.id flows = some g)
    (hAge : f.createdAt = g.createdAt) : byAge (put f flows) = put f (byAge flows) := by
  have hMem : f.id ∈ ids flows := mem_ids_of_lookup? hg
  -- seen as a change of one flow, the put commutes with a sort that does not see the change
  rw [hd.put_eq_map hMem, hd.byAge.put_eq_map (mem_ids_byAge.2 hMem), byAge, byAge,
    List.map_mergeSort]
  -- the change leaves every age what it was
  have hKept : ∀ a ∈ flows, (if a.id = f.id then f else a).createdAt = a.createdAt := by
    intro a ha
    split
    · next h =>
      have hga : g = a := by
        rw [← h, hd.lookup?_of_mem ha] at hg
        exact (Option.some.inj hg).symm
      rw [hAge, hga]
    · rfl
  intro a ha b hb
  rw [noYounger, noYounger, hKept a ha, hKept b hb]

/-! ## The eldest flow of an id -/

/-- The eldest flow of an id is the first of its namesakes by age. -/
theorem eldest?_eq_head? (k : FlowId) (flows : List Flow) :
    eldest? k flows = (byAge (flows.filter fun g => g.id = k)).head? := by
  rw [← filter_byAge, List.head?_filter]
  rfl

theorem eldest?_eq_none_iff : eldest? k flows = none ↔ k ∉ ids flows := by
  rw [eldest?, lookup?_eq_none_iff, mem_ids_byAge]

/-- Where no id occurs twice, it is the flow under the id. -/
theorem eldest?_of_distinct (hd : Distinct flows) : eldest? k flows = lookup? k flows := by
  refine Option.ext fun f => ?_
  rw [eldest?, hd.byAge.lookup?_eq_some_iff, hd.lookup?_eq_some_iff, mem_byAge]

/-- No flow with the id is older. -/
theorem le_of_eldest? (h : eldest? k flows = some f) (hg : g ∈ flows) (hk : g.id = k) :
    noYounger f g = true := by
  rw [eldest?_eq_head?] at h
  have hSorted := pairwise_byAge (flows.filter fun g => g.id = k)
  -- the namesakes by age are a sorted list, and `f` is its head
  have hMem : g ∈ byAge (flows.filter fun g => g.id = k) := by simp [hg, hk]
  cases hAll : byAge (flows.filter fun g => g.id = k) with
  | nil => simp [hAll] at h
  | cons e rest =>
    rw [hAll] at h hSorted hMem
    obtain rfl : e = f := by simpa using h
    -- `g` is the head itself or stands behind it
    rcases List.mem_cons.1 hMem with rfl | hr
    · exact noYounger_refl g
    · exact (List.pairwise_cons.1 hSorted).1 g hr

theorem eldest?_put_of_ne (h : f.id ≠ k) : eldest? k (put f flows) = eldest? k flows := by
  rw [eldest?_eq_head?, eldest?_eq_head?, filter_put_ne h]

/-- A flow that is put is the eldest of its id, if none of the others is older. -/
theorem eldest?_put_self (h : ∀ g ∈ flows, g.id = f.id → noYounger f g = true) :
    eldest? f.id (put f flows) = some f := by
  have hTail : ∀ g ∈ byAge (flows.filter fun g => g.id = f.id).tail,
      noYounger f g = true := by
    intro g hg
    have hMem := List.mem_of_mem_tail (mem_byAge.1 hg)
    simp only [List.mem_filter, decide_eq_true_eq] at hMem
    exact h g hMem.1 hMem.2
  -- among its namesakes it comes first, or it takes the place of the first, so it wins all ties
  rw [eldest?_eq_head?, filter_put_self, byAge_cons, insertByAge_eq_cons hTail]
  rfl

/-- The eldest flow under an id, after a flow was put that is as old as the eldest of its own
id or has a new id. -/
theorem eldest?_put (h : ∀ g, eldest? f.id flows = some g → f.createdAt = g.createdAt) :
    eldest? k (put f flows) = if f.id = k then some f else eldest? k flows := by
  split
  · next hk =>
    subst hk
    refine eldest?_put_self fun g hg hId => ?_
    -- without a namesake there is nothing to compare
    cases hOld : eldest? f.id flows with
    | none =>
      have hNot := eldest?_eq_none_iff.1 hOld
      exact absurd (hId ▸ mem_ids_of_mem hg) hNot
    | some e =>
      rw [noYounger, h e hOld]
      exact le_of_eldest? hOld hg hId
  · next hk => exact eldest?_put_of_ne hk

theorem eldest?_remove (id : FlowId) (flows : List Flow) :
    eldest? k (remove id flows) = if id = k then none else eldest? k flows := by
  rw [eldest?, byAge_remove, lookup?_remove]
  rfl

end ChatFlow.Collection
