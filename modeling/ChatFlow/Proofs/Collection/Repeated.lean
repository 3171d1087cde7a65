import Mathlib.Data.List.Nodup
import Mathlib.Data.List.Sort

/-!
# ChatFlow — what comes up more than once

The elements that a list holds more than once, each of them once and in the order in which they
come up for the second time (`Repeated`). There is one such list only (`Repeated.unique`), and it
is found in one pass that counts what was seen before (`repeats`). A pass that stops at the first
repetition gives the element that is repeated there (`FirstRepeat`).

## Results

* `repeated_repeats`     — the pass finds the repeated elements.
* `Repeated.unique`      — no other list does.
* `Repeated.eq_nil_iff`  — nothing is repeated in a list without duplicates.
* `exists_firstRepeat`   — in every other list there is a first repetition.
-/

namespace ChatFlow.Collection

variable {α : Type} [DecidableEq α] {l seen found found' : List α} {a : α} {i n : Nat}

/-- The element stands at this place, and `n` times before it. -/
def StandsAt (l : List α) (a : α) (n i : Nat) : Prop := l[i]? = some a ∧ (l.take i).count a = n

/-- The elements that a list holds more than once, in the order of their second places. -/
structure Repeated (l found : List α) : Prop where
  nodup : found.Nodup
  mem_iff : ∀ a, a ∈ found ↔ 2 ≤ l.count a
  inOrder : found.Pairwise fun a b => ∀ i j, StandsAt l a 1 i → StandsAt l b 1 j → i < j

/-- The elements of a list that come up for the second time, if others were `seen` before. -/
def repeats (seen : List α) : List α → List α
  | [] => []
  | a :: rest =>
    if seen.count a = 1 then a :: repeats (seen ++ [a]) rest else repeats (seen ++ [a]) rest

theorem count_map_eq_countP {β : Type} (f : β → α) (a : α) (l : List β) :
    (l.map f).count a = l.countP fun b => f b = a := by
  rw [List.count, List.countP_map]
  exact List.countP_congr fun b _ => by simp

/-! ## Places -/

/-- An element that is held often enough stands somewhere with so many before it. -/
theorem exists_standsAt (h : n < l.count a) : ∃ i, StandsAt l a n i := by
  induction l generalizing n with
  | nil => simp at h
  | cons b rest ih =>
    -- the head is the element, so that one less is needed behind it, or it is another one
    by_cases hb : b = a
    · subst hb
      cases n with
      | zero => exact ⟨0, rfl, rfl⟩
      | succ n =>
        rw [List.count_cons_self] at h
        obtain ⟨i, hAt, hCount⟩ := ih (Nat.lt_of_succ_lt_succ h)
        exact ⟨i + 1, hAt, by rw [List.take_succ_cons, List.count_cons_self, hCount]⟩
    · rw [List.count_cons_of_ne hb] at h
      obtain ⟨i, hAt, hCount⟩ := ih h
      exact ⟨i + 1, hAt, by rw [List.take_succ_cons, List.count_cons_of_ne hb, hCount]⟩

/-- Where an element stands for the second time is not among those in which it stands once. -/
theorem StandsAt.length_le (h : StandsAt (seen ++ l) a 1 i) (hOnce : seen.count a ≤ 1) :
    seen.length ≤ i := by
  by_contra hLt
  rw [not_le] at hLt
  obtain ⟨hAt, hCount⟩ := h
  rw [List.getElem?_append_left hLt] at hAt
  rw [List.take_append_of_le_length (Nat.le_of_lt hLt)] at hCount
  -- the place itself is one more
  have hNext : (seen.take (i + 1)).count a = 2 := by
    rw [List.take_add_one, List.count_append, hCount, hAt]
    simp
  have hAll := (List.take_sublist (i + 1) seen).count_le a
  omega

/-- Where an element stands for the second time is among the first in which it stands twice. -/
theorem StandsAt.lt_length (h : StandsAt (seen ++ l) a 1 i) (hTwice : 2 ≤ seen.count a) :
    i < seen.length := by
  by_contra hLe
  rw [not_lt] at hLe
  have hCount := h.2
  rw [List.take_append, List.take_of_length_le hLe, List.count_append] at hCount
  omega

/-! ## The pass -/

/-- The pass finds what was seen once at most and comes up twice in all. -/
theorem mem_repeats : a ∈ repeats seen l ↔ seen.count a ≤ 1 ∧ 2 ≤ (seen ++ l).count a := by
  induction l generalizing seen with
  | nil =>
    rw [repeats, List.append_nil]
    refine iff_of_false List.not_mem_nil fun h => ?_
    omega
  | cons b rest ih =>
    have hRest : a ∈ repeats (seen ++ [b]) rest ↔
        (seen ++ [b]).count a ≤ 1 ∧ 2 ≤ (seen ++ b :: rest).count a := by
      rw [ih, List.append_assoc, List.singleton_append]
    have hAll : (seen ++ b :: rest).count a = (seen ++ [b]).count a + rest.count a := by
      rw [← List.singleton_append, ← List.append_assoc, List.count_append]
    rw [repeats]
    -- the head counts for the element, or it makes no difference
    by_cases hb : b = a
    · subst hb
      have hNext : (seen ++ [b]).count b = seen.count b + 1 := by simp
      split
      · -- this is its second occurrence, which is the one reported
        next hOnce => exact iff_of_true (List.mem_cons_self ..) (by omega)
      · rw [hRest]
        omega
    · have hNext : (seen ++ [b]).count a = seen.count a := by simp [hb]
      split
      · rw [List.mem_cons, hRest, hNext]
        exact or_iff_right (Ne.symm hb)
      · rw [hRest, hNext]

/-- The pass finds nothing twice. -/
theorem nodup_repeats (seen l : List α) : (repeats seen l).Nodup := by
  induction l generalizing seen with
  | nil => exact List.nodup_nil
  | cons a rest ih =>
    rw [repeats]
    split
    · next hOnce =>
      refine List.nodup_cons.2 ⟨fun hMem => ?_, ih _⟩
      -- from its second place on the element is seen twice
      have hCount := (mem_repeats.1 hMem).1
      simp [hOnce] at hCount
    · exact ih _

/-- What the pass finds is in the order of the second places. -/
theorem inOrder_repeats (seen l : List α) :
    (repeats seen l).Pairwise fun a b =>
      ∀ i j, StandsAt (seen ++ l) a 1 i → StandsAt (seen ++ l) b 1 j → i < j := by
  induction l generalizing seen with
  | nil => exact List.Pairwise.nil
  | cons a rest ih =>
    have hRest := ih (seen ++ [a])
    have hSplit : seen ++ a :: rest = (seen ++ [a]) ++ rest := by simp
    -- the pass goes on as if the head had been seen before
    rw [hSplit, repeats]
    split
    · next hOnce =>
      refine List.pairwise_cons.2 ⟨fun b hb i j hi hj => ?_, hRest⟩
      -- the second place of `a` is here, that of `b` further on
      have hHere : i < (seen ++ [a]).length := hi.lt_length (by simp [hOnce])
      have hFurther : (seen ++ [a]).length ≤ j := hj.length_le (mem_repeats.1 hb).1
      omega
    · exact hRest

/-! ## The repeated elements -/

/-- The pass finds the repeated elements. -/
theorem repeated_repeats (l : List α) : Repeated l (repeats [] l) where
  nodup := nodup_repeats [] l
  mem_iff a := by rw [mem_repeats]; simp
  inOrder := inOrder_repeats [] l

/-- The members and their order fix the list. -/
theorem Repeated.unique (h : Repeated l found) (h' : Repeated l found') : found = found' := by
  -- both hold the same elements, each of them once
  have hPerm : found.Perm found' :=
    (List.perm_ext_iff_of_nodup h.nodup h'.nodup).2 fun a => (h.mem_iff a).trans (h'.mem_iff a).symm
  refine hPerm.eq_of_pairwise (fun a b ha hb hab hba => ?_) h.inOrder h'.inOrder
  -- two elements cannot both be repeated before the other
  obtain ⟨i, hi⟩ := exists_standsAt ((h.mem_iff a).1 ha)
  obtain ⟨j, hj⟩ := exists_standsAt ((h'.mem_iff b).1 hb)
  exact absurd (hab i j hi hj) (Nat.lt_asymm (hba j i hj hi))

/-- Nothing is repeated just if the list has no duplicates. -/
theorem Repeated.eq_nil_iff (h : Repeated l found) : found = [] ↔ l.Nodup := by
  rw [List.eq_nil_iff_forall_not_mem, List.nodup_iff_count_le_one]
  refine forall_congr' fun a => ?_
  rw [h.mem_iff]
  omega

/-! ## The first repetition -/

/-- The first element that repeats an earlier one. -/
def FirstRepeat (l : List α) (a : α) : Prop :=
  ∃ before after, l = before ++ a :: after ∧ before.Nodup ∧ a ∈ before

/-- A list with duplicates has a first repetition. -/
theorem exists_firstRepeat (h : ¬ l.Nodup) : ∃ a, FirstRepeat l a := by
  -- induction on what is still to come, while all that was seen is distinct
  have hSeen : ∀ seen : List α, seen.Nodup → ¬ (seen ++ l).Nodup →
      ∃ a before after, l = before ++ a :: after ∧ (seen ++ before).Nodup ∧ a ∈ seen ++ before := by
    clear h
    induction l with
    | nil =>
      intro seen hd h
      rw [List.append_nil] at h
      exact absurd hd h
    | cons b rest ih =>
      intro seen hd h
      by_cases hb : b ∈ seen
      · exact ⟨b, [], rest, rfl, by simpa using hd, by simpa using hb⟩
      · -- the head is new, so what was seen stays distinct with it
        have hNext : (seen ++ [b]).Nodup := by
          refine List.nodup_append.2 ⟨hd, List.nodup_singleton b, fun a ha c hc hac => hb ?_⟩
          rwa [← List.mem_singleton.1 hc, ← hac]
        obtain ⟨a, before, after, rfl, hBefore, hIn⟩ := ih (seen ++ [b]) hNext (by simpa using h)
        exact ⟨a, b :: before, after, rfl, by simpa using hBefore, by simpa using hIn⟩
  obtain ⟨a, before, after, hSplit, hd, hIn⟩ := hSeen [] List.nodup_nil h
  exact ⟨a, before, after, hSplit, hd, hIn⟩

end ChatFlow.Collection
