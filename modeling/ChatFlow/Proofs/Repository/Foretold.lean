import ChatFlow.Proofs.Repository.Law

/-!
# ChatFlow — a repository whose failures are foretold

A list of flows together with the fate of the calls to come: each call takes the next fate, and if
that is failure it leaves the flows as they are. When no fate is left all calls succeed. The
repository shows that the laws of `Repository.Atomic` can be met with any pattern of failures,
that of a lost roll-back included.
-/

namespace ChatFlow.Repository

open Collection FlowFile

def foretold : Repository (List Flow × List Bool) where
  loadAll p := .ok p.1
  persist f p :=
    if p.2.head? = some false then (.error (.rejected f.id), p.1, p.2.tail)
    else (.ok f, put f p.1, p.2.tail)
  remove id p :=
    if p.2.head? = some false then (.error (.notStored id none), p.1, p.2.tail)
    else (.ok (), Collection.remove id p.1, p.2.tail)

/-- Saving returns the flow that was given, or fails. -/
theorem foretold_returnsGiven : foretold.ReturnsGiven := by
  intro f g r r' h
  by_cases hFate : r.2.head? = some false
  · simp [foretold, hFate] at h
  · simp only [foretold, hFate, if_false, Prod.mk.injEq, Except.ok.injEq] at h
    exact h.1.symm

/-- A call that is fated to fail changes no flow, and any other one takes effect. -/
theorem foretold_atomic : foretold.Atomic fun p flows => p.1 = flows where
  returns := foretold_returnsGiven
  unique ha hb := ha.symm.trans hb
  loadAll hr h := by
    rw [← hr]
    exact (Except.ok.inj h).symm
  persist {r flows} f hr := by
    subst hr
    -- the next fate is failure, or the call takes effect
    by_cases hFate : r.2.head? = some false
    · exact Or.inr (by simp [foretold, hFate])
    · exact Or.inl (by simp [foretold, hFate])
  remove {r flows} id hr := by
    subst hr
    by_cases hFate : r.2.head? = some false
    · exact Or.inr (by simp [foretold, hFate])
    · exact Or.inl (by simp [foretold, hFate])

/-! ## A sample -/

def sampleFlow (id : Nat) (status : Status) (year : Int) : Flow :=
  { Flow.new ⟨BitVec.ofNat 128 id⟩ ⟨year, 1, 1, 0, 0⟩ with status }

/-- Two entries for the first id, and three active ones in all. -/
def sampleFlows : List Flow :=
  [sampleFlow 1 .active 2024, sampleFlow 3 .active 2025, sampleFlow 2 .active 2023,
    sampleFlow 1 .inactive 2022]

end ChatFlow.Repository
