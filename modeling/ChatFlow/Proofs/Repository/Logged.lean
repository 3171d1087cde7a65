import ChatFlow.Proofs.Store.Change

/-!
# ChatFlow — repositories with a log

What a store asks of its repository can be read off a log of the calls that may change it. A logged
repository answers like the one it is made of, so a store over it goes the same way.

## Results

* `persistAll_logged`   — several writes that go through are all in the log, in their order.
-/

namespace ChatFlow.Repository

variable {σ : Type} {repo : Repository σ}

/-- A call that may change what is stored. -/
inductive Write
  | persist (f : Flow)
  | remove (id : FlowId)
  deriving DecidableEq

/-- The same repository with the calls made so far, whether they succeeded or failed. -/
def logged (repo : Repository σ) : Repository (σ × List Write) where
  loadAll p := repo.loadAll p.1
  persist f p := ((repo.persist f p.1).1, (repo.persist f p.1).2, p.2 ++ [.persist f])
  remove id p := ((repo.remove id p.1).1, (repo.remove id p.1).2, p.2 ++ [.remove id])

/-- A log changes nothing in what is returned. -/
theorem logged_returnsGiven (hRepo : repo.ReturnsGiven) : repo.logged.ReturnsGiven := by
  intro f g p p' h
  have hPersist : repo.persist f p.1 = (.ok g, (repo.persist f p.1).2) :=
    Prod.ext (Prod.mk.inj h).1 rfl
  exact hRepo hPersist

open Store in
/-- Writes that go through are all in the log, in their order. -/
theorem persistAll_logged {changes stored : List Flow} {r r' : σ} {log : List Write}
    (h : persistAll repo changes [] r = (none, stored, r')) :
    persistAll repo.logged changes [] (r, log) =
      (none, stored, r', log ++ changes.map .persist) := by
  induction changes generalizing stored r log with
  | nil =>
    obtain ⟨-, rfl, rfl⟩ : (none : Option StorageError) = none ∧ [] = stored ∧ r = r' := by
      simpa [persistAll] using h
    simp [persistAll]
  | cons f rest ih =>
    rcases hPersist : repo.persist f r with ⟨e | g, r₁⟩
    · rw [persistAll_cons_error hPersist] at h
      cases h
    · -- the same call over the logged repository, with one entry more
      have hLogged : repo.logged.persist f (r, log) = (.ok g, r₁, log ++ [.persist f]) := by
        simp [logged, hPersist]
      rw [persistAll_cons_ok hPersist, persistAll_stored] at h
      rcases hRest : persistAll repo rest [] r₁ with ⟨outcome, later, r₂⟩
      rw [hRest] at h
      obtain ⟨rfl, rfl, rfl⟩ : outcome = none ∧ [g] ++ later = stored ∧ r₂ = r' := by
        simpa using h
      rw [persistAll_cons_ok hLogged, persistAll_stored, ih hRest]
      simp

end ChatFlow.Repository
