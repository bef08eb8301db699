import TrustRouter.Proofs.Configuration.Loading

/-! # A reload is a transaction

A reload goes through stages that may each fail, on behalf of a manager that goes on serving. Two
facts describe it completely. Its result is the result of loading the same documents on their own,
so nothing that the manager went through before can change it. And the manager afterwards is one of
two: the one in which the loaded configuration is installed, or the one before with its staging slot
emptied.

That the slot is never found empty at the end of a pass rests on both halves: staging fills it right
before promoting, and no failure of loading is of that kind (`Draft.load_error_cases`).
-/

namespace TrustRouter

namespace Manager

/-- The manager after a configuration has been made active. -/
def install (m : Manager) (c : Configuration) : Manager where
  active := some c
  staged := none
  generation := m.generation + 1
  thresholds := c.thresholds

/-! ### Promotion -/

/-- What is staged is promoted, and nothing else. -/
theorem promote_of_staged {m : Manager} {c : Configuration} (h : m.staged = some c) :
    m.promote = .ok (c, m.install c) := by
  rw [promote, h]
  rfl

theorem promote_of_not_staged {m : Manager} (h : m.staged = none) :
    m.promote = .error .nothingStaged := by
  rw [promote, h]

/-! ### Reloading -/

variable [Json.Diagnosis] {docs : List Document}

/-- The pass of a reload: the slot is emptied, the documents are loaded, and what they make is
staged and promoted. -/
theorem reload_eq (m : Manager) (docs : List Document) :
    m.reload docs =
      match Configuration.load docs with
      | ⟨events, .error e⟩ => ⟨events.map .record, m.discard, .error e⟩
      | ⟨events, .ok c⟩ => Reload.promote m.discard events c :=
  rfl

/-- The pass of a reload fails as the load fails, and only the staging slot is touched. -/
theorem reload_of_load_error (m : Manager) {e : LoadError}
    (h : (Configuration.load docs).result = .error e) :
    (m.reload docs).result = .error e ∧ (m.reload docs).manager = m.discard := by
  rw [reload_eq]
  generalize Configuration.load docs = loading at h ⊢
  obtain ⟨events, result⟩ := loading
  cases h
  exact ⟨rfl, rfl⟩

/-- The pass of a reload succeeds as the load succeeds, and installs the configuration. -/
theorem reload_of_load_ok (m : Manager) {c : Configuration}
    (h : (Configuration.load docs).result = .ok c) :
    (m.reload docs).result = .ok c ∧ (m.reload docs).manager = m.install c := by
  rw [reload_eq]
  generalize Configuration.load docs = loading at h ⊢
  obtain ⟨events, result⟩ := loading
  cases h
  exact ⟨rfl, rfl⟩

/-- A reload has the result of loading the documents on their own. -/
theorem reload_result (m : Manager) (docs : List Document) :
    (m.reload docs).result = (Configuration.load docs).result := by
  cases h : (Configuration.load docs).result with
  | error e => exact (m.reload_of_load_error h).1
  | ok c => exact (m.reload_of_load_ok h).1

/-- Loading never finds the staging slot empty, because it does not look at it. -/
theorem load_result_ne_nothingStaged (docs : List Document) :
    (Configuration.load docs).result ≠ .error .nothingStaged := by
  intro h
  rcases Draft.load_error_cases h with ⟨-, he⟩ | ⟨_, _, he⟩ | ⟨_, _, he⟩ | ⟨_, he⟩ <;> cases he

/-- **A reload is all or nothing.** Whatever the manager holds and whatever the documents are, the
result is that of loading the documents on their own, and it is never that nothing was staged. If
there is a configuration, it is active, nothing is staged, one more generation is counted (in 64
bits) and both thresholds are those it asks for; if there is an error, nothing is staged and all
else is as before. -/
theorem reload_all_or_nothing (m : Manager) (docs : List Document) :
    (m.reload docs).result = (Configuration.load docs).result ∧
    (m.reload docs).result ≠ .error .nothingStaged ∧
    match (Configuration.load docs).result with
    | .ok c =>
      (m.reload docs).manager.active = some c ∧
      (m.reload docs).manager.staged = none ∧
      (m.reload docs).manager.generation = m.generation + 1 ∧
      (m.reload docs).manager.thresholds.log = c.settings.logThreshold ∧
      (m.reload docs).manager.thresholds.console = c.settings.consoleThreshold
    | .error _ =>
      (m.reload docs).manager.active = m.active ∧
      (m.reload docs).manager.staged = none ∧
      (m.reload docs).manager.generation = m.generation ∧
      (m.reload docs).manager.thresholds = m.thresholds := by
  have hresult := m.reload_result docs
  refine ⟨hresult, hresult ▸ load_result_ne_nothingStaged docs, ?_⟩
  split
  · next c hc =>
    rw [(m.reload_of_load_ok hc).2]
    exact ⟨rfl, rfl, rfl, Thresholds.log_ofSeverities _ _, Thresholds.console_ofSeverities _ _⟩
  · next e he =>
    rw [(m.reload_of_load_error he).2]
    exact ⟨rfl, rfl, rfl, rfl⟩

end Manager

end TrustRouter
