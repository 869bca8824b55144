import WidgetMarkup.Expansion.Engine

namespace WidgetMarkup

/-!
# What parts of an expansion leave behind

Filling in values changes nothing but the journal, and is never where the engine stops. All of an
expansion may define macros and spend work, but it leaves the depth, the templates that are being
expanded and the path as they were, whether it succeeds or fails.
-/

/-- Whether a problem is that a limit was reached. -/
def Problem.isLimit : Problem → Bool
  | .tooDeep _ => true
  | .tooLarge _ => true
  | _ => false

/-- Whether a problem is that the engine goes no further: a limit was reached, or a template would
be expanded inside itself. -/
def Problem.isHalt : Problem → Bool
  | .importCycle _ => true
  | problem => problem.isLimit

namespace Expansion

variable {α β : Type}

/-- The state after a part of an expansion, whether it has succeeded or failed. -/
def stateAfter (inner : Expansion α) (progress : Progress) : Progress :=
  match inner progress with
  | .ok _ after => after
  | .error _ after => after

/-- One part after another goes on only if the first succeeds. -/
theorem bind_apply
    (first : Expansion α)
    (next : α → Expansion β)
    (progress : Progress) :
    (first >>= next) progress =
      match first progress with
      | .ok value after => next value after
      | .error problem after => .error problem after := by
  cases ran : first progress <;> simp only [bind, EStateM.bind, ran]

/-- What looks at the state first is given the state. -/
theorem get_bind_apply
    (next : Progress → Expansion α)
    (progress : Progress) :
    (get >>= next) progress = next progress progress :=
  rfl

/-- A value that is changed afterwards comes from a value that was given. -/
theorem map_eq_ok
    {inner : Expansion α}
    {change : α → β}
    {progress after : Progress}
    {result : β}
    (ran : (change <$> inner) progress = .ok result after) :
    ∃ value, inner progress = .ok value after ∧ change value = result := by
  rw [map_eq_pure_bind, bind_apply] at ran
  cases given : inner progress with
  | ok value between =>
      rw [given] at ran
      cases ran
      exact ⟨value, rfl, rfl⟩
  | error problem between =>
      rw [given] at ran
      cases ran

/-- What an expansion leaves as it was, and what only grows. -/
structure Restored (before after : Progress) : Prop where
  depth :
    after.depth = before.depth
  imports :
    after.imports = before.imports
  path :
    after.path = before.path
  charged :
    before.charged ≤ after.charged

namespace Restored

theorem refl
    (progress : Progress) :
    Restored progress progress :=
  ⟨rfl, rfl, rfl, Nat.le_refl _⟩

theorem trans
    {first second third : Progress}
    (before : Restored first second)
    (after : Restored second third) :
    Restored first third :=
  ⟨after.depth.trans before.depth, after.imports.trans before.imports,
    after.path.trans before.path, Nat.le_trans before.charged after.charged⟩

end Restored

/-- Whether a part of an expansion restores the state in every case. -/
def Restores (inner : Expansion α) : Prop :=
  ∀ progress, Restored progress (stateAfter inner progress)

/-- Whether a part of an expansion changes nothing but the journal and does not halt the engine. -/
structure OnlyLogs (inner : Expansion α) : Prop where
  logs :
    ∀ progress, ∃ journal, stateAfter inner progress = { progress with journal }
  noHalt :
    ∀ progress problem after,
      inner progress = .error problem after → problem.problem.isHalt = false

/-- A part that only logs and succeeds leaves the state but for the journal. -/
theorem OnlyLogs.of_ok
    {inner : Expansion α}
    (onlyLogs : OnlyLogs inner)
    {progress after : Progress}
    {value : α}
    (ran : inner progress = .ok value after) :
    ∃ journal, after = { progress with journal } := by
  obtain ⟨journal, same⟩ := onlyLogs.logs progress
  rw [stateAfter, ran] at same
  exact ⟨journal, same⟩

/-- A part that only logs restores the state. -/
theorem OnlyLogs.restores
    {inner : Expansion α}
    (onlyLogs : OnlyLogs inner) :
    Restores inner := by
  intro progress
  obtain ⟨journal, same⟩ := onlyLogs.logs progress
  rw [same]
  exact ⟨rfl, rfl, rfl, Nat.le_refl _⟩

namespace Restores

theorem pure
    (value : α) :
    Restores (Pure.pure value) :=
  fun progress => Restored.refl progress

theorem of_ok
    {inner : Expansion α}
    (restores : Restores inner)
    {progress after : Progress}
    {value : α}
    (ran : inner progress = .ok value after) :
    Restored progress after := by
  have restored := restores progress
  rw [stateAfter, ran] at restored
  exact restored

theorem of_error
    {inner : Expansion α}
    (restores : Restores inner)
    {progress after : Progress}
    {problem : LocatedProblem}
    (ran : inner progress = .error problem after) :
    Restored progress after := by
  have restored := restores progress
  rw [stateAfter, ran] at restored
  exact restored

/-- Two parts that restore the state restore it together. -/
theorem bind
    {first : Expansion α}
    {next : α → Expansion β}
    (firstRestores : Restores first)
    (nextRestores : ∀ value, Restores (next value)) :
    Restores (first >>= next) := by
  intro progress
  have restored := firstRestores progress
  rw [stateAfter] at restored ⊢
  rw [bind_apply]
  cases ran : first progress with
  | ok value after =>
      rw [ran] at restored
      exact restored.trans (nextRestores value after)
  | error problem after =>
      rw [ran] at restored
      exact restored

theorem fail
    (problem : Problem) :
    Restores (Expansion.fail problem : Expansion α) :=
  fun progress => Restored.refl progress

/-- Looking at the state restores it. -/
theorem get :
    Restores (MonadState.get : Expansion Progress) :=
  fun progress => Restored.refl progress

/-- Changes that restore the state may be made. -/
theorem modifying
    {change : Progress → Progress}
    (restored : ∀ progress, Restored progress (change progress)) :
    Restores (modify change : Expansion Unit) :=
  restored

theorem defining
    (name : String)
    (rule : MacroRule) :
    Restores
      (modify fun progress => { progress with macros := progress.macros.insert name rule } :
        Expansion Unit) :=
  modifying fun _ => ⟨rfl, rfl, rfl, Nat.le_refl _⟩

theorem styling
    (tag : String)
    (entry : Markup.Attribute) :
    Restores
      (modify fun progress => { progress with styles := progress.styles.add tag entry } :
        Expansion Unit) :=
  modifying fun _ => ⟨rfl, rfl, rfl, Nat.le_refl _⟩

/-- Charging a unit of work restores the state but for the work that was charged. -/
theorem charge
    (limit : Nat) :
    Restores (Expansion.charge limit) := by
  refine bind (modifying fun progress => ⟨rfl, rfl, rfl, Nat.le_succ _⟩) fun _ => ?_
  refine bind get fun progress => ?_
  split
  · exact fail _
  · exact pure ()

/-- Something that restores the state may be done at another path. -/
theorem within
    {inner : Expansion α}
    (restores : Restores inner)
    (path : TagPath) :
    Restores (Expansion.within path inner) := by
  intro progress
  have restored := restores { progress with path }
  rw [stateAfter] at restored ⊢
  rw [Expansion.within]
  cases ran : inner { progress with path } <;> rw [ran] at restored <;>
    exact ⟨restored.depth, restored.imports, rfl, restored.charged⟩

/-- Something that restores the state may be done as part of a macro call. -/
theorem calling
    {inner : Expansion α}
    (restores : Restores inner) :
    Restores (Expansion.calling inner) := by
  intro progress
  have restored := restores { progress with depth := progress.depth + 1 }
  rw [stateAfter] at restored ⊢
  rw [Expansion.calling]
  cases ran : inner { progress with depth := progress.depth + 1 } <;> rw [ran] at restored <;>
    exact ⟨by simp [restored.depth], restored.imports, restored.path, restored.charged⟩

/-- Something that restores the state may be done while a template is being expanded. -/
theorem importing
    {inner : Expansion α}
    (restores : Restores inner)
    (template : String) :
    Restores (Expansion.importing template inner) := by
  intro progress
  have restored := restores { progress with imports := progress.imports ++ [template] }
  rw [stateAfter] at restored ⊢
  rw [Expansion.importing]
  cases ran : inner { progress with imports := progress.imports ++ [template] } <;>
    rw [ran] at restored <;>
    exact ⟨restored.depth, by simp [restored.imports], restored.path, restored.charged⟩

end Restores

namespace OnlyLogs

theorem pure
    (value : α) :
    OnlyLogs (Pure.pure value) where
  logs progress := ⟨progress.journal, rfl⟩
  noHalt _ _ _ failed := by cases failed

/-- Looking at the state logs nothing. -/
theorem get :
    OnlyLogs (MonadState.get : Expansion Progress) where
  logs progress := ⟨progress.journal, rfl⟩
  noHalt _ _ _ failed := by cases failed

theorem fail
    {problem : Problem}
    (noHalt : problem.isHalt = false) :
    OnlyLogs (Expansion.fail problem : Expansion α) where
  logs progress := ⟨progress.journal, rfl⟩
  noHalt _ _ _ failed := by
    cases failed
    exact noHalt

/-- Two parts that only log only log together. -/
theorem bind
    {first : Expansion α}
    {next : α → Expansion β}
    (firstLogs : OnlyLogs first)
    (nextLogs : ∀ value, OnlyLogs (next value)) :
    OnlyLogs (first >>= next) where
  logs progress := by
    obtain ⟨journal, same⟩ := firstLogs.logs progress
    rw [stateAfter] at same ⊢
    rw [bind_apply]
    cases ran : first progress with
    | ok value after =>
        simp only [ran] at same ⊢
        obtain ⟨later, sameLater⟩ := (nextLogs value).logs after
        rw [stateAfter] at sameLater
        exact ⟨later, by rw [sameLater, same]⟩
    | error problem after =>
        simp only [ran] at same ⊢
        exact ⟨journal, same⟩
  noHalt progress problem after failed := by
    rw [bind_apply] at failed
    cases ran : first progress with
    | ok value between =>
        rw [ran] at failed
        exact (nextLogs value).noHalt between problem after failed
    | error problem' between =>
        rw [ran] at failed
        cases failed
        exact firstLogs.noHalt progress problem after ran

theorem map
    {inner : Expansion α}
    (onlyLogs : OnlyLogs inner)
    (change : α → β) :
    OnlyLogs (change <$> inner) := by
  rw [map_eq_pure_bind]
  exact bind onlyLogs fun value => pure (change value)

theorem record
    (level : LogLevel)
    (text : String) :
    OnlyLogs (Expansion.record level text) where
  logs progress := ⟨progress.journal.record level text, rfl⟩
  noHalt _ _ _ failed := by cases failed

/-- Noting an attribute on a failure logs nothing. -/
theorem onAttribute
    {inner : Expansion α}
    (onlyLogs : OnlyLogs inner)
    (name : String) :
    OnlyLogs (Expansion.onAttribute name inner) where
  logs progress := by
    obtain ⟨journal, same⟩ := onlyLogs.logs progress
    rw [stateAfter] at same ⊢
    rw [Expansion.onAttribute]
    cases ran : inner progress <;> simp only [ran] at same ⊢ <;> exact ⟨journal, same⟩
  noHalt progress problem after failed := by
    rw [Expansion.onAttribute] at failed
    cases ran : inner progress with
    | ok value between =>
        rw [ran] at failed
        cases failed
    | error problem' between =>
        rw [ran] at failed
        cases failed
        exact onlyLogs.noHalt progress problem' _ ran

/-- An attempt logs what it logs, whether it succeeds or fails. -/
theorem attempt
    {inner : Expansion α}
    (onlyLogs : OnlyLogs inner) :
    OnlyLogs (Expansion.attempt inner) where
  logs progress := by
    obtain ⟨journal, same⟩ := onlyLogs.logs progress
    rw [stateAfter] at same ⊢
    rw [Expansion.attempt]
    cases ran : inner progress <;> simp only [ran] at same ⊢ <;> exact ⟨journal, same⟩
  noHalt progress problem after failed := by
    rw [Expansion.attempt] at failed
    cases ran : inner progress <;> rw [ran] at failed <;> cases failed

/-- Work with the journal only logs, if it does not halt the engine. -/
theorem logged
    {inner : Logged α}
    {describe : Problem → Problem}
    (noHalt :
      ∀ journal problem after,
        inner journal = .error problem after → (describe problem).isHalt = false) :
    OnlyLogs (Expansion.logged describe inner) where
  logs progress := by
    rw [stateAfter, Expansion.logged]
    cases inner progress.journal <;> exact ⟨_, rfl⟩
  noHalt progress problem after failed := by
    rw [Expansion.logged] at failed
    cases ran : inner progress.journal with
    | ok value journal =>
        rw [ran] at failed
        cases failed
    | error problem' journal =>
        rw [ran] at failed
        cases failed
        exact noHalt progress.journal problem' journal ran

end OnlyLogs

end Expansion

end WidgetMarkup
