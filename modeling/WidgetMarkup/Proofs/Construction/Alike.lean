import WidgetMarkup.Construction.Build
import WidgetMarkup.Proofs.Vocabulary.StandardRules

namespace WidgetMarkup

open Markup

/-!
# Runs that differ in their log

Construction writes the log and never reads it. Two pieces of work are alike if, begun in states
that differ in the log only, they end in the same way and in such states again; every piece of
work on a tag is alike to itself.
-/

section Relation

variable {ε σ α β : Type} {same : σ → σ → Prop}

/-- Whether two results are the same but for the states behind them, which are related. -/
inductive SameResult (same : σ → σ → Prop) :
    EStateM.Result ε σ α → EStateM.Result ε σ α → Prop where
  | ok {after after' : σ} (value : α) (related : same after after') :
      SameResult same (.ok value after) (.ok value after')
  | error {after after' : σ} (problem : ε) (related : same after after') :
      SameResult same (.error problem after) (.error problem after')

/-- Whether two pieces of work, begun in related states, end in the same way. -/
def Alike (same : σ → σ → Prop) (first second : EStateM ε σ α) : Prop :=
  ∀ before before', same before before' → SameResult same (first before) (second before')

namespace Alike

variable {first second : EStateM ε σ α} {next next' : α → EStateM ε σ β}

theorem pure
    (value : α) :
    Alike same (Pure.pure value : EStateM ε σ α) (Pure.pure value) :=
  fun _ _ related => .ok value related

theorem throw
    (problem : ε) :
    Alike same (MonadExcept.throw problem : EStateM ε σ α) (MonadExcept.throw problem) :=
  fun _ _ related => .error problem related

/-- What follows alike work need only be alike in the states that the work leaves. -/
theorem sameResult_bind
    {before before' : σ}
    (firsts : SameResult same (first before) (second before'))
    (nexts :
      ∀ value after after', first before = .ok value after → same after after' →
        SameResult same (next value after) (next' value after')) :
    SameResult same ((first >>= next) before) ((second >>= next') before') := by
  simp only [Bind.bind, EStateM.bind]
  generalize ran : first before = result, second before' = result' at firsts
  cases firsts with
  | ok value related =>
      exact nexts value _ _ ran related
  | error problem related =>
      exact .error problem related

theorem bind
    (firsts : Alike same first second)
    (nexts : ∀ value, Alike same (next value) (next' value)) :
    Alike same (first >>= next) (second >>= next') :=
  fun before before' related =>
    sameResult_bind (firsts before before' related) fun value after after' _ =>
      nexts value after after'

/-- What looks at the state first may look at related states. -/
theorem get_bind
    {next next' : σ → EStateM ε σ α}
    (nexts : ∀ before before', same before before' → Alike same (next before) (next' before')) :
    Alike same (get >>= next) (get >>= next') :=
  fun before before' related => nexts before before' related before before' related

theorem modify
    {change change' : σ → σ}
    (keeps : ∀ before before', same before before' → same (change before) (change' before')) :
    Alike same (modify change : EStateM ε σ PUnit) (modify change') :=
  fun before before' related => .ok _ (keeps before before' related)

end Alike

end Relation

/-- Whether two journals hold the same action calls, whatever their log is. -/
def Journal.SameCalls (journal journal' : Journal) : Prop :=
  journal.calls = journal'.calls

/-- Whether two tags under construction differ in the log of their runs only. -/
structure Bench.SameCalls (bench bench' : Bench) : Prop where
  assembly : bench.assembly = bench'.assembly
  journal : bench.journal.SameCalls bench'.journal

/-- Whether two registers differ in the log of their runs only. -/
structure Register.SameCalls (register register' : Register) : Prop where
  ids : register.ids = register'.ids
  journal : register.journal.SameCalls register'.journal

section Logged

/-- Whether work with the journal does not depend on what is in the log. -/
def Logged.IsBlind {α : Type} (inner : Logged α) : Prop :=
  Alike Journal.SameCalls inner inner

theorem Logged.isBlind_record
    (level : LogLevel)
    (text : String) :
    (Logged.record level text).IsBlind :=
  .modify fun _ _ related => related

theorem Logged.isBlind_ofExcept
    {α : Type}
    (outcome : Except Problem α) :
    (Logged.ofExcept outcome).IsBlind := by
  cases outcome with
  | ok value =>
      exact .pure value
  | error problem =>
      exact .throw problem

namespace Actions

variable (actions : Actions) (reference : String)

theorem isBlind_start
    (widget : Option Widget) :
    (actions.start reference widget).IsBlind := by
  unfold start
  dsimp only
  cases actions.find? (bareName reference) with
  | none =>
      exact .throw _
  | some action =>
      have records (lines : List LogRecord) :
          (lines.forM fun line => Logged.record line.level line.text).IsBlind := by
        induction lines with
        | nil =>
            exact .pure ()
        | cons first rest inductionHypothesis =>
            exact (Logged.isBlind_record _ _).bind fun _ => inductionHypothesis
      refine (Logged.isBlind_record _ _).bind fun _ => Alike.bind (.modify ?_) fun _ =>
        (records _).bind fun _ => .pure action
      intro journal journal' related
      exact congrArg (Array.push · _) related

theorem isBlind_invoke :
    (actions.invoke reference).IsBlind :=
  (actions.isBlind_start reference none).bind fun _ => .pure _

theorem isBlind_invokeOn
    (widget : Widget) :
    (actions.invokeOn reference widget).IsBlind :=
  (actions.isBlind_start reference (some widget)).bind fun _ => .pure _

theorem isBlind_invokeOnTarget
    (target : Target) :
    (actions.invokeOnTarget reference target).IsBlind := by
  cases target with
  | widget widget =>
      exact (actions.isBlind_invokeOn reference widget).bind fun _ => .pure _
  | listener listener =>
      exact (actions.isBlind_invoke reference).bind fun _ => .pure _

end Actions

/-- The attributes of the language do not depend on the log. -/
theorem AttributeRule.IsStandard.isBlind
    {rule : AttributeRule}
    (isStandard : rule.IsStandard)
    (context : AttributeContext)
    (raw : String)
    (workpiece : Workpiece) :
    (rule.apply context raw workpiece).IsBlind := by
  cases isStandard with
  | onWidget keeps | onListener read write =>
      exact (Logged.isBlind_ofExcept _).bind fun _ =>
        (Logged.isBlind_ofExcept _).bind fun _ => .pure _
  | running =>
      exact (context.actions.isBlind_invokeOnTarget raw workpiece.target).bind fun _ => .pure _
  | closing =>
      exact (Logged.isBlind_ofExcept _).bind fun _ => .pure _
  | cellDefaults rule =>
      refine (Logged.isBlind_ofExcept _).bind fun widget => ?_
      split
      · exact (Logged.isBlind_ofExcept _).bind fun _ => .pure _
      · exact .throw _

theorem TagRule.isBlind_takeTextByDefault
    (text : String)
    (explicit : Bool)
    (target : Target) :
    (TagRule.takeTextByDefault text explicit target).IsBlind := by
  unfold takeTextByDefault
  cases target with
  | listener listener =>
      dsimp only
      split <;> exact .pure _
  | widget widget =>
      dsimp only
      split
      · split
        · exact (Logged.isBlind_record _ _).bind fun _ => .pure _
        · exact .pure _
      · exact (Logged.isBlind_ofExcept _).bind fun _ => .pure _

/-- The tags of the language take in text without a look at the log. -/
theorem TagRule.IsStandard.isBlind
    {rule : TagRule}
    (isStandard : rule.IsStandard)
    (text : String)
    (explicit : Bool)
    (target : Target) :
    (rule.takeText text explicit target).IsBlind := by
  cases isStandard <;> exact isBlind_takeTextByDefault text explicit target

end Logged

namespace Work

variable {α : Type} {inner inner' : Work α}

theorem alike_fail
    (problem : Problem) :
    Alike Bench.SameCalls (fail problem : Work α) (fail problem) := by
  rintro ⟨assembly, journal⟩ ⟨_, journal'⟩ ⟨rfl, related⟩
  exact .error _ ⟨rfl, related⟩

theorem alike_record
    (level : LogLevel)
    (text : String) :
    Alike Bench.SameCalls (record level text) (record level text) :=
  .modify fun _ _ related => ⟨related.assembly, related.journal⟩

theorem alike_change
    (change : Assembly → Assembly) :
    Alike Bench.SameCalls (Work.change change) (Work.change change) :=
  .modify fun _ _ related => ⟨congrArg change related.assembly, related.journal⟩

theorem alike_logged
    {inner : Logged α}
    (isBlind : inner.IsBlind) :
    Alike Bench.SameCalls (logged inner) (logged inner) := by
  rintro ⟨assembly, journal⟩ ⟨_, journal'⟩ ⟨rfl, related⟩
  have ends := isBlind journal journal' related
  unfold logged
  dsimp only
  generalize inner journal = result, inner journal' = result' at ends
  cases ends with
  | ok value between =>
      exact .ok value ⟨rfl, between⟩
  | error problem between =>
      exact .error _ ⟨rfl, between⟩

theorem alike_onAttribute
    (alike : Alike Bench.SameCalls inner inner')
    (name : String) :
    Alike Bench.SameCalls (onAttribute name inner) (onAttribute name inner') := by
  intro bench bench' related
  have ends := alike bench bench' related
  unfold onAttribute
  generalize inner bench = result, inner' bench' = result' at ends
  cases ends with
  | ok value between =>
      exact .ok value between
  | error problem between =>
      exact .error _ between

theorem alike_requireTarget :
    Alike Bench.SameCalls requireTarget requireTarget := by
  refine .get_bind ?_
  rintro ⟨assembly, journal⟩ ⟨_, journal'⟩ ⟨rfl, related⟩
  cases assembly.target with
  | none =>
      exact alike_fail _
  | some target =>
      exact .pure target

end Work

namespace Assembly

open Work

theorem alike_fillBlueprint
    (entries : List (BuildingRule × Attribute)) :
    Alike Bench.SameCalls (fillBlueprint entries) (fillBlueprint entries) := by
  induction entries with
  | nil =>
      exact alike_change _
  | cons first rest inductionHypothesis =>
      refine .get_bind ?_
      rintro ⟨assembly, journal⟩ ⟨_, journal'⟩ ⟨rfl, related⟩
      exact (alike_record _ _).bind fun _ =>
        (alike_onAttribute (alike_logged (Logged.isBlind_ofExcept _)) _).bind fun _ =>
          (alike_change _).bind fun _ => inductionHypothesis

theorem alike_instantiate :
    Alike Bench.SameCalls instantiate instantiate := by
  refine .get_bind ?_
  rintro ⟨assembly, journal⟩ ⟨_, journal'⟩ ⟨rfl, related⟩
  exact (alike_logged (Logged.isBlind_ofExcept _)).bind fun _ => alike_change _

theorem alike_writeCell
    (cell : CellProperties)
    (entries : List (CellRule × Attribute)) :
    Alike Bench.SameCalls (writeCell cell entries) (writeCell cell entries) := by
  induction entries generalizing cell with
  | nil =>
      exact .pure cell
  | cons first rest inductionHypothesis =>
      exact (alike_onAttribute (alike_logged (Logged.isBlind_ofExcept _)) _).bind fun next =>
        inductionHypothesis next

theorem alike_configureCell
    (defaults : CellProperties)
    (entries : List (CellRule × Attribute)) :
    Alike Bench.SameCalls (configureCell defaults entries) (configureCell defaults entries) :=
  (alike_writeCell defaults entries).bind fun _ => alike_change _

theorem alike_attach
    (child : ClosedTag) :
    Alike Bench.SameCalls (attach child) (attach child) := by
  refine alike_requireTarget.bind fun target => .get_bind ?_
  rintro ⟨assembly, journal⟩ ⟨_, journal'⟩ ⟨rfl, related⟩
  exact (alike_logged (Logged.isBlind_ofExcept _)).bind fun _ => alike_change _

end Assembly

namespace Registration

variable {α : Type}

theorem alike_fail
    (path : TagPath)
    (problem : Problem) :
    Alike Register.SameCalls (fail path problem : Registration α) (fail path problem) :=
  .throw _

theorem alike_record
    (level : LogLevel)
    (text : String) :
    Alike Register.SameCalls (record level text) (record level text) :=
  .modify fun _ _ related => ⟨related.ids, related.journal⟩

theorem alike_logged
    {inner : Logged α}
    (path : TagPath)
    (isBlind : inner.IsBlind) :
    Alike Register.SameCalls (logged path inner) (logged path inner) := by
  intro register register' related
  have ends := isBlind register.journal register'.journal related.journal
  unfold logged
  generalize inner register.journal = result, inner register'.journal = result' at ends
  cases ends with
  | ok value between =>
      exact .ok value ⟨related.ids, between⟩
  | error problem between =>
      exact .error _ ⟨related.ids, between⟩

/-- Steps of the work on a tag that are alike from its state on are alike as parts of a run. -/
theorem sameResult_work
    {assembly : Assembly}
    {step step' : Work Unit}
    {register register' : Register}
    (related : register.SameCalls register')
    (ends :
      SameResult Bench.SameCalls (step ⟨assembly, register.journal⟩)
        (step' ⟨assembly, register'.journal⟩)) :
    SameResult Register.SameCalls (work assembly step register)
      (work assembly step' register') := by
  unfold work
  generalize step ⟨assembly, register.journal⟩ = result,
    step' ⟨assembly, register'.journal⟩ = result' at ends
  cases ends with
  | ok value between =>
      dsimp only
      rw [between.assembly]
      exact .ok _ ⟨related.ids, between.journal⟩
  | error problem between =>
      exact .error problem ⟨related.ids, between.journal⟩

theorem alike_work
    (assembly : Assembly)
    {step step' : Work Unit}
    (alike : Alike Bench.SameCalls step step') :
    Alike Register.SameCalls (work assembly step) (work assembly step') :=
  fun _ _ related => sameResult_work related (alike _ _ ⟨rfl, related.journal⟩)

end Registration

namespace Assembly

open Registration

theorem alike_runOnClose
    (path : TagPath)
    (actions : Actions)
    (widget : Widget)
    (closing : List String) :
    Alike Register.SameCalls (runOnClose path actions widget closing)
      (runOnClose path actions widget closing) := by
  induction closing generalizing widget with
  | nil =>
      exact .pure widget
  | cons first rest inductionHypothesis =>
      exact (alike_logged path (actions.isBlind_invokeOn first widget)).bind fun answer =>
        inductionHypothesis answer.1

theorem alike_registerId
    (path : TagPath)
    (widget : Widget) :
    Alike Register.SameCalls (registerId path widget) (registerId path widget) := by
  unfold registerId
  cases widget.id with
  | none =>
      exact .pure ()
  | some id =>
      refine .get_bind ?_
      rintro ⟨ids, journal⟩ ⟨_, journal'⟩ ⟨rfl, related⟩
      dsimp only
      split
      · exact alike_fail path _
      · rintro _ _ ⟨_, related⟩
        exact .ok _ ⟨rfl, ‹_›⟩

theorem alike_checkListener
    (path : TagPath)
    (openIds : List String)
    (actions : Actions)
    (listener : Listener) :
    Alike Register.SameCalls (checkListener path openIds actions listener)
      (checkListener path openIds actions listener) := by
  unfold checkListener
  cases listener.action with
  | none =>
      exact alike_fail path _
  | some reference =>
      refine (alike_logged path (Logged.isBlind_ofExcept _)).bind fun action => .get_bind ?_
      rintro ⟨ids, journal⟩ ⟨_, journal'⟩ ⟨rfl, related⟩
      dsimp only
      split
      · exact alike_fail path _
      · exact .pure _

theorem alike_close
    (assembly : Assembly)
    (openIds : List String)
    (actions : Actions) :
    Alike Register.SameCalls (assembly.close openIds actions)
      (assembly.close openIds actions) := by
  have finish (target : Target) :
      Alike Register.SameCalls
        (do
          record .debug ("close " ++ assembly.path.render)
          return { target, cell := assembly.cell : ClosedTag })
        (do
          record .debug ("close " ++ assembly.path.render)
          return { target, cell := assembly.cell : ClosedTag }) :=
    (alike_record _ _).bind fun _ => .pure _
  unfold close
  dsimp only
  split
  · exact (alike_fail _ _).bind finish
  · refine (alike_registerId _ _).bind fun _ => (alike_runOnClose _ _ _ _).bind fun changed => ?_
    exact finish (.widget changed)
  · exact (alike_checkListener _ _ _ _).bind fun checked => finish (.listener checked)

end Assembly

end WidgetMarkup
