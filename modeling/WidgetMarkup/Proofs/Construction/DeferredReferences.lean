import WidgetMarkup.Proofs.Construction.ActionNames
import WidgetMarkup.Proofs.Text.Lines

namespace WidgetMarkup

/-!
# References that are put off

Looking up a reference to an action gives the bare name of the action. What is put off until a tag
closes, a closing attribute or a listener, keeps that name, which is then looked up as a reference
in its turn. So it refers to the same action in the end exactly if the name is plain: trimmed, and
without a dollar sign in front.
-/

namespace Text

/-- A trimmed list of characters does not end in a blank. -/
theorem not_isBlank_getLast?_trimCharacters
    (characters : List Char)
    {last : Char}
    (isLast : last ∈ (trimCharacters characters).getLast?) :
    isBlank last = false := by
  have notEmpty : trimCharacters characters ≠ [] := by
    intro empty
    simp [empty] at isLast
  have ending := List.rdropWhile_last_not isBlank (trimStart characters) notEmpty
  rw [Option.mem_def, List.getLast?_eq_some_getLast notEmpty, Option.some.injEq] at isLast
  rw [← isLast]
  exact Bool.not_eq_true _ ▸ ending

end Text

namespace Actions

/-- Whether a name is left as it is when it is used as a reference. -/
structure IsPlainName (name : String) : Prop where
  trimmed :
    Text.trim name = name
  unsigned :
    name.toList.head? ≠ some '$'

/-- Whether a name does not end in a blank. -/
def EndsPlainly (name : String) : Prop :=
  ∀ last ∈ name.toList.getLast?, Text.isBlank last = false

/-- A reference with a dollar sign in front, once trimmed, has the name behind the sign. -/
theorem toList_bareName_of_sign
    {reference : String}
    {name : List Char}
    (signed : Text.trimCharacters reference.toList = '$' :: name) :
    (bareName reference).toList = name := by
  simp [bareName, signed]

/-- Any other reference has the name that trimming it gives. -/
theorem bareName_of_no_sign
    {reference : String}
    (unsigned : (Text.trimCharacters reference.toList).head? ≠ some '$') :
    bareName reference = Text.trim reference := by
  unfold bareName
  split
  · rename_i signed
    simp [signed] at unsigned
  · rfl

theorem bareName_eq_self_iff
    (name : String) :
    bareName name = name ↔ IsPlainName name := by
  constructor
  · intro same
    have unsigned : (Text.trimCharacters name.toList).head? ≠ some '$' := by
      intro signed
      obtain ⟨rest, shape⟩ := List.head?_eq_some_iff.mp signed
      have shorter := (Text.trimCharacters_sublist name.toList).length_le
      rw [shape, ← toList_bareName_of_sign shape, same, List.length_cons] at shorter
      omega
    have trimmed : Text.trim name = name :=
      (bareName_of_no_sign unsigned).symm.trans same
    refine ⟨trimmed, ?_⟩
    have listed : Text.trimCharacters name.toList = name.toList := by
      simpa [Text.trim] using congrArg String.toList trimmed
    rwa [listed] at unsigned
  · intro isPlain
    have listed : Text.trimCharacters name.toList = name.toList := by
      simpa [Text.trim] using congrArg String.toList isPlain.trimmed
    have unsigned : (Text.trimCharacters name.toList).head? ≠ some '$' := by
      rw [listed]
      exact isPlain.unsigned
    exact (bareName_of_no_sign unsigned).trans isPlain.trimmed

/-- The names that references can have are those that do not end in a blank. -/
theorem exists_bareName_eq_iff
    (name : String) :
    (∃ reference, bareName reference = name) ↔ EndsPlainly name := by
  constructor
  · rintro ⟨reference, rfl⟩ last isLast
    by_cases signed : (Text.trimCharacters reference.toList).head? = some '$'
    · obtain ⟨rest, shape⟩ := List.head?_eq_some_iff.mp signed
      rw [toList_bareName_of_sign shape] at isLast
      refine Text.not_isBlank_getLast?_trimCharacters reference.toList ?_
      obtain ⟨front, rfl⟩ := List.getLast?_eq_some_iff.mp isLast
      rw [shape, ← List.cons_append, List.getLast?_concat]
      rfl
    · rw [bareName_of_no_sign signed, Text.trim, String.toList_ofList] at isLast
      exact Text.not_isBlank_getLast?_trimCharacters _ isLast
  · intro endsPlainly
    refine ⟨"$" ++ name, ?_⟩
    have trimmed : Text.trimCharacters ("$" ++ name).toList = '$' :: name.toList := by
      have ending : Text.trimEnd ('$' :: name.toList) = '$' :: name.toList := by
        refine List.rdropWhile_eq_self_iff.mpr fun _ => ?_
        cases shape : name.toList.getLast? with
        | none =>
            simp [List.getLast?_eq_none_iff.mp shape]
            decide
        | some last =>
            obtain ⟨front, listed⟩ := List.getLast?_eq_some_iff.mp shape
            simp [listed, endsPlainly last shape]
      simpa [Text.trimCharacters, Text.trimStart, show Text.isBlank '$' = false by decide]
        using ending
    exact String.toList_inj.mp (toList_bareName_of_sign trimmed)

/-- A name that a reference has been resolved to is looked up under its own bare name. -/
theorem resolve_resolved
    {actions : Actions}
    {reference name : String}
    (resolved : actions.resolve reference = .ok name) :
    actions.resolve name = .ok name ↔ IsPlainName name := by
  obtain ⟨registered, isName⟩ := resolve_eq_ok resolved
  rw [← bareName_eq_self_iff]
  constructor
  · intro again
    exact (resolve_eq_ok again).2.symm
  · intro same
    have isRegistered : actions.contains name = true := by
      rwa [contains, same, isName, ← contains]
    rw [resolve, if_pos isRegistered, same]

/-- An action that is registered can be started, whatever its reference is made of. -/
theorem exists_start
    {actions : Actions}
    {reference : String}
    {action : Action}
    (found : actions.find? (bareName reference) = some action)
    (widget : Option Widget)
    (journal : Journal) :
    ∃ after, actions.start reference widget journal = .ok action after := by
  obtain ⟨after, told⟩ :=
    Logged.exists_forM_record (action.records (widget.map Widget.kind))
      ((journal.record .trace ("invoking action `" ++ bareName reference ++ "`")).note
        (bareName reference) widget)
  have changed (change : Journal → Journal) (before : Journal) :
      (modify change : Logged PUnit) before = .ok ⟨⟩ (change before) :=
    rfl
  refine ⟨after, ?_⟩
  simp only [start, found, bind, EStateM.bind, Logged.record, changed] at told ⊢
  rw [told]
  rfl

end Actions

namespace Assembly

open Actions (bareName IsPlainName)

variable
  {path : TagPath}
  {actions : Actions}
  {reference name : String}
  {openIds : List String}
  {widget : Widget}
  {listener : Listener}
  {register : Register}

theorem exists_runOnClose
    (registered : actions.contains reference = true) :
    ∃ changed after,
      runOnClose path actions widget [reference] register = .ok changed after := by
  obtain ⟨action, found⟩ := Option.isSome_iff_exists.mp registered
  obtain ⟨journal, started⟩ := Actions.exists_start found (some widget) register.journal
  refine ⟨(action.onWidget widget).1, { register with journal }, ?_⟩
  simp only [runOnClose, Registration.logged, Actions.invokeOn, started, bind, EStateM.bind, pure,
    EStateM.pure]

/-- What is run when a tag closes depends on nothing of a reference but its name. -/
theorem runOnClose_congr
    (same : bareName name = bareName reference) :
    runOnClose path actions widget [name] register =
      runOnClose path actions widget [reference] register := by
  simp only [runOnClose, Actions.invokeOn, Actions.start, same]

/-- Two references that run the same have the same name. -/
theorem bareName_eq_of_runOnClose_eq
    (registered : actions.contains reference = true)
    (same :
      runOnClose path actions widget [name] register =
        runOnClose path actions widget [reference] register) :
    bareName name = bareName reference := by
  obtain ⟨changed, after, ran⟩ :
      ∃ changed after, runOnClose path actions widget [reference] register = .ok changed after :=
    exists_runOnClose registered
  obtain ⟨_, inTurn, adds⟩ := runOnClose_runs ran
  obtain ⟨_, inTurn', adds'⟩ := runOnClose_runs (same.trans ran)
  have sameCalls := List.append_cancel_left (adds'.symm.trans adds)
  have sameNames := congrArg (List.map ActionCall.action) sameCalls
  rw [List.map_map, List.map_map] at sameNames
  have names : [bareName name] = [bareName reference] :=
    inTurn'.names.symm.trans (sameNames.trans inTurn.names)
  exact List.singleton_inj.mp names

/-- A listener whose ids are known keeps the bare name of the action that it refers to. -/
theorem checkListener_of_known
    (known : ∀ id ∈ listener.ids, id ∈ register.ids ∨ id ∈ openIds)
    (registered : actions.contains reference = true) :
    checkListener path openIds actions { listener with action := some reference } register =
      .ok { listener with action := some (bareName reference) } register := by
  have noneMissing :
      (listener.ids.find? fun id => !register.ids.contains id && !openIds.contains id) = none := by
    rw [List.find?_eq_none]
    intro id member
    rcases known id member with inRegister | isOpen
    · simp [inRegister]
    · simp [isOpen]
  have resolved : actions.resolve reference = .ok (bareName reference) := by
    rw [Actions.resolve, if_pos registered]
  have got : (get : Registration Register) register = .ok register register := rfl
  simp only [checkListener, resolved, Logged.ofExcept, Registration.logged, bind, EStateM.bind,
    pure, EStateM.pure, got, noneMissing]

/-- A listener that refers to no registered action is refused. -/
theorem checkListener_of_unknown
    (unknown : actions.contains reference = false) :
    checkListener path openIds actions { listener with action := some reference } register =
      .error ((Problem.unknownAction (bareName reference)).located path) register := by
  have refused : actions.resolve reference = .error (.unknownAction (bareName reference)) := by
    rw [Actions.resolve, unknown]
    rfl
  simp only [checkListener, refused, Logged.ofExcept, Registration.logged, bind, EStateM.bind]
  rfl

/-- A closing attribute queues the bare name of the action that it refers to. -/
theorem closing_of_resolved
    {context : AttributeContext}
    (resolved : context.actions.resolve reference = .ok name)
    (workpiece : Workpiece)
    (journal : Journal) :
    StandardAttribute.closing.apply context reference workpiece journal =
      .ok { workpiece with onClose := workpiece.onClose ++ [name] } journal := by
  simp only [StandardAttribute.closing, resolved, Logged.ofExcept, bind, EStateM.bind, pure,
    EStateM.pure]

/-- The queued name runs what the reference itself would run exactly if it is plain. -/
theorem runOnClose_resolved_iff
    (resolved : actions.resolve reference = .ok name) :
    runOnClose path actions widget [name] register =
        runOnClose path actions widget [reference] register ↔
      IsPlainName name := by
  obtain ⟨registered, isName⟩ := Actions.resolve_eq_ok resolved
  rw [← Actions.bareName_eq_self_iff]
  constructor
  · intro same
    exact (bareName_eq_of_runOnClose_eq registered same).trans isName.symm
  · intro plain
    exact runOnClose_congr (plain.trans isName)

/-- A listener that waits for known ids keeps its action in the end exactly if the name that its
reference was resolved to is plain. -/
theorem checkListener_resolved_iff
    (resolved : actions.resolve reference = .ok name)
    (known : ∀ id ∈ listener.ids, id ∈ register.ids ∨ id ∈ openIds) :
    checkListener path openIds actions { listener with action := some name } register =
        checkListener path openIds actions { listener with action := some reference } register ↔
      IsPlainName name := by
  obtain ⟨registered, isName⟩ := Actions.resolve_eq_ok resolved
  rw [checkListener_of_known known registered, ← isName, ← Actions.bareName_eq_self_iff]
  cases again : actions.contains name with
  | true =>
      rw [checkListener_of_known known again]
      simp
  | false =>
      rw [checkListener_of_unknown again]
      refine ⟨nofun, fun plain => ?_⟩
      rw [Actions.contains, plain, isName, ← Actions.contains, registered] at again
      cases again

end Assembly

namespace Actions

/--
A reference that is resolved early, by a closing attribute or by an attribute for a listener, is
resolved again when the tag closes. If it was resolved to a name, what is queued is this name, and
it means in the end what the reference itself means exactly if it is plain; the reference itself
can always be run. So no set of actions has references that change their meaning, unless one of
its names, not one that ends in a blank, begins with a blank or with a dollar sign.
-/
theorem deferred_references
    (actions : Actions) :
    (∀ reference name,
      actions.resolve reference = .ok name →
        (actions.resolve name = .ok name ↔ IsPlainName name) ∧
        (∀ (context : AttributeContext) workpiece journal,
          context.actions = actions →
            StandardAttribute.closing.apply context reference workpiece journal =
              .ok { workpiece with onClose := workpiece.onClose ++ [name] } journal) ∧
        (∀ path widget register,
          (∃ changed after,
            Assembly.runOnClose path actions widget [reference] register = .ok changed after) ∧
          (Assembly.runOnClose path actions widget [name] register =
              Assembly.runOnClose path actions widget [reference] register ↔
            IsPlainName name)) ∧
        ∀ path openIds (listener : Listener) (register : Register),
          (∀ id ∈ listener.ids, id ∈ register.ids ∨ id ∈ openIds) →
            (Assembly.checkListener path openIds actions
                  { listener with action := some name } register =
                Assembly.checkListener path openIds actions
                  { listener with action := some reference } register ↔
              IsPlainName name)) ∧
    ((∀ reference name,
        actions.resolve reference = .ok name → actions.resolve name = .ok name) ↔
      ∀ name, (actions.find? name).isSome = true → EndsPlainly name → IsPlainName name) := by
  constructor
  · intro reference name resolved
    have registered := (resolve_eq_ok resolved).1
    refine ⟨resolve_resolved resolved, ?_, ?_, ?_⟩
    · rintro context workpiece journal rfl
      exact Assembly.closing_of_resolved resolved workpiece journal
    · intro path widget register
      exact ⟨Assembly.exists_runOnClose registered, Assembly.runOnClose_resolved_iff resolved⟩
    · intro path openIds listener register known
      exact Assembly.checkListener_resolved_iff resolved known
  · constructor
    · intro stays name isRegistered endsPlainly
      obtain ⟨reference, rfl⟩ := (exists_bareName_eq_iff name).mpr endsPlainly
      have resolved : actions.resolve reference = .ok (bareName reference) :=
        if_pos isRegistered
      exact (resolve_resolved resolved).mp (stays reference _ resolved)
    · intro arePlain reference name resolved
      obtain ⟨registered, isName⟩ := resolve_eq_ok resolved
      have isRegistered : (actions.find? name).isSome = true := by
        rw [isName]
        exact registered
      have endsPlainly := (exists_bareName_eq_iff name).mp ⟨reference, isName.symm⟩
      exact (resolve_resolved resolved).mpr (arePlain name isRegistered endsPlainly)

/-- A reference with blanks around it and a sign, to an action with a plain name. -/
theorem deferred_references_trimmed :
    let actions : Actions := ⟨[("greet", {})]⟩
    actions.resolve " $greet " = .ok "greet" ∧
      IsPlainName "greet" ∧
      ∀ path widget register,
        Assembly.runOnClose path actions widget ["greet"] register =
          Assembly.runOnClose path actions widget [" $greet "] register := by
  intro actions
  have resolved : actions.resolve " $greet " = .ok "greet" := by
    rw [resolve, if_pos (by decide +kernel)]
    exact congrArg Except.ok (by decide +kernel)
  have isPlain : IsPlainName "greet" := ⟨by decide +kernel, by decide⟩
  obtain ⟨_, _, runs, _⟩ := (deferred_references actions).1 _ _ resolved
  exact ⟨resolved, isPlain, fun path widget register =>
    (runs path widget register).2.mpr isPlain⟩

/-- A reference with two signs is resolved to a name with one, which is no action in the end. -/
theorem unknown_at_close_of_doubledSign :
    let interpreter : Interpreter := { vocabulary := .standard, actions := ⟨[("$x", {})]⟩ }
    interpreter.actions.resolve "$$x" = .ok "$x" ∧
      interpreter.actions.resolve "$x" = .error (.unknownAction "x") ∧
      ∃ located,
        (interpreter.parse "<label onClose=\"$$x\"/>").result = .error located ∧
          located.message = "root/label: unknown action `x`" := by
  intro interpreter
  have told :
      ((interpreter.parse "<label onClose=\"$$x\"/>").result.map fun _ => ()).mapError
          LocatedProblem.message =
        .error "root/label: unknown action `x`" := by
    decide +kernel
  refine ⟨?_, ?_, ?_⟩
  · rw [resolve, if_pos (by decide +kernel)]
    exact congrArg Except.ok (by decide +kernel)
  · rw [resolve, if_neg (by decide +kernel)]
    exact congrArg (Except.error ∘ Problem.unknownAction) (by decide +kernel)
  · cases ran : (interpreter.parse "<label onClose=\"$$x\"/>").result with
    | ok document =>
        rw [ran] at told
        cases told
    | error located =>
        rw [ran] at told
        exact ⟨located, rfl, Except.error.inj told⟩

end Actions

end WidgetMarkup
