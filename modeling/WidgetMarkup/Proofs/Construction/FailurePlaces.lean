import WidgetMarkup.Proofs.Construction.Failures
import WidgetMarkup.Proofs.Construction.NamelessListeners
import WidgetMarkup.Proofs.Expansion.Places

namespace WidgetMarkup

open Markup

/-!
# Where building fails

Building goes down from the roots of a forest, and what fails does so at the tag that is worked on:
its path spells the tags from a root down to it, and an attribute that it names is one of the tag's.
Only a listener that has no widget before it is met from outside, when its tag is closed already.
It is placed by its name alone, which is its place nevertheless: no listener has an id.
-/

namespace Markup.Node

/-- Whether nodes are a chain that ends in a node: the first is a root of the forest, and each of
the others stands directly inside the one before it. -/
inductive IsChain (roots : List Node) : List Node → Node → Prop where
  | root {node}
      (listed : node ∈ roots) :
      IsChain roots [node] node
  | inside {above parent node}
      (chain : IsChain roots above parent)
      (listed : node ∈ parent.children) :
      IsChain roots (above ++ [node]) node

end Markup.Node

/-- The path that leads through tags. -/
def TagPath.through (chain : List Node) : TagPath :=
  ⟨chain.map Node.segment⟩

/-- The path of a tag leads through the tags around it, and then to the tag. -/
theorem TagPath.child_through
    (above : List Node)
    (node : Node) :
    (through above).child node.name (node.attribute? "id") = through (above ++ [node]) := by
  unfold through
  rw [List.map_append]
  exact congrArg TagPath.mk (segments_child _ _ _)

namespace LocatedProblem

/-- Whether a problem is at a path and names no attribute but one of those given. -/
def IsAt (path : TagPath) (attributes : List Attribute) (problem : LocatedProblem) : Prop :=
  problem.path = path ∧
    ∀ name, problem.attributeName = some name → ∃ entry ∈ attributes, entry.name = name

/-- Whether a problem is at a tag of a forest, and names no attribute but one of that tag. -/
def IsPlaced (roots : List Node) (problem : LocatedProblem) : Prop :=
  ∃ chain last,
    Node.IsChain roots chain last ∧ problem.IsAt (.through chain) last.attributes

/-- A problem that is put at a path names no attribute. -/
theorem isAt_located
    (problem : Problem)
    (path : TagPath)
    (attributes : List Attribute) :
    (problem.located path).IsAt path attributes :=
  ⟨rfl, nofun⟩

end LocatedProblem

open LocatedProblem (isAt_located)

namespace Work

variable {α β : Type} {path : TagPath} {attributes : List Attribute}

/-- Whether a step of the work on a tag at a path leaves it there, and fails nowhere but there and
for no attribute but one of those given. -/
def FailsAt (path : TagPath) (attributes : List Attribute) (step : Work α) : Prop :=
  EndsIn (LocatedProblem.IsAt path attributes) (fun bench => bench.assembly.path = path) step
    fun _ bench => bench.assembly.path = path

namespace FailsAt

theorem pure
    (value : α) :
    FailsAt path attributes (Pure.pure value) :=
  EndsIn.pure fun _ isHere => isHere

theorem bind
    {step : Work α}
    {next : α → Work β}
    (first : step.FailsAt path attributes)
    (nexts : ∀ value, (next value).FailsAt path attributes) :
    FailsAt path attributes (step >>= next) :=
  EndsIn.bind first nexts

theorem get_bind
    {next : Bench → Work α}
    (nexts : ∀ bench, (next bench).FailsAt path attributes) :
    FailsAt path attributes (get >>= next) :=
  EndsIn.get_bind fun bench _ => nexts bench

theorem record
    (level : LogLevel)
    (text : String) :
    FailsAt path attributes (Work.record level text) :=
  fun _ isHere => isHere

theorem change
    {change : Assembly → Assembly}
    (keeps : ∀ assembly, (change assembly).path = assembly.path) :
    FailsAt path attributes (Work.change change) :=
  fun bench isHere => (keeps bench.assembly).trans isHere

theorem fail
    (problem : Problem) :
    FailsAt path attributes (Work.fail problem : Work α) := by
  rintro bench rfl
  exact isAt_located problem _ attributes

theorem logged
    (inner : Logged α) :
    FailsAt path attributes (Work.logged inner) := by
  rintro bench rfl
  unfold Work.logged
  cases inner bench.journal with
  | ok value journal =>
      rfl
  | error problem journal =>
      exact isAt_located problem _ attributes

/-- What fails for one of the attributes may note its name. -/
theorem onAttribute
    {step : Work α}
    (failsAt : step.FailsAt path attributes)
    {entry : Attribute}
    (listed : entry ∈ attributes) :
    FailsAt path attributes (Work.onAttribute entry.name step) := by
  intro bench isHere
  have ends := failsAt bench isHere
  unfold Work.onAttribute
  cases ran : step bench with
  | ok value after =>
      rw [ran] at ends
      exact ends
  | error problem after =>
      rw [ran] at ends
      refine ⟨ends.1, fun name named => ⟨entry, listed, ?_⟩⟩
      exact Option.some.inj named

theorem requireTarget :
    FailsAt path attributes Work.requireTarget := by
  refine .get_bind fun bench => ?_
  split
  · exact .pure _
  · exact .fail _

end FailsAt

end Work

namespace Assembly

open Work (FailsAt)

variable {path : TagPath} {attributes : List Attribute}

theorem failsAt_fillBlueprint
    {entries : List (BuildingRule × Attribute)}
    (listed : ∀ entry ∈ entries, entry.2 ∈ attributes) :
    (fillBlueprint entries).FailsAt path attributes := by
  induction entries with
  | nil =>
      exact .change fun _ => rfl
  | cons first rest inductionHypothesis =>
      obtain ⟨firstListed, restListed⟩ := List.forall_mem_cons.1 listed
      refine .get_bind fun bench => (FailsAt.record _ _).bind fun _ => ?_
      refine ((FailsAt.logged _).onAttribute firstListed).bind fun blueprint => ?_
      exact .bind (.change fun _ => rfl) fun _ => inductionHypothesis restListed

theorem failsAt_instantiate :
    instantiate.FailsAt path attributes :=
  .get_bind fun _ => (FailsAt.logged _).bind fun _ => .change fun _ => rfl

theorem failsAt_applyAttribute
    (interpreter : Interpreter)
    {entry : Attribute}
    (listed : entry ∈ attributes) :
    (applyAttribute interpreter entry).FailsAt path attributes := by
  refine FailsAt.requireTarget.bind fun target => .get_bind fun bench => ?_
  dsimp only
  split
  · refine (FailsAt.record _ _).bind fun _ => ?_
    exact ((FailsAt.logged _).onAttribute listed).bind fun _ => .change fun _ => rfl
  · exact (FailsAt.fail _).onAttribute listed
  · split
    · exact (FailsAt.fail _).onAttribute listed
    · exact .record _ _

theorem failsAt_applyAttributes
    (interpreter : Interpreter)
    {entries : List Attribute}
    (listed : ∀ entry ∈ entries, entry ∈ attributes) :
    (applyAttributes interpreter entries).FailsAt path attributes := by
  induction entries with
  | nil =>
      exact .pure _
  | cons first rest inductionHypothesis =>
      obtain ⟨firstListed, restListed⟩ := List.forall_mem_cons.1 listed
      exact (failsAt_applyAttribute interpreter firstListed).bind fun _ =>
        inductionHypothesis restListed

theorem failsAt_writeCell
    {entries : List (CellRule × Attribute)}
    (listed : ∀ entry ∈ entries, entry.2 ∈ attributes)
    (cell : CellProperties) :
    (writeCell cell entries).FailsAt path attributes := by
  induction entries generalizing cell with
  | nil =>
      exact .pure _
  | cons first rest inductionHypothesis =>
      obtain ⟨firstListed, restListed⟩ := List.forall_mem_cons.1 listed
      exact ((FailsAt.logged _).onAttribute firstListed).bind
        fun next => inductionHypothesis restListed next

theorem failsAt_takeText
    (text : String) :
    (takeText text).FailsAt path attributes :=
  FailsAt.requireTarget.bind fun _ => .get_bind fun _ =>
    (FailsAt.logged _).bind fun _ => .change fun _ => rfl

theorem failsAt_settle
    (cells : Option CellProperties)
    {entries : List (CellRule × Attribute)}
    (listed : ∀ entry ∈ entries, entry.2 ∈ attributes)
    (text : String) :
    (settle cells entries text).FailsAt path attributes := by
  have inside :
      FailsAt path attributes (if !Text.isBlankText text then takeText text else pure ()) := by
    split
    · exact failsAt_takeText text
    · exact .pure _
  unfold settle
  cases cells with
  | none =>
      exact inside
  | some defaults =>
      refine FailsAt.bind ?_ fun _ => inside
      exact (failsAt_writeCell listed defaults).bind fun _ => .change fun _ => rfl

theorem failsAt_attach
    (child : ClosedTag) :
    (attach child).FailsAt path attributes :=
  FailsAt.requireTarget.bind fun _ => .get_bind fun _ =>
    (FailsAt.logged _).bind fun _ => .change fun _ => rfl

end Assembly

namespace SplitAttributes

variable (vocabulary : Vocabulary) (features : List Feature) (inTable : Bool)

/-- Whatever the attributes of a tag are given to, they are attributes of that tag. -/
theorem mem_of_mem_ofAttributes
    (attributes : List Attribute) :
    (∀ entry ∈ (ofAttributes vocabulary features inTable attributes).building,
      entry.2 ∈ attributes) ∧
    (∀ entry ∈ (ofAttributes vocabulary features inTable attributes).cell,
      entry.2 ∈ attributes) ∧
    ∀ entry ∈ (ofAttributes vocabulary features inTable attributes).target,
      entry ∈ attributes := by
  induction attributes with
  | nil =>
      exact ⟨nofun, nofun, nofun⟩
  | cons first rest inductionHypothesis =>
      obtain ⟨building, cell, target⟩ := inductionHypothesis
      have building := fun entry listed => List.mem_cons_of_mem first (building entry listed)
      have cell := fun entry listed => List.mem_cons_of_mem first (cell entry listed)
      have target := fun entry listed => List.mem_cons_of_mem first (target entry listed)
      rw [ofAttributes]
      split
      · exact ⟨List.forall_mem_cons.2 ⟨List.mem_cons_self .., building⟩, cell, target⟩
      · split
        · exact ⟨building, List.forall_mem_cons.2 ⟨List.mem_cons_self .., cell⟩, target⟩
        · exact ⟨building, cell, List.forall_mem_cons.2 ⟨List.mem_cons_self .., target⟩⟩

end SplitAttributes

namespace Registration

/-- Whether a part of a run with a forest fails only at the tags of the forest, and what holds of
the values that it gives. -/
def FailsWithin {α : Type} (roots : List Node) (part : Registration α) (after : α → Prop) :
    Prop :=
  EndsIn (LocatedProblem.IsPlaced roots) (fun _ => True) part fun value _ => after value

variable {α β : Type} {roots : List Node} {after : α → Prop}

namespace FailsWithin

theorem pure
    {value : α}
    (holds : after value) :
    FailsWithin roots (Pure.pure value) after :=
  EndsIn.pure fun _ _ => holds

theorem bind
    {part : Registration α}
    {next : α → Registration β}
    {final : β → Prop}
    (first : part.FailsWithin roots after)
    (nexts : ∀ value, after value → (next value).FailsWithin roots final) :
    FailsWithin roots (part >>= next) final :=
  EndsIn.bind first fun value register isAfter => nexts value isAfter register trivial

theorem get_bind
    {next : Register → Registration α}
    (nexts : ∀ register, (next register).FailsWithin roots after) :
    FailsWithin roots (get >>= next) after :=
  EndsIn.get_bind fun register _ => nexts register

theorem record
    (level : LogLevel)
    (text : String) :
    FailsWithin roots (Registration.record level text) fun _ => True :=
  fun _ _ => trivial

variable {chain : List Node} {node : Node} (isChain : Node.IsChain roots chain node)

include isChain

/-- A problem at the path of a tag is one at that tag. -/
theorem fail
    (problem : Problem) :
    FailsWithin roots (Registration.fail (.through chain) problem) after :=
  fun _ _ => ⟨chain, node, isChain, isAt_located problem _ _⟩

theorem logged
    (inner : Logged α) :
    FailsWithin roots (Registration.logged (.through chain) inner) fun _ => True := by
  intro register _
  unfold Registration.logged
  cases inner register.journal with
  | ok value journal =>
      trivial
  | error problem journal =>
      exact ⟨chain, node, isChain, isAt_located problem _ _⟩

/-- A step of the work on a tag of the forest fails there, and leaves the tag where it is. -/
theorem work
    {assembly : Assembly}
    {step : Work Unit}
    (failsAt : step.FailsAt (.through chain) node.attributes)
    (isThere : assembly.path = .through chain) :
    FailsWithin roots (Registration.work assembly step)
      fun worked => worked.path = .through chain := by
  intro register _
  have ends := failsAt ⟨assembly, register.journal⟩ isThere
  unfold Registration.work
  cases ran : step ⟨assembly, register.journal⟩ with
  | ok value bench =>
      rw [ran] at ends
      exact ends
  | error problem bench =>
      rw [ran] at ends
      exact ⟨chain, node, isChain, ends⟩

end FailsWithin

end Registration

namespace Assembly

open Registration (FailsWithin)

variable
  {roots chain : List Node}
  {node : Node}
  (isChain : Node.IsChain roots chain node)

include isChain

theorem failsWithin_runOnClose
    (actions : Actions)
    (references : List String)
    (widget : Widget) :
    (runOnClose (.through chain) actions widget references).FailsWithin roots
      fun _ => True := by
  induction references generalizing widget with
  | nil =>
      exact .pure trivial
  | cons first rest inductionHypothesis =>
      exact (FailsWithin.logged isChain _).bind fun answer _ => inductionHypothesis answer.1

theorem failsWithin_registerId
    (widget : Widget) :
    (registerId (.through chain) widget).FailsWithin roots fun _ => True := by
  unfold registerId
  split
  · exact .pure trivial
  · refine .get_bind fun register => ?_
    split
    · exact .fail isChain _
    · exact fun _ _ => trivial

theorem failsWithin_checkListener
    (openIds : List String)
    (actions : Actions)
    (listener : Listener) :
    (checkListener (.through chain) openIds actions listener).FailsWithin roots
      fun _ => True := by
  unfold checkListener
  split
  · exact .fail isChain _
  · refine (FailsWithin.logged isChain _).bind fun action _ => .get_bind fun register => ?_
    split
    · exact .fail isChain _
    · exact .pure trivial

theorem failsWithin_close
    {assembly : Assembly}
    (isThere : assembly.path = .through chain)
    (openIds : List String)
    (actions : Actions) :
    (assembly.close openIds actions).FailsWithin roots fun _ => True := by
  have noted (target : Target) :
      FailsWithin roots
        (do
          Registration.record .debug ("close " ++ assembly.path.render)
          return { target, cell := assembly.cell })
        fun _ : ClosedTag => True :=
    .bind (.record _ _) fun _ _ => .pure trivial
  unfold close
  dsimp only
  rw [isThere] at noted ⊢
  split
  · exact .fail isChain _
  · refine (failsWithin_registerId isChain _).bind fun _ _ => ?_
    exact (failsWithin_runOnClose isChain _ _ _).bind fun changed _ => noted (.widget changed)
  · exact (failsWithin_checkListener isChain _ _ _).bind fun checked _ =>
      noted (.listener checked)

end Assembly

namespace Interpreter

open Registration (FailsWithin)

variable
  {interpreter : Interpreter}
  {roots chain : List Node}
  {node : Node}

theorem failsWithin_admitTag
    (isChain : Node.IsChain roots chain node) :
    (interpreter.admitTag (.through chain) node).FailsWithin roots fun _ => True := by
  unfold admitTag
  split
  · exact .fail isChain _
  · split
    · exact .pure trivial
    · split
      · exact .fail isChain _
      · exact (FailsWithin.record _ _).bind fun _ _ => .pure trivial

theorem failsWithin_beginTag
    (isChain : Node.IsChain roots chain node)
    (rule : TagRule)
    (cells : Option CellProperties) :
    (interpreter.beginTag (.through chain) rule cells node).FailsWithin roots
      fun begun => begun.path = .through chain := by
  rw [beginTag_eq]
  refine (FailsWithin.record _ _).bind fun _ _ => .work isChain ?_ rfl
  obtain ⟨building, cell, target⟩ :=
    SplitAttributes.mem_of_mem_ofAttributes interpreter.vocabulary rule.features cells.isSome
      node.attributes
  refine (Assembly.failsAt_fillBlueprint building).bind fun _ => ?_
  refine Assembly.failsAt_instantiate.bind fun _ => ?_
  refine (Assembly.failsAt_applyAttributes interpreter target).bind fun _ => ?_
  exact Assembly.failsAt_settle cells cell node.text

/-- Building a tag that ends a chain fails only at tags of the forest if building its children
does. -/
theorem failsWithin_buildTag_of_children
    {above : List Node}
    (isChain : Node.IsChain roots (above ++ [node]) node)
    (children :
      ∀ openIds cells assembly,
        assembly.path = .through (above ++ [node]) →
          (interpreter.buildChildren (.through (above ++ [node])) openIds cells assembly
            node.children).FailsWithin roots
              fun filled => filled.path = .through (above ++ [node]))
    (openIds : List String)
    (cells : Option CellProperties) :
    (interpreter.buildTag (.through above) openIds cells node).FailsWithin roots
      fun _ => True := by
  rw [buildTag_eq, TagPath.child_through]
  refine (failsWithin_admitTag isChain).bind fun admitted _ => ?_
  cases admitted with
  | none =>
      exact .pure trivial
  | some rule =>
      have isBuilt :
          (interpreter.buildAdmitted (.through (above ++ [node])) openIds cells rule
            node).FailsWithin roots fun _ => True := by
        refine (failsWithin_beginTag isChain _ _).bind fun begun isBegun => ?_
        refine (children _ _ begun isBegun).bind fun filled isFilled => ?_
        refine .bind (.work isChain (.change fun _ => rfl) isFilled) fun finished isFinished => ?_
        exact Assembly.failsWithin_close isChain isFinished _ _
      exact isBuilt.bind fun _ _ => .pure trivial

mutual

theorem failsWithin_buildTag :
    ∀ (node : Node) (above : List Node) openIds cells,
      Node.IsChain roots (above ++ [node]) node →
        (interpreter.buildTag (.through above) openIds cells node).FailsWithin roots
          fun _ => True
  | ⟨_, _, _, children, _, _⟩, _, openIds, cells, isChain =>
      failsWithin_buildTag_of_children isChain
        (failsWithin_buildChildren children isChain fun _ => id) openIds cells

theorem failsWithin_buildChildren
    {chain : List Node}
    {parent : Node} :
    ∀ (nodes : List Node),
      Node.IsChain roots chain parent →
        (∀ node ∈ nodes, node ∈ parent.children) → ∀ openIds cells assembly,
          assembly.path = .through chain →
            (interpreter.buildChildren (.through chain) openIds cells assembly nodes).FailsWithin
              roots fun filled => filled.path = .through chain
  | [], _, _, _, _, _, isThere => by
      rw [buildChildren]
      exact .pure isThere
  | node :: rest, isChain, areInside, openIds, cells, assembly, isThere => by
      rw [buildChildren]
      obtain ⟨isInside, restInside⟩ := List.forall_mem_cons.1 areInside
      refine (failsWithin_buildTag node chain openIds cells (.inside isChain isInside)).bind
        fun built _ => ?_
      have others := failsWithin_buildChildren rest isChain restInside openIds cells
      cases built with
      | none =>
          exact others assembly isThere
      | some closed =>
          exact (FailsWithin.work isChain (Assembly.failsAt_attach closed) isThere).bind others

end

theorem failsWithin_buildRoots
    (standard : interpreter.vocabulary = .standard)
    {nodes : List Node}
    (areRoots : ∀ node ∈ nodes, node ∈ roots)
    (widgets : List Widget) :
    (interpreter.buildRoots widgets nodes).FailsWithin roots fun _ => True := by
  induction nodes generalizing widgets with
  | nil =>
      exact .pure trivial
  | cons node rest inductionHypothesis =>
      rw [buildRoots]
      obtain ⟨isRoot, restRoots⟩ := List.forall_mem_cons.1 areRoots
      have isChain : Node.IsChain roots [node] node := .root isRoot
      have isBuilt : (interpreter.buildTag .root [] none node).FailsWithin roots fun built =>
          ∀ closed, built = some closed → closed.target.isListener = true →
            node.attribute? "id" = none := by
        refine EndsIn.of_ok (failsWithin_buildTag node [] [] none isChain) ?_
        rintro _ _ _ _ ran closed rfl isListener
        exact attribute?_id_of_buildTag standard ran isListener
      refine isBuilt.bind fun built noId => ?_
      cases built with
      | none =>
          exact inductionHypothesis restRoots widgets
      | some closed =>
          dsimp only
          cases placed : placeRoot node closed widgets with
          | ok next =>
              exact inductionHypothesis restRoots next
          | error problem =>
              refine fun _ _ => ⟨[node], node, isChain, ?_⟩
              unfold placeRoot at placed
              split at placed <;> cases placed
              rename_i made
              have samePath : TagPath.root.child node.name (node.attribute? "id") = _ :=
                TagPath.child_through [] node
              rw [noId closed rfl (by rw [made]; rfl)] at samePath
              rw [samePath]
              exact isAt_located _ _ _

/-- What fails while a document is built does so at a tag of its forest. -/
theorem isPlaced_of_runConstruction
    (standard : interpreter.vocabulary = .standard)
    {journal : Journal}
    {nodes : List Node}
    {problem : LocatedProblem}
    (failed : (interpreter.runConstruction journal nodes).result = .error problem) :
    problem.IsPlaced nodes := by
  have within : (interpreter.build nodes).FailsWithin nodes fun _ => True :=
    (failsWithin_buildRoots standard (fun _ => id) []).bind fun _ _ =>
      .get_bind fun _ => .pure trivial
  have ends := within { journal } trivial
  unfold runConstruction at failed
  split at failed
  · cases failed
  · rename_i ran
    rw [ran] at ends
    cases failed
    exact ends

/--
Failures are placed. What an expansion fails with lies at its own path, or at or below one of its
nodes that is visited there; and what building fails with lies at a tag of its forest, which has
the attribute that the problem names.
-/
theorem failures_isPlaced
    (standard : interpreter.vocabulary = .standard) :
    (∀ nodes scope progress problem after,
      interpreter.expandNodes nodes scope progress = .error problem after →
        problem.path = progress.path ∨
          ∃ node ∈ nodes, ∃ inner visited deeper,
            interpreter.Reaches ⟨.forest nodes scope, progress⟩ ⟨.node node inner, visited⟩ ∧
              problem.path.segments =
                progress.path.segments ++ interpreter.visitSegment visited node :: deeper) ∧
      ∀ journal nodes problem,
        (interpreter.runConstruction journal nodes).result = .error problem →
          problem.IsPlaced nodes := by
  refine ⟨fun nodes scope progress problem after failed => ?_, fun journal nodes problem failed =>
    isPlaced_of_runConstruction standard failed⟩
  have meets : interpreter.Meets ⟨.forest nodes scope, progress⟩ problem :=
    exists_perform_eq_error_iff.1 ⟨after, failed⟩
  rcases meets.of_forest with rfl | below
  · exact .inl rfl
  · exact .inr below

/-- A macro that nothing defines, inside a group with an id. -/
def groupWithUnknownMacro : List Node :=
  [{ name := "group"
     attributes := [⟨"id", "a"⟩]
     children := [{ name := "nope", isMacro := true }] }]

/-- A label in a group, with an attribute that labels do not know. -/
def groupWithUnknownAttribute : List Node :=
  [{ name := "group", children := [{ name := "label", attributes := [⟨"colour", "red"⟩] }] }]

/-- The macro that nothing defines and the unknown attribute are failed for where they stand. -/
theorem failures_isPlaced_unknown :
    let interpreter : Interpreter := { vocabulary := .standard }
    (∃ problem after,
      interpreter.expandNodes groupWithUnknownMacro .empty {} = .error problem after ∧
        problem.path.segments = ["group#a", ":nope"] ∧
        (problem.path = .root ∨
          ∃ node ∈ groupWithUnknownMacro, ∃ inner visited deeper,
            interpreter.Reaches ⟨.forest groupWithUnknownMacro .empty, {}⟩
                ⟨.node node inner, visited⟩ ∧
              problem.path.segments = interpreter.visitSegment visited node :: deeper)) ∧
      ∃ problem,
        (interpreter.runConstruction {} groupWithUnknownAttribute).result = .error problem ∧
          problem.attributeName = some "colour" ∧
          problem.IsPlaced groupWithUnknownAttribute := by
  intro interpreter
  obtain ⟨expansions, constructions⟩ := @failures_isPlaced interpreter rfl
  constructor
  · have failed :
        Expansion.Outcome.seenProblem? (fun problem => problem.path.segments)
            (interpreter.expandNodes groupWithUnknownMacro .empty {}) =
          some ["group#a", ":nope"] := by
      decide +kernel
    obtain ⟨problem, after, ran, place⟩ := Expansion.Outcome.exists_error_of_seenProblem failed
    exact ⟨problem, after, ran, place, expansions _ _ _ _ _ ran⟩
  · have failed :
        (interpreter.runConstruction {} groupWithUnknownAttribute).seenProblem?
            LocatedProblem.attributeName =
          some (some "colour") := by
      decide +kernel
    obtain ⟨problem, ran, isNamed⟩ := Run.exists_error_of_seenProblem failed
    exact ⟨problem, ran, isNamed, constructions _ _ _ ran⟩

end Interpreter

end WidgetMarkup
