import SlotLang.Proofs.Check.Discipline
import SlotLang.Proofs.Tree.Relabel

/-!
# Checks that mirror each other

Two checks mirror each other along a relabelling if one ends as the other does, up to the
labels: with the relabelled result, or with the same kind of fault at the relabelled
position.  Each way of combining checks keeps checks mirrored.  The states of the two need
not have the same frames: it is enough that each name denotes the same in both, and that
the same names are taken in the innermost scope.

Relabelled trees differ in more than their type slots and are checked in other states.  So
mirroring is no property of one check, and has its own induction over the trees.
-/

namespace SlotLang

variable {α β γ δ ε : Type}

/-! ## Results -/

/-- The same kind of fault at the relabelled position; and the very same fault, if names
stay as they are. -/
structure Relabelling.Blames (labels : Relabelling) (diagnostic other : Diagnostic) :
    Prop where
  position : other.position = labels.start diagnostic.position
  kind : other.cause.label = diagnostic.cause.label
  cause : labels.FixesNames → other.cause = diagnostic.cause

/-- Two programs are refused for the same kind of fault. -/
inductive Relabelling.Rejects (labels : Relabelling) : Failure → Failure → Prop where
  | rejected {diagnostic other : Diagnostic} (blamed : labels.Blames diagnostic other) :
      Rejects labels (.rejected diagnostic) (.rejected other)

/-- Two results match: their values do, or both are failures that match. -/
inductive Matched (fails : ε → ε → Prop) (relates : α → α → Prop) :
    Except ε α → Except ε α → Prop where
  | ok {value other : α} (same : relates value other) :
      Matched fails relates (.ok value) (.ok other)
  | error {failure other : ε} (failed : fails failure other) :
      Matched fails relates (.error failure) (.error other)

theorem Matched.bind {fails : ε → ε → Prop} {relates : α → α → Prop}
    {laterRelates : β → β → Prop} {result other : Except ε α}
    {next otherNext : α → Except ε β} (first : Matched fails relates result other)
    (later : ∀ {value other}, relates value other →
      Matched fails laterRelates (next value) (otherNext other)) :
    Matched fails laterRelates (result.bind next) (other.bind otherNext) := by
  cases first with
  | ok same => exact later same
  | error failed => exact .error failed

theorem Matched.map {fails : ε → ε → Prop} {relates : α → α → Prop}
    {otherRelates : β → β → Prop} {result other : Except ε α} {convert otherConvert : α → β}
    (first : Matched fails relates result other)
    (converted : ∀ {value other}, relates value other →
      otherRelates (convert value) (otherConvert other)) :
    Matched fails otherRelates (result.map convert) (other.map otherConvert) := by
  cases first with
  | ok same => exact .ok (converted same)
  | error failed => exact .error failed

/-- Two results mirror each other: one is the image of the other, or both are failures
that match. -/
abbrev Mirrored (fails : ε → ε → Prop) (image : α → α) :
    Except ε α → Except ε α → Prop :=
  Matched fails fun value other => other = image value

namespace Mirrored

variable {fails : ε → ε → Prop} {image : α → α} {result other : Except ε α}

theorem bind {laterImage : β → β} {next otherNext : α → Except ε β}
    (first : Mirrored fails image result other)
    (later : ∀ value, Mirrored fails laterImage (next value) (otherNext (image value))) :
    Mirrored fails laterImage (result.bind next) (other.bind otherNext) := by
  apply Matched.bind first
  intro value _ same
  subst same
  exact later value

theorem map {otherImage : β → β} {convert otherConvert : α → β}
    (first : Mirrored fails image result other)
    (converted : ∀ value, otherConvert (image value) = otherImage (convert value)) :
    Mirrored fails otherImage (result.map convert) (other.map otherConvert) := by
  apply Matched.map first
  intro value _ same
  subst same
  exact converted value

theorem mapError {otherFails : δ → δ → Prop} {convert : ε → δ}
    (first : Mirrored fails image result other)
    (converted : ∀ {failure other}, fails failure other →
      otherFails (convert failure) (convert other)) :
    Mirrored otherFails image (result.mapError convert) (other.mapError convert) := by
  cases first with
  | ok same => exact .ok same
  | error failed => exact .error (converted failed)

theorem exists_ok_iff (mirrored : Mirrored fails image result other) :
    (∃ value, other = .ok value) ↔ ∃ value, result = .ok value := by
  cases mirrored with
  | ok => exact ⟨fun _ => ⟨_, rfl⟩, fun _ => ⟨_, rfl⟩⟩
  | error =>
      constructor
      · rintro ⟨_, passed⟩
        cases passed
      · rintro ⟨_, passed⟩
        cases passed

theorem of_ok {value : α} (mirrored : Mirrored fails image (.ok value) other) :
    other = .ok (image value) := by
  cases mirrored with
  | ok same => rw [same]

theorem of_error {failure : ε} (mirrored : Mirrored fails image (.error failure) other) :
    ∃ otherFailure, other = .error otherFailure ∧ fails failure otherFailure := by
  cases mirrored with
  | error failed => exact ⟨_, rfl, failed⟩

end Mirrored

/-! ## Checks that leave the state alone -/

namespace Annotated

/-- Two checks leave a tree and its image, with results that mirror each other. -/
structure Mirrored (labels : Relabelling) (image : α → α) (convert : β → β)
    (run other : Annotated α β) : Prop where
  tree : other.tree = image run.tree
  result : SlotLang.Mirrored labels.Blames convert run.result other.result

namespace Mirrored

variable {labels : Relabelling} {image : α → α} {convert : β → β}
  {run other : Annotated α β}

theorem plain {tree otherTree : α} {result otherResult : Except Diagnostic β}
    (same : otherTree = image tree)
    (mirrored : SlotLang.Mirrored labels.Blames convert result otherResult) :
    Mirrored labels image convert (.plain tree result) (.plain otherTree otherResult) :=
  ⟨same, mirrored⟩

theorem map {otherImage : γ → γ} {rebuild otherRebuild : α → γ}
    (checked : Mirrored labels image convert run other)
    (rebuilt : ∀ tree, otherRebuild (image tree) = otherImage (rebuild tree)) :
    Mirrored labels otherImage convert (run.map rebuild) (other.map otherRebuild) := by
  constructor
  · change otherRebuild other.tree = otherImage (rebuild run.tree)
    rw [checked.tree, rebuilt]
  · exact checked.result

theorem require {laterConvert : γ → γ} {rule otherRule : β → Except Diagnostic γ}
    (checked : Mirrored labels image convert run other)
    (ruled : ∀ value, SlotLang.Mirrored labels.Blames laterConvert (rule value)
      (otherRule (convert value))) :
    Mirrored labels image laterConvert (run.require rule) (other.require otherRule) :=
  ⟨checked.tree, checked.result.bind ruled⟩

theorem after {conditionConvert : γ → γ} {condition otherCondition : Except Diagnostic γ}
    {untouched otherUntouched : α} {next otherNext : γ → Annotated α β}
    (met : SlotLang.Mirrored labels.Blames conditionConvert condition otherCondition)
    (same : otherUntouched = image untouched)
    (checked : ∀ value, Mirrored labels image convert (next value)
      (otherNext (conditionConvert value))) :
    Mirrored labels image convert (Annotated.after condition untouched next)
      (Annotated.after otherCondition otherUntouched otherNext) := by
  cases met with
  | ok converted =>
      subst converted
      exact checked _
  | error blamed => exact ⟨same, .error blamed⟩

theorem andThen {laterImage : γ → γ} {laterConvert : δ → δ} {untouched otherUntouched : γ}
    {next otherNext : β → Annotated γ δ} (checked : Mirrored labels image convert run other)
    (same : otherUntouched = laterImage untouched)
    (laterChecked : ∀ value, Mirrored labels laterImage laterConvert (next value)
      (otherNext (convert value))) :
    Mirrored labels (Prod.map image laterImage) laterConvert (run.andThen untouched next)
      (other.andThen otherUntouched otherNext) := by
  rcases run with ⟨tree, result⟩
  rcases other with ⟨otherTree, otherResult⟩
  rcases checked with ⟨sameTree, mirrored⟩
  change otherTree = image tree at sameTree
  subst sameTree
  cases mirrored with
  | ok converted =>
      subst converted
      exact ⟨Prod.ext rfl (laterChecked _).tree, (laterChecked _).result⟩
  | error blamed => exact ⟨Prod.ext rfl same, .error blamed⟩

end Mirrored

end Annotated

/-- A type goes into a slot, or is refused by it, as the relabelled type does. -/
theorem Mark.mirrored_annotate (labels : Relabelling) (mark : Mark) (type : Ty) :
    Mirrored labels.Blames (Mark.relabel labels) (mark.annotate type)
      ((mark.relabel labels).annotate (type.relabel labels)) := by
  rcases mark with ⟨span, slot⟩
  cases slot with
  | none => exact .ok rfl
  | some existing =>
      simp only [Mark.annotate, Mark.relabel, Option.map_some, Ty.relabel_inj]
      split
      · exact .ok rfl
      · refine .error ⟨rfl, rfl, fun fixes => ?_⟩
        simp only [Ty.relabel_of_fixesNames fixes]

theorem Annotated.Mirrored.settle {labels : Relabelling} {image : α → α}
    {parts others : Annotated α Ty} {mark : Mark} {rebuild otherRebuild : Mark → α → Expr}
    (checked : Mirrored labels image (Ty.relabel labels) parts others)
    (rebuilt : ∀ mark tree, otherRebuild (mark.relabel labels) (image tree) =
      (rebuild mark tree).relabel labels) :
    Mirrored labels (Expr.relabel labels) (Ty.relabel labels) (parts.settle mark rebuild)
      (others.settle (mark.relabel labels) otherRebuild) := by
  rcases parts with ⟨tree, result⟩
  rcases others with ⟨otherTree, otherResult⟩
  rcases checked with ⟨sameTree, mirrored⟩
  change otherTree = image tree at sameTree
  subst sameTree
  cases mirrored with
  | error blamed => exact ⟨rebuilt mark tree, .error blamed⟩
  | @ok type _ converted =>
      subst converted
      have annotated := mark.mirrored_annotate labels type
      simp only [Annotated.settle]
      generalize mark.annotate type = filling,
        (mark.relabel labels).annotate (type.relabel labels) = otherFilling at annotated ⊢
      cases annotated with
      | ok filled =>
          subst filled
          exact ⟨rebuilt _ tree, .ok rfl⟩
      | error blamed => exact ⟨rebuilt mark tree, .error blamed⟩

/-! ## States -/

/-- The same members up to the labels, in whatever order they were declared. -/
structure Members.Agree (labels : Relabelling) (members others : Members) : Prop where
  fields : ∀ name, others.field? (labels.name name) =
    (members.field? name).map (Ty.relabel labels)
  methods : ∀ name, others.method? (labels.name name) =
    (members.method? name).map (Signature.relabel labels)

/-- Two symbols are the same up to the labels. -/
inductive Symbol.Agree (labels : Relabelling) : Symbol → Symbol → Prop where
  | ofVariable (type : Ty) : Agree labels (.ofVariable type) (.ofVariable (type.relabel labels))
  | ofFunction (signature : Signature) :
      Agree labels (.ofFunction signature) (.ofFunction (signature.relabel labels))
  | ofClass {members others : Members} (agree : members.Agree labels others) :
      Agree labels (.ofClass members) (.ofClass others)

theorem Symbol.agree_relabel (labels : Relabelling) (symbol : Symbol) :
    symbol.Agree labels (symbol.relabel labels) := by
  cases symbol with
  | ofVariable type => exact .ofVariable type
  | ofFunction signature => exact .ofFunction signature
  | ofClass members =>
      exact .ofClass ⟨members.field?_relabel labels, members.method?_relabel labels⟩

/-- Each name denotes in the other scopes, relabelled, what it denotes in these. -/
def Scopes.Agree (labels : Relabelling) (scopes others : Scopes) : Prop :=
  ∀ name, Option.Rel (Symbol.Agree labels) (scopes.lookup? name)
    (others.lookup? (labels.name name))

theorem Scopes.lookup?_insert (frame : Frame) (outer : Scopes) (name other : String)
    (symbol : Symbol) :
    lookup? (Table.insert frame name symbol :: outer) other =
      if other = name then some symbol else lookup? (frame :: outer) other := by
  unfold lookup?
  rw [List.findSome?_cons, Table.get?_insert, List.findSome?_cons]
  by_cases same : other = name
  · simp only [same, if_true]
  · simp only [same, if_false]

/-- Two active states that no check can tell apart, up to the labels: names denote the
same, the same names are taken in the innermost scope, and the same return type is
expected. -/
structure Checker.Alike (labels : Relabelling) (checker other : Checker) : Prop where
  agree : checker.scopes.Agree labels other.scopes
  taken : ∀ name, (other.scopes.innermost? (labels.name name)).isSome =
    (checker.scopes.innermost? name).isSome
  active : checker.scopes ≠ []
  otherActive : other.scopes ≠ []
  expected : other.expectedReturn = checker.expectedReturn.relabel labels

/-! ## Checks that carry the state -/

namespace Checked

/-- Two checks leave a tree and its image in states that are alike, and their outcomes
mirror each other. -/
structure Mirrored (labels : Relabelling) (image : α → α) (run other : Checked α) :
    Prop where
  tree : other.tree = image run.tree
  outcome : SlotLang.Mirrored labels.Rejects id run.outcome other.outcome
  state : run.checker.Alike labels other.checker

namespace Mirrored

variable {labels : Relabelling} {image : α → α} {run other : Checked α}
  {checker otherChecker : Checker}

theorem done {tree otherTree : α} (alike : checker.Alike labels otherChecker)
    (same : otherTree = image tree) :
    Mirrored labels image (.done checker tree) (.done otherChecker otherTree) :=
  ⟨same, .ok rfl, alike⟩

theorem rejected {tree otherTree : α} {diagnostic otherDiagnostic : Diagnostic}
    {events otherEvents : List Event} (alike : checker.Alike labels otherChecker)
    (same : otherTree = image tree) (blamed : labels.Blames diagnostic otherDiagnostic) :
    Mirrored labels image ⟨tree, checker, .error (.rejected diagnostic), events⟩
      ⟨otherTree, otherChecker, .error (.rejected otherDiagnostic), otherEvents⟩ :=
  ⟨same, .error (.rejected blamed), alike⟩

theorem ofAnnotated {annotated others : Annotated α Unit}
    (alike : checker.Alike labels otherChecker)
    (checked : Annotated.Mirrored labels image id annotated others) :
    Mirrored labels image (.ofAnnotated checker annotated)
      (.ofAnnotated otherChecker others) :=
  ⟨checked.tree, checked.result.mapError .rejected, alike⟩

theorem map {otherImage : β → β} {rebuild otherRebuild : α → β}
    (checked : Mirrored labels image run other)
    (rebuilt : ∀ tree, otherRebuild (image tree) = otherImage (rebuild tree)) :
    Mirrored labels otherImage (run.map rebuild) (other.map otherRebuild) := by
  constructor
  · change otherRebuild other.tree = otherImage (rebuild run.tree)
    rw [checked.tree, rebuilt]
  · exact checked.outcome
  · exact checked.state

theorem andThen {laterImage : β → β} {untouched otherUntouched : β}
    {next otherNext : Checker → Checked β} (checked : Mirrored labels image run other)
    (same : otherUntouched = laterImage untouched)
    (laterChecked : ∀ {checker otherChecker : Checker}, checker.Alike labels otherChecker →
      Mirrored labels laterImage (next checker) (otherNext otherChecker)) :
    Mirrored labels (Prod.map image laterImage) (run.andThen untouched next)
      (other.andThen otherUntouched otherNext) := by
  rcases run with ⟨tree, state, outcome, events⟩
  rcases other with ⟨otherTree, otherState, otherOutcome, otherEvents⟩
  rcases checked with ⟨sameTree, mirrored, alike⟩
  have later := laterChecked alike
  cases mirrored with
  | ok => exact ⟨Prod.ext sameTree later.tree, later.outcome, later.state⟩
  | error failed => exact ⟨Prod.ext sameTree same, .error failed, alike⟩

theorem followedBy {first otherFirst : Checked Unit} {untouched otherUntouched : α}
    {next otherNext : Checker → Checked α} (checked : Mirrored labels id first otherFirst)
    (same : otherUntouched = image untouched)
    (laterChecked : ∀ {checker otherChecker : Checker}, checker.Alike labels otherChecker →
      Mirrored labels image (next checker) (otherNext otherChecker)) :
    Mirrored labels image (first.followedBy untouched next)
      (otherFirst.followedBy otherUntouched otherNext) :=
  (checked.andThen same laterChecked).map fun _ => rfl

theorem provided {condition otherCondition : Except Diagnostic Unit}
    {untouched otherUntouched : α}
    (met : SlotLang.Mirrored labels.Blames id condition otherCondition)
    (alike : checker.Alike labels otherChecker) (same : otherUntouched = image untouched)
    (checked : Mirrored labels image run other) :
    Mirrored labels image (.provided condition checker untouched run)
      (.provided otherCondition otherChecker otherUntouched other) := by
  cases met with
  | ok => exact checked
  | error blamed => exact .rejected alike same blamed

end Mirrored

end Checked

/-! ## Binding names -/

namespace Checker

variable {labels : Relabelling} {checker other : Checker}

/-- A new name may be bound in both states, which are alike again afterwards; a name that
is taken is taken in both. -/
theorem mirrored_define (alike : checker.Alike labels other) (name : String)
    (symbol : Symbol) (position : Position) :
    Checked.Mirrored labels id (checker.define name symbol position)
      (other.define (labels.name name) (symbol.relabel labels)
        (labels.start position)) := by
  rcases checker with ⟨_ | ⟨frame, outer⟩, returnTypes⟩
  · exact absurd rfl alike.active
  rcases other with ⟨_ | ⟨otherFrame, otherOuter⟩, otherReturnTypes⟩
  · exact absurd rfl alike.otherActive
  have taken : ∀ name, otherFrame.contains (labels.name name) = frame.contains name :=
    alike.taken
  simp only [define, Scopes.define, taken]
  cases frame.contains name with
  | true => exact .rejected alike rfl ⟨rfl, rfl, fun fixes => by rw [fixes]⟩
  | false =>
      -- No other name has the same label, so the new name hides the same one in both.
      refine ⟨rfl, .ok rfl, ?_, ?_, List.cons_ne_nil _ _, List.cons_ne_nil _ _,
        alike.expected⟩
      · intro found
        simp only [Bool.false_eq_true, if_false, Scopes.lookup?_insert,
          labels.injective.eq_iff]
        by_cases same : found = name
        · simp only [same, if_true]
          exact .some (symbol.agree_relabel labels)
        · simp only [same, if_false]
          exact alike.agree found
      · intro found
        have takenBefore := alike.taken found
        simp only [Scopes.innermost?, List.head?_cons, Option.bind_some] at takenBefore
        simp only [Bool.false_eq_true, if_false, Scopes.innermost?, List.head?_cons,
          Option.bind_some, Table.get?_insert, labels.injective.eq_iff]
        by_cases same : found = name
        · simp only [same, if_true, Option.isSome_some]
        · simp only [same, if_false]
          exact takenBefore

/-- The states inside of a function and of its relabelled copy are alike, before any name
is bound there. -/
theorem Alike.enter (alike : checker.Alike labels other) (returnType : Ty) :
    Alike labels ⟨∅ :: checker.scopes, returnType :: checker.returnTypes⟩
      ⟨∅ :: other.scopes, returnType.relabel labels :: other.returnTypes⟩ where
  agree := alike.agree
  taken := fun _ => rfl
  active := List.cons_ne_nil _ _
  otherActive := List.cons_ne_nil _ _
  expected := rfl

end Checker

end SlotLang
