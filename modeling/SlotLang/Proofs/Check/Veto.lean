import SlotLang.Proofs.Check.Discipline
import SlotLang.Proofs.Check.Erasure

/-!
# Vetoes of old annotations

A tree may carry annotations before it is checked, from an earlier check that failed
or from an edit of a checked tree.  This module says what such an annotation can do: it
refuses a type that differs from it.  Two runs, on a tree with annotations and on the
same tree without, are in step if they do the same up to the first such veto.  Each way
of combining checks keeps runs in step, so every tree is checked in step with its
erasure.
-/

namespace SlotLang

variable {α β γ δ : Type}

/-! ## Vetoes -/

/-- What the annotation of a node says to the type that a check of the node finds. -/
def Expr.veto (old new : Expr) : Except Diagnostic Unit :=
  match old.type?, new.type? with
  | some existing, some found =>
      if existing = found then .ok ()
      else
        .error
          { cause := .typeMismatch existing.text found.text, position := old.start }
  | _, _ => .ok ()

/-- The first veto of several nodes. -/
def vetoAll : List Expr → List Expr → Except Diagnostic Unit
  | old :: olds, new :: news => (old.veto new).bind fun _ => vetoAll olds news
  | _, _ => .ok ()

/-- Old nodes stand against as many new ones, each of which carries a type. -/
def Expr.Filled (olds news : List Expr) : Prop :=
  List.Forall₂ (fun _ new => ∃ type, new.type? = some type) olds news

theorem vetoAll_append {first second olds news : List Expr}
    (filled : Expr.Filled first second) :
    vetoAll (first ++ olds) (second ++ news) =
      (vetoAll first second).bind fun _ => vetoAll olds news := by
  induction filled with
  | nil => rfl
  | @cons old new first second _ _ inductionHypothesis =>
      simp only [List.cons_append, vetoAll, inductionHypothesis]
      cases old.veto new <;> rfl

/-- A node that carries a type is vetoed by another type only. -/
theorem Expr.veto_cases (old : Expr) {new : Expr} {found : Ty}
    (label : new.type? = some found) :
    old.Respected new ∧ old.veto new = .ok () ∨
      ∃ existing, old.type? = some existing ∧ existing ≠ found ∧ old.veto new = .error
        { cause := .typeMismatch existing.text found.text, position := old.start } := by
  cases slot : old.type? with
  | none =>
      left
      constructor
      · intro type filled
        rw [slot] at filled
        cases filled
      · simp only [veto, slot]
  | some existing =>
      by_cases agrees : existing = found
      · left
        subst existing
        constructor
        · intro type filled
          rw [label, ← slot]
          exact filled
        · simp only [veto, slot, label, if_true]
      · right
        exact ⟨existing, rfl, agrees, by simp only [veto, slot, label, agrees, if_false]⟩

theorem vetoAll_of_respected {olds news : List Expr}
    (respected : List.Forall₂ Expr.Respected olds news) : vetoAll olds news = .ok () := by
  induction respected with
  | nil => rfl
  | @cons old new _ _ same _ inductionHypothesis =>
      have silent : old.veto new = .ok () := by
        cases slot : old.type? with
        | none => simp only [Expr.veto, slot]
        | some existing => simp only [Expr.veto, slot, same existing slot, if_true]
      rw [vetoAll, silent]
      exact inductionHypothesis

/-- The first annotation of several old nodes that the new nodes do not respect belongs
to `old` and says `existing`, where the new node says `found`. -/
def Expr.FirstConflict (olds news : List Expr) (old : Expr) (existing found : Ty) : Prop :=
  ∃ before after earlier new later,
    olds = before ++ old :: after ∧ news = earlier ++ new :: later ∧
      List.Forall₂ Expr.Respected before earlier ∧
        old.type? = some existing ∧ new.type? = some found ∧ existing ≠ found

/-- There is no veto if all annotations are respected; otherwise the first annotation
that is not speaks up. -/
theorem vetoAll_cases {olds news : List Expr} (filled : Expr.Filled olds news) :
    List.Forall₂ Expr.Respected olds news ∧ vetoAll olds news = .ok () ∨
      ∃ old existing found, Expr.FirstConflict olds news old existing found ∧
        vetoAll olds news = .error
          { cause := .typeMismatch existing.text found.text, position := old.start } := by
  induction filled with
  | nil => exact .inl ⟨.nil, rfl⟩
  | @cons old new olds news label _ inductionHypothesis =>
      rcases label with ⟨found, label⟩
      rcases old.veto_cases label with ⟨respected, silent⟩ | ⟨existing, slot, conflict, spoken⟩
      · rw [vetoAll, silent]
        rcases inductionHypothesis with ⟨others, passed⟩ | ⟨first, existing, found, conflict, spoken⟩
        · exact .inl ⟨.cons respected others, passed⟩
        · rcases conflict with ⟨before, after, earlier, other, later, rfl, rfl, others, clash⟩
          exact .inr ⟨first, existing, found, ⟨old :: before, after, new :: earlier, other,
            later, rfl, rfl, .cons respected others, clash⟩, spoken⟩
      · right
        rw [vetoAll, spoken]
        exact ⟨old, existing, found,
          ⟨[], olds, [], new, news, rfl, rfl, .nil, slot, label, conflict⟩, rfl⟩

/-! ## Checks that leave the state alone -/

namespace Annotated

/-- `run` checks a tree with the annotations of `old`, and `bare` the same tree without
any.  If `bare` succeeds, `run` succeeds up to the first veto; and `run` succeeds only
with what `bare` finds. -/
structure Vetoed [Slotted α] (old : α) (run bare : Annotated α β) : Prop where
  vetoed : ∀ value, bare.result = .ok value →
    Expr.Filled (Slotted.nodes old) (Slotted.nodes bare.tree) ∧
      run.result =
        (vetoAll (Slotted.nodes old) (Slotted.nodes bare.tree)).map fun _ => value
  accepted : ∀ value, run.result = .ok value →
    bare.result = .ok value ∧ run.tree = bare.tree

namespace Vetoed

variable [Slotted α] {old : α} {run bare : Annotated α β}

/-- A tree without nodes has no veto. -/
theorem plain (result : Except Diagnostic β) :
    Vetoed () (.plain () result) (.plain () result) := by
  constructor
  · intro value passed
    exact ⟨.nil, passed⟩
  · intro value passed
    exact ⟨passed, rfl⟩

theorem map [Slotted γ] {rebuild : α → γ} (checked : Vetoed old run bare)
    (rebuilds : Slotted.Rebuilds rebuild) :
    Vetoed (rebuild old) (run.map rebuild) (bare.map rebuild) := by
  constructor
  · intro value passed
    simp only [map_tree, rebuilds.nodes]
    exact checked.vetoed value passed
  · intro value passed
    rcases checked.accepted value passed with ⟨barePassed, tree⟩
    exact ⟨barePassed, congrArg rebuild tree⟩

theorem require (checked : Vetoed old run bare) (rule : β → Except Diagnostic γ) :
    Vetoed old (run.require rule) (bare.require rule) := by
  constructor
  · intro value passed
    rcases require_eq_ok_iff.mp passed with ⟨middle, barePassed, granted⟩
    rcases checked.vetoed middle barePassed with ⟨filled, result⟩
    constructor
    · exact filled
    · change run.result.bind rule = _
      rw [result, require_tree]
      cases vetoAll (Slotted.nodes old) (Slotted.nodes bare.tree) with
      | error => rfl
      | ok => exact granted
  · intro value passed
    rcases require_eq_ok_iff.mp passed with ⟨middle, runPassed, granted⟩
    rcases checked.accepted middle runPassed with ⟨barePassed, tree⟩
    exact ⟨require_eq_ok_iff.mpr ⟨middle, barePassed, granted⟩, tree⟩

theorem after {next bareNext : γ → Annotated α β} (condition : Except Diagnostic γ)
    (bareOld : α) (checked : ∀ value, condition = .ok value →
      Vetoed old (next value) (bareNext value)) :
    Vetoed old (Annotated.after condition old next)
      (Annotated.after condition bareOld bareNext) := by
  cases condition with
  | error =>
      constructor
      · intro value passed
        cases passed
      · intro value passed
        cases passed
  | ok value => exact checked value rfl

/-- Vetoes come in the order in which the parts are checked. -/
theorem andThen [Slotted γ] {later : γ} {next bareNext : β → Annotated γ δ}
    (checked : Vetoed old run bare) (bareLater : γ)
    (laterChecked : ∀ value, bare.result = .ok value →
      Vetoed later (next value) (bareNext value)) :
    Vetoed (old, later) (run.andThen later next) (bare.andThen bareLater bareNext) := by
  constructor
  · intro value passed
    rcases andThen_eq_ok_iff.mp passed with ⟨middle, barePassed, laterPassed⟩
    rcases checked.vetoed middle barePassed with ⟨filled, result⟩
    rcases (laterChecked middle barePassed).vetoed value laterPassed with
      ⟨laterFilled, laterResult⟩
    rw [andThen_of_ok barePassed]
    constructor
    · exact List.rel_append filled laterFilled
    · change _ = (vetoAll (_ ++ _) (_ ++ _)).map _
      rw [vetoAll_append filled]
      cases veto : vetoAll (Slotted.nodes old) (Slotted.nodes bare.tree) with
      | error diagnostic =>
          rw [veto] at result
          rw [andThen_of_error result]
          rfl
      | ok =>
          rw [veto] at result
          rw [andThen_of_ok result]
          exact laterResult
  · intro value passed
    rcases andThen_eq_ok_iff.mp passed with ⟨middle, runPassed, laterPassed⟩
    rcases checked.accepted middle runPassed with ⟨barePassed, tree⟩
    rcases (laterChecked middle barePassed).accepted value laterPassed with
      ⟨laterBarePassed, laterTree⟩
    rw [andThen_of_ok runPassed, andThen_of_ok barePassed]
    exact ⟨laterBarePassed, Prod.ext tree laterTree⟩

end Vetoed

theorem settle_of_allows {parts : Annotated α Ty} {mark : Mark} {type : Ty}
    (passed : parts.result = .ok type) (allowed : mark.Allows type)
    (rebuild : Mark → α → Expr) :
    parts.settle mark rebuild =
      { tree := rebuild { mark with type? := some type } parts.tree
        result := .ok type } := by
  rcases mark with ⟨span, slot⟩
  cases slot with
  | none => simp only [settle, passed, Mark.annotate]
  | some existing =>
      cases allowed existing rfl
      simp only [settle, passed, Mark.annotate, if_true]

theorem settle_of_conflict {parts : Annotated α Ty} {mark : Mark} {existing type : Ty}
    (passed : parts.result = .ok type) (slot : mark.type? = some existing)
    (conflict : existing ≠ type) (rebuild : Mark → α → Expr) :
    (parts.settle mark rebuild).result = .error
      { cause := .typeMismatch existing.text type.text, position := mark.start } := by
  simp only [settle, passed, Mark.annotate, slot, conflict, if_false]

/-- The veto of a node comes after those of its parts. -/
theorem Vetoed.settle [Slotted α] {old : α} {parts bare : Annotated α Ty} {mark : Mark}
    {rebuild : Mark → α → Expr} (checked : Vetoed old parts bare)
    (rebuilds : Slotted.RebuildsNode rebuild) :
    Vetoed (rebuild mark old) (parts.settle mark rebuild)
      (bare.settle mark.erase rebuild) := by
  have empty : ∀ type, mark.erase.Allows type := Mark.allows_of_empty rfl
  constructor
  · intro type passed
    have barePassed := (settle_eq_ok_iff.mp passed).1
    rcases checked.vetoed type barePassed with ⟨filled, result⟩
    rw [settle_of_allows barePassed (empty type), rebuilds.nodes, rebuilds.nodes]
    constructor
    · apply List.rel_append filled
      exact .cons ⟨type, congrArg Mark.type? (rebuilds.mark _ _)⟩ .nil
    · rw [vetoAll_append filled]
      cases veto : vetoAll (Slotted.nodes old) (Slotted.nodes bare.tree) with
      | error diagnostic =>
          rw [veto] at result
          simp only [Annotated.settle, result, Except.map, Except.bind]
      | ok =>
          rw [veto] at result
          -- No part has refused, so only the slot of the node itself is left.
          have passed : parts.result = .ok type := result
          simp only [Except.bind, vetoAll, Expr.veto, Expr.type?, Expr.start, rebuilds.mark]
          cases slot : mark.type? with
          | none =>
              rw [settle_of_allows passed (Mark.allows_of_empty slot type)]
              rfl
          | some existing =>
              by_cases agrees : existing = type
              · have allowed : mark.Allows type := by
                  intro other filled
                  rw [slot] at filled
                  cases filled
                  exact agrees
                rw [settle_of_allows passed allowed]
                simp only [agrees, if_true, Except.map]
              · rw [settle_of_conflict passed slot agrees]
                simp only [agrees, if_false, Except.map]
  · intro type passed
    rcases settle_eq_ok_iff.mp passed with ⟨partsPassed, allowed⟩
    rcases checked.accepted type partsPassed with ⟨barePassed, tree⟩
    rw [settle_of_allows partsPassed allowed, settle_of_allows barePassed (empty type), tree]
    exact ⟨rfl, rfl⟩

end Annotated

/-! ## Work that changes the state -/

namespace Checked

/-- `run` checks a tree with the annotations of `old`, and `bare` the same tree without
any, both from one state.  If `bare` succeeds, `run` succeeds up to the first veto; and
`run` succeeds only as `bare` does. -/
structure Vetoed [Slotted α] (old : α) (run bare : Checked α) : Prop where
  vetoed : ∀ after, bare.EndsIn after →
    Expr.Filled (Slotted.nodes old) (Slotted.nodes bare.tree) ∧
      run.outcome =
        (vetoAll (Slotted.nodes old) (Slotted.nodes bare.tree)).mapError .rejected
  accepted : ∀ after, run.EndsIn after → bare.EndsIn after ∧ run.tree = bare.tree

namespace Vetoed

variable [Slotted α] {old : α} {run bare : Checked α}

/-- Nothing is asked of runs that both fail. -/
theorem of_failed {failure bareFailure : Failure} (failed : run.outcome = .error failure)
    (bareFailed : bare.outcome = .error bareFailure) : Vetoed old run bare := by
  constructor
  · rintro after ⟨passed, -⟩
    rw [bareFailed] at passed
    cases passed
  · rintro after ⟨passed, -⟩
    rw [failed] at passed
    cases passed

/-- Preparing the state is the same for both runs. -/
theorem prepared (prepare : Checked Unit) : Vetoed () prepare prepare := by
  constructor
  · rintro after ⟨passed, -⟩
    exact ⟨.nil, passed⟩
  · intro after ended
    exact ⟨ended, rfl⟩

theorem ofAnnotated {annotated bare : Annotated α Unit} (checker : Checker)
    (checked : Annotated.Vetoed old annotated bare) :
    Vetoed old (.ofAnnotated checker annotated) (.ofAnnotated checker bare) := by
  constructor
  · intro after ended
    rcases checked.vetoed () (endsIn_ofAnnotated_iff.mp ended).1 with ⟨filled, result⟩
    constructor
    · exact filled
    · change annotated.result.mapError Failure.rejected =
        (vetoAll (Slotted.nodes old) (Slotted.nodes bare.tree)).mapError Failure.rejected
      rw [result]
      cases vetoAll (Slotted.nodes old) (Slotted.nodes bare.tree) <;> rfl
  · intro after ended
    rcases endsIn_ofAnnotated_iff.mp ended with ⟨passed, rfl⟩
    rcases checked.accepted () passed with ⟨barePassed, tree⟩
    exact ⟨endsIn_ofAnnotated_iff.mpr ⟨barePassed, rfl⟩, tree⟩

theorem map [Slotted β] {rebuild : α → β} (checked : Vetoed old run bare)
    (rebuilds : Slotted.Rebuilds rebuild) :
    Vetoed (rebuild old) (run.map rebuild) (bare.map rebuild) := by
  constructor
  · intro after ended
    simp only [Checked.map, rebuilds.nodes]
    exact checked.vetoed after ended
  · intro after ended
    rcases checked.accepted after ended with ⟨bareEnded, tree⟩
    exact ⟨bareEnded, congrArg rebuild tree⟩

theorem andThen [Slotted β] {later : β} {next bareNext : Checker → Checked β}
    (checked : Vetoed old run bare) (bareLater : β)
    (laterChecked : ∀ checker, Vetoed later (next checker) (bareNext checker)) :
    Vetoed (old, later) (run.andThen later next) (bare.andThen bareLater bareNext) := by
  constructor
  · intro after ended
    rcases endsIn_andThen_iff.mp ended with ⟨between, bareEnded, laterEnded⟩
    rcases checked.vetoed between bareEnded with ⟨filled, outcome⟩
    rcases (laterChecked between).vetoed after laterEnded with ⟨laterFilled, laterOutcome⟩
    rw [andThen_of_ok bareEnded.1, bareEnded.2]
    constructor
    · exact List.rel_append filled laterFilled
    · change _ = (vetoAll (_ ++ _) (_ ++ _)).mapError _
      rw [vetoAll_append filled]
      cases veto : vetoAll (Slotted.nodes old) (Slotted.nodes bare.tree) with
      | error diagnostic =>
          rw [veto] at outcome
          rw [andThen_of_error outcome]
          rfl
      | ok =>
          rw [veto] at outcome
          -- Without a veto the first run has left the state that the bare one left.
          have sameState := (checked.accepted _ (endsIn_of_outcome outcome)).1.2
          rw [andThen_of_ok outcome, ← sameState, bareEnded.2]
          exact laterOutcome
  · intro after ended
    rcases endsIn_andThen_iff.mp ended with ⟨between, firstEnded, laterEnded⟩
    rcases checked.accepted between firstEnded with ⟨bareEnded, tree⟩
    rcases (laterChecked between).accepted after laterEnded with ⟨laterBareEnded, laterTree⟩
    constructor
    · exact endsIn_andThen_iff.mpr ⟨between, bareEnded, laterBareEnded⟩
    · rw [andThen_of_ok firstEnded.1, andThen_of_ok bareEnded.1, firstEnded.2, bareEnded.2]
      exact Prod.ext tree laterTree

theorem followedBy {next bareNext : Checker → Checked α} (prepare : Checked Unit)
    (bareOld : α) (checked : ∀ checker, Vetoed old (next checker) (bareNext checker)) :
    Vetoed old (prepare.followedBy old next) (prepare.followedBy bareOld bareNext) := by
  have parts := (prepared prepare).andThen bareOld checked
  constructor
  · exact parts.vetoed
  · intro after ended
    rcases parts.accepted after ended with ⟨bareEnded, tree⟩
    exact ⟨bareEnded, congrArg Prod.snd tree⟩

theorem provided (condition : Except Diagnostic Unit) (checker : Checker) (bareOld : α)
    (checked : Vetoed old run bare) :
    Vetoed old (.provided condition checker old run)
      (.provided condition checker bareOld bare) := by
  cases condition with
  | error => exact .of_failed rfl rfl
  | ok => exact checked

/-- A scope around both runs is closed again whichever of them stops early. -/
theorem withScope {scopes : Scopes} {returnTypes : List Ty}
    {work bareWork : Checker → Checked α}
    (checked : Vetoed old (work ⟨∅ :: scopes, returnTypes⟩)
      (bareWork ⟨∅ :: scopes, returnTypes⟩))
    (disciplined : (work ⟨∅ :: scopes, returnTypes⟩).Disciplined ∅ scopes returnTypes)
    (bareDisciplined :
      (bareWork ⟨∅ :: scopes, returnTypes⟩).Disciplined ∅ scopes returnTypes) :
    Vetoed old (Checker.withScope ⟨scopes, returnTypes⟩ work)
      (Checker.withScope ⟨scopes, returnTypes⟩ bareWork) := by
  have outside := Checker.withScope_of_disciplined work disciplined
  have bareOutside := Checker.withScope_of_disciplined bareWork bareDisciplined
  constructor
  · rintro after ⟨passed, -⟩
    rw [bareOutside.1] at passed
    rw [outside.1]
    exact checked.vetoed _ (endsIn_of_outcome passed)
  · rintro after ⟨passed, rfl⟩
    rw [outside.1] at passed
    rcases checked.accepted _ (endsIn_of_outcome passed) with ⟨bareEnded, tree⟩
    constructor
    · exact ⟨bareOutside.1.trans bareEnded.1, bareOutside.2.trans outside.2.symm⟩
    · exact tree

theorem expecting {returnType : Ty} {checker : Checker} {work bareWork : Checker → Checked α}
    (checked : ∀ checker, Vetoed old (work checker) (bareWork checker)) :
    Vetoed old (checker.expecting returnType work)
      (checker.expecting returnType bareWork) := by
  rcases checker with ⟨scopes, returnTypes⟩
  have inside := checked ⟨scopes, returnType :: returnTypes⟩
  constructor
  · rintro after ⟨passed, -⟩
    exact inside.vetoed _ (endsIn_of_outcome passed)
  · intro after ended
    rcases Checker.endsIn_expecting_iff.mp ended with ⟨left, leftEnded, rfl⟩
    rcases inside.accepted left leftEnded with ⟨bareEnded, tree⟩
    exact ⟨Checker.endsIn_expecting_iff.mpr ⟨left, bareEnded, rfl⟩, tree⟩

end Vetoed

/-- Work on a tree is in step with work on its erasure.  A run that stops early must
still close its scopes, or the outcomes could differ in more than a veto. -/
structure InStep [Slotted α] (work : Checker → α → Checked α) (tree : α) : Prop where
  disciplined : discipline.Work work tree
  bareDisciplined : discipline.Work work (Slotted.erase tree)
  vetoed : ∀ checker, Vetoed tree (work checker tree) (work checker (Slotted.erase tree))

end Checked

/-! ## All checks -/

/-- A tree and its erasure are checked in step. -/
def lockstep : CheckProperty where
  Check check tree := Annotated.Vetoed tree (check tree) (check (Slotted.erase tree))
  Work work tree := Checked.InStep work tree

theorem lockstep_congruence : lockstep.Congruence where
  check_congr holds agree := by
    dsimp only [lockstep]
    rw [agree _ rfl, agree _ (Slotted.erase_erase _)]
    exact holds
  plain result := .plain result
  map rebuild holds rebuilds unfolds := by
    dsimp only [lockstep]
    rw [rebuilds.erase, unfolds, unfolds]
    exact holds.map rebuilds
  require rule holds := holds.require rule
  after condition holds := .after condition _ holds
  andThen holds laterHolds := holds.andThen _ (laterHolds _)
  settle rebuild holds rebuilds unfolds := by
    dsimp only [lockstep]
    rw [rebuilds.erase, unfolds _ rfl, unfolds (Mark.erase _) rfl]
    exact holds.settle rebuilds
  work_congr holds agree := by
    constructor
    · exact discipline_congruence.work_congr holds.disciplined agree
    · apply discipline_congruence.work_congr holds.bareDisciplined
      intro checker alike same
      exact agree checker alike (same.trans (Slotted.erase_erase _))
    · intro checker
      rw [agree _ _ rfl, agree _ _ (Slotted.erase_erase _)]
      exact holds.vetoed checker
  done := ⟨discipline_congruence.done, discipline_congruence.done, fun _ => .prepared _⟩
  ofAnnotated holds :=
    ⟨discipline_congruence.ofAnnotated fun _ => trivial,
    discipline_congruence.ofAnnotated fun _ => trivial,
    fun checker => .ofAnnotated checker (holds checker)⟩
  work_map rebuild holds rebuilds unfolds := by
    constructor
    · exact discipline_congruence.work_map rebuild holds.disciplined rebuilds unfolds
    · rw [rebuilds.erase]
      exact discipline_congruence.work_map rebuild holds.bareDisciplined rebuilds unfolds
    · intro checker
      rw [rebuilds.erase, unfolds, unfolds]
      exact (holds.vetoed checker).map rebuilds
  work_andThen holds laterHolds :=
    ⟨discipline_congruence.work_andThen holds.disciplined laterHolds.disciplined,
    discipline_congruence.work_andThen holds.bareDisciplined laterHolds.bareDisciplined,
    fun checker => (holds.vetoed checker).andThen _ laterHolds.vetoed⟩
  followedBy prepared holds :=
    ⟨discipline_congruence.followedBy prepared holds.disciplined,
    discipline_congruence.followedBy prepared holds.bareDisciplined,
    fun _ => .followedBy _ _ holds.vetoed⟩
  provided condition holds :=
    ⟨discipline_congruence.provided condition holds.disciplined,
    discipline_congruence.provided condition holds.bareDisciplined,
    fun checker => (holds.vetoed checker).provided (condition checker) checker _⟩
  withScope holds :=
    ⟨discipline_congruence.withScope holds.disciplined,
    discipline_congruence.withScope holds.bareDisciplined,
    fun _ => .withScope (holds.vetoed _) (holds.disciplined _ _ _)
      (holds.bareDisciplined _ _ _)⟩
  expecting returnType holds :=
    ⟨discipline_congruence.expecting returnType holds.disciplined,
    discipline_congruence.expecting returnType holds.bareDisciplined,
    fun _ => .expecting holds.vetoed⟩

end SlotLang
