import SlotLang.Proofs.Check.Success

/-!
# Work under a scope discipline

Disciplined work closes every scope that it opens and forgets every return type that
it pushes, however it ends.  All it may leave are new names in the innermost frame,
next to the old ones.  Binding names is disciplined, and so is work in sequence or in
a scope of its own if its parts are.
-/

namespace SlotLang

variable {α β : Type}

/-! ## Frames that grow -/

/-- Every binding of a frame is still there in a later one. -/
def Frame.KeptIn (frame later : Frame) : Prop :=
  ∀ name symbol, frame.get? name = some symbol → later.get? name = some symbol

namespace Frame.KeptIn

theorem refl (frame : Frame) : frame.KeptIn frame :=
  fun _ _ bound => bound

theorem trans {first second third : Frame} (early : first.KeptIn second)
    (late : second.KeptIn third) : first.KeptIn third :=
  fun name symbol bound => late name symbol (early name symbol bound)

/-- A name that is new hides no binding. -/
theorem insert {frame : Frame} {name : String} (new : frame.get? name = none)
    (symbol : Symbol) : frame.KeptIn (Table.insert frame name symbol) := by
  intro other found bound
  by_cases same : other = name
  · subst other
    rw [new] at bound
    contradiction
  · rw [Table.get?_insert_of_ne _ _ same]
    exact bound

end Frame.KeptIn

/-! ## Work that keeps the discipline -/

/-- The work was no misuse of the scopes, whether it succeeded or not. -/
def Checked.Proper (checked : Checked α) : Prop :=
  ∀ misuse, checked.outcome ≠ .error (.misused misuse)

/-- Work that started with `frame` on top of the scopes `outer` was proper, and has
left all of the state as it was, up to names added to the frame. -/
structure Checked.Disciplined (checked : Checked α) (frame : Frame) (outer : Scopes)
    (returnTypes : List Ty) : Prop where
  proper : checked.Proper
  state : ∃ left, frame.KeptIn left ∧ checked.checker = ⟨left :: outer, returnTypes⟩

/-- Work is disciplined from every state with an active scope. -/
def Checker.Disciplines (work : Checker → Checked α) : Prop :=
  ∀ frame outer returnTypes,
    (work ⟨frame :: outer, returnTypes⟩).Disciplined frame outer returnTypes

namespace Checked

variable {frame : Frame} {outer : Scopes} {returnTypes : List Ty}

/-- A refusal is no misuse. -/
theorem proper_of_rejected {checked : Checked α} {diagnostic : Diagnostic}
    (rejected : checked.outcome = .error (.rejected diagnostic)) : checked.Proper := by
  intro misuse misused
  rw [rejected] at misused
  cases misused

theorem proper_ofAnnotated (checker : Checker) (annotated : Annotated α Unit) :
    (ofAnnotated checker annotated).Proper := by
  intro misuse misused
  unfold ofAnnotated at misused
  cases result : annotated.result with
  | error => rw [result] at misused; cases misused
  | ok => rw [result] at misused; cases misused

theorem disciplined_of_unchanged {checked : Checked α} (proper : checked.Proper)
    (unchanged : checked.checker = ⟨frame :: outer, returnTypes⟩) :
    checked.Disciplined frame outer returnTypes :=
  ⟨proper, frame, .refl frame, unchanged⟩

theorem disciplined_done (tree : α) :
    (done ⟨frame :: outer, returnTypes⟩ tree).Disciplined frame outer returnTypes := by
  apply disciplined_of_unchanged
  · intro misuse misused
    cases misused
  · rfl

theorem disciplined_ofAnnotated (annotated : Annotated α Unit) :
    (ofAnnotated ⟨frame :: outer, returnTypes⟩ annotated).Disciplined frame outer
      returnTypes :=
  disciplined_of_unchanged (proper_ofAnnotated _ annotated) rfl

theorem Disciplined.map {checked : Checked α}
    (disciplined : checked.Disciplined frame outer returnTypes) (rebuild : α → β) :
    (checked.map rebuild).Disciplined frame outer returnTypes :=
  ⟨disciplined.proper, disciplined.state⟩

/-- Work in sequence keeps the discipline if each part does, wherever the sequence is
cut short. -/
theorem Disciplined.andThen {first : Checked α}
    (disciplined : first.Disciplined frame outer returnTypes) (untouched : β)
    {next : Checker → Checked β}
    (later : ∀ left, (next ⟨left :: outer, returnTypes⟩).Disciplined left outer returnTypes) :
    (first.andThen untouched next).Disciplined frame outer returnTypes := by
  cases outcome : first.outcome with
  | error failure =>
      rw [andThen_of_error outcome]
      constructor
      · intro misuse
        rw [← outcome]
        exact disciplined.proper misuse
      · exact disciplined.state
  | ok =>
      rcases disciplined.state with ⟨between, grown, state⟩
      rcases later between with ⟨proper, left, laterGrown, laterState⟩
      rw [andThen_of_ok outcome, state]
      exact ⟨proper, left, grown.trans laterGrown, laterState⟩

theorem Disciplined.followedBy {first : Checked Unit}
    (disciplined : first.Disciplined frame outer returnTypes) (untouched : β)
    {next : Checker → Checked β}
    (later : ∀ left, (next ⟨left :: outer, returnTypes⟩).Disciplined left outer returnTypes) :
    (first.followedBy untouched next).Disciplined frame outer returnTypes :=
  (disciplined.andThen untouched later).map Prod.snd

end Checked

/-! ## Declarations -/

namespace Checker

variable {frame : Frame} {outer : Scopes} {returnTypes : List Ty}

/-- Binding a name adds it to the innermost frame or refuses it. -/
theorem disciplined_define (name : String) (symbol : Symbol) (position : Position) :
    (define name symbol position ⟨frame :: outer, returnTypes⟩).Disciplined frame outer
      returnTypes := by
  cases found : frame.get? name with
  | none =>
      have bound : (define name symbol position ⟨frame :: outer, returnTypes⟩).EndsIn
          ⟨Table.insert frame name symbol :: outer, returnTypes⟩ :=
        endsIn_define_iff.mpr ⟨found, rfl⟩
      constructor
      · intro misuse misused
        rw [bound.1] at misused
        cases misused
      · exact ⟨_, .insert found symbol, bound.2⟩
  | some existing =>
      have refused : define name symbol position ⟨frame :: outer, returnTypes⟩ =
          { tree := ()
            checker := ⟨frame :: outer, returnTypes⟩
            outcome := .error (.rejected
              { cause := .duplicateDefinition name, position := position })
            events := [] } := by
        simp [define, Scopes.define, Table.contains, found]
      rw [refused]
      exact Checked.disciplined_of_unchanged (Checked.proper_of_rejected rfl) rfl

theorem disciplined_declare (stmt : Stmt) :
    (declare ⟨frame :: outer, returnTypes⟩ stmt).Disciplined frame outer returnTypes := by
  cases stmt with
  | varDecl declaration => exact disciplined_define _ _ _
  | functionDef definition => exact disciplined_define _ _ _
  | classDef definition =>
      cases found : definition.members with
      | error =>
          simp only [declare, found]
          exact Checked.disciplined_of_unchanged (Checked.proper_of_rejected rfl) rfl
      | ok =>
          simp only [declare, found]
          exact disciplined_define _ _ _
  | _ => exact Checked.disciplined_done ()

theorem disciplines_declareAll (body : List Stmt) :
    Disciplines fun checker => checker.declareAll body := by
  induction body with
  | nil => exact fun _ _ _ => Checked.disciplined_done ()
  | cons stmt later inductionHypothesis =>
      intro frame outer returnTypes
      apply (disciplined_declare stmt).followedBy
      intro left
      exact inductionHypothesis left outer returnTypes

theorem disciplines_declareParams (position : Position) (params : List Param) :
    Disciplines fun checker => checker.declareParams position params := by
  induction params with
  | nil => exact fun _ _ _ => Checked.disciplined_done ()
  | cons param later inductionHypothesis =>
      intro frame outer returnTypes
      apply (disciplined_define _ _ _).followedBy
      intro left
      exact inductionHypothesis left outer returnTypes

theorem disciplines_openBlock (body : List Stmt) :
    Disciplines fun checker => checker.openBlock body := by
  intro frame outer returnTypes
  unfold openBlock
  cases expectDeclarationsFirst body with
  | error => exact Checked.disciplined_of_unchanged (Checked.proper_of_rejected rfl) rfl
  | ok => exact disciplines_declareAll body frame outer returnTypes

/-! ## Scopes -/

/-- A scope of its own is closed after disciplined work, so nothing of it is left, and
the work ends as it does inside. -/
theorem withScope_of_disciplined {scopes : Scopes} (work : Checker → Checked α)
    (disciplined : (work ⟨∅ :: scopes, returnTypes⟩).Disciplined ∅ scopes returnTypes) :
    (withScope ⟨scopes, returnTypes⟩ work).outcome =
        (work ⟨∅ :: scopes, returnTypes⟩).outcome ∧
      (withScope ⟨scopes, returnTypes⟩ work).checker = ⟨scopes, returnTypes⟩ := by
  rcases disciplined.state with ⟨left, -, state⟩
  have closed : (work ⟨∅ :: scopes, returnTypes⟩).checker.leave =
      { tree := (), checker := ⟨scopes, returnTypes⟩, outcome := .ok ()
        events := [.leftScope scopes.depth] } := by
    rw [state]
    rfl
  constructor
  · simp only [withScope, enter, Scopes.enter, closed, Except.bind]
  · simp only [withScope, enter, Scopes.enter, closed]

theorem Disciplines.withScope {work : Checker → Checked α} (disciplines : Disciplines work) :
    Disciplines fun checker => checker.withScope work := by
  intro frame outer returnTypes
  have inside := disciplines ∅ (frame :: outer) returnTypes
  rcases withScope_of_disciplined work inside with ⟨outcome, state⟩
  apply Checked.disciplined_of_unchanged _ state
  intro misuse misused
  exact inside.proper misuse (outcome.symm.trans misused)

theorem Disciplines.expecting {work : Checker → Checked α} (returnType : Ty)
    (disciplines : Disciplines work) :
    Disciplines fun checker => checker.expecting returnType work := by
  intro frame outer returnTypes
  rcases disciplines frame outer (returnType :: returnTypes) with
    ⟨proper, left, grown, state⟩
  constructor
  · exact proper
  · have restored : ((⟨frame :: outer, returnTypes⟩ : Checker).expecting returnType
        work).checker = ⟨left :: outer, returnTypes⟩ := by
      simp only [Checker.expecting, state, List.tail_cons]
    exact ⟨left, grown, restored⟩

end Checker

end SlotLang
