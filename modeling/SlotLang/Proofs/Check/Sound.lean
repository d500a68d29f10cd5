import SlotLang.Proofs.Check.Declaration

/-!
# What the checker accepts is well typed

If a check succeeds, the judgement of the same construct is derivable, and the
innermost frame that the check leaves is the one that the judgement leaves.  This
holds whatever the type slots of the tree hold beforehand.
-/

namespace SlotLang

/-! ## Expressions -/

/-- A type meets what a call asks of an argument. -/
def Meets (demand : Option Ty) (type : Ty) : Prop :=
  ∀ asked ∈ demand, asked = type

theorem forall₂_meets_map_some_iff {params types : List Ty} :
    List.Forall₂ Meets (params.map some) types ↔ params = types := by
  rw [List.forall₂_map_left_iff]
  simp [Meets, List.forall₂_eq_eq_eq]

theorem forall₂_meets_replicate_none_iff {count : Nat} {types : List Ty} :
    List.Forall₂ Meets (List.replicate count none) types ↔ types.length = count := by
  induction count generalizing types with
  | zero => simp
  | succ count inductionHypothesis =>
      cases types with
      | nil => simp [List.replicate_succ]
      | cons type types =>
          simp [List.replicate_succ, inductionHypothesis, Meets]

theorem Literal.hasType {scopes : Scopes} {mark : Mark} (value : Literal) :
    (Expr.literal mark value).HasType scopes value.type := by
  cases value with
  | number => exact .number
  | boolean => exact .boolean
  | none => exact .null

/-- A granted unary operation is well typed. -/
theorem UnaryOp.hasType {scopes : Scopes} {mark : Mark} (op : UnaryOp) {operand : Expr}
    (operandTyped : operand.HasType scopes op.type) :
    (Expr.unary mark op operand).HasType scopes op.type := by
  cases op with
  | not => exact .not operandTyped
  | neg => exact .neg operandTyped

/-- A granted binary operation is well typed. -/
theorem BinaryOp.hasType {scopes : Scopes} {mark : Mark} {op : BinaryOp}
    {left right : Expr} {leftStart rightStart : Position} {leftType rightType type : Ty}
    (leftTyped : left.HasType scopes leftType) (rightTyped : right.HasType scopes rightType)
    (granted : op.resultType leftStart rightStart leftType rightType = .ok type) :
    (Expr.binary mark op left right).HasType scopes type := by
  unfold BinaryOp.resultType at granted
  cases family : op.family with
  | arithmetic =>
      simp only [family, map_eq_ok_iff, expectInts_eq_ok_iff] at granted
      rcases granted with ⟨_, ⟨rfl, rfl⟩, rfl⟩
      exact .arithmetic (by cases op <;> simp_all [BinaryOp.family]) leftTyped rightTyped
  | ordering =>
      simp only [family, map_eq_ok_iff, expectInts_eq_ok_iff] at granted
      rcases granted with ⟨_, ⟨rfl, rfl⟩, rfl⟩
      exact .ordering (by cases op <;> simp_all [BinaryOp.family]) leftTyped rightTyped
  | comparison =>
      simp only [family, map_eq_ok_iff, expectType_eq_ok_iff] at granted
      rcases granted with ⟨_, rfl, rfl⟩
      exact .comparison (by cases op <;> simp_all [BinaryOp.family]) leftTyped rightTyped

mutual

/-- An expression has the type that its check finds. -/
theorem Expr.hasType_of_check {scopes : Scopes} (expr : Expr) {type : Ty}
    (passed : (expr.check scopes).result = .ok type) : expr.HasType scopes type := by
  cases expr with
  | literal mark value =>
      rw [Expr.check, Annotated.settle_eq_ok_iff] at passed
      rcases passed with ⟨found, -⟩
      cases found
      exact value.hasType
  | name mark named =>
      rw [Expr.check, Annotated.settle_eq_ok_iff] at passed
      exact .name (Scopes.variableType_eq_ok_iff.mp passed.1)
  | unary mark op operand =>
      rw [Expr.check, Annotated.settle_eq_ok_iff, Annotated.require_eq_ok_iff] at passed
      rcases passed with ⟨⟨operandType, operandPassed, granted⟩, -⟩
      rcases UnaryOp.resultType_eq_ok_iff.mp granted with ⟨rfl, rfl⟩
      exact op.hasType (Expr.hasType_of_check operand operandPassed)
  | binary mark op left right =>
      rw [Expr.check, Annotated.settle_eq_ok_iff, Annotated.andThen_eq_ok_iff] at passed
      rcases passed with ⟨⟨leftType, leftPassed, passed⟩, -⟩
      rcases Annotated.require_eq_ok_iff.mp passed with ⟨rightType, rightPassed, granted⟩
      exact BinaryOp.hasType (Expr.hasType_of_check left leftPassed)
        (Expr.hasType_of_check right rightPassed) granted
  | call mark callee arguments =>
      rw [Expr.check, Annotated.settle_eq_ok_iff, Annotated.after_eq_ok_iff] at passed
      rcases passed with ⟨⟨rule, ruled, passed⟩, -⟩
      rcases Annotated.require_eq_ok_iff.mp passed with ⟨_, argumentsPassed, granted⟩
      cases granted
      rcases Scopes.callRule_eq_ok_iff.mp ruled with
        ⟨builtin, listed, count, rfl⟩ | ⟨signature, unlisted, bound, count, rfl⟩
      · obtain ⟨types, typed, met⟩ := Expr.haveTypes_of_checkAll arguments
          (by simpa using count) argumentsPassed
        exact .builtin listed (forall₂_meets_replicate_none_iff.mp met) typed
      · obtain ⟨types, typed, met⟩ := Expr.haveTypes_of_checkAll arguments
          (by simpa using count) argumentsPassed
        obtain rfl := forall₂_meets_map_some_iff.mp met
        exact .call unlisted bound typed
  | field mark object member =>
      rw [Expr.check, Annotated.settle_eq_ok_iff, Annotated.require_eq_ok_iff] at passed
      rcases passed with ⟨⟨objectType, objectPassed, granted⟩, -⟩
      rcases Scopes.fieldType_eq_ok_iff.mp granted with
        ⟨className, members, rfl, bound, declared⟩
      exact .field (Expr.hasType_of_check object objectPassed) bound declared
  | method mark object member arguments =>
      rw [Expr.check, Annotated.settle_eq_ok_iff, Annotated.andThen_eq_ok_iff] at passed
      rcases passed with ⟨⟨rule, ruled, passed⟩, -⟩
      rcases Annotated.require_eq_ok_iff.mp ruled with ⟨objectType, objectPassed, ruled⟩
      rcases Annotated.require_eq_ok_iff.mp passed with ⟨_, argumentsPassed, granted⟩
      cases granted
      rcases Scopes.methodRule_eq_ok_iff.mp ruled with
        ⟨className, members, ⟨params, returnType⟩, rfl, bound, declared, count, rfl⟩
      -- The arity check leaves no room for a method without a receiver.
      cases params with
      | nil => simp at count
      | cons receiver params =>
          obtain ⟨types, typed, met⟩ := Expr.haveTypes_of_checkAll arguments
            (by simpa using count) argumentsPassed
          obtain rfl := forall₂_meets_map_some_iff.mp met
          exact .method (Expr.hasType_of_check object objectPassed) bound declared typed
termination_by structural expr

/-- The arguments of a call have types that meet what the call asks. -/
theorem Expr.haveTypes_of_checkAll {scopes : Scopes} {demands : List (Option Ty)}
    (arguments : List Expr) (count : demands.length = arguments.length)
    (passed : (Expr.checkAll scopes demands arguments).result = .ok ()) :
    ∃ types, List.Forall₂ (Expr.HasType scopes) arguments types ∧
      List.Forall₂ Meets demands types := by
  cases arguments with
  | nil =>
      obtain rfl := List.eq_nil_of_length_eq_zero count
      exact ⟨[], .nil, .nil⟩
  | cons argument later =>
      cases demands with
      | nil => simp at count
      | cons demand demands =>
          rw [Expr.checkAll, Annotated.map_result, Annotated.andThen_eq_ok_iff] at passed
          rcases passed with ⟨_, passed, laterPassed⟩
          rcases Annotated.require_eq_ok_iff.mp passed with ⟨type, argumentPassed, met⟩
          obtain ⟨types, laterTyped, laterMet⟩ := Expr.haveTypes_of_checkAll later
            (by simpa using count) laterPassed
          exact ⟨type :: types,
            .cons (Expr.hasType_of_check argument argumentPassed) laterTyped,
            .cons (expectDemand_eq_ok_iff.mp met) laterMet⟩
termination_by structural arguments

end

/-! ## Declarations -/

theorem Ty.acceptsInitialiser_iff {declared value : Ty} :
    declared.acceptsInitialiser value = true ↔
      declared = value ∨ (∃ className, declared = .object className) ∧ value = .none := by
  cases declared <;> simp [acceptsInitialiser, isObject, className?]

theorem VarDecl.expectAccepted_eq_ok_iff {declaration : VarDecl} {actual : Ty}
    {value : Unit} :
    declaration.expectAccepted actual = .ok value ↔
      declaration.type = actual ∨
        (∃ className, declaration.type = .object className) ∧ actual = .none := by
  rw [← Ty.acceptsInitialiser_iff]
  unfold expectAccepted
  split <;> simp_all

theorem Expr.expectLiteral_eq_ok_iff {expr : Expr} {value : Unit} :
    expr.expectLiteral = .ok value ↔ expr.isLiteral = true := by
  unfold expectLiteral
  split <;> simp_all

namespace VarDecl

/-- A declaration that passes its check is well typed. -/
theorem wellTyped_of_check {scopes : Scopes} {declaration : VarDecl}
    (passed : (declaration.check scopes).result = .ok ()) :
    declaration.WellTyped scopes := by
  rw [check, Annotated.map_result, Annotated.after_eq_ok_iff] at passed
  rcases passed with ⟨_, condition, passed⟩
  rcases bind_eq_ok_iff.mp condition with ⟨_, resolved, literal⟩
  rcases Annotated.require_eq_ok_iff.mp passed with ⟨type, valuePassed, accepted⟩
  exact ⟨Scopes.resolve_eq_ok_iff.mp resolved, Expr.expectLiteral_eq_ok_iff.mp literal,
    type, Expr.hasType_of_check _ valuePassed, expectAccepted_eq_ok_iff.mp accepted⟩

theorem wellTyped_of_checkAll {scopes : Scopes} {declarations : List VarDecl}
    (passed : (checkAll scopes declarations).result = .ok ()) :
    ∀ declaration ∈ declarations, declaration.WellTyped scopes := by
  induction declarations with
  | nil => simp
  | cons declaration later inductionHypothesis =>
      rw [checkAll, Annotated.map_result, Annotated.andThen_eq_ok_iff] at passed
      rcases passed with ⟨_, firstPassed, laterPassed⟩
      exact List.forall_mem_cons.mpr
        ⟨wellTyped_of_check firstPassed, inductionHypothesis laterPassed⟩

end VarDecl

/-! ## Conditions, assignments and results -/

namespace Expr

variable {scopes : Scopes}

theorem hasType_of_checkCondition {condition : Expr}
    (passed : (condition.checkCondition scopes).result = .ok ()) :
    condition.HasType scopes .bool := by
  rcases Annotated.require_eq_ok_iff.mp passed with ⟨type, conditionPassed, same⟩
  obtain rfl := expectType_eq_ok_iff.mp same
  exact hasType_of_check condition conditionPassed

theorem hasType_of_checkReturn {expected : Ty} {value : Expr}
    (passed : (value.checkReturn scopes expected).result = .ok ()) :
    value.HasType scopes expected := by
  rcases Annotated.require_eq_ok_iff.mp passed with ⟨type, valuePassed, same⟩
  obtain rfl := expectType_eq_ok_iff.mp same
  exact hasType_of_check value valuePassed

theorem hasType_of_checkAssignment {target value : Expr}
    (passed : (checkAssignment scopes target value).result = .ok ()) :
    target.isAssignable = true ∧
      ∃ type, target.HasType scopes type ∧ value.HasType scopes type := by
  rw [checkAssignment, Annotated.after_eq_ok_iff] at passed
  rcases passed with ⟨_, assignable, passed⟩
  rw [Annotated.map_result, Annotated.andThen_eq_ok_iff] at passed
  rcases passed with ⟨valueType, valuePassed, passed⟩
  rcases Annotated.require_eq_ok_iff.mp passed with ⟨targetType, targetPassed, same⟩
  obtain rfl := expectType_eq_ok_iff.mp same
  refine ⟨?_, targetType, hasType_of_check target targetPassed,
    hasType_of_check value valuePassed⟩
  by_contra unassignable
  simp [unassignable] at assignable

end Expr

/-! ## Statements -/

section

variable {outer : Scopes} {returnTypes : List Ty}

/-- If the statements of a block are sound to check, so is the block. -/
theorem Stmt.blockWellTyped_of_inBlock {expected : Ty} {frame : Frame} {body : List Stmt}
    {after : Checker}
    (sound : ∀ {bound : Frame}, (Stmt.checkAll ⟨bound :: outer, returnTypes⟩ body).EndsIn
        after → ∃ left, after = ⟨left :: outer, returnTypes⟩ ∧
          Stmt.AllWellTyped outer expected bound body left)
    (passed : (Checker.inBlock ⟨frame :: outer, returnTypes⟩ body
      fun checker => Stmt.checkAll checker body).EndsIn after) :
    ∃ left, after = ⟨left :: outer, returnTypes⟩ ∧
      Stmt.BlockWellTyped outer expected frame body left := by
  rcases Checker.endsIn_inBlock_iff.mp passed with
    ⟨ordered, members, bound, extended, checked⟩
  rcases sound checked with ⟨left, same, typed⟩
  exact ⟨left, same, .intro ordered members extended typed⟩

end

mutual

/-- A statement that passes its check is well typed. -/
theorem Stmt.wellTyped_of_check {outer : Scopes} {returnTypes : List Ty} {frame : Frame}
    (stmt : Stmt) {after : Checker}
    (passed : (stmt.check ⟨frame :: outer, returnTypes⟩).EndsIn after) :
    ∃ left, after = ⟨left :: outer, returnTypes⟩ ∧
      Stmt.WellTyped outer (returnTypes.head?.getD .none) frame stmt left := by
  cases stmt with
  | varDecl declaration =>
      rcases Checked.endsIn_ofAnnotated_iff.mp passed with ⟨typed, rfl⟩
      exact ⟨frame, rfl, .varDecl (VarDecl.wellTyped_of_check typed)⟩
  | functionDef definition =>
      rcases FunctionDef.wellTyped_of_check definition passed with ⟨rfl, typed⟩
      exact ⟨frame, rfl, .functionDef typed⟩
  | classDef definition =>
      rcases ClassDef.wellTyped_of_check definition passed with
        ⟨rfl, fieldsTyped, methodsTyped⟩
      exact ⟨frame, rfl, .classDef fieldsTyped methodsTyped⟩
  | assign span target value =>
      rcases Checked.endsIn_ofAnnotated_iff.mp passed with ⟨typed, rfl⟩
      rcases Expr.hasType_of_checkAssignment typed with
        ⟨assignable, type, targetTyped, valueTyped⟩
      exact ⟨frame, rfl, .assign assignable targetTyped valueTyped⟩
  | branch span condition body rest =>
      rw [Stmt.check, Checked.endsIn_map_iff, Checked.endsIn_andThen_iff] at passed
      rcases passed with ⟨_, passed, restPassed⟩
      rcases Checked.endsIn_andThen_iff.mp passed with ⟨_, conditionPassed, bodyPassed⟩
      rcases Checked.endsIn_ofAnnotated_iff.mp conditionPassed with ⟨conditionTyped, rfl⟩
      obtain ⟨between, rfl, bodyTyped⟩ := Stmt.blockWellTyped_of_inBlock
        (fun checked => Stmt.allWellTyped_of_checkAll body checked) bodyPassed
      rcases Alternatives.wellTyped_of_check rest restPassed with ⟨left, rfl, restTyped⟩
      exact ⟨left, rfl,
        .branch (Expr.hasType_of_checkCondition conditionTyped) bodyTyped restTyped⟩
  | loop span condition body =>
      rw [Stmt.check, Checked.endsIn_map_iff, Checked.endsIn_andThen_iff] at passed
      rcases passed with ⟨_, conditionPassed, bodyPassed⟩
      rcases Checked.endsIn_ofAnnotated_iff.mp conditionPassed with ⟨conditionTyped, rfl⟩
      obtain ⟨left, rfl, bodyTyped⟩ := Stmt.blockWellTyped_of_inBlock
        (fun checked => Stmt.allWellTyped_of_checkAll body checked) bodyPassed
      exact ⟨left, rfl, .loop (Expr.hasType_of_checkCondition conditionTyped) bodyTyped⟩
  | pass =>
      obtain rfl := Checked.endsIn_done_iff.mp passed
      exact ⟨frame, rfl, .pass⟩
  | returnValue span value =>
      rcases Checked.endsIn_ofAnnotated_iff.mp passed with ⟨typed, rfl⟩
      exact ⟨frame, rfl, .returnValue (Expr.hasType_of_checkReturn typed)⟩
  | evaluate span value =>
      rcases Checked.endsIn_ofAnnotated_iff.mp passed with ⟨typed, rfl⟩
      rcases Annotated.require_eq_ok_iff.mp typed with ⟨type, valuePassed, -⟩
      exact ⟨frame, rfl, .evaluate (Expr.hasType_of_check value valuePassed)⟩
termination_by structural stmt

/-- A function that passes its check is well typed, and leaves no trace. -/
theorem FunctionDef.wellTyped_of_check {scopes : Scopes} {returnTypes : List Ty}
    (definition : FunctionDef) {after : Checker}
    (passed : (definition.check ⟨scopes, returnTypes⟩).EndsIn after) :
    ⟨scopes, returnTypes⟩ = after ∧ definition.WellTyped scopes := by
  cases definition with
  | mk span name params returnType body =>
      rw [FunctionDef.check, Checker.endsIn_inFunction_iff] at passed
      obtain ⟨paramsResolved, returnResolved, returns, bound, extended, frame, around,
        inside, bodyPassed, same, rfl⟩ := passed
      obtain ⟨left, rfl, bodyTyped⟩ := Stmt.blockWellTyped_of_inBlock
        (fun checked => Stmt.allWellTyped_of_checkAll body checked) bodyPassed
      rcases List.cons.inj same with ⟨-, rfl⟩
      exact ⟨rfl, .intro paramsResolved returnResolved returns extended bodyTyped⟩
termination_by structural definition

/-- A class that passes its check has well-typed members, and leaves no trace. -/
theorem ClassDef.wellTyped_of_check {scopes : Scopes} {returnTypes : List Ty}
    (definition : ClassDef) {after : Checker}
    (passed : (definition.check ⟨scopes, returnTypes⟩).EndsIn after) :
    ⟨scopes, returnTypes⟩ = after ∧
      (∀ field ∈ definition.fields, field.WellTyped scopes) ∧
        ∀ method ∈ definition.methods, method.WellTyped scopes := by
  cases definition with
  | mk span name fields methods =>
      rw [ClassDef.check, Checked.endsIn_map_iff, Checked.endsIn_andThen_iff] at passed
      rcases passed with ⟨_, fieldsPassed, methodsPassed⟩
      rcases Checked.endsIn_ofAnnotated_iff.mp fieldsPassed with ⟨fieldsTyped, rfl⟩
      rcases FunctionDef.wellTyped_of_checkAll methods methodsPassed with
        ⟨same, methodsTyped⟩
      exact ⟨same, VarDecl.wellTyped_of_checkAll fieldsTyped, methodsTyped⟩
termination_by structural definition

/-- Functions that pass their checks are well typed, and leave no trace. -/
theorem FunctionDef.wellTyped_of_checkAll {scopes : Scopes} {returnTypes : List Ty}
    (definitions : List FunctionDef) {after : Checker}
    (passed : (FunctionDef.checkAll ⟨scopes, returnTypes⟩ definitions).EndsIn after) :
    ⟨scopes, returnTypes⟩ = after ∧
      ∀ definition ∈ definitions, definition.WellTyped scopes := by
  cases definitions with
  | nil => exact ⟨Checked.endsIn_done_iff.mp passed, by simp⟩
  | cons definition later =>
      rw [FunctionDef.checkAll, Checked.endsIn_map_iff, Checked.endsIn_andThen_iff] at passed
      rcases passed with ⟨_, firstPassed, laterPassed⟩
      rcases FunctionDef.wellTyped_of_check definition firstPassed with ⟨rfl, firstTyped⟩
      rcases FunctionDef.wellTyped_of_checkAll later laterPassed with ⟨same, laterTyped⟩
      exact ⟨same, List.forall_mem_cons.mpr ⟨firstTyped, laterTyped⟩⟩
termination_by structural definitions

/-- The further cases of a branch that pass their checks are well typed. -/
theorem Alternatives.wellTyped_of_check {outer : Scopes} {returnTypes : List Ty}
    {frame : Frame} (rest : Alternatives) {after : Checker}
    (passed : (rest.check ⟨frame :: outer, returnTypes⟩).EndsIn after) :
    ∃ left, after = ⟨left :: outer, returnTypes⟩ ∧
      Alternatives.WellTyped outer (returnTypes.head?.getD .none) frame rest left := by
  cases rest with
  | elif condition body rest =>
      rw [Alternatives.check, Checked.endsIn_map_iff, Checked.endsIn_andThen_iff] at passed
      rcases passed with ⟨_, passed, restPassed⟩
      rcases Checked.endsIn_andThen_iff.mp passed with ⟨_, conditionPassed, bodyPassed⟩
      rcases Checked.endsIn_ofAnnotated_iff.mp conditionPassed with ⟨conditionTyped, rfl⟩
      obtain ⟨between, rfl, bodyTyped⟩ := Stmt.blockWellTyped_of_inBlock
        (fun checked => Stmt.allWellTyped_of_checkAll body checked) bodyPassed
      rcases Alternatives.wellTyped_of_check rest restPassed with ⟨left, rfl, restTyped⟩
      exact ⟨left, rfl,
        .elif (Expr.hasType_of_checkCondition conditionTyped) bodyTyped restTyped⟩
  | otherwise body =>
      obtain ⟨left, rfl, bodyTyped⟩ := Stmt.blockWellTyped_of_inBlock
        (fun checked => Stmt.allWellTyped_of_checkAll body checked) passed
      exact ⟨left, rfl, .otherwise bodyTyped⟩
termination_by structural rest

/-- Statements that pass their checks in order are well typed. -/
theorem Stmt.allWellTyped_of_checkAll {outer : Scopes} {returnTypes : List Ty}
    {frame : Frame} (body : List Stmt) {after : Checker}
    (passed : (Stmt.checkAll ⟨frame :: outer, returnTypes⟩ body).EndsIn after) :
    ∃ left, after = ⟨left :: outer, returnTypes⟩ ∧
      Stmt.AllWellTyped outer (returnTypes.head?.getD .none) frame body left := by
  cases body with
  | nil =>
      obtain rfl := Checked.endsIn_done_iff.mp passed
      exact ⟨frame, rfl, .nil⟩
  | cons stmt later =>
      rw [Stmt.checkAll, Checked.endsIn_map_iff, Checked.endsIn_andThen_iff] at passed
      rcases passed with ⟨_, stmtPassed, laterPassed⟩
      rcases Stmt.wellTyped_of_check stmt stmtPassed with ⟨between, rfl, stmtTyped⟩
      rcases Stmt.allWellTyped_of_checkAll later laterPassed with ⟨left, rfl, laterTyped⟩
      exact ⟨left, rfl, .cons stmtTyped laterTyped⟩
termination_by structural body

end

/-! ## Programs -/

/-- A program is accepted when the check of its block succeeds in an outermost scope,
and the accepted tree is the one that this check leaves. -/
theorem Program.typed_eq_ok_iff {program typed : Program} :
    program.typed = .ok typed ↔
      ∃ after, (Checker.checkBlock ⟨[∅], []⟩ program).EndsIn after ∧
        (Checker.checkBlock ⟨[∅], []⟩ program).tree = typed := by
  have outcome : program.check.outcome =
      (Checker.checkBlock ⟨[∅], []⟩ program).outcome := rfl
  have tree : program.check.tree = (Checker.checkBlock ⟨[∅], []⟩ program).tree := rfl
  rw [Program.typed, map_eq_ok_iff]
  constructor
  · rintro ⟨_, succeeded, rfl⟩
    exact ⟨_, Checked.endsIn_of_outcome (outcome ▸ succeeded), tree⟩
  · rintro ⟨_, ⟨succeeded, -⟩, rfl⟩
    exact ⟨(), outcome ▸ succeeded, tree⟩

/-- A program that is accepted is well typed. -/
theorem Program.wellTyped_of_typed {program typed : Program}
    (accepted : program.typed = .ok typed) : program.WellTyped := by
  rcases Program.typed_eq_ok_iff.mp accepted with ⟨after, passed, -⟩
  obtain ⟨left, -, blockTyped⟩ := Stmt.blockWellTyped_of_inBlock
    (fun checked => Stmt.allWellTyped_of_checkAll program checked) passed
  exact ⟨left, blockTyped⟩

end SlotLang
