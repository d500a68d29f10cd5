import SlotLang.Proofs.Check.Sound

/-!
# What is well typed is accepted

A tree whose type slots are all empty passes its check as soon as its judgement is
derivable.  Together with soundness this makes the checker decide exactly the
declarative system.
-/

namespace SlotLang

/-! ## Trees without annotations -/

/-- All the given nodes have empty type slots. -/
def Unannotated (nodes : List Expr) : Prop :=
  ∀ node ∈ nodes, node.type? = none

@[simp]
theorem unannotated_cons {node : Expr} {later : List Expr} :
    Unannotated (node :: later) ↔ node.type? = none ∧ Unannotated later :=
  List.forall_mem_cons

@[simp]
theorem unannotated_append {first second : List Expr} :
    Unannotated (first ++ second) ↔ Unannotated first ∧ Unannotated second :=
  List.forall_mem_append

instance (nodes : List Expr) : Decidable (Unannotated nodes) :=
  inferInstanceAs (Decidable (∀ node ∈ nodes, node.type? = none))

theorem unannotated_flatMap {α : Type} {items : List α} {nodes : α → List Expr} :
    Unannotated (items.flatMap nodes) ↔ ∀ item ∈ items, Unannotated (nodes item) :=
  List.forall_mem_flatMap

/-! ## Expressions -/

theorem BinaryOp.resultType_of_arithmetic {op : BinaryOp} {leftStart rightStart : Position}
    (listed : op ∈ [BinaryOp.add, .sub, .mul, .div, .mod]) :
    op.resultType leftStart rightStart .int .int = .ok .int := by
  have family : op.family = .arithmetic := by cases op <;> simp_all [BinaryOp.family]
  simp [resultType, family, map_eq_ok_iff, expectInts_eq_ok_iff]

theorem BinaryOp.resultType_of_ordering {op : BinaryOp} {leftStart rightStart : Position}
    (listed : op ∈ [BinaryOp.less, .atMost, .greater, .atLeast]) :
    op.resultType leftStart rightStart .int .int = .ok .bool := by
  have family : op.family = .ordering := by cases op <;> simp_all [BinaryOp.family]
  simp [resultType, family, map_eq_ok_iff, expectInts_eq_ok_iff]

theorem BinaryOp.resultType_of_comparison {op : BinaryOp} {leftStart rightStart : Position}
    (listed : op ∈ [BinaryOp.equal, .unequal, .same]) (type : Ty) :
    op.resultType leftStart rightStart type type = .ok .bool := by
  have family : op.family = .comparison := by cases op <;> simp_all [BinaryOp.family]
  simp [resultType, family, map_eq_ok_iff, expectType_eq_ok_iff]

section

variable {scopes : Scopes} {mark : Mark} (slotEmpty : mark.type? = none)

include slotEmpty

theorem Expr.check_binary_of_parts {op : BinaryOp} {left right : Expr}
    {leftType rightType type : Ty}
    (leftPassed : (left.check scopes).result = .ok leftType)
    (rightPassed : (right.check scopes).result = .ok rightType)
    (granted : op.resultType left.start right.start leftType rightType = .ok type) :
    ((Expr.binary mark op left right).check scopes).result = .ok type := by
  rw [Expr.check, Annotated.settle_eq_ok_iff, Annotated.andThen_eq_ok_iff]
  exact ⟨⟨leftType, leftPassed,
    Annotated.require_eq_ok_iff.mpr ⟨rightType, rightPassed, granted⟩⟩,
    Mark.allows_of_empty slotEmpty type⟩

theorem Expr.check_call_of_parts {callee : String} {arguments : List Expr} {rule : CallRule}
    (ruled : scopes.callRule callee arguments.length mark.start = .ok rule)
    (argumentsPassed : (Expr.checkAll scopes rule.demands arguments).result = .ok ()) :
    ((Expr.call mark callee arguments).check scopes).result = .ok rule.returnType := by
  rw [Expr.check, Annotated.settle_eq_ok_iff, Annotated.after_eq_ok_iff]
  exact ⟨⟨rule, ruled, Annotated.require_eq_ok_iff.mpr ⟨(), argumentsPassed, rfl⟩⟩,
    Mark.allows_of_empty slotEmpty _⟩

end

mutual

/-- The check of an unannotated expression finds the type it has. -/
theorem Expr.check_of_hasType {scopes : Scopes} (expr : Expr) {type : Ty}
    (bare : Unannotated expr.preorder) (typed : expr.HasType scopes type) :
    (expr.check scopes).result = .ok type := by
  cases expr with
  | literal mark value =>
      simp only [Expr.preorder, unannotated_cons] at bare
      rw [Expr.check, Annotated.settle_eq_ok_iff]
      refine ⟨?_, Mark.allows_of_empty bare.1 type⟩
      cases typed <;> rfl
  | name mark named =>
      simp only [Expr.preorder, unannotated_cons] at bare
      cases typed with
      | name bound =>
          rw [Expr.check, Annotated.settle_eq_ok_iff]
          exact ⟨Scopes.variableType_eq_ok_iff.mpr bound,
            Mark.allows_of_empty bare.1 type⟩
  | unary mark op operand =>
      simp only [Expr.preorder, unannotated_cons] at bare
      rw [Expr.check, Annotated.settle_eq_ok_iff, Annotated.require_eq_ok_iff]
      refine ⟨?_, Mark.allows_of_empty bare.1 type⟩
      cases typed with
      | not operandTyped =>
          exact ⟨.bool, Expr.check_of_hasType operand bare.2 operandTyped, rfl⟩
      | neg operandTyped =>
          exact ⟨.int, Expr.check_of_hasType operand bare.2 operandTyped, rfl⟩
  | binary mark op left right =>
      simp only [Expr.preorder, unannotated_cons, unannotated_append] at bare
      rcases bare with ⟨slotEmpty, leftBare, rightBare⟩
      cases typed with
      | arithmetic listed leftTyped rightTyped =>
          exact Expr.check_binary_of_parts slotEmpty
            (Expr.check_of_hasType left leftBare leftTyped)
            (Expr.check_of_hasType right rightBare rightTyped)
            (BinaryOp.resultType_of_arithmetic listed)
      | ordering listed leftTyped rightTyped =>
          exact Expr.check_binary_of_parts slotEmpty
            (Expr.check_of_hasType left leftBare leftTyped)
            (Expr.check_of_hasType right rightBare rightTyped)
            (BinaryOp.resultType_of_ordering listed)
      | comparison listed leftTyped rightTyped =>
          exact Expr.check_binary_of_parts slotEmpty
            (Expr.check_of_hasType left leftBare leftTyped)
            (Expr.check_of_hasType right rightBare rightTyped)
            (BinaryOp.resultType_of_comparison listed _)
  | call mark callee arguments =>
      simp only [Expr.preorder, unannotated_cons] at bare
      rcases bare with ⟨slotEmpty, argumentsBare⟩
      cases typed with
      | builtin listed arity argumentsTyped =>
          have count := arity.symm.trans argumentsTyped.length_eq.symm
          exact Expr.check_call_of_parts slotEmpty
            (Scopes.callRule_eq_ok_iff.mpr (.inl ⟨_, listed, count, rfl⟩))
            (Expr.checkAll_of_haveTypes arguments argumentsBare argumentsTyped
              (forall₂_meets_replicate_none_iff.mpr arity))
      | call unlisted bound argumentsTyped =>
          have count := argumentsTyped.length_eq.symm
          exact Expr.check_call_of_parts slotEmpty
            (Scopes.callRule_eq_ok_iff.mpr (.inr ⟨_, unlisted, bound, count, rfl⟩))
            (Expr.checkAll_of_haveTypes arguments argumentsBare argumentsTyped
              (forall₂_meets_map_some_iff.mpr rfl))
  | field mark object member =>
      simp only [Expr.preorder, unannotated_cons] at bare
      cases typed with
      | field objectTyped bound declared =>
          rw [Expr.check, Annotated.settle_eq_ok_iff, Annotated.require_eq_ok_iff]
          exact ⟨⟨_, Expr.check_of_hasType object bare.2 objectTyped,
            Scopes.fieldType_eq_ok_iff.mpr ⟨_, _, rfl, bound, declared⟩⟩,
            Mark.allows_of_empty bare.1 type⟩
  | method mark object member arguments =>
      simp only [Expr.preorder, unannotated_cons, unannotated_append] at bare
      rcases bare with ⟨slotEmpty, objectBare, argumentsBare⟩
      cases typed with
      | method objectTyped bound declared argumentsTyped =>
          have count := congrArg (· + 1) argumentsTyped.length_eq.symm
          rw [Expr.check, Annotated.settle_eq_ok_iff, Annotated.andThen_eq_ok_iff]
          refine ⟨⟨_, Annotated.require_eq_ok_iff.mpr
            ⟨_, Expr.check_of_hasType object objectBare objectTyped,
              Scopes.methodRule_eq_ok_iff.mpr
                ⟨_, _, _, rfl, bound, declared, count, rfl⟩⟩,
            Annotated.require_eq_ok_iff.mpr ⟨(), ?_, rfl⟩⟩,
            Mark.allows_of_empty slotEmpty type⟩
          exact Expr.checkAll_of_haveTypes arguments argumentsBare argumentsTyped
            (forall₂_meets_map_some_iff.mpr rfl)
termination_by structural expr

/-- Unannotated arguments that meet what a call asks pass their check. -/
theorem Expr.checkAll_of_haveTypes {scopes : Scopes} {demands : List (Option Ty)}
    {types : List Ty} (arguments : List Expr)
    (bare : Unannotated (Expr.preorderAll arguments))
    (typed : List.Forall₂ (Expr.HasType scopes) arguments types)
    (met : List.Forall₂ Meets demands types) :
    (Expr.checkAll scopes demands arguments).result = .ok () := by
  cases arguments with
  | nil => cases demands <;> rfl
  | cons argument later =>
      simp only [Expr.preorderAll, unannotated_append] at bare
      cases typed with
      | cons argumentTyped laterTyped =>
          cases met with
          | cons argumentMet laterMet =>
              rw [Expr.checkAll, Annotated.map_result, Annotated.andThen_eq_ok_iff]
              exact ⟨(), Annotated.require_eq_ok_iff.mpr
                ⟨_, Expr.check_of_hasType argument bare.1 argumentTyped,
                  expectDemand_eq_ok_iff.mpr argumentMet⟩,
                Expr.checkAll_of_haveTypes later bare.2 laterTyped laterMet⟩
termination_by structural arguments

end

/-! ## Declarations -/

namespace VarDecl

theorem check_of_wellTyped {scopes : Scopes} {declaration : VarDecl}
    (bare : Unannotated declaration.value.preorder)
    (typed : declaration.WellTyped scopes) :
    (declaration.check scopes).result = .ok () := by
  rcases typed with ⟨resolved, literal, type, valueTyped, accepted⟩
  rw [check, Annotated.map_result, Annotated.after_eq_ok_iff]
  refine ⟨(), bind_eq_ok_iff.mpr ⟨(), Scopes.resolve_eq_ok_iff.mpr resolved,
    Expr.expectLiteral_eq_ok_iff.mpr literal⟩, ?_⟩
  exact Annotated.require_eq_ok_iff.mpr ⟨type, Expr.check_of_hasType _ bare valueTyped,
    expectAccepted_eq_ok_iff.mpr accepted⟩

theorem checkAll_of_wellTyped {scopes : Scopes} {declarations : List VarDecl}
    (bare : ∀ declaration ∈ declarations, Unannotated declaration.value.preorder)
    (typed : ∀ declaration ∈ declarations, declaration.WellTyped scopes) :
    (checkAll scopes declarations).result = .ok () := by
  induction declarations with
  | nil => rfl
  | cons declaration later inductionHypothesis =>
      have bare := List.forall_mem_cons.mp bare
      have typed := List.forall_mem_cons.mp typed
      rw [checkAll, Annotated.map_result, Annotated.andThen_eq_ok_iff]
      exact ⟨(), check_of_wellTyped bare.1 typed.1, inductionHypothesis bare.2 typed.2⟩

end VarDecl

/-! ## Conditions, assignments and results -/

namespace Expr

variable {scopes : Scopes}

theorem checkCondition_of_hasType {condition : Expr}
    (bare : Unannotated condition.preorder) (typed : condition.HasType scopes .bool) :
    (condition.checkCondition scopes).result = .ok () :=
  Annotated.require_eq_ok_iff.mpr
    ⟨.bool, check_of_hasType condition bare typed, expectType_eq_ok_iff.mpr rfl⟩

theorem checkReturn_of_hasType {value : Expr} {expected : Ty}
    (bare : Unannotated value.preorder) (typed : value.HasType scopes expected) :
    (value.checkReturn scopes expected).result = .ok () :=
  Annotated.require_eq_ok_iff.mpr
    ⟨expected, check_of_hasType value bare typed, expectType_eq_ok_iff.mpr rfl⟩

theorem checkAssignment_of_hasType {target value : Expr} {type : Ty}
    (targetBare : Unannotated target.preorder) (valueBare : Unannotated value.preorder)
    (assignable : target.isAssignable = true) (targetTyped : target.HasType scopes type)
    (valueTyped : value.HasType scopes type) :
    (checkAssignment scopes target value).result = .ok () := by
  rw [checkAssignment, Annotated.after_eq_ok_iff]
  refine ⟨(), by simp [assignable], ?_⟩
  rw [Annotated.map_result, Annotated.andThen_eq_ok_iff]
  exact ⟨type, check_of_hasType value valueBare valueTyped,
    Annotated.require_eq_ok_iff.mpr ⟨type, check_of_hasType target targetBare targetTyped,
      expectType_eq_ok_iff.mpr rfl⟩⟩

end Expr

/-! ## Statements -/

/-- If the statements of a block pass their checks, so does the block. -/
theorem Stmt.inBlock_of_blockWellTyped {outer : Scopes} {returnTypes : List Ty}
    {expected : Ty} {frame left : Frame} {body : List Stmt}
    (complete : ∀ {bound : Frame}, Stmt.AllWellTyped outer expected bound body left →
      (Stmt.checkAll ⟨bound :: outer, returnTypes⟩ body).EndsIn
        ⟨left :: outer, returnTypes⟩)
    (typed : Stmt.BlockWellTyped outer expected frame body left) :
    (Checker.inBlock ⟨frame :: outer, returnTypes⟩ body
      fun checker => Stmt.checkAll checker body).EndsIn ⟨left :: outer, returnTypes⟩ := by
  rcases typed with ⟨ordered, members, extended, statementsTyped⟩
  exact Checker.endsIn_inBlock_iff.mpr
    ⟨ordered, members, _, extended, complete statementsTyped⟩

mutual

/-- A well-typed statement without annotations passes its check. -/
theorem Stmt.check_of_wellTyped {outer : Scopes} {returnTypes : List Ty}
    {frame left : Frame} (stmt : Stmt) (bare : Unannotated stmt.preorder)
    (typed : Stmt.WellTyped outer (returnTypes.head?.getD .none) frame stmt left) :
    (stmt.check ⟨frame :: outer, returnTypes⟩).EndsIn ⟨left :: outer, returnTypes⟩ := by
  cases stmt with
  | varDecl declaration =>
      cases typed with
      | varDecl typed =>
          exact Checked.endsIn_ofAnnotated_iff.mpr
            ⟨VarDecl.check_of_wellTyped bare typed, rfl⟩
  | functionDef definition =>
      cases typed with
      | functionDef typed => exact FunctionDef.check_of_wellTyped definition bare typed
  | classDef definition =>
      cases typed with
      | classDef fieldsTyped methodsTyped =>
          exact ClassDef.check_of_wellTyped definition bare fieldsTyped methodsTyped
  | assign span target value =>
      simp only [Stmt.preorder, unannotated_append] at bare
      cases typed with
      | assign assignable targetTyped valueTyped =>
          exact Checked.endsIn_ofAnnotated_iff.mpr ⟨Expr.checkAssignment_of_hasType
            bare.1 bare.2 assignable targetTyped valueTyped, rfl⟩
  | branch span condition body rest =>
      simp only [Stmt.preorder, unannotated_append] at bare
      rcases bare with ⟨conditionBare, bodyBare, restBare⟩
      cases typed with
      | branch conditionTyped bodyTyped restTyped =>
          rw [Stmt.check, Checked.endsIn_map_iff, Checked.endsIn_andThen_iff]
          refine ⟨_, Checked.endsIn_andThen_iff.mpr ⟨_, Checked.endsIn_ofAnnotated_iff.mpr
            ⟨Expr.checkCondition_of_hasType conditionBare conditionTyped, rfl⟩, ?_⟩,
            Alternatives.check_of_wellTyped rest restBare restTyped⟩
          exact Stmt.inBlock_of_blockWellTyped
            (fun typed => Stmt.checkAll_of_allWellTyped body bodyBare typed) bodyTyped
  | loop span condition body =>
      simp only [Stmt.preorder, unannotated_append] at bare
      rcases bare with ⟨conditionBare, bodyBare⟩
      cases typed with
      | loop conditionTyped bodyTyped =>
          rw [Stmt.check, Checked.endsIn_map_iff, Checked.endsIn_andThen_iff]
          refine ⟨_, Checked.endsIn_ofAnnotated_iff.mpr
            ⟨Expr.checkCondition_of_hasType conditionBare conditionTyped, rfl⟩, ?_⟩
          exact Stmt.inBlock_of_blockWellTyped
            (fun typed => Stmt.checkAll_of_allWellTyped body bodyBare typed) bodyTyped
  | pass =>
      cases typed
      exact Checked.endsIn_done_iff.mpr rfl
  | returnValue span value =>
      cases typed with
      | returnValue valueTyped =>
          exact Checked.endsIn_ofAnnotated_iff.mpr
            ⟨Expr.checkReturn_of_hasType bare valueTyped, rfl⟩
  | evaluate span value =>
      cases typed with
      | evaluate valueTyped =>
          exact Checked.endsIn_ofAnnotated_iff.mpr ⟨Annotated.require_eq_ok_iff.mpr
            ⟨_, Expr.check_of_hasType value bare valueTyped, rfl⟩, rfl⟩
termination_by structural stmt

/-- A well-typed function without annotations passes its check. -/
theorem FunctionDef.check_of_wellTyped {scopes : Scopes} {returnTypes : List Ty}
    (definition : FunctionDef) (bare : Unannotated definition.preorder)
    (typed : definition.WellTyped scopes) :
    (definition.check ⟨scopes, returnTypes⟩).EndsIn ⟨scopes, returnTypes⟩ := by
  cases definition with
  | mk span name params returnType body =>
      rcases typed with ⟨paramsResolved, returnResolved, returns, extended, bodyTyped⟩
      have bodyPassed : (Checker.inBlock ⟨_ :: scopes, returnType :: returnTypes⟩ body
          fun checker => Stmt.checkAll checker body).EndsIn
            ⟨_ :: scopes, returnType :: returnTypes⟩ :=
        Stmt.inBlock_of_blockWellTyped
          (fun typed => Stmt.checkAll_of_allWellTyped body bare typed) bodyTyped
      exact Checker.endsIn_inFunction_iff.mpr ⟨paramsResolved, returnResolved, returns, _,
        extended, _, _, _, bodyPassed, rfl, rfl⟩
termination_by structural definition

/-- A class whose members are well typed and without annotations passes its check. -/
theorem ClassDef.check_of_wellTyped {scopes : Scopes} {returnTypes : List Ty}
    (definition : ClassDef) (bare : Unannotated definition.preorder)
    (fieldsTyped : ∀ field ∈ definition.fields, field.WellTyped scopes)
    (methodsTyped : ∀ method ∈ definition.methods, method.WellTyped scopes) :
    (definition.check ⟨scopes, returnTypes⟩).EndsIn ⟨scopes, returnTypes⟩ := by
  cases definition with
  | mk span name fields methods =>
      simp only [ClassDef.preorder, unannotated_append, unannotated_flatMap] at bare
      rw [ClassDef.check, Checked.endsIn_map_iff, Checked.endsIn_andThen_iff]
      exact ⟨_, Checked.endsIn_ofAnnotated_iff.mpr
        ⟨VarDecl.checkAll_of_wellTyped bare.1 fieldsTyped, rfl⟩,
        FunctionDef.checkAll_of_wellTyped methods bare.2 methodsTyped⟩
termination_by structural definition

/-- Well-typed functions without annotations pass their checks. -/
theorem FunctionDef.checkAll_of_wellTyped {scopes : Scopes} {returnTypes : List Ty}
    (definitions : List FunctionDef) (bare : Unannotated (FunctionDef.preorderAll definitions))
    (typed : ∀ definition ∈ definitions, definition.WellTyped scopes) :
    (FunctionDef.checkAll ⟨scopes, returnTypes⟩ definitions).EndsIn
      ⟨scopes, returnTypes⟩ := by
  cases definitions with
  | nil => exact Checked.endsIn_done_iff.mpr rfl
  | cons definition later =>
      simp only [FunctionDef.preorderAll, unannotated_append] at bare
      have typed := List.forall_mem_cons.mp typed
      rw [FunctionDef.checkAll, Checked.endsIn_map_iff, Checked.endsIn_andThen_iff]
      exact ⟨_, FunctionDef.check_of_wellTyped definition bare.1 typed.1,
        FunctionDef.checkAll_of_wellTyped later bare.2 typed.2⟩
termination_by structural definitions

/-- Well-typed further cases of a branch without annotations pass their checks. -/
theorem Alternatives.check_of_wellTyped {outer : Scopes} {returnTypes : List Ty}
    {frame left : Frame} (rest : Alternatives) (bare : Unannotated rest.preorder)
    (typed : Alternatives.WellTyped outer (returnTypes.head?.getD .none) frame rest left) :
    (rest.check ⟨frame :: outer, returnTypes⟩).EndsIn ⟨left :: outer, returnTypes⟩ := by
  cases rest with
  | elif condition body rest =>
      simp only [Alternatives.preorder, unannotated_append] at bare
      rcases bare with ⟨conditionBare, bodyBare, restBare⟩
      cases typed with
      | elif conditionTyped bodyTyped restTyped =>
          rw [Alternatives.check, Checked.endsIn_map_iff, Checked.endsIn_andThen_iff]
          refine ⟨_, Checked.endsIn_andThen_iff.mpr ⟨_, Checked.endsIn_ofAnnotated_iff.mpr
            ⟨Expr.checkCondition_of_hasType conditionBare conditionTyped, rfl⟩, ?_⟩,
            Alternatives.check_of_wellTyped rest restBare restTyped⟩
          exact Stmt.inBlock_of_blockWellTyped
            (fun typed => Stmt.checkAll_of_allWellTyped body bodyBare typed) bodyTyped
  | otherwise body =>
      cases typed with
      | otherwise bodyTyped =>
          exact Stmt.inBlock_of_blockWellTyped
            (fun typed => Stmt.checkAll_of_allWellTyped body bare typed) bodyTyped
termination_by structural rest

/-- Well-typed statements without annotations pass their checks in order. -/
theorem Stmt.checkAll_of_allWellTyped {outer : Scopes} {returnTypes : List Ty}
    {frame left : Frame} (body : List Stmt) (bare : Unannotated (Stmt.preorderAll body))
    (typed : Stmt.AllWellTyped outer (returnTypes.head?.getD .none) frame body left) :
    (Stmt.checkAll ⟨frame :: outer, returnTypes⟩ body).EndsIn
      ⟨left :: outer, returnTypes⟩ := by
  cases body with
  | nil =>
      cases typed
      exact Checked.endsIn_done_iff.mpr rfl
  | cons stmt later =>
      simp only [Stmt.preorderAll, unannotated_append] at bare
      cases typed with
      | cons stmtTyped laterTyped =>
          rw [Stmt.checkAll, Checked.endsIn_map_iff, Checked.endsIn_andThen_iff]
          exact ⟨_, Stmt.check_of_wellTyped stmt bare.1 stmtTyped,
            Stmt.checkAll_of_allWellTyped later bare.2 laterTyped⟩
termination_by structural body

end

/-! ## Programs -/

/-- The checker accepts a program without annotations exactly when the program is
well typed. -/
theorem Program.exists_typed_iff_wellTyped (program : Program)
    (bare : Unannotated (Stmt.preorderAll program)) :
    (∃ typed, program.typed = .ok typed) ↔ program.WellTyped := by
  constructor
  · rintro ⟨typed, accepted⟩
    exact Program.wellTyped_of_typed accepted
  · rintro ⟨left, blockTyped⟩
    have passed : (Checker.checkBlock ⟨[∅], []⟩ program).EndsIn ⟨[left], []⟩ :=
      Stmt.inBlock_of_blockWellTyped
        (fun typed => Stmt.checkAll_of_allWellTyped program bare typed) blockTyped
    exact ⟨_, Program.typed_eq_ok_iff.mpr ⟨_, passed, rfl⟩⟩

/-- A program with every kind of declaration: a function that is declared before the
class it uses and reads what its loop declares, a class whose method changes its
receiver, and a variable that starts as null. -/
def drainProgram : Program :=
  let mark : Mark := { span := .null }
  let name (named : String) : Expr := .name mark named
  let number (value : Int32) : Expr := .literal mark (.number value)
  let counter : Ty := .object "Counter"
  let step : FunctionDef :=
    { span := .null, name := "step", params := [⟨"self", counter⟩, ⟨"by", .int⟩]
      returnType := .int
      body :=
        [.assign .null (.field mark (name "self") "left")
          (.binary mark .sub (.field mark (name "self") "left") (name "by")),
        .returnValue .null (.field mark (name "self") "left")] }
  let drain : FunctionDef :=
    { span := .null, name := "drain", params := [⟨"counter", counter⟩]
      returnType := .bool
      body :=
        [.varDecl ⟨.null, "seen", .bool, .literal mark (.boolean false)⟩,
        .loop .null (.binary mark .greater
            (.method mark (name "counter") "step" [number 1]) (number 0))
          [.varDecl ⟨.null, "last", .int, number 0⟩,
          .assign .null (name "last") (.field mark (name "counter") "left")],
        .branch .null (.binary mark .equal (name "last") (number 0))
          [.returnValue .null (.literal mark (.boolean true))]
          (.otherwise [.returnValue .null (name "seen")])] }
  [.functionDef drain,
  .varDecl ⟨.null, "counter", counter, .literal mark .none⟩,
  .classDef ⟨.null, "Counter", [⟨.null, "left", .int, number 3⟩], [step]⟩,
  .evaluate .null (.call mark "print" [.call mark "drain" [name "counter"]])]

theorem drainProgram_wellTyped :
    Unannotated (Stmt.preorderAll drainProgram) ∧ drainProgram.WellTyped := by
  have bare : Unannotated (Stmt.preorderAll drainProgram) := by decide
  exact ⟨bare, (Program.exists_typed_iff_wellTyped drainProgram bare).mp ⟨_, rfl⟩⟩

end SlotLang
