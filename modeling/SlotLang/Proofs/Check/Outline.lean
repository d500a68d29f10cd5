import SlotLang.Check.Program
import SlotLang.Proofs.Tree.Erasure

/-!
# What is checked without a look at expressions

Binding the declarations of a block, judging the header of a function and following
the ways through its body look at shapes, names and spans.  Trees that erase alike
come out alike there, whatever their type slots hold.
-/

namespace SlotLang

/-! ## Ways through a block -/

mutual

theorem Stmt.returns_erase (stmt : Stmt) : stmt.erase.returns = stmt.returns := by
  cases stmt with
  | branch span condition body rest =>
      rw [Stmt.erase, Stmt.returns, Stmt.blockReturns_eraseAll body,
        Alternatives.returns_erase rest, Stmt.returns]
  | _ => rfl
termination_by structural stmt

theorem Alternatives.returns_erase (rest : Alternatives) :
    rest.erase.returns = rest.returns := by
  cases rest with
  | elif condition body rest =>
      rw [Alternatives.erase, Alternatives.returns, Stmt.blockReturns_eraseAll body,
        Alternatives.returns_erase rest, Alternatives.returns]
  | otherwise body =>
      rw [Alternatives.erase, Alternatives.returns, Stmt.blockReturns_eraseAll body,
        Alternatives.returns]
termination_by structural rest

theorem Stmt.blockReturns_eraseAll (body : List Stmt) :
    Stmt.blockReturns (Stmt.eraseAll body) = Stmt.blockReturns body := by
  cases body with
  | nil => rfl
  | cons stmt later =>
      rw [Stmt.eraseAll, Stmt.blockReturns, Stmt.returns_erase stmt,
        Stmt.blockReturns_eraseAll later, Stmt.blockReturns]
termination_by structural body

end

/-! ## Kinds of expressions -/

namespace Expr

/-- What an assignment asks of its target before any part of it is checked. -/
def expectAssignable (target : Expr) : Except Diagnostic Unit :=
  if target.isAssignable then .ok ()
  else
    .error
      { cause := .badName target.describe .notAssignable, position := target.start }

theorem checkAssignment_eq (scopes : Scopes) (target value : Expr) :
    checkAssignment scopes target value =
      .after target.expectAssignable (target, value) fun _ =>
        ((value.check scopes).andThen target fun valueType =>
          (target.check scopes).require fun targetType =>
            expectType targetType valueType value.start).map
          fun parts => (parts.2, parts.1) :=
  rfl

/-- Check the value and the target of an assignment, in this order. -/
def checkSides (scopes : Scopes) (sides : Expr × Expr) : Annotated (Expr × Expr) Unit :=
  .after sides.2.expectAssignable sides fun _ =>
    (sides.1.check scopes).andThen sides.2 fun valueType =>
      (sides.2.check scopes).require fun targetType =>
        expectType targetType valueType sides.1.start

theorem checkAssignment_eq_map (scopes : Scopes) (target value : Expr) :
    checkAssignment scopes target value =
      (checkSides scopes (value, target)).map fun sides => (sides.2, sides.1) := by
  rw [checkAssignment_eq, checkSides]
  cases target.expectAssignable <;> rfl

theorem expectAssignable_erase (target : Expr) :
    target.erase.expectAssignable = target.expectAssignable := by
  simp only [expectAssignable, isAssignable_erase, describe_erase, start_erase]

theorem expectLiteral_erase (value : Expr) :
    value.erase.expectLiteral = value.expectLiteral := by
  simp only [expectLiteral, isLiteral_erase, describe_erase, start_erase]

end Expr

theorem VarDecl.expectAccepted_erase (declaration : VarDecl) :
    declaration.erase.expectAccepted = declaration.expectAccepted := by
  unfold expectAccepted erase
  simp only [Expr.start_erase]

/-! ## Headers -/

theorem FunctionDef.signature_erase (definition : FunctionDef) :
    definition.erase.signature = definition.signature := by
  cases definition
  rfl

theorem FunctionDef.expectHeader_erase (scopes : Scopes) (definition : FunctionDef) :
    definition.erase.expectHeader scopes = definition.expectHeader scopes := by
  cases definition with
  | mk span name params returnType body =>
      have returns : expectReturns ⟨span, name, params, returnType, Stmt.eraseAll body⟩ =
          expectReturns ⟨span, name, params, returnType, body⟩ := by
        simp [expectReturns, Stmt.blockReturns_eraseAll, FunctionDef.start]
      rw [FunctionDef.erase, expectHeader, returns]
      rfl

/-- Adding entries does not depend on what their names, positions and types do not
show. -/
theorem Members.addAll_map {α : Type} {name : α → String} {position : α → Position}
    {extend : Members → List α → Members} {convert : α → α}
    (named : ∀ entry, name (convert entry) = name entry)
    (placed : ∀ entry, position (convert entry) = position entry)
    (blind : ∀ members entry, extend members [convert entry] = extend members [entry])
    (members : Members) (entries : List α) :
    addAll name position extend members (entries.map convert) =
      addAll name position extend members entries := by
  induction entries generalizing members with
  | nil => rfl
  | cons entry later inductionHypothesis =>
      simp only [List.map_cons, addAll, named, placed, blind, inductionHypothesis]

theorem ClassDef.members_erase (definition : ClassDef) :
    definition.erase.members = definition.members := by
  rcases definition with ⟨span, name, fields, methods⟩
  have fieldsAdded : Members.addFields {} (fields.map VarDecl.erase) =
      Members.addFields {} fields := by
    apply Members.addAll_map
    · exact fun _ => rfl
    · exact fun _ => rfl
    · exact fun _ _ => rfl
  have methodsAdded : ∀ members : Members,
      members.addMethods (FunctionDef.eraseAll methods) = members.addMethods methods := by
    intro members
    rw [FunctionDef.eraseAll_eq_map]
    apply Members.addAll_map FunctionDef.name_erase
    · intro method
      rw [FunctionDef.span_erase]
    · intro members method
      simp only [Members.withMethods, List.map_cons, FunctionDef.name_erase,
        FunctionDef.signature_erase, List.map_nil]
  simp only [ClassDef.erase, ClassDef.members, fieldsAdded, methodsAdded]

/-! ## Blocks -/

theorem lateDeclaration?_eraseAll (body : List Stmt) :
    lateDeclaration? (Stmt.eraseAll body) = (lateDeclaration? body).map Stmt.erase := by
  have blind : Stmt.isDeclaration ∘ Stmt.erase = Stmt.isDeclaration := by
    funext stmt
    exact stmt.isDeclaration_erase
  rw [lateDeclaration?, Stmt.eraseAll_eq_map, List.dropWhile_map, List.find?_map, blind,
    lateDeclaration?]

theorem expectDeclarationsFirst_eraseAll (body : List Stmt) :
    expectDeclarationsFirst (Stmt.eraseAll body) = expectDeclarationsFirst body := by
  unfold expectDeclarationsFirst
  rw [lateDeclaration?_eraseAll]
  cases lateDeclaration? body with
  | none => rfl
  | some stmt => simp [Stmt.start]

namespace Checker

variable (checker : Checker)

theorem declare_erase (stmt : Stmt) : checker.declare stmt.erase = checker.declare stmt := by
  cases stmt with
  | varDecl declaration => rfl
  | functionDef definition =>
      simp only [Stmt.erase, declare, FunctionDef.name_erase, FunctionDef.signature_erase,
        FunctionDef.span_erase]
  | classDef definition =>
      simp only [Stmt.erase, declare, ClassDef.members_erase, ClassDef.name_erase,
        ClassDef.span_erase]
  | _ => rfl

theorem declareAll_eraseAll (body : List Stmt) :
    checker.declareAll (Stmt.eraseAll body) = checker.declareAll body := by
  induction body generalizing checker with
  | nil => rfl
  | cons stmt later inductionHypothesis =>
      simp only [Stmt.eraseAll, declareAll, declare_erase, inductionHypothesis]

/-- Starting a block does not depend on type slots. -/
theorem openBlock_eraseAll (body : List Stmt) :
    checker.openBlock (Stmt.eraseAll body) = checker.openBlock body := by
  rw [openBlock, expectDeclarationsFirst_eraseAll, declareAll_eraseAll, openBlock]

end Checker

/-! ## Branches and loops -/

/-- Check a condition and then the block that it guards. -/
def Checker.checkGuarded (checker : Checker) (parts : Expr × List Stmt) :
    Checked (Expr × List Stmt) :=
  (Checked.ofAnnotated checker (parts.1.checkCondition checker.scopes)).andThen parts.2
    fun checker => checker.checkBlock parts.2

theorem Stmt.check_branch (checker : Checker) (span : Span) (condition : Expr)
    (body : List Stmt) (rest : Alternatives) :
    (Stmt.branch span condition body rest).check checker =
      ((checker.checkGuarded (condition, body)).andThen rest
        fun checker => rest.check checker).map
        fun parts => .branch span parts.1.1 parts.1.2 parts.2 := by
  rw [Stmt.check]
  rfl

theorem Stmt.check_loop (checker : Checker) (span : Span) (condition : Expr)
    (body : List Stmt) :
    (Stmt.loop span condition body).check checker =
      (checker.checkGuarded (condition, body)).map
        fun parts => .loop span parts.1 parts.2 := by
  rw [Stmt.check]
  rfl

theorem Alternatives.check_elif (checker : Checker) (condition : Expr) (body : List Stmt)
    (rest : Alternatives) :
    (Alternatives.elif condition body rest).check checker =
      ((checker.checkGuarded (condition, body)).andThen rest
        fun checker => rest.check checker).map
        fun parts => .elif parts.1.1 parts.1.2 parts.2 := by
  rw [Alternatives.check]
  rfl

theorem Alternatives.check_otherwise (checker : Checker) (body : List Stmt) :
    (Alternatives.otherwise body).check checker =
      (checker.checkBlock body).map .otherwise := by
  rw [Alternatives.check]
  rfl

theorem Stmt.check_assign (checker : Checker) (span : Span) (target value : Expr) :
    (Stmt.assign span target value).check checker =
      (Checked.ofAnnotated checker (Expr.checkSides checker.scopes (value, target))).map
        fun sides => .assign span sides.2 sides.1 := by
  rw [Stmt.check, Expr.checkAssignment_eq_map]
  rfl

/-! ## Functions -/

/-- Work on a tree if a condition outside of it is met. -/
def Checked.provided {α : Type} (condition : Except Diagnostic Unit) (checker : Checker)
    (untouched : α) (work : Checked α) : Checked α :=
  match condition with
  | .error diagnostic =>
      { tree := untouched
        checker := checker
        outcome := .error (.rejected diagnostic)
        events := [] }
  | .ok () => work

/-- Bind the parameters of a function and check its body, in the scope that has been
opened for them. -/
def Checker.checkInside (definition : FunctionDef) (body : List Stmt) (checker : Checker) :
    Checked (List Stmt) :=
  (checker.declareParams definition.start definition.params).followedBy body
    fun checker => checker.checkBlock body

/-- The check of the body of a function, once the header of the function has passed. -/
def Checker.inBody (checker : Checker) (definition : FunctionDef) (body : List Stmt) :
    Checked (List Stmt) :=
  checker.expecting definition.returnType fun checker =>
    checker.withScope (checkInside definition body)

theorem FunctionDef.check_eq (checker : Checker) (definition : FunctionDef) :
    definition.check checker =
      (Checked.provided (definition.expectHeader checker.scopes) checker definition.body
        (checker.inBody definition definition.body)).map
        fun body => { definition with body := body } := by
  rcases definition with ⟨span, name, params, returnType, body⟩
  rw [FunctionDef.check, Checker.inFunction]
  cases FunctionDef.expectHeader checker.scopes ⟨span, name, params, returnType, body⟩ <;> rfl

theorem FunctionDef.check_of_header {checker : Checker} {definition : FunctionDef}
    (passed : definition.expectHeader checker.scopes = .ok ()) :
    definition.check checker =
      (checker.inBody definition definition.body).map
        fun body => { definition with body := body } := by
  rw [check_eq, passed]
  rfl

theorem FunctionDef.check_of_header_error {checker : Checker} {definition : FunctionDef}
    {diagnostic : Diagnostic}
    (failed : definition.expectHeader checker.scopes = .error diagnostic) :
    definition.check checker =
      { tree := definition
        checker := checker
        outcome := .error (.rejected diagnostic)
        events := [] } := by
  cases definition
  rw [check_eq, failed]
  rfl

end SlotLang
