import SlotLang.Proofs.Check.Outline
import SlotLang.Proofs.Check.Scoping
import SlotLang.Proofs.Tree.Slotted

/-!
# Properties of all checks

All checks are put together in the same few ways.  So a property that each of these ways
keeps holds of the check of every tree.  The induction over the trees is done here, for
all such properties; what is left to a property is a clause for each way of combining
checks.

A property speaks of a check as a function, at a given tree.  It may compare the check of
the tree with checks of trees that erase alike, such as the tree that the check leaves or
the one without annotations.
-/

namespace SlotLang

/-! ## Congruences -/

/-- A property of checks that leave the state alone, and of work that carries it. -/
structure CheckProperty where
  Check : {α β : Type} → [Slotted α] → (α → Annotated α β) → α → Prop
  Work : {α : Type} → [Slotted α] → (Checker → α → Checked α) → α → Prop

/-- A property is a congruence if it depends only on what is done to trees of the same
shape and is kept by every way of combining checks. -/
structure CheckProperty.Congruence (property : CheckProperty) : Prop where
  -- Checks that leave the state alone.
  check_congr {α β : Type} [Slotted α] {check other : α → Annotated α β} {tree : α}
    (holds : property.Check check tree)
    (agree : ∀ alike, Slotted.erase alike = Slotted.erase tree → other alike = check alike) :
    property.Check other tree
  plain {β : Type} (result : Except Diagnostic β) :
    property.Check (fun _ : Unit => .plain () result) ()
  map {α β γ : Type} [Slotted α] [Slotted β] {parts : α → Annotated α γ}
    {check : β → Annotated β γ} {tree : α} (rebuild : α → β)
    (holds : property.Check parts tree) (rebuilds : Slotted.Rebuilds rebuild)
    (unfolds : ∀ tree, check (rebuild tree) = (parts tree).map rebuild) :
    property.Check check (rebuild tree)
  require {α β γ : Type} [Slotted α] {check : α → Annotated α β} {tree : α}
    (rule : β → Except Diagnostic γ) (holds : property.Check check tree) :
    property.Check (fun tree => (check tree).require rule) tree
  after {α β γ : Type} [Slotted α] {next : β → α → Annotated α γ} {tree : α}
    (condition : Except Diagnostic β)
    (holds : ∀ value, condition = .ok value → property.Check (next value) tree) :
    property.Check (fun tree => .after condition tree fun value => next value tree) tree
  andThen {α β γ δ : Type} [Slotted α] [Slotted γ] {first : α → Annotated α β}
    {next : β → γ → Annotated γ δ} {tree : α} {later : γ} (holds : property.Check first tree)
    (laterHolds : ∀ alike value, (first alike).result = .ok value →
      property.Check (next value) later) :
    property.Check (fun parts : α × γ =>
      (first parts.1).andThen parts.2 fun value => next value parts.2) (tree, later)
  settle {α : Type} [Slotted α] {parts : α → Annotated α Ty}
    {check : Expr → Annotated Expr Ty} {mark : Mark} {tree : α} (rebuild : Mark → α → Expr)
    (holds : property.Check parts tree) (rebuilds : Slotted.RebuildsNode rebuild)
    (unfolds : ∀ filled : Mark, filled.start = mark.start → ∀ tree,
      check (rebuild filled tree) = (parts tree).settle filled rebuild) :
    property.Check check (rebuild mark tree)
  -- Work that carries the state.
  work_congr {α : Type} [Slotted α] {work other : Checker → α → Checked α} {tree : α}
    (holds : property.Work work tree)
    (agree : ∀ checker alike, Slotted.erase alike = Slotted.erase tree →
      other checker alike = work checker alike) :
    property.Work other tree
  done : property.Work (fun checker (_ : Unit) => .done checker ()) ()
  ofAnnotated {α : Type} [Slotted α] {check : Checker → α → Annotated α Unit} {tree : α}
    (holds : ∀ checker, property.Check (check checker) tree) :
    property.Work (fun checker tree => .ofAnnotated checker (check checker tree)) tree
  work_map {α β : Type} [Slotted α] [Slotted β] {parts : Checker → α → Checked α}
    {work : Checker → β → Checked β} {tree : α} (rebuild : α → β)
    (holds : property.Work parts tree) (rebuilds : Slotted.Rebuilds rebuild)
    (unfolds : ∀ checker tree, work checker (rebuild tree) = (parts checker tree).map rebuild) :
    property.Work work (rebuild tree)
  work_andThen {α β : Type} [Slotted α] [Slotted β] {first : Checker → α → Checked α}
    {next : Checker → β → Checked β} {tree : α} {later : β} (holds : property.Work first tree)
    (laterHolds : property.Work next later) :
    property.Work (fun checker (parts : α × β) =>
      (first checker parts.1).andThen parts.2 fun checker => next checker parts.2) (tree, later)
  followedBy {α : Type} [Slotted α] {prepare : Checker → Checked Unit}
    {next : Checker → α → Checked α} {tree : α} (prepared : Checker.Disciplines prepare)
    (holds : property.Work next tree) :
    property.Work (fun checker tree =>
      (prepare checker).followedBy tree fun checker => next checker tree) tree
  provided {α : Type} [Slotted α] {work : Checker → α → Checked α} {tree : α}
    (condition : Checker → Except Diagnostic Unit) (holds : property.Work work tree) :
    property.Work (fun checker tree =>
      .provided (condition checker) checker tree (work checker tree)) tree
  withScope {α : Type} [Slotted α] {work : Checker → α → Checked α} {tree : α}
    (holds : property.Work work tree) :
    property.Work (fun checker tree => checker.withScope fun checker => work checker tree) tree
  expecting {α : Type} [Slotted α] {work : Checker → α → Checked α} {tree : α}
    (returnType : Ty) (holds : property.Work work tree) :
    property.Work (fun checker tree =>
      checker.expecting returnType fun checker => work checker tree) tree

namespace CheckProperty.Congruence

variable {property : CheckProperty} (congruence : property.Congruence)

include congruence

/-- A rule may look at the tree if it looks past the type slots. -/
theorem require_of_blind {α β γ : Type} [Slotted α] {check : α → Annotated α β} {tree : α}
    {rule : α → β → Except Diagnostic γ} (blind : ∀ tree, rule (Slotted.erase tree) = rule tree)
    (holds : property.Check check tree) :
    property.Check (fun tree => (check tree).require (rule tree)) tree := by
  apply congruence.check_congr (congruence.require (rule tree) holds)
  intro alike same
  rw [Slotted.eq_of_erase_eq blind same]

/-- So may a condition. -/
theorem after_of_blind {α β γ : Type} [Slotted α] {condition : α → Except Diagnostic β}
    {next : β → α → Annotated α γ} {tree : α}
    (blind : ∀ tree, condition (Slotted.erase tree) = condition tree)
    (holds : ∀ value, condition tree = .ok value → property.Check (next value) tree) :
    property.Check (fun tree => .after (condition tree) tree fun value => next value tree)
      tree := by
  apply congruence.check_congr (congruence.after (condition tree) holds)
  intro alike same
  rw [Slotted.eq_of_erase_eq blind same]

/-! ## Expressions -/

mutual

theorem check_expr (scopes : Scopes) (expr : Expr) :
    property.Check (Expr.check scopes) expr := by
  cases expr with
  | literal mark value =>
      apply congruence.settle (fun mark _ => .literal mark value)
        (congruence.plain (.ok value.type))
      · exact { keeps := fun _ _ _ _ slot kept => List.Forall₂.cons slot kept }
      · intro filled _ _
        rw [Expr.check]
  | name mark named =>
      apply congruence.settle (fun mark _ => .name mark named)
        (congruence.plain (scopes.variableType named mark.start))
      · exact { keeps := fun _ _ _ _ slot kept => List.Forall₂.cons slot kept }
      · intro filled start _
        rw [Expr.check, start]
  | unary mark op operand =>
      have parts : property.Check (fun operand : Expr =>
          (operand.check scopes).require (op.resultType operand.start)) operand := by
        apply congruence.require_of_blind _ (check_expr scopes operand)
        intro operand
        exact congrArg op.resultType operand.start_erase
      apply congruence.settle (fun mark operand => .unary mark op operand) parts
      · exact { keeps := fun _ _ _ _ slot kept => List.Forall₂.cons slot kept }
      · intro filled _ operand
        rw [Expr.check]
  | binary mark op left right =>
      have parts : property.Check (fun operands : Expr × Expr =>
          (operands.1.check scopes).andThen operands.2 fun leftType =>
            (operands.2.check scopes).require
              (op.resultType operands.1.start operands.2.start leftType)) (left, right) := by
        apply congruence.check_congr
        · apply congruence.andThen (check_expr scopes left)
          intro _ leftType _
          exact congruence.require (op.resultType left.start right.start leftType)
            (check_expr scopes right)
        · intro operands same
          have starts := Prod.mk.inj same
          rw [Expr.start_eq_of_erase_eq starts.1, Expr.start_eq_of_erase_eq starts.2]
      apply congruence.settle (fun mark operands => .binary mark op operands.1 operands.2) parts
      · exact { keeps := fun _ _ _ _ slot kept =>
          List.Forall₂.cons slot (List.rel_append kept.1 kept.2) }
      · intro filled _ operands
        rw [Expr.check]
  | call mark callee arguments =>
      have parts : property.Check (fun arguments : List Expr =>
          .after (scopes.callRule callee arguments.length mark.start) arguments
            fun rule => (Expr.checkAll scopes rule.demands arguments).require
              fun _ => .ok rule.returnType) arguments := by
        apply congruence.after_of_blind
        · intro arguments
          exact congrArg (scopes.callRule callee · mark.start)
            (Expr.length_eraseAll arguments)
        · intro rule ruled
          exact congruence.require (fun _ => .ok rule.returnType)
            (check_arguments scopes arguments (Scopes.length_demands_of_callRule ruled))
      apply congruence.settle (fun mark arguments => .call mark callee arguments) parts
      · exact { keeps := fun _ _ _ _ slot kept => List.Forall₂.cons slot kept }
      · intro filled start arguments
        rw [Expr.check, start]
  | field mark object member =>
      apply congruence.settle (fun mark object => .field mark object member)
        (congruence.require (scopes.fieldType member mark.start) (check_expr scopes object))
      · exact { keeps := fun _ _ _ _ slot kept => List.Forall₂.cons slot kept }
      · intro filled start object
        rw [Expr.check, start]
  | method mark object member arguments =>
      have parts : property.Check (fun parts : Expr × List Expr =>
          ((parts.1.check scopes).require
            (scopes.methodRule member parts.2.length mark.start)).andThen parts.2
              fun rule => (Expr.checkAll scopes rule.demands parts.2).require
                fun _ => .ok rule.returnType) (object, arguments) := by
        apply congruence.check_congr
        · apply congruence.andThen (congruence.require
            (scopes.methodRule member arguments.length mark.start) (check_expr scopes object))
          intro _ rule passed
          rcases Annotated.require_eq_ok_iff.mp passed with ⟨_, _, ruled⟩
          exact congruence.require (fun _ => .ok rule.returnType)
            (check_arguments scopes arguments (Scopes.length_demands_of_methodRule ruled))
        · intro parts same
          have count : parts.2.length = arguments.length := by
            rw [← Expr.length_eraseAll, ← Expr.length_eraseAll arguments]
            exact congrArg List.length (Prod.mk.inj same).2
          rw [count]
      apply congruence.settle (fun mark parts => .method mark parts.1 member parts.2) parts
      · exact { keeps := fun _ _ _ _ slot kept =>
          List.Forall₂.cons slot (List.rel_append kept.1 kept.2) }
      · intro filled start parts
        rw [Expr.check, start]
termination_by structural expr

/-- There is a demand on each argument wherever arguments are checked. -/
theorem check_arguments (scopes : Scopes) {demands : List (Option Ty)} (arguments : List Expr)
    (count : demands.length = arguments.length) :
    property.Check (Expr.checkAll scopes demands) arguments := by
  cases arguments with
  | nil =>
      apply congruence.map (fun _ => []) (congruence.plain (.ok ()))
      · exact { keeps := fun _ _ kept => kept }
      · intro _
        rw [Expr.checkAll]
        rfl
  | cons argument later =>
      cases demands with
      | nil => cases count
      | cons demand demands =>
          have argumentHolds : property.Check (fun argument : Expr =>
              (argument.check scopes).require (expectDemand demand argument.start))
                argument := by
            apply congruence.require_of_blind _ (check_expr scopes argument)
            intro argument
            exact congrArg (expectDemand demand) argument.start_erase
          have parts := congruence.andThen argumentHolds fun _ _ _ =>
            check_arguments scopes later (Nat.succ.inj count)
          apply congruence.map (fun parts => parts.1 :: parts.2) parts
          · exact { keeps := fun _ _ kept => List.rel_append kept.1 kept.2 }
          · intro parts
            rw [Expr.checkAll]
termination_by structural arguments

end

/-! ## Parts of statements -/

theorem check_expecting (scopes : Scopes) (expected : Ty) (value : Expr) :
    property.Check (fun value : Expr => (value.check scopes).require fun actual =>
      expectType expected actual value.start) value := by
  apply congruence.require_of_blind _ (congruence.check_expr scopes value)
  intro value
  exact congrArg (fun start actual => expectType expected actual start) value.start_erase

theorem check_sides (scopes : Scopes) (value target : Expr) :
    property.Check (Expr.checkSides scopes) (value, target) := by
  apply congruence.after_of_blind
  · intro sides
    exact sides.2.expectAssignable_erase
  · intro _ _
    apply congruence.check_congr
    · apply congruence.andThen (congruence.check_expr scopes value)
      intro _ valueType _
      exact congruence.require (fun targetType => expectType targetType valueType value.start)
        (congruence.check_expr scopes target)
    · intro sides same
      rw [Expr.start_eq_of_erase_eq (Prod.mk.inj same).1]

theorem check_varDecl (scopes : Scopes) (declaration : VarDecl) :
    property.Check (VarDecl.check scopes) declaration := by
  rcases declaration with ⟨span, name, type, value⟩
  have parts : property.Check (fun value : Expr =>
      .after ((scopes.resolve span.start type).bind fun _ => value.expectLiteral) value
        fun _ => (value.check scopes).require
          (VarDecl.expectAccepted ⟨span, name, type, value⟩)) value := by
    apply congruence.after_of_blind
    · intro value
      exact congrArg (fun literal => (scopes.resolve span.start type).bind fun _ => literal)
        value.expectLiteral_erase
    · intro _ _
      apply congruence.require_of_blind _ (congruence.check_expr scopes value)
      intro value
      exact VarDecl.expectAccepted_erase ⟨span, name, type, value⟩
  apply congruence.map (VarDecl.mk span name type) parts
  · exact { keeps := fun _ _ kept => kept }
  · intro value
    rfl

theorem check_varDecls (scopes : Scopes) (declarations : List VarDecl) :
    property.Check (VarDecl.checkAll scopes) declarations := by
  induction declarations with
  | nil =>
      apply congruence.map (fun _ => []) (congruence.plain (.ok ()))
      · exact { keeps := fun _ _ kept => kept }
      · intro _
        rfl
  | cons declaration later inductionHypothesis =>
      have parts := congruence.andThen (congruence.check_varDecl scopes declaration)
        fun _ _ _ => inductionHypothesis
      apply congruence.map (fun parts => parts.1 :: parts.2) parts
      · exact { keeps := fun _ _ kept => List.rel_append kept.1 kept.2 }
      · intro parts
        rfl

/-! ## Blocks and functions -/

section

variable {body : List Stmt} (statements : property.Work Stmt.checkAll body)

include statements

theorem work_checkBlock : property.Work Checker.checkBlock body := by
  apply congruence.work_congr
    (congruence.followedBy (Checker.disciplines_openBlock body) statements)
  intro checker alike same
  rw [Checker.checkBlock, Checker.inBlock,
    Slotted.eq_of_erase_eq (Checker.openBlock_eraseAll checker) same]

theorem work_checkGuarded (condition : Expr) :
    property.Work Checker.checkGuarded (condition, body) :=
  congruence.work_andThen
    (congruence.ofAnnotated fun checker =>
      congruence.check_expecting checker.scopes .bool condition)
    (congruence.work_checkBlock statements)

theorem work_inBody (definition : FunctionDef) :
    property.Work (fun checker body => checker.inBody definition body) body := by
  apply congruence.expecting definition.returnType
  apply congruence.withScope
  exact congruence.followedBy
    (Checker.disciplines_declareParams definition.start definition.params)
    (congruence.work_checkBlock statements)

/-- The header of a function looks past the type slots of its body. -/
theorem work_function (span : Span) (name : String) (params : List Param) (returnType : Ty) :
    property.Work FunctionDef.check ⟨span, name, params, returnType, body⟩ := by
  have parts : property.Work (fun checker body =>
      .provided
        (FunctionDef.expectHeader checker.scopes ⟨span, name, params, returnType, body⟩)
        checker body (checker.inBody ⟨span, name, params, returnType, body⟩ body)) body := by
    apply congruence.work_congr
    · exact congruence.provided
        (fun checker =>
          FunctionDef.expectHeader checker.scopes ⟨span, name, params, returnType, body⟩)
        (congruence.work_inBody statements ⟨span, name, params, returnType, body⟩)
    · intro checker alike same
      have sameShape : Slotted.erase (FunctionDef.mk span name params returnType alike) =
          Slotted.erase (FunctionDef.mk span name params returnType body) :=
        congrArg (FunctionDef.mk span name params returnType) same
      rw [Slotted.eq_of_erase_eq (FunctionDef.expectHeader_erase checker.scopes) sameShape]
      rfl
  apply congruence.work_map (FunctionDef.mk span name params returnType) parts
  · exact { keeps := fun _ _ kept => kept }
  · intro checker body
    rw [FunctionDef.check_eq]

end

/-! ## Statements -/

mutual

theorem work_stmt (stmt : Stmt) : property.Work Stmt.check stmt := by
  cases stmt with
  | varDecl declaration =>
      have parts := congruence.ofAnnotated fun checker =>
        congruence.check_varDecl checker.scopes declaration
      apply congruence.work_map Stmt.varDecl parts
      · exact { keeps := fun _ _ kept => kept }
      · intro checker declaration
        rw [Stmt.check]
  | functionDef definition =>
      apply congruence.work_map Stmt.functionDef (work_functionDef definition)
      · exact { keeps := fun _ _ kept => kept }
      · intro checker definition
        rw [Stmt.check]
  | classDef definition =>
      apply congruence.work_map Stmt.classDef (work_classDef definition)
      · exact { keeps := fun _ _ kept => kept }
      · intro checker definition
        rw [Stmt.check]
  | assign span target value =>
      have parts := congruence.ofAnnotated fun checker =>
        congruence.check_sides checker.scopes value target
      apply congruence.work_map (fun sides => Stmt.assign span sides.2 sides.1) parts
      · exact { keeps := fun _ _ kept => List.rel_append kept.2 kept.1 }
      · intro checker sides
        rw [Stmt.check_assign]
  | branch span condition body rest =>
      have parts := congruence.work_andThen
        (congruence.work_checkGuarded (work_block body) condition) (work_alternatives rest)
      apply congruence.work_map
        (fun parts => Stmt.branch span parts.1.1 parts.1.2 parts.2) parts
      · exact { keeps := fun _ _ kept =>
          List.rel_append kept.1.1 (List.rel_append kept.1.2 kept.2) }
      · intro checker parts
        rw [Stmt.check_branch]
  | loop span condition body =>
      apply congruence.work_map (fun parts => Stmt.loop span parts.1 parts.2)
        (congruence.work_checkGuarded (work_block body) condition)
      · exact { keeps := fun _ _ kept => List.rel_append kept.1 kept.2 }
      · intro checker parts
        rw [Stmt.check_loop]
  | pass span =>
      apply congruence.work_map (fun _ => Stmt.pass span) congruence.done
      · exact { keeps := fun _ _ kept => kept }
      · intro checker _
        rw [Stmt.check]
        rfl
  | returnValue span value =>
      have parts := congruence.ofAnnotated fun checker =>
        congruence.check_expecting checker.scopes checker.expectedReturn value
      apply congruence.work_map (Stmt.returnValue span) parts
      · exact { keeps := fun _ _ kept => kept }
      · intro checker value
        rw [Stmt.check]
        rfl
  | evaluate span value =>
      have parts := congruence.ofAnnotated fun checker =>
        congruence.require (fun _ => .ok ()) (congruence.check_expr checker.scopes value)
      apply congruence.work_map (Stmt.evaluate span) parts
      · exact { keeps := fun _ _ kept => kept }
      · intro checker value
        rw [Stmt.check]
termination_by structural stmt

theorem work_functionDef (definition : FunctionDef) :
    property.Work FunctionDef.check definition := by
  cases definition with
  | mk span name params returnType body =>
      exact congruence.work_function (work_block body) span name params returnType
termination_by structural definition

theorem work_classDef (definition : ClassDef) : property.Work ClassDef.check definition := by
  cases definition with
  | mk span name fields methods =>
      have parts := congruence.work_andThen
        (congruence.ofAnnotated fun checker =>
          congruence.check_varDecls checker.scopes fields)
        (work_functionDefs methods)
      apply congruence.work_map (fun parts => ClassDef.mk span name parts.1 parts.2) parts
      · exact { keeps := fun _ _ kept => List.rel_append kept.1 kept.2 }
      · intro checker parts
        rw [ClassDef.check]
termination_by structural definition

theorem work_functionDefs (definitions : List FunctionDef) :
    property.Work FunctionDef.checkAll definitions := by
  cases definitions with
  | nil =>
      apply congruence.work_map (fun _ => []) congruence.done
      · exact { keeps := fun _ _ kept => kept }
      · intro checker _
        rw [FunctionDef.checkAll]
        rfl
  | cons definition later =>
      have parts := congruence.work_andThen (work_functionDef definition)
        (work_functionDefs later)
      apply congruence.work_map (fun parts => parts.1 :: parts.2) parts
      · exact { keeps := fun _ _ kept => List.rel_append kept.1 kept.2 }
      · intro checker parts
        rw [FunctionDef.checkAll]
termination_by structural definitions

theorem work_alternatives (rest : Alternatives) : property.Work Alternatives.check rest := by
  cases rest with
  | elif condition body rest =>
      have parts := congruence.work_andThen
        (congruence.work_checkGuarded (work_block body) condition) (work_alternatives rest)
      apply congruence.work_map
        (fun parts => Alternatives.elif parts.1.1 parts.1.2 parts.2) parts
      · exact { keeps := fun _ _ kept =>
          List.rel_append kept.1.1 (List.rel_append kept.1.2 kept.2) }
      · intro checker parts
        rw [Alternatives.check_elif]
  | otherwise body =>
      apply congruence.work_map Alternatives.otherwise
        (congruence.work_checkBlock (work_block body))
      · exact { keeps := fun _ _ kept => kept }
      · intro checker body
        rw [Alternatives.check_otherwise]
termination_by structural rest

theorem work_block (body : List Stmt) : property.Work Stmt.checkAll body := by
  cases body with
  | nil =>
      apply congruence.work_map (fun _ => []) congruence.done
      · exact { keeps := fun _ _ kept => kept }
      · intro checker _
        rw [Stmt.checkAll]
        rfl
  | cons stmt later =>
      have parts := congruence.work_andThen (work_stmt stmt) (work_block later)
      apply congruence.work_map (fun parts => parts.1 :: parts.2) parts
      · exact { keeps := fun _ _ kept => List.rel_append kept.1 kept.2 }
      · intro checker parts
        rw [Stmt.checkAll]
termination_by structural body

end

end CheckProperty.Congruence

end SlotLang
