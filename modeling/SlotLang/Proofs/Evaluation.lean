import SlotLang.Proofs.Lower.Support

/-!
# Direct evaluation

What a program computes, read off its tree over unbounded integers and without any
machine.  Truth values are one and zero and null is zero.  Printing a value yields
null.  An expression that stands by itself sets the scratch variable.  Constructs
that cannot be lowered have no value, nor has a variable before it is set.

A well-typed program whose statements are supported can be evaluated to its end.
-/

namespace SlotLang

/-! ## Expressions -/

/-- A literal as an integer. -/
def Literal.integer : Literal → Int
  | number value => value.toInt
  | boolean value => if value then 1 else 0
  | none => 0

/-- The operation that an operator denotes, if it can be lowered. -/
def BinaryOp.operation? : BinaryOp → Option (Int → Int → Int)
  | add => some (· + ·)
  | sub => some (· - ·)
  | mul => some (· * ·)
  | _ => none

/-- The value of an expression, and what is printed on the way, the oldest one
first. -/
structure Output where
  value : Int
  printed : List Int := []
deriving DecidableEq, Repr

/-- Evaluate an expression. -/
def Expr.eval (store : Table Int) : Expr → Option Output
  | .literal _ value => some { value := value.integer }
  | .name _ named => (store.get? named).map fun value => { value := value }
  | .unary _ .neg operand =>
      (operand.eval store).map fun output => { output with value := -output.value }
  | .binary _ op left right =>
      op.operation?.bind fun operation =>
        (left.eval store).bind fun first =>
          (right.eval store).map fun second =>
            { value := operation first.value second.value
              printed := first.printed ++ second.printed }
  | .call _ callee [argument] =>
      if callee = Builtin.print.name then
        (argument.eval store).map fun output =>
          { value := 0, printed := output.printed ++ [output.value] }
      else none
  | _ => none

/-! ## Statements -/

/-- The variables that are set, and all that has been printed. -/
structure Evaluation where
  store : Table Int := ∅
  printed : List Int := []

/-- Set a variable to the value of an expression. -/
def Evaluation.assign (evaluation : Evaluation) (name : String) (output : Output) :
    Evaluation :=
  { store := evaluation.store.insert name output.value
    printed := evaluation.printed ++ output.printed }

/-- Evaluate a statement. -/
def Stmt.eval (scratch : String) (evaluation : Evaluation) : Stmt → Option Evaluation
  | .varDecl declaration =>
      (declaration.value.eval evaluation.store).map (evaluation.assign declaration.name)
  | .assign _ target value =>
      target.name?.bind fun name =>
        (value.eval evaluation.store).map (evaluation.assign name)
  | .evaluate _ value => (value.eval evaluation.store).map (evaluation.assign scratch)
  | .pass _ => some evaluation
  | _ => none

/-- Evaluate statements one after the other. -/
def Stmt.evalAll (scratch : String) (evaluation : Evaluation) :
    List Stmt → Option Evaluation
  | [] => some evaluation
  | stmt :: later =>
      (stmt.eval scratch evaluation).bind fun between =>
        Stmt.evalAll scratch between later

/-- Evaluate a program, which starts without variables. -/
def Program.eval (scratch : String) (program : Program) : Option Evaluation :=
  Stmt.evalAll scratch {} program

/-! ## Typed expressions have values -/

theorem Builtin.find?_eq_some_iff {name : String} {builtin : Builtin} :
    Builtin.find? name = some builtin ↔ name = print.name ∧ builtin = print := by
  by_cases same : print.name = name
  · subst same
    simp [find?, all, eq_comm]
  · simp [find?, all, same, Ne.symm same]

theorem BinaryOp.operation?_isSome (op : BinaryOp) :
    op.operation?.isSome = decide (op ∈ [BinaryOp.add, .sub, .mul]) := by
  cases op <;> rfl

/-- Every variable in scope has been set. -/
def Scopes.Stored (scopes : Scopes) (store : Table Int) : Prop :=
  ∀ name type, scopes.lookup? name = some (.ofVariable type) →
    ∃ value, store.get? name = some value

/-- A typed expression of supported parts has a value once its variables have. -/
theorem Expr.exists_eval {scopes : Scopes} {store : Table Int}
    (stored : scopes.Stored store) (expr : Expr) {type : Ty}
    (typed : expr.HasType scopes type)
    (supported : ∀ part ∈ expr.preorder, part.isSupported = true) :
    ∃ output, expr.eval store = some output := by
  cases expr with
  | literal => exact ⟨_, rfl⟩
  | name mark named =>
      cases typed with
      | name bound =>
          rcases stored _ _ bound with ⟨value, found⟩
          exact ⟨{ value := value }, by rw [Expr.eval, found, Option.map_some]⟩
  | unary mark op operand =>
      rw [Expr.preorder, List.forall_mem_cons] at supported
      rcases supported with ⟨topSupported, partsSupported⟩
      cases typed with
      | not => cases topSupported
      | neg operandTyped =>
          rcases Expr.exists_eval stored operand operandTyped partsSupported with
            ⟨output, evaluated⟩
          exact ⟨_, by rw [Expr.eval, evaluated, Option.map_some]⟩
  | binary mark op left right =>
      rw [Expr.preorder, List.forall_mem_cons, List.forall_mem_append] at supported
      rcases supported with ⟨topSupported, leftSupported, rightSupported⟩
      rcases typed.operands with ⟨_, _, leftTyped, rightTyped⟩
      rcases Expr.exists_eval stored left leftTyped leftSupported with
        ⟨first, leftEvaluated⟩
      rcases Expr.exists_eval stored right rightTyped rightSupported with
        ⟨second, rightEvaluated⟩
      rw [Expr.isSupported, ← BinaryOp.operation?_isSome, Option.isSome_iff_exists]
        at topSupported
      rcases topSupported with ⟨operation, denoted⟩
      exact ⟨_, by
        rw [Expr.eval, denoted, leftEvaluated, rightEvaluated, Option.bind_some,
          Option.bind_some, Option.map_some]⟩
  | call mark callee arguments =>
      rw [Expr.preorder, List.forall_mem_cons] at supported
      rcases supported with ⟨topSupported, partsSupported⟩
      cases typed with
      | builtin listed arity argumentsTyped =>
          rcases Builtin.find?_eq_some_iff.mp listed with ⟨rfl, rfl⟩
          have single : arguments.length = 1 := argumentsTyped.length_eq.trans arity
          cases arguments with
          | nil => cases single
          | cons argument later =>
              cases later with
              | cons => cases single
              | nil =>
                  cases argumentsTyped with
                  | cons argumentTyped =>
                      rw [Expr.preorderAll, List.forall_mem_append] at partsSupported
                      obtain ⟨output, evaluated⟩ :=
                        Expr.exists_eval stored argument argumentTyped partsSupported.1
                      exact ⟨_, by
                        rw [Expr.eval, if_pos rfl, evaluated, Option.map_some]⟩
      | call unlisted =>
          rw [Expr.isSupported, unlisted] at topSupported
          cases topSupported
  | field => cases supported _ List.mem_cons_self
  | method => cases supported _ List.mem_cons_self
termination_by structural expr

/-! ## What a statement does -/

theorem Stmt.Sets.eval_eq {scratch name : String} {stmt : Stmt} {value : Expr}
    (sets : stmt.Sets scratch name value) (evaluation : Evaluation) :
    stmt.eval scratch evaluation =
      (value.eval evaluation.store).map (evaluation.assign name) := by
  cases sets <;> rfl

/-- A statement that can be evaluated does nothing or sets one variable. -/
theorem Stmt.cases_of_eval {scratch : String} {stmt : Stmt}
    {evaluation next : Evaluation}
    (evaluated : stmt.eval scratch evaluation = some next) :
    (∃ span, stmt = .pass span ∧ next = evaluation) ∨
      ∃ name value output, stmt.Sets scratch name value ∧
        value.eval evaluation.store = some output ∧ next = evaluation.assign name output := by
  have supported : stmt.isSupported = true := by
    cases stmt with
    | varDecl => rfl
    | assign span target value =>
        rcases Option.bind_eq_some_iff.mp evaluated with ⟨name, named, _⟩
        rw [Stmt.isSupported, named, Option.isSome_some]
    | pass => rfl
    | evaluate => rfl
    | _ => cases evaluated
  rcases Stmt.pass_or_sets scratch supported with ⟨span, rfl⟩ | ⟨name, value, sets⟩
  · exact .inl ⟨span, rfl, (Option.some.inj evaluated).symm⟩
  · rw [sets.eval_eq, Option.map_eq_some_iff] at evaluated
    rcases evaluated with ⟨output, valueEvaluated, rfl⟩
    exact .inr ⟨name, value, output, sets, valueEvaluated, rfl⟩

/-- A variable that is set stays set. -/
theorem Stmt.stored_of_eval {scratch name : String} {stmt : Stmt}
    {evaluation next : Evaluation} {value : Int}
    (evaluated : stmt.eval scratch evaluation = some next)
    (found : evaluation.store.get? name = some value) :
    ∃ later, next.store.get? name = some later := by
  rcases Stmt.cases_of_eval evaluated with ⟨_, _, rfl⟩ | ⟨target, _, output, _, _, rfl⟩
  · exact ⟨value, found⟩
  · by_cases same : name = target
    · subst same
      exact ⟨output.value, Table.get?_insert_self _ _ _⟩
    · exact ⟨value, (Table.get?_insert_of_ne _ _ same).trans found⟩

theorem Stmt.stored_of_evalAll {scratch name : String} {body : List Stmt}
    {evaluation final : Evaluation} {value : Int}
    (evaluated : Stmt.evalAll scratch evaluation body = some final)
    (found : evaluation.store.get? name = some value) :
    ∃ later, final.store.get? name = some later := by
  induction body generalizing evaluation value with
  | nil =>
      obtain rfl := Option.some.inj evaluated
      exact ⟨value, found⟩
  | cons stmt later inductionHypothesis =>
      rcases Option.bind_eq_some_iff.mp evaluated with
        ⟨between, stmtEvaluated, laterEvaluated⟩
      rcases Stmt.stored_of_eval stmtEvaluated found with ⟨kept, keptFound⟩
      exact inductionHypothesis laterEvaluated keptFound

/-- At the end, every variable that some statement sets has a value. -/
theorem Stmt.set_of_evalAll {scratch name : String} {body : List Stmt}
    {evaluation final : Evaluation}
    (evaluated : Stmt.evalAll scratch evaluation body = some final)
    (set : name ∈ Stmt.setNamesAll body ∨
      Stmt.anyUsesScratch body = true ∧ name = scratch) :
    ∃ value, final.store.get? name = some value := by
  induction body generalizing evaluation with
  | nil => simp [Stmt.setNamesAll, Stmt.anyUsesScratch] at set
  | cons stmt later inductionHypothesis =>
      rcases Option.bind_eq_some_iff.mp evaluated with
        ⟨between, stmtEvaluated, laterEvaluated⟩
      rcases Stmt.setNamesAll_cons_iff.mp set with setNow | setLater
      · rcases Stmt.cases_of_eval stmtEvaluated with
          ⟨_, rfl, _⟩ | ⟨target, _, output, sets, _, rfl⟩
        · simp [Stmt.setNames, Stmt.usesScratch] at setNow
        · obtain rfl := sets.named_iff.mp setNow
          exact Stmt.stored_of_evalAll laterEvaluated (Table.get?_insert_self _ _ _)
      · exact inductionHypothesis laterEvaluated setLater

/-! ## Well-typed programs can be evaluated -/

theorem Stmt.exists_eval {scratch : String} {outer : Scopes} {expected : Ty}
    {frame after : Frame} {evaluation : Evaluation} {stmt : Stmt}
    (typed : Stmt.WellTyped outer expected frame stmt after)
    (supported : stmt.Supported)
    (stored : Scopes.Stored (frame :: outer) evaluation.store) :
    ∃ next, stmt.eval scratch evaluation = some next := by
  rcases Stmt.pass_or_sets scratch supported.1 with ⟨span, rfl⟩ | ⟨name, value, sets⟩
  · exact ⟨_, rfl⟩
  · rcases sets.hasType typed with ⟨type, valueTyped⟩
    rcases Expr.exists_eval stored value valueTyped (sets.isSupported_of_mem supported) with
      ⟨output, evaluated⟩
    exact ⟨_, by rw [sets.eval_eq, evaluated, Option.map_some]⟩

/-- The value that a declaration starts with depends on no variable. -/
theorem VarDecl.WellTyped.exists_eval {scopes : Scopes} {declaration : VarDecl}
    (typed : declaration.WellTyped scopes) (store : Table Int) :
    ∃ output, declaration.value.eval store = some output := by
  rcases declaration with ⟨span, name, type, value⟩
  cases value with
  | literal => exact ⟨_, rfl⟩
  | _ => cases typed.literal

theorem Stmt.DeclarationsFirst.cons_cases {stmt : Stmt} {later : List Stmt}
    (ordered : Stmt.DeclarationsFirst (stmt :: later)) :
    Stmt.DeclarationsFirst later ∧
      (stmt.isDeclaration = true ∨
        ∀ other ∈ stmt :: later, other.isDeclaration = false) := by
  rcases ordered with ⟨declarations, statements, split, declaring, executing⟩
  cases declarations with
  | nil =>
      obtain rfl : stmt :: later = statements := split
      exact ⟨⟨[], later, rfl, by simp, (List.forall_mem_cons.mp executing).2⟩,
        .inr executing⟩
  | cons first rest =>
      rcases List.cons.inj split with ⟨rfl, rfl⟩
      rcases List.forall_mem_cons.mp declaring with ⟨firstDeclares, restDeclare⟩
      exact ⟨⟨rest, statements, rfl, restDeclare, executing⟩, .inl firstDeclares⟩

/-- Supported statements can be evaluated if every variable in scope is set already
or is declared by one of them: the declarations come first, so no statement reads a
variable that is not set yet. -/
theorem Stmt.exists_evalAll {scratch : String} {outer : Scopes} {expected : Ty}
    {frame after : Frame} {evaluation : Evaluation} {body : List Stmt}
    (ordered : Stmt.DeclarationsFirst body)
    (typed : Stmt.AllWellTyped outer expected frame body after)
    (supported : ∀ stmt ∈ body, stmt.Supported)
    (covered : ∀ name type,
      Scopes.lookup? (frame :: outer) name = some (.ofVariable type) →
        (∃ value, evaluation.store.get? name = some value) ∨
          ∃ declaration : VarDecl, .varDecl declaration ∈ body ∧ declaration.name = name) :
    ∃ final, Stmt.evalAll scratch evaluation body = some final := by
  induction body generalizing evaluation frame with
  | nil => exact ⟨evaluation, rfl⟩
  | cons stmt later inductionHypothesis =>
      rcases ordered.cons_cases with ⟨laterOrdered, declaring⟩
      rcases List.forall_mem_cons.mp supported with ⟨stmtSupported, laterSupported⟩
      cases typed with
      | cons stmtTyped laterTyped =>
          obtain rfl := stmtTyped.after_eq stmtSupported.1
          have evaluated : ∃ next, stmt.eval scratch evaluation = some next := by
            rcases declaring with declares | executing
            · cases stmtTyped with
              | varDecl declarationTyped =>
                  rcases declarationTyped.exists_eval evaluation.store with
                    ⟨output, valueEvaluated⟩
                  exact ⟨_, by rw [Stmt.eval, valueEvaluated, Option.map_some]⟩
              | functionDef => cases stmtSupported.1
              | classDef => cases stmtSupported.1
              | _ => cases declares
            · apply Stmt.exists_eval stmtTyped stmtSupported
              intro name type found
              rcases covered name type found with stored | ⟨declaration, member, _⟩
              · exact stored
              · cases executing _ member
          rcases evaluated with ⟨next, stmtEvaluated⟩
          rw [Stmt.evalAll, stmtEvaluated, Option.bind_some]
          apply inductionHypothesis laterOrdered laterTyped laterSupported
          intro name type found
          rcases covered name type found with ⟨value, stored⟩ | ⟨declaration, member, named⟩
          · exact .inl (Stmt.stored_of_eval stmtEvaluated stored)
          · rcases List.mem_cons.mp member with rfl | member
            · rcases Option.map_eq_some_iff.mp stmtEvaluated with ⟨output, _, rfl⟩
              exact .inl ⟨output.value, named ▸ Table.get?_insert_self _ _ _⟩
            · exact .inr ⟨declaration, member, named⟩

/-- A well-typed program of supported statements can be evaluated to its end. -/
theorem Program.WellTyped.exists_eval {program : Program} (wellTyped : program.WellTyped)
    (supported : ∀ stmt ∈ program, stmt.Supported) (scratch : String) :
    ∃ final, program.eval scratch = some final := by
  rcases wellTyped with ⟨after, ⟨ordered, _, extending, typed⟩⟩
  apply Stmt.exists_evalAll ordered typed supported
  intro name type found
  rcases extending.declared_of_variable found with ⟨declaration, member, named, _⟩
  exact .inr ⟨declaration, member, named⟩

end SlotLang
