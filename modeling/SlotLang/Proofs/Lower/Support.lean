import SlotLang.Proofs.Check.Erasure
import SlotLang.Proofs.Check.Sound
import SlotLang.Proofs.Lower.Slots

/-!
# What can be lowered

Which constructs have instructions, and the first one of a program that has none.
In a well-typed program every variable has a slot, so lowering can fail for no
other reason than such a construct, and it fails at the first.
-/

namespace SlotLang

/-! ## Constructs without instructions -/

/-- Whether the topmost construct of an expression has instructions. -/
def Expr.isSupported : Expr → Bool
  | .literal _ _ => true
  | .name _ _ => true
  | .unary _ op _ => op = .neg
  | .binary _ op _ _ => op ∈ [BinaryOp.add, .sub, .mul]
  | .call _ callee _ => (Builtin.find? callee).isSome
  | .field _ _ _ => false
  | .method _ _ _ _ => false

/-- Whether the kind of a statement has instructions. -/
def Stmt.isSupported : Stmt → Bool
  | .varDecl _ => true
  | .assign _ target _ => target.name?.isSome
  | .evaluate _ _ => true
  | .pass _ => true
  | _ => false

/-- A statement of a supported kind, all of whose expressions are supported. -/
def Stmt.Supported (stmt : Stmt) : Prop :=
  stmt.isSupported = true ∧ ∀ expr ∈ stmt.preorder, expr.isSupported = true

/-- What the topmost construct of an expression is refused with. -/
def Expr.fault? (expr : Expr) : Option Diagnostic :=
  if expr.isSupported then none
  else some { cause := .unsupported expr.describe, position := expr.start }

/-- The name under which a whole statement is refused. -/
def Stmt.refusal? : Stmt → Option String
  | .functionDef definition => some ("function definition `" ++ definition.name ++ "`")
  | .classDef definition => some ("class definition `" ++ definition.name ++ "`")
  | .assign _ target _ =>
      if target.name?.isSome then none else some ("assignment to " ++ target.describe)
  | .branch _ _ _ _ => some "if statement"
  | .loop _ _ _ => some "while loop"
  | .returnValue _ _ => some "return statement"
  | _ => none

/-- What a statement is refused with: as a whole, or else for the first of its
expressions that is refused. -/
def Stmt.fault? (stmt : Stmt) : Option Diagnostic :=
  match stmt.refusal? with
  | some construct =>
      some { cause := .unsupported construct, position := stmt.start }
  | none => stmt.preorder.findSome? Expr.fault?

/-- What a program is refused with: the fault of its first refused statement. -/
def Program.fault? (program : Program) : Option Diagnostic :=
  program.findSome? Stmt.fault?

theorem Expr.fault?_eq_none_iff {expr : Expr} :
    expr.fault? = none ↔ expr.isSupported = true := by
  simp [Expr.fault?]

theorem Stmt.refusal?_eq_none_iff {stmt : Stmt} :
    stmt.refusal? = none ↔ stmt.isSupported = true := by
  cases stmt with
  | assign _ target _ =>
      cases named : target.name? <;> simp [Stmt.refusal?, Stmt.isSupported, named]
  | _ => simp [Stmt.refusal?, Stmt.isSupported]

theorem Stmt.fault?_eq_none_iff {stmt : Stmt} : stmt.fault? = none ↔ stmt.Supported := by
  rw [Stmt.Supported, ← Stmt.refusal?_eq_none_iff, Stmt.fault?]
  cases stmt.refusal? with
  | none => simp [List.findSome?_eq_none_iff, Expr.fault?_eq_none_iff]
  | some => simp

theorem Program.fault?_eq_none_iff {program : Program} :
    program.fault? = none ↔ ∀ stmt ∈ program, stmt.Supported := by
  simp [Program.fault?, List.findSome?_eq_none_iff, Stmt.fault?_eq_none_iff]

/-- Whatever a program is refused with names an unsupported construct. -/
theorem Program.fault?_cause {program : Program} {diagnostic : Diagnostic}
    (refused : program.fault? = some diagnostic) :
    ∃ construct, diagnostic.cause = .unsupported construct := by
  rcases List.exists_of_findSome?_eq_some refused with ⟨stmt, _, stmtRefused⟩
  rw [Stmt.fault?] at stmtRefused
  split at stmtRefused
  · next construct _ =>
    obtain rfl := Option.some.inj stmtRefused
    exact ⟨construct, rfl⟩
  · rcases List.exists_of_findSome?_eq_some stmtRefused with ⟨expr, _, exprRefused⟩
    rw [Expr.fault?] at exprRefused
    split at exprRefused
    · contradiction
    · obtain rfl := Option.some.inj exprRefused
      exact ⟨expr.describe, rfl⟩

/-! ## Supported statements -/

/-- `stmt.Sets scratch name value`: the statement sets the variable to the value of
the expression.  Every supported statement but `pass` does. -/
inductive Stmt.Sets (scratch : String) : Stmt → String → Expr → Prop where
  | varDecl {declaration : VarDecl} :
      Sets scratch (.varDecl declaration) declaration.name declaration.value
  | assign {span : Span} {mark : Mark} {name : String} {value : Expr} :
      Sets scratch (.assign span (.name mark name) value) name value
  | evaluate {span : Span} {value : Expr} :
      Sets scratch (.evaluate span value) scratch value

theorem Stmt.pass_or_sets {stmt : Stmt} (scratch : String)
    (supported : stmt.isSupported = true) :
    (∃ span, stmt = .pass span) ∨ ∃ name value, stmt.Sets scratch name value := by
  cases stmt with
  | varDecl => exact .inr ⟨_, _, .varDecl⟩
  | assign span target value =>
      cases target with
      | name => exact .inr ⟨_, _, .assign⟩
      | _ => cases supported
  | pass span => exact .inl ⟨span, rfl⟩
  | evaluate => exact .inr ⟨_, _, .evaluate⟩
  | _ => cases supported

namespace Stmt.Sets

variable {scratch name : String} {stmt : Stmt} {value : Expr}

theorem lower_eq (sets : stmt.Sets scratch name value) (slots : List String) :
    ∃ position, stmt.lower scratch slots =
      value.lower slots ++ .onSlot slots .storeLocal name position := by
  cases sets <;> exact ⟨_, rfl⟩

theorem fault?_eq (sets : stmt.Sets scratch name value) :
    stmt.fault? = value.preorder.findSome? Expr.fault? := by
  cases sets <;> rfl

theorem isSupported_of_mem (sets : stmt.Sets scratch name value)
    (supported : stmt.Supported) : ∀ part ∈ value.preorder, part.isSupported = true := by
  intro part member
  apply supported.2
  cases sets with
  | assign => exact List.mem_append_right _ member
  | _ => exact member

/-- The variable is one that the statement names, or the scratch variable. -/
theorem named_iff (sets : stmt.Sets scratch name value) {other : String} :
    (other ∈ stmt.setNames ∨ stmt.usesScratch = true ∧ other = scratch) ↔
      other = name := by
  cases sets <;> simp [Stmt.setNames, Stmt.usesScratch, Expr.name?]

theorem hasType (sets : stmt.Sets scratch name value) {outer : Scopes} {expected : Ty}
    {frame after : Frame} (typed : Stmt.WellTyped outer expected frame stmt after) :
    ∃ type, value.HasType (frame :: outer) type := by
  cases sets with
  | varDecl =>
      cases typed with
      | varDecl declarationTyped =>
          rcases declarationTyped.accepted with ⟨type, valueTyped, _⟩
          exact ⟨type, valueTyped⟩
  | assign =>
      cases typed with
      | assign _ _ valueTyped => exact ⟨_, valueTyped⟩
  | evaluate =>
      cases typed with
      | evaluate valueTyped => exact ⟨_, valueTyped⟩

end Stmt.Sets

/-! ## Lowering reports the first fault -/

/-- The outcome of a lowering that meets the given fault, if any. -/
def reporting : Option Diagnostic → Except Diagnostic Unit
  | none => .ok ()
  | some diagnostic => .error diagnostic

theorem Lowered.append_reports {first second : Lowered}
    {firstFault secondFault : Option Diagnostic}
    (firstReports : first.outcome = reporting firstFault)
    (secondReports : firstFault = none → second.outcome = reporting secondFault) :
    (first ++ second).outcome = reporting (firstFault.or secondFault) := by
  cases firstFault with
  | none => rw [append_of_ok firstReports, secondReports rfl, Option.none_or]
  | some => rw [append_of_error firstReports, firstReports, Option.some_or]

theorem Lowered.append_emit_reports {lowered : Lowered} {fault : Option Diagnostic}
    (instr : Instr) (reports : lowered.outcome = reporting fault) :
    (lowered ++ .emit instr).outcome = reporting fault := by
  rw [← Option.or_none (o := fault)]
  exact append_reports reports fun _ => rfl

/-- Every variable in scope has a slot. -/
def Scopes.Slotted (scopes : Scopes) (slots : List String) : Prop :=
  ∀ name type, scopes.lookup? name = some (.ofVariable type) → name ∈ slots

theorem BinaryOp.instr?_isSome (op : BinaryOp) :
    op.instr?.isSome = decide (op ∈ [BinaryOp.add, .sub, .mul]) := by
  cases op <;> rfl

mutual

/-- In scopes whose variables have slots, the lowering of a typed expression fails
at the first unsupported part, in source order. -/
theorem Expr.lower_reports {scopes : Scopes} {slots : List String}
    (slotted : scopes.Slotted slots) (expr : Expr) {type : Ty}
    (typed : expr.HasType scopes type) :
    (expr.lower slots).outcome = reporting (expr.preorder.findSome? Expr.fault?) := by
  cases expr with
  | literal => rfl
  | name mark named =>
      cases typed with
      | name bound =>
          rw [Expr.lower, Lowered.onSlot_of_mem _ _ (slotted _ _ bound)]
          rfl
  | unary mark op operand =>
      cases typed with
      | not => rfl
      | neg operandTyped =>
          have operandReports := Expr.lower_reports slotted operand operandTyped
          rw [Expr.lower, Lowered.append_of_ok rfl]
          exact Lowered.append_emit_reports _ operandReports
  | binary mark op left right =>
      rcases typed.operands with ⟨leftType, rightType, leftTyped, rightTyped⟩
      have leftReports := Expr.lower_reports slotted left leftTyped
      have rightReports := Expr.lower_reports slotted right rightTyped
      rw [Expr.lower, Expr.preorder, List.findSome?_cons, Expr.fault?, Expr.isSupported,
        ← BinaryOp.instr?_isSome]
      cases op.instr? with
      | none => rfl
      | some instr =>
          simp only [Option.isSome_some, if_true, List.findSome?_append]
          exact Lowered.append_reports leftReports
            fun _ => Lowered.append_emit_reports instr rightReports
  | call mark callee arguments =>
      rcases typed.arguments with ⟨types, argumentsTyped⟩
      have argumentsReport := Expr.lowerAll_reports slotted arguments argumentsTyped
      rw [Expr.lower, Expr.preorder, List.findSome?_cons, Expr.fault?, Expr.isSupported]
      cases Builtin.find? callee with
      | none => rfl
      | some =>
          simp only [Option.isSome_some, if_true]
          exact Lowered.append_emit_reports _ argumentsReport
  | field => rfl
  | method => rfl
termination_by structural expr

theorem Expr.lowerAll_reports {scopes : Scopes} {slots : List String}
    (slotted : scopes.Slotted slots) (exprs : List Expr) {types : List Ty}
    (typed : List.Forall₂ (Expr.HasType scopes) exprs types) :
    (Expr.lowerAll slots exprs).outcome =
      reporting ((Expr.preorderAll exprs).findSome? Expr.fault?) := by
  cases exprs with
  | nil => rfl
  | cons expr later =>
      cases typed with
      | cons exprTyped laterTyped =>
          rw [Expr.lowerAll, Expr.preorderAll, List.findSome?_append]
          exact Lowered.append_reports (Expr.lower_reports slotted expr exprTyped)
            fun _ => Expr.lowerAll_reports slotted later laterTyped
termination_by structural exprs

end

/-- A statement of an unsupported kind is refused as a whole. -/
theorem Stmt.lower_of_not_isSupported {stmt : Stmt} (scratch : String)
    (slots : List String) (unsupported : stmt.isSupported = false) :
    ∃ construct, stmt.refusal? = some construct ∧
      stmt.lower scratch slots = .fail (.unsupported construct) stmt.start := by
  cases stmt with
  | assign span target value =>
      cases target with
      | name => cases unsupported
      | _ => exact ⟨_, rfl, rfl⟩
  | varDecl => cases unsupported
  | evaluate => cases unsupported
  | pass => cases unsupported
  | _ => exact ⟨_, rfl, rfl⟩

/-- A statement with no slot missing is refused with its fault. -/
theorem Stmt.lower_reports {scratch : String} {slots : List String} {outer : Scopes}
    {expected : Ty} {frame after : Frame} {stmt : Stmt}
    (typed : Stmt.WellTyped outer expected frame stmt after)
    (slotted : Scopes.Slotted (frame :: outer) slots)
    (settable : ∀ name, name ∈ stmt.setNames ∨ stmt.usesScratch = true ∧ name = scratch →
      name ∈ slots) :
    (stmt.lower scratch slots).outcome = reporting stmt.fault? := by
  cases supported : stmt.isSupported with
  | false =>
      rcases Stmt.lower_of_not_isSupported scratch slots supported with
        ⟨construct, refused, lowered⟩
      rw [lowered, Stmt.fault?, refused]
      rfl
  | true =>
      rcases Stmt.pass_or_sets scratch supported with ⟨span, rfl⟩ | ⟨name, value, sets⟩
      · rfl
      · rcases sets.hasType typed with ⟨type, valueTyped⟩
        rcases sets.lower_eq slots with ⟨position, lowered⟩
        rw [lowered, sets.fault?_eq,
          Lowered.onSlot_of_mem _ _ (settable name (sets.named_iff.mpr rfl))]
        exact Lowered.append_emit_reports _ (Expr.lower_reports slotted value valueTyped)

/-- Supported statements declare no names of inner blocks. -/
theorem Stmt.WellTyped.after_eq {outer : Scopes} {expected : Ty} {frame after : Frame}
    {stmt : Stmt} (typed : Stmt.WellTyped outer expected frame stmt after)
    (supported : stmt.isSupported = true) : after = frame := by
  cases typed with
  | branch => cases supported
  | loop => cases supported
  | _ => rfl

/-- Statements with no slot missing are refused with the first fault among them. -/
theorem Stmt.lowerAll_reports {scratch : String} {slots : List String} {outer : Scopes}
    {expected : Ty} {frame after : Frame} {body : List Stmt}
    (typed : Stmt.AllWellTyped outer expected frame body after)
    (slotted : Scopes.Slotted (frame :: outer) slots)
    (settable : ∀ name, name ∈ Stmt.setNamesAll body ∨
      Stmt.anyUsesScratch body = true ∧ name = scratch → name ∈ slots) :
    (Stmt.lowerAll scratch slots body).outcome =
      reporting (body.findSome? Stmt.fault?) := by
  induction body generalizing frame with
  | nil => rfl
  | cons stmt later inductionHypothesis =>
      have sets := @Stmt.setNamesAll_cons_iff scratch stmt later
      cases typed with
      | cons stmtTyped laterTyped =>
          have stmtReports : (stmt.lower scratch slots).outcome = reporting stmt.fault? :=
            Stmt.lower_reports stmtTyped slotted
              fun name set => settable name (sets.mpr (.inl set))
          have faults : (stmt :: later).findSome? Stmt.fault? =
              stmt.fault?.or (later.findSome? Stmt.fault?) := by
            rw [List.findSome?_cons]
            cases stmt.fault? <;> rfl
          rw [Stmt.lowerAll, faults]
          apply Lowered.append_reports stmtReports
          intro accepted
          -- Only after a supported statement does lowering go on, and then the
          -- frame is still the one whose variables have slots.
          obtain rfl := stmtTyped.after_eq (Stmt.fault?_eq_none_iff.mp accepted).1
          exact inductionHypothesis laterTyped slotted
            fun name set => settable name (sets.mpr (.inr set))

/-! ## Programs -/

theorem Frame.Extends.get?_eq_some {frame extended : Frame}
    {bindings : List (String × Symbol)} {name : String} {symbol : Symbol}
    (extending : frame.Extends bindings extended)
    (found : extended.get? name = some symbol) :
    frame.get? name = some symbol ∨ (name, symbol) ∈ bindings := by
  by_cases listed : name ∈ bindings.map Prod.fst
  · right
    rcases List.mem_map.mp listed with ⟨binding, member, rfl⟩
    rw [extending.bound binding member] at found
    obtain rfl := Option.some.inj found
    exact member
  · left
    rwa [extending.kept name listed] at found

theorem Scopes.lookup?_singleton (frame : Frame) (name : String) :
    Scopes.lookup? [frame] name = frame.get? name := by
  simp [Scopes.lookup?]

/-- The variables of the outermost frame are those that the program declares. -/
theorem Frame.Extends.declared_of_variable {program : Program} {bound : Frame}
    {name : String} {type : Ty}
    (extending : Frame.Extends ∅ (program.filterMap Stmt.binding?) bound)
    (found : Scopes.lookup? [bound] name = some (.ofVariable type)) :
    ∃ declaration : VarDecl, .varDecl declaration ∈ program ∧
      declaration.name = name ∧ declaration.type = type := by
  rw [Scopes.lookup?_singleton] at found
  rcases extending.get?_eq_some found with absent | listed
  · simp at absent
  · rcases List.mem_filterMap.mp listed with ⟨stmt, member, binds⟩
    cases stmt <;> simp [Stmt.binding?] at binds
    next declaration => exact ⟨declaration, member, binds⟩

/-- Classes are not supported, so no name of a supported program denotes one. -/
theorem Frame.Extends.get?_ne_class {program : Program} {bound : Frame}
    (extending : Frame.Extends ∅ (program.filterMap Stmt.binding?) bound)
    (supported : ∀ stmt ∈ program, stmt.Supported) (name : String) (members : Members) :
    bound.get? name ≠ some (.ofClass members) := by
  intro found
  rcases extending.get?_eq_some found with absent | listed
  · simp at absent
  · rcases List.mem_filterMap.mp listed with ⟨stmt, member, binds⟩
    have stmtSupported := (supported stmt member).1
    cases stmt <;> simp [Stmt.binding?, Stmt.isSupported] at binds stmtSupported

/-- The slots that a program gets hold all its variables. -/
theorem Frame.Extends.slotted {program : Program} {bound : Frame} (scratch : String)
    (extending : Frame.Extends ∅ (program.filterMap Stmt.binding?) bound) :
    Scopes.Slotted [bound] (allocateBlock scratch [] program) := by
  intro name type found
  rcases extending.declared_of_variable found with ⟨declaration, member, rfl, _⟩
  exact mem_allocateBlock_iff.mpr
    (.inr (.inl (Stmt.mem_setNamesAll member List.mem_cons_self)))

/-- A well-typed program is lowered up to its first fault. -/
theorem Program.WellTyped.lower_reports {program : Program}
    (wellTyped : program.WellTyped) (scratch : String) :
    (Stmt.lowerAll scratch (allocateBlock scratch [] program) program).outcome =
      reporting program.fault? := by
  rcases wellTyped with ⟨after, ⟨_, _, extending, typed⟩⟩
  apply Stmt.lowerAll_reports typed (extending.slotted scratch)
  intro name set
  exact mem_allocateBlock_iff.mpr (.inr set)

theorem Program.WellTyped.lower_succeeds {program : Program}
    (wellTyped : program.WellTyped) (supported : ∀ stmt ∈ program, stmt.Supported)
    (scratch : String) :
    (Stmt.lowerAll scratch (allocateBlock scratch [] program) program).outcome = .ok () := by
  rw [wellTyped.lower_reports, Program.fault?_eq_none_iff.mpr supported]
  rfl

/-- A checked program compiles to the declarations of its slots and its lowered
statements, unless it has a fault. -/
theorem Program.compile_typed {program typed : Program}
    (accepted : program.typed = .ok typed) (scratch : String) :
    ({ scratch := scratch } : Compiler).compile typed =
      (reporting program.fault?).map fun _ =>
        (allocateBlock scratch [] program).map .localDeclare ++
          (Stmt.lowerAll scratch (allocateBlock scratch [] program) program).code := by
  rw [Compiler.compile_eq_of_eraseAll_eq (Program.eraseAll_typed accepted),
    ← (Program.wellTyped_of_typed accepted).lower_reports scratch, Compiler.compile_fresh]

theorem Program.compile_eq_ok_iff {program typed : Program}
    (accepted : program.typed = .ok typed) {scratch : String} {code : List Instr} :
    ({ scratch := scratch } : Compiler).compile typed = .ok code ↔
      (∀ stmt ∈ program, stmt.Supported) ∧
        (allocateBlock scratch [] program).map .localDeclare ++
          (Stmt.lowerAll scratch (allocateBlock scratch [] program) program).code =
            code := by
  rw [Program.compile_typed accepted, ← Program.fault?_eq_none_iff]
  cases program.fault? <;> simp [reporting, Except.map]

/-- A checked program compiles exactly if its statements are supported.  If it does
not, it is refused with its first fault, which is an unsupported construct and never
a missing slot. -/
theorem Program.compile_reports_first_fault {program typed : Program}
    (accepted : program.typed = .ok typed) (scratch : String) :
    (∀ diagnostic, ({ scratch := scratch } : Compiler).compile typed = .error diagnostic →
      ∀ name, diagnostic.cause ≠ .unboundLocal name) ∧
    ((∃ code, ({ scratch := scratch } : Compiler).compile typed = .ok code) ↔
      ∀ stmt ∈ program, stmt.Supported) ∧
    ((¬ ∀ stmt ∈ program, stmt.Supported) →
      ∃ construct position,
        program.fault? = some { cause := .unsupported construct, position := position } ∧
        ({ scratch := scratch } : Compiler).compile typed =
          .error { cause := .unsupported construct, position := position }) := by
  rw [Program.compile_typed accepted, ← Program.fault?_eq_none_iff]
  cases faults : program.fault? with
  | none => simp [reporting, Except.map]
  | some fault =>
      rcases Program.fault?_cause faults with ⟨construct, unsupported⟩
      refine ⟨?_, by simp [reporting, Except.map], fun _ => ?_⟩
      · intro diagnostic refused name unbound
        obtain rfl : fault = diagnostic := Except.error.inj refused
        rw [unsupported] at unbound
        contradiction
      · rcases fault with ⟨_, position⟩
        obtain rfl : _ = Cause.unsupported construct := unsupported
        exact ⟨construct, position, rfl, rfl⟩

/-- A program in which an unsupported operator stands inside a supported one, before
another unsupported operator and an unsupported statement. -/
def halvingProgram : Program :=
  let mark (first last : UInt32) : Mark := { span := .ofOffsets "halve" first last }
  let number (first last : UInt32) (value : Int32) : Expr :=
    .literal (mark first last) (.number value)
  let name (first last : UInt32) : Expr := .name (mark first last) "size"
  [.varDecl ⟨.ofOffsets "halve" 0 13, "size", .int, number 12 13 9⟩,
  .assign (.ofOffsets "halve" 14 42) (name 14 18)
    (.binary (mark 21 42) .add
      (.unary (mark 21 31) .neg
        (.binary (mark 22 31) .div (name 23 27) (number 30 31 2)))
      (.binary (mark 34 42) .mod (name 34 38) (number 41 42 2))),
  .loop (.ofOffsets "halve" 43 60) (.literal (mark 49 53) (.boolean true)) []]

theorem halvingProgram_refused :
    ∃ typed, halvingProgram.typed = .ok typed ∧
      ({ scratch := "size" } : Compiler).compile typed =
        .error
          { cause := .unsupported "binary `/`", position := ⟨22, "halve"⟩ } := by
  have accepted : halvingProgram.typed = .ok _ := rfl
  rcases Program.compile_reports_first_fault accepted "size" with ⟨_, _, refused⟩
  have unsupported : ¬ ∀ stmt ∈ halvingProgram, stmt.Supported := by
    rw [← Program.fault?_eq_none_iff]
    decide
  rcases refused unsupported with ⟨construct, position, first, compiled⟩
  refine ⟨_, accepted, ?_⟩
  rw [compiled, ← Option.some.inj first]
  rfl

end SlotLang
