import Mathlib.Data.List.Nodup
import SlotLang.Proofs.Lower.Continuation
import SlotLang.Proofs.Machine.DefiniteAssignment

/-!
# The layout of code

The code of a program makes its locals first: one for each variable, in the order of their
declarations, and perhaps the scratch slot behind them.  What follows works on these locals
only, calls built-ins only, and reads no local before it has set it.  The last holds because
declarations stand first and start with literals, which is also why the program can be
evaluated: a variable has no value before it is set.
-/

namespace SlotLang

/-! ## The slots of a program -/

/-- The variable that a statement declares. -/
def Stmt.variable? : Stmt → Option String
  | .varDecl declaration => some declaration.name
  | _ => none

/-- The variables that a program declares, in order. -/
def Program.variableNames (program : Program) : List String :=
  program.filterMap Stmt.variable?

/-- Whether a statement is an expression that stands by itself. -/
def Stmt.isEvaluation : Stmt → Bool
  | .evaluate _ _ => true
  | _ => false

theorem foldl_allocate_of_nodup {slots names : List String}
    (distinct : (slots ++ names).Nodup) : names.foldl allocate slots = slots ++ names := by
  induction names generalizing slots with
  | nil => exact (List.append_nil slots).symm
  | cons name later inductionHypothesis =>
      have fresh : name ∉ slots := fun member =>
        (List.disjoint_of_nodup_append distinct) member List.mem_cons_self
      rw [List.append_cons] at distinct
      rw [List.foldl_cons, allocate, if_neg fresh, inductionHypothesis distinct,
        ← List.append_cons]

theorem nodup_allocate {slots : List String} (distinct : slots.Nodup) (name : String) :
    (allocate slots name).Nodup := by
  unfold allocate
  split
  · exact distinct
  · next fresh => exact distinct.append (List.nodup_singleton name) (by simpa using fresh)

theorem nodup_foldl_allocate {slots : List String} (distinct : slots.Nodup)
    (names : List String) : (names.foldl allocate slots).Nodup := by
  induction names generalizing slots with
  | nil => exact distinct
  | cons name later inductionHypothesis =>
      exact inductionHypothesis (nodup_allocate distinct name)

/-- No name has two slots. -/
theorem nodup_allocateBlock (scratch : String) (body : List Stmt) :
    (allocateBlock scratch [] body).Nodup := by
  have named := nodup_foldl_allocate List.nodup_nil (Stmt.setNamesAll body)
  unfold allocateBlock
  split
  · exact nodup_allocate named scratch
  · exact named

/-- Declarations of variables set what they declare. -/
theorem Stmt.setNamesAll_of_declarations {body : List Stmt}
    (declaring : ∀ stmt ∈ body, stmt.isDeclaration = true)
    (supported : ∀ stmt ∈ body, stmt.Supported) :
    Stmt.setNamesAll body = Program.variableNames body := by
  induction body with
  | nil => rfl
  | cons stmt later inductionHypothesis =>
      rcases List.forall_mem_cons.mp declaring with ⟨stmtDeclaring, laterDeclaring⟩
      rcases List.forall_mem_cons.mp supported with ⟨stmtSupported, laterSupported⟩
      rcases Stmt.exists_varDecl stmtDeclaring stmtSupported.1 with ⟨declaration, rfl⟩
      rw [Stmt.setNamesAll, inductionHypothesis laterDeclaring laterSupported]
      rfl

theorem Program.variableNames_eq_nil {body : List Stmt}
    (executing : ∀ stmt ∈ body, stmt.isDeclaration = false) :
    Program.variableNames body = [] := by
  rw [Program.variableNames, List.filterMap_eq_nil_iff]
  intro stmt member
  have silent := executing stmt member
  cases stmt with
  | varDecl => cases silent
  | _ => rfl

theorem Program.mem_variableNames {program : Program} {declaration : VarDecl}
    (member : .varDecl declaration ∈ program) : declaration.name ∈ program.variableNames :=
  List.mem_filterMap.mpr ⟨_, member, rfl⟩

/-- All that a supported program binds is variables. -/
theorem Program.variableNames_eq_map_fst {program : Program}
    (supported : ∀ stmt ∈ program, stmt.Supported) :
    program.variableNames = (program.filterMap Stmt.binding?).map Prod.fst := by
  rw [Program.variableNames, List.map_filterMap]
  apply List.filterMap_congr
  intro stmt member
  have stmtSupported := (supported stmt member).1
  cases stmt with
  | functionDef => cases stmtSupported
  | classDef => cases stmtSupported
  | _ => rfl

theorem Program.nodup_variableNames {program typed : Program}
    (accepted : program.typed = .ok typed) (supported : ∀ stmt ∈ program, stmt.Supported) :
    program.variableNames.Nodup := by
  rcases Program.wellTyped_of_typed accepted with ⟨after, ⟨_, _, extending, _⟩⟩
  rw [Program.variableNames_eq_map_fst supported]
  exact extending.distinct

/-- A program sets its variables in order, and then no others. -/
theorem Program.foldl_allocate_setNamesAll {program typed : Program}
    (accepted : program.typed = .ok typed) (supported : ∀ stmt ∈ program, stmt.Supported) :
    (Stmt.setNamesAll program).foldl allocate [] = program.variableNames := by
  have distinct := Program.nodup_variableNames accepted supported
  have declared : ∀ name ∈ Stmt.setNamesAll program, name ∈ program.variableNames := by
    intro name set
    rcases Stmt.exists_of_mem_setNamesAll set with ⟨stmt, member, stmtSets⟩
    rcases Program.declared_of_setNames accepted supported member stmtSets with
      ⟨declaration, listed, rfl⟩
    exact Program.mem_variableNames listed
  rcases Program.wellTyped_of_typed accepted with ⟨after, ⟨ordered, _⟩⟩
  rcases ordered with ⟨declarations, statements, rfl, declaring, executing⟩
  have names : Program.variableNames (declarations ++ statements) =
      Program.variableNames declarations := by
    rw [Program.variableNames, List.filterMap_append]
    exact (congrArg _ (Program.variableNames_eq_nil executing)).trans (List.append_nil _)
  rw [Stmt.setNamesAll_append] at declared ⊢
  rw [names] at distinct declared ⊢
  have declaredFirst : (Stmt.setNamesAll declarations).foldl allocate [] =
      Program.variableNames declarations := by
    rw [Stmt.setNamesAll_of_declarations declaring (List.forall_mem_append.mp supported).1]
    exact foldl_allocate_of_nodup distinct
  rw [List.foldl_append, declaredFirst]
  exact foldl_allocate_of_subset fun name set =>
    declared name (List.mem_append_right _ set)

theorem Stmt.anyUsesScratch_eq_any {body : List Stmt}
    (supported : ∀ stmt ∈ body, stmt.Supported) :
    Stmt.anyUsesScratch body = body.any Stmt.isEvaluation := by
  induction body with
  | nil => rfl
  | cons stmt later inductionHypothesis =>
      rcases List.forall_mem_cons.mp supported with ⟨stmtSupported, laterSupported⟩
      have here : stmt.usesScratch = stmt.isEvaluation := by
        have kind := stmtSupported.1
        cases stmt with
        | branch => cases kind
        | loop => cases kind
        | _ => rfl
      rw [Stmt.anyUsesScratch, here, inductionHypothesis laterSupported, List.any_cons]

/-- The slots of a program are its variables and, if it leaves a value that nobody asked for
and no variable takes it, the scratch slot. -/
theorem Program.slots_eq {program typed : Program} (accepted : program.typed = .ok typed)
    (supported : ∀ stmt ∈ program, stmt.Supported) (scratch : String) :
    allocateBlock scratch [] program =
      program.variableNames ++
        if program.any Stmt.isEvaluation ∧ scratch ∉ program.variableNames then [scratch]
        else [] := by
  unfold allocateBlock
  rw [Program.foldl_allocate_setNamesAll accepted supported,
    Stmt.anyUsesScratch_eq_any supported]
  cases program.any Stmt.isEvaluation with
  | false => simp
  | true =>
      by_cases taken : scratch ∈ program.variableNames <;> simp [allocate, taken]

/-! ## The code of statements -/

/-- Whether a statement sets a variable, or the scratch slot. -/
def Stmt.isSetting : Stmt → Bool
  | .varDecl _ => true
  | .assign _ _ _ => true
  | .evaluate _ _ => true
  | _ => false

theorem Stmt.Sets.isSetting_eq_true {scratch name : String} {stmt : Stmt} {value : Expr}
    (sets : stmt.Sets scratch name value) : stmt.isSetting = true := by
  cases sets <;> rfl

/-- All variables that have a value are listed. -/
def Table.Listed (store : Table Int) (names : List String) : Prop :=
  ∀ name value, store.get? name = some value → name ∈ names

theorem Table.Listed.insert {store : Table Int} {names : List String}
    (listed : store.Listed names) (name : String) (value : Int) :
    (store.insert name value).Listed (name :: names) := by
  intro other found stored
  by_cases same : other = name
  · exact List.mem_cons.mpr (.inl same)
  · rw [Table.get?_insert_of_ne _ _ same] at stored
    exact List.mem_cons_of_mem name (listed other found stored)

theorem BinaryOp.inOrder_instr {op : BinaryOp} {instr : Instr}
    (instruction : op.instr? = some instr) (slots set : List String) :
    instr.InOrder slots set set := by
  cases op with
  | add => exact Option.some.inj instruction ▸ .add
  | sub => exact Option.some.inj instruction ▸ .sub
  | mul => exact Option.some.inj instruction ▸ .mul
  | _ => cases instruction

/-- The code of an expression that has a value reads only variables that have one. -/
theorem Expr.inOrder_lower {slots set : List String} {store : Table Int}
    (listed : store.Listed set) (expr : Expr) {output : Output}
    (evaluated : expr.eval store = some output)
    (lowered : (expr.lower slots).outcome = .ok ()) :
    Instr.AllInOrder slots set (expr.lower slots).code set := by
  cases expr with
  | literal => exact .single .pushConstant
  | name mark named =>
      rcases Option.map_eq_some_iff.mp evaluated with ⟨value, found, -⟩
      rw [Expr.lower] at lowered ⊢
      have slotted := Lowered.onSlot_outcome_eq_ok_iff.mp lowered
      rw [Lowered.onSlot_of_mem _ _ slotted]
      exact .single (.loadLocal slotted (listed named value found))
  | unary mark op operand =>
      cases op with
      | not => cases evaluated
      | neg =>
          rcases Option.map_eq_some_iff.mp evaluated with ⟨_, operandEvaluated, -⟩
          rw [Expr.lower] at lowered ⊢
          simp only [Lowered.append_outcome_eq_ok_iff] at lowered
          rcases lowered with ⟨constantLowered, operandLowered, -⟩
          rw [Lowered.append_code constantLowered, Lowered.append_code operandLowered]
          have operandInOrder :=
            Expr.inOrder_lower listed operand operandEvaluated operandLowered
          exact .cons .pushConstant (operandInOrder.append (.single .sub))
  | binary mark op left right =>
      rcases Option.bind_eq_some_iff.mp evaluated with ⟨_, -, evaluated⟩
      rcases Option.bind_eq_some_iff.mp evaluated with ⟨_, leftEvaluated, evaluated⟩
      rcases Option.map_eq_some_iff.mp evaluated with ⟨_, rightEvaluated, -⟩
      rw [Expr.lower] at lowered ⊢
      cases instruction : op.instr? with
      | none =>
          rw [instruction] at lowered
          cases lowered
      | some instr =>
          simp only [instruction, Lowered.append_outcome_eq_ok_iff] at lowered ⊢
          rcases lowered with ⟨leftLowered, rightLowered, -⟩
          rw [Lowered.append_code leftLowered, Lowered.append_code rightLowered]
          have leftInOrder := Expr.inOrder_lower listed left leftEvaluated leftLowered
          have rightInOrder := Expr.inOrder_lower listed right rightEvaluated rightLowered
          have operationInOrder := BinaryOp.inOrder_instr instruction slots set
          exact leftInOrder.append (rightInOrder.append (.single operationInOrder))
  | call mark callee arguments =>
      cases arguments with
      | nil => cases evaluated
      | cons argument later =>
          cases later with
          | cons => cases evaluated
          | nil =>
              rw [Expr.eval] at evaluated
              split at evaluated
              · next isPrint =>
                subst isPrint
                rcases Option.map_eq_some_iff.mp evaluated with ⟨_, argumentEvaluated, -⟩
                rw [Expr.lower_print] at lowered ⊢
                have argumentLowered := (Lowered.append_outcome_eq_ok_iff.mp lowered).1
                rw [Lowered.append_code argumentLowered]
                have argumentInOrder :=
                  Expr.inOrder_lower listed argument argumentEvaluated argumentLowered
                have isBuiltin := Builtin.find?_eq_some_iff.mpr ⟨rfl, rfl⟩
                exact argumentInOrder.append (.single (.call isBuiltin))
              · cases evaluated
  | field => cases evaluated
  | method => cases evaluated
termination_by structural expr

/-- The code of a statement sets one slot if the statement is one that sets a variable, and
otherwise there is none. -/
theorem Stmt.inOrder_lower {scratch : String} {slots set : List String}
    {evaluation next : Evaluation} {stmt : Stmt} (listed : evaluation.store.Listed set)
    (evaluated : stmt.eval scratch evaluation = some next)
    (lowered : (stmt.lower scratch slots).outcome = .ok ()) :
    ∃ after, Instr.AllInOrder slots set (stmt.lower scratch slots).code after ∧
      next.store.Listed after ∧ after.length = set.length + [stmt].countP Stmt.isSetting := by
  rcases Stmt.cases_of_eval evaluated with
    ⟨_, rfl, rfl⟩ | ⟨name, value, output, sets, valueEvaluated, rfl⟩
  · exact ⟨set, .nil, listed, rfl⟩
  · rcases sets.lower_eq slots with ⟨position, split⟩
    rw [split] at lowered ⊢
    rcases Lowered.append_outcome_eq_ok_iff.mp lowered with ⟨valueLowered, stored⟩
    have slotted := Lowered.onSlot_outcome_eq_ok_iff.mp stored
    rw [Lowered.append_code valueLowered, Lowered.onSlot_of_mem _ _ slotted]
    have valueInOrder := Expr.inOrder_lower listed value valueEvaluated valueLowered
    refine ⟨name :: set, valueInOrder.append (.single (.storeLocal slotted)),
      listed.insert name output.value, ?_⟩
    rw [List.countP_singleton, if_pos sets.isSetting_eq_true, List.length_cons]

/-- The code of statements reads only what it has set, and sets one slot for each statement
that sets a variable. -/
theorem Stmt.inOrder_lowerAll {scratch : String} {slots set : List String}
    {evaluation final : Evaluation} {body : List Stmt} (listed : evaluation.store.Listed set)
    (evaluated : Stmt.evalAll scratch evaluation body = some final)
    (lowered : (Stmt.lowerAll scratch slots body).outcome = .ok ()) :
    ∃ after, Instr.AllInOrder slots set (Stmt.lowerAll scratch slots body).code after ∧
      final.store.Listed after ∧ after.length = set.length + body.countP Stmt.isSetting := by
  induction body generalizing evaluation set with
  | nil =>
      obtain rfl := Option.some.inj evaluated
      exact ⟨set, .nil, listed, rfl⟩
  | cons stmt later inductionHypothesis =>
      rcases Option.bind_eq_some_iff.mp evaluated with ⟨next, stmtEvaluated, laterEvaluated⟩
      rw [Stmt.lowerAll] at lowered ⊢
      rcases Lowered.append_outcome_eq_ok_iff.mp lowered with ⟨stmtLowered, laterLowered⟩
      rw [Lowered.append_code stmtLowered]
      rcases Stmt.inOrder_lower listed stmtEvaluated stmtLowered with
        ⟨between, stmtInOrder, nextListed, stmtLength⟩
      rcases inductionHypothesis nextListed laterEvaluated laterLowered with
        ⟨after, laterInOrder, finalListed, laterLength⟩
      refine ⟨after, stmtInOrder.append laterInOrder, finalListed, ?_⟩
      rw [laterLength, stmtLength, Nat.add_assoc, ← List.countP_append, List.singleton_append]

/-! ## Programs -/

/-- The statements of a program set all its slots, and read none before. -/
theorem Program.inOrder_lowerAll {program typed : Program}
    (accepted : program.typed = .ok typed) (supported : ∀ stmt ∈ program, stmt.Supported)
    (scratch : String) :
    ∃ after, Instr.AllInOrder (allocateBlock scratch [] program) []
        (Stmt.lowerAll scratch (allocateBlock scratch [] program) program).code after ∧
      (∀ name ∈ allocateBlock scratch [] program, name ∈ after) ∧
      after.length = program.countP Stmt.isSetting := by
  have wellTyped := Program.wellTyped_of_typed accepted
  rcases wellTyped.exists_eval supported scratch with ⟨final, evaluated⟩
  have nothingSet : Table.Listed ({} : Evaluation).store [] := by
    intro name value stored
    cases stored
  rcases Stmt.inOrder_lowerAll nothingSet evaluated
    (wellTyped.lower_succeeds supported scratch) with ⟨after, inOrder, listed, length⟩
  refine ⟨after, inOrder, ?_, length.trans (Nat.zero_add _)⟩
  intro name slotted
  have set := (mem_allocateBlock_iff.mp slotted).resolve_left List.not_mem_nil
  rcases Stmt.set_of_evalAll evaluated set with ⟨value, found⟩
  exact listed name value found

/-- What is no declaration stands behind the declarations. -/
theorem mem_declarations_append_iff {slots : List String} {body : List Instr} {instr : Instr}
    (executing : instr.declaredLocal? = none) :
    instr ∈ slots.map .localDeclare ++ body ↔ instr ∈ body := by
  rw [List.mem_append, or_iff_right]
  intro member
  rcases List.mem_map.mp member with ⟨name, -, rfl⟩
  cases executing

theorem exists_split_of_declarations_append {slots : List String}
    {body front back : List Instr} {instr : Instr} (executing : instr.declaredLocal? = none)
    (split : slots.map .localDeclare ++ body = front ++ instr :: back) :
    ∃ between, front = slots.map .localDeclare ++ between ∧
      body = between ++ instr :: back := by
  induction slots generalizing front with
  | nil => exact ⟨front, rfl, split⟩
  | cons slot later inductionHypothesis =>
      cases front with
      | nil =>
          obtain rfl : Instr.localDeclare slot = instr := (List.cons.inj split).1
          cases executing
      | cons first rest =>
          rcases List.cons.inj split with ⟨rfl, laterSplit⟩
          rcases inductionHypothesis laterSplit with ⟨between, rfl, bodySplit⟩
          exact ⟨between, rfl, bodySplit⟩

theorem storedLocals_declarations_append (slots : List String) (body : List Instr) :
    storedLocals (slots.map .localDeclare ++ body) = storedLocals body := by
  have silent : slots.filterMap (Instr.storedLocal? ∘ .localDeclare) = [] :=
    List.filterMap_eq_nil_iff.mpr fun _ _ => rfl
  rw [storedLocals, List.filterMap_append, List.filterMap_map, silent, List.nil_append,
    storedLocals]

/-- Code is the declarations of its locals, which are the variables of the program in order
and, if it leaves a value that nobody asked for and no variable takes it, the scratch slot;
and then instructions that declare nothing.  All locals that it uses are declared, it calls
only built-ins, and it stores once for each statement that sets a variable.  What it loads it
has stored before.  So nothing depends on what fresh locals hold: with any other values the
instructions behind the declarations run to the same outcome and leave the same machine, and
when they are all executed, also the same values of the locals. -/
theorem Program.compiled_code_layout {program typed : Program} {scratch : String}
    {code : List Instr} (accepted : program.typed = .ok typed)
    (compiled : ({ scratch := scratch } : Compiler).compile typed = .ok code) :
    ∃ body,
      code = (declaredLocals code).map .localDeclare ++ body ∧
      (∀ name, .localDeclare name ∉ body) ∧
      (declaredLocals code).Nodup ∧
      declaredLocals code =
        program.variableNames ++
          (if program.any Stmt.isEvaluation ∧ scratch ∉ program.variableNames then [scratch]
          else []) ∧
      (∀ name, .loadLocal name ∈ code ∨ .storeLocal name ∈ code →
        name ∈ declaredLocals code) ∧
      (∀ front name back, code = front ++ .loadLocal name :: back →
        .storeLocal name ∈ front) ∧
      (∀ name, .call name ∈ code → ∃ builtin, Builtin.find? name = some builtin) ∧
      (storedLocals code).length = program.countP Stmt.isSetting ∧
      ∀ {σ : Type} (machine : Machine σ) (other : Table Int32) (index : Nat),
        (∀ name ∈ declaredLocals code,
          machine.locals.contains name ∧ other.contains name) →
        ∃ otherAfter,
          { machine with locals := other }.runFrom index body =
            ({ (machine.runFrom index body).1 with locals := otherAfter },
              (machine.runFrom index body).2) ∧
          ((machine.runFrom index body).2 = .ok () →
            ∀ name ∈ declaredLocals code,
              otherAfter.get? name = (machine.runFrom index body).1.locals.get? name) := by
  have supported := ((Program.compile_eq_ok_iff accepted).mp compiled).1
  have split := Program.compile_splits accepted compiled
  have locals := Program.declaredLocals_compile accepted compiled
  rcases Program.inOrder_lowerAll accepted supported scratch with
    ⟨after, inOrder, allSet, length⟩
  rw [← locals] at split inOrder allSet
  refine ⟨_, split, inOrder.localDeclare_not_mem, ?_, ?_, ?_, ?_, ?_, ?_, ?_⟩
  · rw [locals]
    exact nodup_allocateBlock scratch program
  · rw [locals]
    exact Program.slots_eq accepted supported scratch
  · intro name used
    rw [split, mem_declarations_append_iff rfl, mem_declarations_append_iff rfl] at used
    exact inOrder.slotted used
  · intro front name back loaded
    rcases exists_split_of_declarations_append rfl (split.symm.trans loaded) with
      ⟨between, rfl, bodySplit⟩
    rw [bodySplit] at inOrder
    exact List.mem_append_right _ (inOrder.stored_of_load.resolve_left List.not_mem_nil)
  · intro name called
    rw [split, mem_declarations_append_iff rfl] at called
    exact inOrder.exists_builtin called
  · rw [split, storedLocals_declarations_append, ← length, inOrder.after_eq]
    simp
  · intro σ machine other index exist
    have agree : Table.Agree (declaredLocals code) [] machine.locals other :=
      ⟨exist, fun name set => by cases set⟩
    rcases Machine.runFrom_of_agree index agree inOrder with ⟨otherAfter, ran, agreeAfter⟩
    exact ⟨otherAfter, ran, fun succeeded name declared =>
      (agreeAfter succeeded).same name (allSet name declared)⟩

/-- A program that leaves a value nobody asked for, and later uses the variable that may
share its name with the scratch slot. -/
def meterProgram : Program :=
  let mark : Mark := { span := .null }
  let rate : Expr := .name mark "rate"
  let total : Expr := .name mark "total"
  [.varDecl ⟨.null, "rate", .int, .literal mark (.number 3)⟩,
  .varDecl ⟨.null, "total", .int, .literal mark (.number 40)⟩,
  .pass .null,
  .evaluate .null (.binary mark .mul rate (.unary mark .neg total)),
  .assign .null total (.binary mark .add total rate),
  .evaluate .null (.call mark "print" [total])]

/-- With the scratch slot in the place of a variable, there is no further local.  The values
that the two locals start with make no difference. -/
theorem meterProgram_laid_out :
    ∃ typed code body otherAfter,
      meterProgram.typed = .ok typed ∧
      ({ scratch := "total" } : Compiler).compile typed = .ok code ∧
      code = [.localDeclare "rate", .localDeclare "total"] ++ body ∧
      (∀ name, .localDeclare name ∉ body) ∧
      (∀ front name back, code = front ++ .loadLocal name :: back →
        .storeLocal name ∈ front) ∧
      (storedLocals code).length = 5 ∧
      let fresh : Table Int32 := ((∅ : Table Int32).insert "rate" 0).insert "total" 0
      let stale : Table Int32 := ((∅ : Table Int32).insert "rate" 8).insert "total" (-1)
      let machine := Machine.capturing ()
      let first := { machine with locals := fresh }.runFrom 2 body
      let second := { machine with locals := stale }.runFrom 2 body
      second = ({ first.1 with locals := otherAfter }, first.2) ∧
      first.2 = .ok () ∧ first.1.printed = [-117] := by
  obtain ⟨typed, accepted⟩ : ∃ typed, meterProgram.typed = .ok typed := ⟨_, rfl⟩
  have supported : ∀ stmt ∈ meterProgram, stmt.Supported :=
    Program.fault?_eq_none_iff.mp rfl
  have compiled : ({ scratch := "total" } : Compiler).compile typed = .ok _ :=
    (Program.compile_eq_ok_iff accepted).mpr ⟨supported, rfl⟩
  rcases Program.compiled_code_layout accepted compiled with
    ⟨body, split, undeclaring, _, locals, _, stored, _, count, runs⟩
  rw [show _ = ["rate", "total"] from locals] at split runs
  have exist : ∀ name ∈ ["rate", "total"],
      (((∅ : Table Int32).insert "rate" 0).insert "total" 0).contains name ∧
        (((∅ : Table Int32).insert "rate" 8).insert "total" (-1)).contains name := by
    decide
  rcases runs { Machine.capturing () with locals := _ } _ 2 exist with ⟨otherAfter, ran, _⟩
  obtain rfl := List.append_cancel_left split
  exact ⟨typed, _, _, otherAfter, accepted, compiled, split, undeclaring, stored, count, ran,
    rfl, rfl⟩

end SlotLang
