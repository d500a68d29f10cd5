import SlotLang.Proofs.Evaluation
import SlotLang.Proofs.Machine.Execution

/-!
# Compiled code follows the evaluation

The machine computes with words of 32 bits what the evaluation computes with
integers of any size.  Reduction to words commutes with the operations, so it is
enough to reduce at the end.  The code of an expression pushes its value, the code
of a statement stores it, and the code of a program leaves every variable in its
slot; nothing else of the machine changes but what was printed.
-/

namespace SlotLang

variable {σ : Type}

/-! ## Single steps -/

theorem Literal.ofInt_integer (literal : Literal) :
    Int32.ofInt literal.integer = literal.word := by
  cases literal with
  | number value => exact Int32.ofInt_toInt value
  | boolean value => cases value <;> rfl
  | none => rfl

namespace Machine

/-- The built-in `print` of the machine keeps its argument. -/
def Captures (machine : Machine σ) : Prop :=
  machine.links.get? Builtin.print.name =
    some { arity := Builtin.print.arity, function := .capture }

/-- The locals of the machine hold the variables of a store, reduced to words. -/
def Holds (machine : Machine σ) (store : Table Int) : Prop :=
  ∀ name value, store.get? name = some value →
    machine.locals.get? name = some (Int32.ofInt value)

/-- The machine after it has kept some values, reduced to words. -/
def keep (machine : Machine σ) (values : List Int) : Machine σ :=
  { machine with printed := machine.printed ++ values.map Int32.ofInt }

@[simp]
theorem keep_nil (machine : Machine σ) : machine.keep [] = machine := by
  simp [keep]

theorem keep_append (machine : Machine σ) (first second : List Int) :
    machine.keep (first ++ second) = (machine.keep first).keep second := by
  simp [keep]

theorem keep_push (machine : Machine σ) (word : Int32) (values : List Int) :
    (machine.push word).keep values = (machine.keep values).push word :=
  rfl

/-- An arithmetic instruction does to words what its operator does to integers. -/
theorem step_operation (op : BinaryOp) {instr : Instr} {operation : Int → Int → Int}
    (lowered : op.instr? = some instr) (denoted : op.operation? = some operation)
    (machine : Machine σ) (left right : Int) :
    ((machine.push (Int32.ofInt left)).push (Int32.ofInt right)).step instr =
      (machine.push (Int32.ofInt (operation left right)), .ok ()) := by
  cases op with
  | add =>
      obtain rfl := Option.some.inj lowered
      obtain rfl := Option.some.inj denoted
      rw [Int32.ofInt_add]
      rfl
  | sub =>
      obtain rfl := Option.some.inj lowered
      obtain rfl := Option.some.inj denoted
      rw [Int32.ofInt_sub]
      rfl
  | mul =>
      obtain rfl := Option.some.inj lowered
      obtain rfl := Option.some.inj denoted
      rw [Int32.ofInt_mul]
      rfl
  | _ => cases lowered

theorem step_print (machine : Machine σ) (captures : machine.Captures) (value : Int) :
    (machine.push (Int32.ofInt value)).step (.call Builtin.print.name) =
      ((machine.keep [value]).push 0, .ok ()) := by
  rw [step_call captures]
  rfl

end Machine

/-! ## Expressions -/

open Machine in
/-- The code of an expression pushes its value and keeps what it prints. -/
theorem Expr.executes_lower {slots : List String} {store : Table Int}
    (machine : Machine σ) (captures : machine.Captures) (holds : machine.Holds store)
    (expr : Expr) {output : Output} (evaluated : expr.eval store = some output)
    (lowered : (expr.lower slots).outcome = .ok ()) :
    machine.Executes (expr.lower slots).code
      ((machine.keep output.printed).push (Int32.ofInt output.value)) := by
  cases expr with
  | literal mark literal =>
      obtain rfl := Option.some.inj evaluated
      rw [keep_nil, Literal.ofInt_integer]
      exact .single rfl
  | name mark named =>
      rcases Option.map_eq_some_iff.mp evaluated with ⟨value, found, rfl⟩
      rw [Expr.lower] at lowered ⊢
      rw [Lowered.onSlot_of_mem _ _ (Lowered.onSlot_outcome_eq_ok_iff.mp lowered), keep_nil]
      exact .single (step_loadLocal (holds _ _ found))
  | unary mark op operand =>
      cases op with
      | not => cases evaluated
      | neg =>
          rcases Option.map_eq_some_iff.mp evaluated with
            ⟨operandOutput, operandEvaluated, rfl⟩
          rw [Expr.lower] at lowered ⊢
          simp only [Lowered.append_outcome_eq_ok_iff] at lowered
          rcases lowered with ⟨constantLowered, operandLowered, _⟩
          rw [Lowered.append_code constantLowered, Lowered.append_code operandLowered]
          -- Negation subtracts from a zero that was pushed first.
          have zeroExecuted : machine.Executes [.pushConstant 0]
              (machine.push (Int32.ofInt 0)) := .single rfl
          have operandExecuted := Expr.executes_lower (machine.push (Int32.ofInt 0))
            captures holds operand operandEvaluated operandLowered
          have subtracted := step_operation .sub rfl rfl
            (machine.keep operandOutput.printed) 0 operandOutput.value
          rw [Int.zero_sub] at subtracted
          exact zeroExecuted.append (operandExecuted.append (.single subtracted))
  | binary mark op left right =>
      rcases Option.bind_eq_some_iff.mp evaluated with ⟨operation, denoted, evaluated⟩
      rcases Option.bind_eq_some_iff.mp evaluated with ⟨first, leftEvaluated, evaluated⟩
      rcases Option.map_eq_some_iff.mp evaluated with ⟨second, rightEvaluated, rfl⟩
      rw [Expr.lower] at lowered ⊢
      cases instruction : op.instr? with
      | none =>
          rw [instruction] at lowered
          cases lowered
      | some instr =>
          simp only [instruction, Lowered.append_outcome_eq_ok_iff] at lowered ⊢
          rcases lowered with ⟨leftLowered, rightLowered, _⟩
          rw [Lowered.append_code leftLowered, Lowered.append_code rightLowered]
          have leftExecuted :=
            Expr.executes_lower machine captures holds left leftEvaluated leftLowered
          have rightExecuted := Expr.executes_lower
            ((machine.keep first.printed).push (Int32.ofInt first.value)) captures holds
            right rightEvaluated rightLowered
          rw [keep_push, ← keep_append] at rightExecuted
          exact leftExecuted.append (rightExecuted.append
            (.single (step_operation op instruction denoted _ _ _)))
  | call mark callee arguments =>
      cases arguments with
      | nil => cases evaluated
      | cons argument later =>
          cases later with
          | cons => cases evaluated
          | nil =>
              rw [Expr.eval] at evaluated
              split at evaluated
              · next isPrint =>
                subst isPrint
                rcases Option.map_eq_some_iff.mp evaluated with
                  ⟨argumentOutput, argumentEvaluated, rfl⟩
                rw [Expr.lower_print] at lowered ⊢
                have argumentLowered := (Lowered.append_outcome_eq_ok_iff.mp lowered).1
                have argumentExecuted := Expr.executes_lower machine captures holds argument
                  argumentEvaluated argumentLowered
                rw [Lowered.append_code argumentLowered, keep_append]
                exact argumentExecuted.append
                  (.single (step_print (machine.keep argumentOutput.printed) captures _))
              · cases evaluated
  | field => cases evaluated
  | method => cases evaluated
termination_by structural expr

/-! ## Statements -/

/-- A machine on its way through the code of a program that was started on
`start`, at a point where the evaluation of the program stands at `evaluation`.  All
slots exist by then, and those of variables that have been set hold their values. -/
structure Machine.Tracks (start : Machine σ) (slots : List String) (machine : Machine σ)
    (evaluation : Evaluation) : Prop where
  declared : ∀ name ∈ slots, ∃ word, machine.locals.get? name = some word
  holds : machine.Holds evaluation.store
  others : ∀ name, name ∉ slots → machine.locals.get? name = start.locals.get? name
  rest : machine =
    { start with
      locals := machine.locals
      printed := start.printed ++ evaluation.printed.map Int32.ofInt }

namespace Machine.Tracks

variable {start machine : Machine σ} {slots : List String} {evaluation : Evaluation}

theorem captures (tracks : Tracks start slots machine evaluation)
    (captures : start.Captures) : machine.Captures := by
  rw [tracks.rest]
  exact captures

/-- Storing the value of an expression in its slot is what the evaluation does. -/
theorem store (tracks : Tracks start slots machine evaluation) {name : String}
    (slotted : name ∈ slots) (output : Output) :
    ∃ after, ((machine.keep output.printed).push (Int32.ofInt output.value)).Executes
        [.storeLocal name] after ∧
      Tracks start slots after (evaluation.assign name output) := by
  rcases tracks.declared name slotted with ⟨old, declared⟩
  have found : (machine.keep output.printed).locals.get? name = some old := declared
  refine ⟨_, .single (step_storeLocal found _), ?_, ?_, ?_, ?_⟩
  · intro other otherSlotted
    by_cases same : other = name
    · subst same
      exact ⟨_, Table.get?_insert_self _ _ _⟩
    · rcases tracks.declared other otherSlotted with ⟨word, otherDeclared⟩
      exact ⟨word, (Table.get?_insert_of_ne _ _ same).trans otherDeclared⟩
  · intro other value stored
    by_cases same : other = name
    · subst same
      rw [Evaluation.assign, Table.get?_insert_self] at stored
      obtain rfl := Option.some.inj stored
      exact Table.get?_insert_self _ _ _
    · rw [Evaluation.assign, Table.get?_insert_of_ne _ _ same] at stored
      exact (Table.get?_insert_of_ne _ _ same).trans (tracks.holds _ _ stored)
  · intro other unslotted
    have different : other ≠ name := fun same => unslotted (same ▸ slotted)
    exact (Table.get?_insert_of_ne _ _ different).trans (tracks.others other unslotted)
  · rw [tracks.rest]
    simp [Machine.keep, Evaluation.assign]

end Machine.Tracks

open Machine in
/-- The code of a statement does what its evaluation does. -/
theorem Stmt.executes_lower {scratch : String} {slots : List String}
    {start machine : Machine σ} {evaluation next : Evaluation} {stmt : Stmt}
    (captures : start.Captures) (tracks : Tracks start slots machine evaluation)
    (evaluated : stmt.eval scratch evaluation = some next)
    (lowered : (stmt.lower scratch slots).outcome = .ok ()) :
    ∃ after, machine.Executes (stmt.lower scratch slots).code after ∧
      Tracks start slots after next := by
  rcases Stmt.cases_of_eval evaluated with
    ⟨_, rfl, rfl⟩ | ⟨name, value, output, sets, valueEvaluated, rfl⟩
  · exact ⟨machine, .nil, tracks⟩
  · rcases sets.lower_eq slots with ⟨position, split⟩
    rw [split] at lowered ⊢
    rcases Lowered.append_outcome_eq_ok_iff.mp lowered with ⟨valueLowered, stored⟩
    have slotted := Lowered.onSlot_outcome_eq_ok_iff.mp stored
    rw [Lowered.append_code valueLowered, Lowered.onSlot_of_mem _ _ slotted]
    have valueExecuted := Expr.executes_lower machine (tracks.captures captures)
      tracks.holds value valueEvaluated valueLowered
    rcases tracks.store slotted output with ⟨after, storeExecuted, afterTracks⟩
    exact ⟨after, valueExecuted.append storeExecuted, afterTracks⟩

open Machine in
/-- The code of statements does what their evaluation does. -/
theorem Stmt.executes_lowerAll {scratch : String} {slots : List String}
    {start machine : Machine σ} {evaluation final : Evaluation} {body : List Stmt}
    (captures : start.Captures) (tracks : Tracks start slots machine evaluation)
    (evaluated : Stmt.evalAll scratch evaluation body = some final)
    (lowered : (Stmt.lowerAll scratch slots body).outcome = .ok ()) :
    ∃ after, machine.Executes (Stmt.lowerAll scratch slots body).code after ∧
      Tracks start slots after final := by
  induction body generalizing machine evaluation with
  | nil =>
      obtain rfl := Option.some.inj evaluated
      exact ⟨machine, .nil, tracks⟩
  | cons stmt later inductionHypothesis =>
      rcases Option.bind_eq_some_iff.mp evaluated with ⟨next, stmtEvaluated, laterEvaluated⟩
      rw [Stmt.lowerAll] at lowered ⊢
      rcases Lowered.append_outcome_eq_ok_iff.mp lowered with ⟨stmtLowered, laterLowered⟩
      rw [Lowered.append_code stmtLowered]
      rcases Stmt.executes_lower captures tracks stmtEvaluated stmtLowered with
        ⟨between, stmtExecuted, betweenTracks⟩
      rcases inductionHypothesis betweenTracks laterEvaluated laterLowered with
        ⟨after, laterExecuted, afterTracks⟩
      exact ⟨after, stmtExecuted.append laterExecuted, afterTracks⟩

/-! ## Programs -/

/-- Declarations set their slots to zero and touch nothing else. -/
theorem Machine.executes_declarations (machine : Machine σ) (slots : List String) :
    ∃ locals : Table Int32,
      machine.Executes (slots.map .localDeclare) { machine with locals := locals } ∧
      ∀ name, locals.get? name =
        if name ∈ slots then some 0 else machine.locals.get? name := by
  induction slots generalizing machine with
  | nil => exact ⟨machine.locals, .nil, by simp⟩
  | cons slot later inductionHypothesis =>
      obtain ⟨locals, executed, entries⟩ :=
        inductionHypothesis { machine with locals := machine.locals.insert slot 0 }
      refine ⟨locals, .cons rfl executed, ?_⟩
      intro name
      rw [entries, Table.get?_insert]
      by_cases listed : name ∈ later <;> by_cases same : name = slot <;>
        simp [listed, same]

theorem Machine.tracks_of_declared {start : Machine σ} {slots : List String}
    {locals : Table Int32}
    (entries : ∀ name, locals.get? name =
      if name ∈ slots then some 0 else start.locals.get? name) :
    Tracks start slots { start with locals := locals } {} where
  declared name slotted := ⟨0, (entries name).trans (if_pos slotted)⟩
  holds name value stored := by simp at stored
  others name unslotted := (entries name).trans (if_neg unslotted)
  rest := by simp

theorem declaredLocals_append (first second : List Instr) :
    declaredLocals (first ++ second) = declaredLocals first ++ declaredLocals second :=
  List.filterMap_append

theorem declaredLocals_declarations (slots : List String) :
    declaredLocals (slots.map .localDeclare) = slots := by
  rw [declaredLocals, List.filterMap_map]
  exact List.filterMap_some

theorem Lowered.declaredLocals_append_eq_nil {first second : Lowered}
    (firstNone : declaredLocals first.code = [])
    (secondNone : declaredLocals second.code = []) :
    declaredLocals (first ++ second).code = [] := by
  cases outcome : first.outcome with
  | error => rw [append_of_error outcome, firstNone]
  | ok =>
      rw [append_of_ok outcome, SlotLang.declaredLocals_append, firstNone, secondNone,
        List.nil_append]

theorem Lowered.declaredLocals_onSlot {make : String → Instr}
    (declaresNone : ∀ name, (make name).declaredLocal? = none) (slots : List String)
    (name : String) (position : Position) :
    declaredLocals (onSlot slots make name position).code = [] := by
  by_cases slotted : name ∈ slots
  · rw [onSlot_of_mem make position slotted, emit, declaredLocals,
      List.filterMap_cons_none (declaresNone name), List.filterMap_nil]
  · simp [onSlot, slotOf, slotted, declaredLocals]

mutual

/-- Only the declarations in front of a program make locals. -/
theorem Expr.declaredLocals_lower (slots : List String) (expr : Expr) :
    declaredLocals (expr.lower slots).code = [] := by
  cases expr with
  | literal => rfl
  | name => exact Lowered.declaredLocals_onSlot (fun _ => rfl) _ _ _
  | unary mark op operand =>
      cases op with
      | not => rfl
      | neg =>
          exact Lowered.declaredLocals_append_eq_nil rfl
            (Lowered.declaredLocals_append_eq_nil
              (Expr.declaredLocals_lower slots operand) rfl)
  | binary mark op left right =>
      have leftNone := Expr.declaredLocals_lower slots left
      have rightNone := Expr.declaredLocals_lower slots right
      rw [Expr.lower]
      cases op with
      | add | sub | mul =>
          exact Lowered.declaredLocals_append_eq_nil leftNone
            (Lowered.declaredLocals_append_eq_nil rightNone rfl)
      | _ => rfl
  | call mark callee arguments =>
      have argumentsNone := Expr.declaredLocals_lowerAll slots arguments
      rw [Expr.lower]
      cases Builtin.find? callee with
      | none => rfl
      | some => exact Lowered.declaredLocals_append_eq_nil argumentsNone rfl
  | field => rfl
  | method => rfl
termination_by structural expr

theorem Expr.declaredLocals_lowerAll (slots : List String) (exprs : List Expr) :
    declaredLocals (Expr.lowerAll slots exprs).code = [] := by
  cases exprs with
  | nil => rfl
  | cons expr later =>
      exact Lowered.declaredLocals_append_eq_nil (Expr.declaredLocals_lower slots expr)
        (Expr.declaredLocals_lowerAll slots later)
termination_by structural exprs

end

theorem Stmt.declaredLocals_lower (scratch : String) (slots : List String) (stmt : Stmt) :
    declaredLocals (stmt.lower scratch slots).code = [] := by
  cases supported : stmt.isSupported with
  | true =>
      rcases Stmt.pass_or_sets scratch supported with ⟨span, rfl⟩ | ⟨name, value, sets⟩
      · rfl
      · rcases sets.lower_eq slots with ⟨position, split⟩
        rw [split]
        exact Lowered.declaredLocals_append_eq_nil (Expr.declaredLocals_lower slots value)
          (Lowered.declaredLocals_onSlot (fun _ => rfl) _ _ _)
  | false =>
      rcases Stmt.lower_of_not_isSupported scratch slots supported with ⟨_, _, lowered⟩
      rw [lowered]
      rfl

theorem Stmt.declaredLocals_lowerAll (scratch : String) (slots : List String)
    (body : List Stmt) : declaredLocals (Stmt.lowerAll scratch slots body).code = [] := by
  induction body with
  | nil => rfl
  | cons stmt later inductionHypothesis =>
      exact Lowered.declaredLocals_append_eq_nil
        (Stmt.declaredLocals_lower scratch slots stmt) inductionHypothesis

/-- The locals that the code of a program makes are its slots. -/
theorem Program.declaredLocals_compile {program typed : Program}
    (accepted : program.typed = .ok typed) {scratch : String} {code : List Instr}
    (compiled : ({ scratch := scratch } : Compiler).compile typed = .ok code) :
    declaredLocals code = allocateBlock scratch [] program := by
  rcases (Program.compile_eq_ok_iff accepted).mp compiled with ⟨_, rfl⟩
  rw [declaredLocals_append, declaredLocals_declarations, Stmt.declaredLocals_lowerAll,
    List.append_nil]

/-- The code of a program computes what the program evaluates to.  Started on any
machine that keeps what is printed, it runs to its end, leaves the operands as they
were, adds what the program prints to the history, and leaves in each slot the value
of its variable; no other local changes, nor does the rest of the machine. -/
theorem Program.run_compiled_follows_eval {program typed : Program} {scratch : String}
    {code : List Instr} {machine : Machine σ}
    (accepted : program.typed = .ok typed)
    (compiled : ({ scratch := scratch } : Compiler).compile typed = .ok code)
    (captures : machine.links.get? "print" = some { arity := 1, function := .capture }) :
    ∃ (final : Evaluation) (after : Machine σ),
      program.eval scratch = some final ∧
      machine.run code = (after, .ok ()) ∧
      after.stack = machine.stack ∧
      after.printed = machine.printed ++ final.printed.map Int32.ofInt ∧
      (∀ name ∈ declaredLocals code, ∃ value,
        final.store.get? name = some value ∧
          after.locals.get? name = some (Int32.ofInt value)) ∧
      (∀ name, name ∉ declaredLocals code →
        after.locals.get? name = machine.locals.get? name) ∧
      after.links = machine.links ∧ after.written = machine.written ∧
        after.host = machine.host := by
  have wellTyped := Program.wellTyped_of_typed accepted
  have slots := Program.declaredLocals_compile accepted compiled
  rcases (Program.compile_eq_ok_iff accepted).mp compiled with ⟨supported, rfl⟩
  have lowered := wellTyped.lower_succeeds supported scratch
  rcases wellTyped.exists_eval supported scratch with ⟨final, evaluated⟩
  rcases machine.executes_declarations (allocateBlock scratch [] program) with
    ⟨locals, declared, entries⟩
  obtain ⟨after, executed, tracks⟩ := Stmt.executes_lowerAll captures
    (Machine.tracks_of_declared entries) evaluated lowered
  rw [slots]
  refine ⟨final, after, evaluated, Machine.run_eq_ok_iff.mpr (declared.append executed),
    ?_, ?_, ?_, tracks.others, ?_⟩
  · rw [tracks.rest]
  · rw [tracks.rest]
  · intro name slotted
    have set := (mem_allocateBlock_iff.mp slotted).resolve_left List.not_mem_nil
    rcases Stmt.set_of_evalAll evaluated set with ⟨value, stored⟩
    exact ⟨value, stored, tracks.holds name value stored⟩
  · rw [tracks.rest]
    exact ⟨rfl, rfl, rfl⟩

/-- A program whose values leave the range of a word twice, and which prints the
value of a `print`. -/
def overflowProgram : Program :=
  let mark : Mark := { span := .null }
  let name (named : String) : Expr := .name mark named
  let number (value : Int32) : Expr := .literal mark (.number value)
  let print (argument : Expr) : Expr := .call mark "print" [argument]
  [.varDecl ⟨.null, "size", .int, number 2147483647⟩,
  .varDecl ⟨.null, "done", .none, .literal mark .none⟩,
  .assign .null (name "size")
    (.binary mark .sub (.unary mark .neg (name "size"))
      (.binary mark .mul (number 2) (number 3))),
  .assign .null (name "done") (print (print (name "size"))),
  .evaluate .null (.binary mark .add (name "size") (number 1))]

/-- A machine in the middle of something else. -/
def busyMachine : Machine Unit :=
  { Machine.capturing () with
    locals := (∅ : Table Int32).insert "size" 8 |>.insert "kept" 9
    stack := [4, 5]
    printed := [6] }

theorem overflowProgram_run :
    ∃ typed code after,
      overflowProgram.typed = .ok typed ∧
      ({ scratch := "done" } : Compiler).compile typed = .ok code ∧
      busyMachine.links.get? "print" = some { arity := 1, function := .capture } ∧
      busyMachine.run code = (after, .ok ()) ∧
      after.stack = [4, 5] ∧
      after.printed = [6, Int32.ofInt (-2147483653), 0] ∧
      after.locals.get? "done" = some (Int32.ofInt (-2147483652)) ∧
      after.locals.get? "kept" = some 9 := by
  obtain ⟨typed, accepted⟩ : ∃ typed, overflowProgram.typed = .ok typed := ⟨_, rfl⟩
  have supported : ∀ stmt ∈ overflowProgram, stmt.Supported :=
    Program.fault?_eq_none_iff.mp rfl
  have compiled : ({ scratch := "done" } : Compiler).compile typed = .ok _ :=
    (Program.compile_eq_ok_iff accepted).mpr ⟨supported, rfl⟩
  have captures : busyMachine.links.get? "print" =
      some { arity := 1, function := .capture } := rfl
  rcases Program.run_compiled_follows_eval accepted compiled captures with
    ⟨final, after, evaluated, ran, stack, printed, slots, others, _⟩
  have finalPrinted : [-2147483653, 0] = final.printed :=
    congrArg (fun evaluation => (evaluation.getD {}).printed) evaluated
  have finalDone : some (-2147483652) = final.store.get? "done" :=
    congrArg (fun evaluation => (evaluation.getD {}).store.get? "done") evaluated
  rcases slots "done" (by decide) with ⟨value, stored, held⟩
  rw [← finalDone] at stored
  obtain rfl := Option.some.inj stored
  rw [← finalPrinted] at printed
  exact ⟨typed, _, after, accepted, compiled, captures, ran, stack, printed, held,
    others "kept" (by decide)⟩

end SlotLang
