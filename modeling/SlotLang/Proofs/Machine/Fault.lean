import SlotLang.Proofs.Machine.Execution

/-!
# Where a run stops

An instruction that cannot be executed is at fault for a reason that can be read off the
machine.  A run gets as far as its first faulty instruction, reports the index of that
instruction, and leaves the machine as the instructions in front made it.  Only arithmetic
does harm before it is found faulty: it pops its right operand and then misses the left
one.

So code in sequence is run in sequence, and the faults of the second part are reported
with indices that count from the start of the whole.
-/

namespace SlotLang.Machine

variable {σ : Type} {machine stopped : Machine σ} {instr : Instr} {cause : Cause}

/-! ## Faulty instructions -/

/-- `machine.Faults instr cause`: the machine cannot execute the instruction, and this is
why. -/
inductive Faults (machine : Machine σ) : Instr → Cause → Prop where
  | loadUndeclared {name : String} (undeclared : machine.locals.get? name = none) :
      Faults machine (.loadLocal name) (.undeclaredLocal name)
  | storeUndeclared {name : String} (undeclared : machine.locals.get? name = none) :
      Faults machine (.storeLocal name) (.undeclaredLocal name)
  | storeNothing {name : String} {old : Int32}
      (declared : machine.locals.get? name = some old) (empty : machine.stack = []) :
      Faults machine (.storeLocal name) (.stackUnderflow (Instr.storeLocal name).text)
  | arithmetic {instr : Instr} (listed : instr ∈ [Instr.add, .sub, .mul])
      (few : machine.stack.length < 2) :
      Faults machine instr (.stackUnderflow instr.text)
  | callUnlinked {name : String} (unlinked : machine.links.get? name = none) :
      Faults machine (.call name) (.unknownFunction name)
  | callShort {name : String} {linked : Link σ}
      (found : machine.links.get? name = some linked)
      (few : machine.stack.length < linked.arity) :
      Faults machine (.call name) (.stackUnderflow (Instr.call name).text)

/-- What a faulty instruction leaves of the machine: everything, unless it is arithmetic
that has consumed a single operand. -/
def afterFault (machine : Machine σ) (instr : Instr) : Machine σ :=
  if instr ∈ [Instr.add, .sub, .mul] ∧ machine.stack.length = 1 then
    { machine with stack := [] }
  else
    machine

theorem afterFault_of_not_mem (other : instr ∉ [Instr.add, .sub, .mul]) :
    machine.afterFault instr = machine :=
  if_neg fun exception => other exception.1

/-- Faulty arithmetic leaves no operand. -/
theorem afterFault_of_mem (listed : instr ∈ [Instr.add, .sub, .mul])
    (few : machine.stack.length < 2) :
    machine.afterFault instr = { machine with stack := [] } := by
  rcases machine with ⟨locals, stack, links, printed, written, host⟩
  cases stack with
  | nil => exact if_neg (by simp)
  | cons right below =>
      cases below with
      | nil => exact if_pos ⟨listed, rfl⟩
      | cons left rest =>
          simp only [List.length_cons] at few
          omega

theorem arithmetic_of_few (few : machine.stack.length < 2) (instr : Instr)
    (operation : Int32 → Int32 → Int32) :
    machine.arithmetic instr operation =
      ({ machine with stack := [] }, .error (.stackUnderflow instr.text)) := by
  rcases machine with ⟨locals, stack, links, printed, written, host⟩
  match stack, few with
  | [], _ => rfl
  | [right], _ => rfl
  | _ :: _ :: rest, few =>
      simp only [List.length_cons] at few
      omega

theorem few_of_arithmetic {operation : Int32 → Int32 → Int32}
    (failed : (machine.arithmetic instr operation).2 = .error cause) :
    machine.stack.length < 2 ∧ cause = .stackUnderflow instr.text := by
  rcases machine with ⟨locals, stack, links, printed, written, host⟩
  match stack, failed with
  | [], failed => exact ⟨Nat.zero_lt_two, (Except.error.inj failed).symm⟩
  | [right], failed => exact ⟨Nat.one_lt_two, (Except.error.inj failed).symm⟩

/-- A faulty instruction fails as its fault says. -/
theorem step_of_faults (faulty : machine.Faults instr cause) :
    machine.step instr = (machine.afterFault instr, .error cause) := by
  cases faulty with
  | loadUndeclared undeclared =>
      rw [afterFault_of_not_mem (by simp)]
      simp only [step, undeclared]
  | storeUndeclared undeclared =>
      rw [afterFault_of_not_mem (by simp)]
      simp only [step, undeclared]
  | storeNothing declared empty =>
      rw [afterFault_of_not_mem (by simp)]
      simp only [step, declared, empty]
  | arithmetic listed few =>
      rw [afterFault_of_mem listed few]
      simp only [List.mem_cons, List.not_mem_nil, or_false] at listed
      rcases listed with rfl | rfl | rfl
      · exact arithmetic_of_few few _ _
      · exact arithmetic_of_few few _ _
      · exact arithmetic_of_few few _ _
  | callUnlinked unlinked =>
      rw [afterFault_of_not_mem (by simp)]
      simp only [step, unlinked]
  | callShort found few =>
      rw [afterFault_of_not_mem (by simp)]
      simp only [step, found, if_pos few]

/-- Only a faulty instruction fails. -/
theorem faults_of_step (failed : (machine.step instr).2 = .error cause) :
    machine.Faults instr cause := by
  cases instr with
  | localDeclare name => cases failed
  | pushConstant value => cases failed
  | loadLocal name =>
      cases found : machine.locals.get? name with
      | none =>
          simp only [step, found] at failed
          cases failed
          exact .loadUndeclared found
      | some word =>
          simp only [step, found] at failed
          cases failed
  | storeLocal name =>
      cases found : machine.locals.get? name with
      | none =>
          simp only [step, found] at failed
          cases failed
          exact .storeUndeclared found
      | some old =>
          cases operands : machine.stack with
          | nil =>
              simp only [step, found, operands] at failed
              cases failed
              exact .storeNothing found operands
          | cons word rest =>
              simp only [step, found, operands] at failed
              cases failed
  | add =>
      rcases few_of_arithmetic failed with ⟨few, rfl⟩
      exact .arithmetic (by simp) few
  | sub =>
      rcases few_of_arithmetic failed with ⟨few, rfl⟩
      exact .arithmetic (by simp) few
  | mul =>
      rcases few_of_arithmetic failed with ⟨few, rfl⟩
      exact .arithmetic (by simp) few
  | call name =>
      cases found : machine.links.get? name with
      | none =>
          simp only [step, found] at failed
          cases failed
          exact .callUnlinked found
      | some linked =>
          by_cases few : machine.stack.length < linked.arity
          · simp only [step, found, if_pos few] at failed
            cases failed
            exact .callShort found few
          · simp only [step, found, if_neg few] at failed
            cases failed

/-! ## Runs up to a fault -/

/-- A run behind code that is executed goes on where that code ends. -/
theorem runFrom_append_of_executes {between : Machine σ} {first : List Instr}
    (executed : machine.Executes first between) (start : Nat) (second : List Instr) :
    machine.runFrom start (first ++ second) =
      between.runFrom (start + first.length) second := by
  induction executed generalizing start with
  | nil => rfl
  | cons stepped _ inductionHypothesis =>
      have continued := inductionHypothesis (start + 1)
      rw [Nat.add_right_comm] at continued
      rw [List.cons_append, runFrom, stepped]
      exact continued

/-- A run stops at a faulty instruction. -/
theorem runFrom_of_fault {reached : Machine σ} {front : List Instr}
    (executed : machine.Executes front reached) (faulty : reached.Faults instr cause)
    (start : Nat) (back : List Instr) :
    machine.runFrom start (front ++ instr :: back) =
      (reached.afterFault instr,
        .error { cause := cause, position := .inListing (start + front.length) }) := by
  rw [runFrom_append_of_executes executed, runFrom, step_of_faults faulty]

/-- The faulty instruction is the last one that a run attempts. -/
theorem getLast?_attempts_of_fault {reached : Machine σ} {front : List Instr}
    (executed : machine.Executes front reached) (faulty : reached.Faults instr cause)
    (start : Nat) (back : List Instr) :
    (machine.attempts start (front ++ instr :: back)).getLast? =
      some (.executing (start + front.length) instr) := by
  induction executed generalizing start with
  | nil =>
      rw [List.nil_append, attempts, step_of_faults faulty]
      rfl
  | cons stepped _ inductionHypothesis =>
      rw [List.cons_append, attempts, stepped, List.getLast?_cons,
        inductionHypothesis faulty (start + 1), List.length_cons, Nat.add_assoc,
        Nat.add_comm 1]
      rfl

/-- A run gets through its code, or through some front of it to a faulty instruction. -/
theorem executes_or_faults (machine : Machine σ) (code : List Instr) :
    (∃ after, machine.Executes code after) ∨
      ∃ front instr back reached cause, code = front ++ instr :: back ∧
        machine.Executes front reached ∧ reached.Faults instr cause := by
  induction code generalizing machine with
  | nil => exact .inl ⟨machine, .nil⟩
  | cons instr later inductionHypothesis =>
      rcases stepped : machine.step instr with ⟨next, cause | _⟩
      · have faulty : machine.Faults instr cause := faults_of_step (congrArg Prod.snd stepped)
        exact .inr ⟨[], instr, later, machine, cause, rfl, .nil, faulty⟩
      · rcases inductionHypothesis next with
          ⟨after, executed⟩ | ⟨front, faultyInstr, back, reached, cause, rfl, executed, faulty⟩
        · exact .inl ⟨after, .cons stepped executed⟩
        · exact .inr ⟨instr :: front, faultyInstr, back, reached, cause, rfl,
            .cons stepped executed, faulty⟩

/-- `machine.FailsAt code index cause stopped`: the last instruction that the run attempts
is the one with this index, the run reports the cause there, and leaves the machine
`stopped`.  The index that is reported wraps around. -/
structure FailsAt (machine : Machine σ) (code : List Instr) (index : Nat) (cause : Cause)
    (stopped : Machine σ) : Prop where
  reported : machine.run code =
    (stopped,
      .error
        { cause := cause, position := { offset := UInt32.ofNat index, file := "listing" } })
  attempted : ∃ instr,
    (machine.attempts 0 code).getLast? = some (.executing index instr)

/-- A run fails exactly where the code in front is executed and then an instruction is
faulty. -/
theorem failsAt_iff {code : List Instr} {index : Nat} :
    machine.FailsAt code index cause stopped ↔
      ∃ front instr back reached, code = front ++ instr :: back ∧ front.length = index ∧
        machine.Executes front reached ∧ reached.Faults instr cause ∧
        stopped = reached.afterFault instr := by
  constructor
  · rintro ⟨reported, instr, attempted⟩
    rcases machine.executes_or_faults code with
      ⟨after, executed⟩ | ⟨front, faultyInstr, back, reached, found, rfl, executed, faulty⟩
    · rw [run_eq_ok_iff.mpr executed] at reported
      cases congrArg Prod.snd reported
    · rw [getLast?_attempts_of_fault executed faulty, Nat.zero_add, Option.some.injEq,
        Event.executing.injEq] at attempted
      rw [run, runFrom_of_fault executed faulty, Prod.mk.injEq, Except.error.injEq,
        Diagnostic.mk.injEq] at reported
      rcases reported with ⟨rfl, rfl, -⟩
      exact ⟨front, faultyInstr, back, reached, rfl, attempted.1, executed, faulty, rfl⟩
  · rintro ⟨front, instr, back, reached, rfl, rfl, executed, faulty, rfl⟩
    have failed := runFrom_of_fault executed faulty 0 back
    have attempted := getLast?_attempts_of_fault executed faulty 0 back
    rw [Nat.zero_add] at failed attempted
    exact ⟨failed, instr, attempted⟩

theorem ok_or_failsAt (machine : Machine σ) (code : List Instr) :
    (machine.run code).2 = .ok () ∨
      ∃ index cause, machine.FailsAt code index cause (machine.run code).1 := by
  rcases machine.executes_or_faults code with
    ⟨after, executed⟩ | ⟨front, instr, back, reached, cause, rfl, executed, faulty⟩
  · rw [run_eq_ok_iff.mpr executed]
    exact .inl rfl
  · have failed := runFrom_of_fault executed faulty 0 back
    exact .inr ⟨front.length, cause, failsAt_iff.mpr
      ⟨front, instr, back, reached, rfl, rfl, executed, faulty, congrArg Prod.fst failed⟩⟩

/-- The same with the instruction looked up by its index. -/
theorem failsAt_iff_getElem? {code : List Instr} {index : Nat} :
    machine.FailsAt code index cause stopped ↔
      ∃ instr reached, code[index]? = some instr ∧
        machine.Executes (code.take index) reached ∧ reached.Faults instr cause ∧
        stopped = reached.afterFault instr := by
  rw [failsAt_iff]
  constructor
  · rintro ⟨front, instr, back, reached, rfl, rfl, executed, faulty, rfl⟩
    have found : (front ++ instr :: back)[front.length]? = some instr := by simp
    have taken : machine.Executes ((front ++ instr :: back).take front.length) reached := by
      rwa [List.take_left]
    exact ⟨instr, reached, found, taken, faulty, rfl⟩
  · rintro ⟨instr, reached, found, executed, faulty, rfl⟩
    rcases List.getElem?_eq_some_iff.mp found with ⟨inside, rfl⟩
    have split : code = code.take index ++ code[index] :: code.drop (index + 1) := by
      rw [← List.drop_eq_getElem_cons inside, List.take_append_drop]
    exact ⟨code.take index, code[index], code.drop (index + 1), reached, split,
      List.length_take_of_le (Nat.le_of_lt inside), executed, faulty, rfl⟩

/-! ## Code in sequence -/

/-- Code in sequence is executed exactly if it is executed one part after the other. -/
theorem executes_append_iff {after : Machine σ} {first second : List Instr} :
    machine.Executes (first ++ second) after ↔
      ∃ between, machine.Executes first between ∧ between.Executes second after := by
  constructor
  · intro executed
    induction first generalizing machine with
    | nil => exact ⟨machine, .nil, executed⟩
    | cons instr later inductionHypothesis =>
        cases executed with
        | cons stepped laterExecuted =>
            rcases inductionHypothesis laterExecuted with
              ⟨between, firstExecuted, secondExecuted⟩
            exact ⟨between, .cons stepped firstExecuted, secondExecuted⟩
  · rintro ⟨between, firstExecuted, secondExecuted⟩
    exact firstExecuted.append secondExecuted

/-- Code in sequence fails in its first part, or gets through that and fails in its
second. -/
theorem failsAt_append_iff {first second : List Instr} {index : Nat} :
    machine.FailsAt (first ++ second) index cause stopped ↔
      machine.FailsAt first index cause stopped ∨
        ∃ between later, machine.Executes first between ∧
          between.FailsAt second later cause stopped ∧ index = first.length + later := by
  simp only [failsAt_iff]
  constructor
  · rintro ⟨front, instr, back, reached, split, rfl, executed, faulty, rfl⟩
    rcases List.append_eq_append_iff.mp split with
      ⟨middle, rfl, inSecond⟩ | ⟨middle, rfl, inFirst⟩
    · rcases executes_append_iff.mp executed with ⟨between, firstExecuted, middleExecuted⟩
      exact .inr ⟨between, middle.length, firstExecuted,
        ⟨middle, instr, back, reached, inSecond, rfl, middleExecuted, faulty, rfl⟩,
        List.length_append⟩
    · cases middle with
      | nil =>
          rw [List.nil_append] at inFirst
          rw [List.append_nil]
          exact .inr ⟨reached, 0, executed,
            ⟨[], instr, back, reached, inFirst.symm, rfl, .nil, faulty, rfl⟩, rfl⟩
      | cons firstOfMiddle rest =>
          rcases List.cons.inj inFirst with ⟨rfl, -⟩
          exact .inl ⟨front, instr, rest, reached, rfl, rfl, executed, faulty, rfl⟩
  · rintro (⟨front, instr, back, reached, rfl, rfl, executed, faulty, rfl⟩ |
      ⟨between, later, firstExecuted,
        ⟨front, instr, back, reached, rfl, rfl, executed, faulty, rfl⟩, rfl⟩)
    · exact ⟨front, instr, back ++ second, reached, by simp, rfl, executed, faulty, rfl⟩
    · exact ⟨first ++ front, instr, back, reached, by simp, List.length_append,
        firstExecuted.append executed, faulty, rfl⟩

/-- A run succeeds, or fails at some index.  It fails at an index exactly if the
instructions in front run successfully and the instruction there uses an undeclared local,
calls a function that is not linked, or finds too few operands, and then leaves the machine
as the instructions in front did, but for a single operand that arithmetic has consumed.
Code in sequence runs as its parts do one after the other, with the indices of the second
part counted from the start of the first. -/
theorem run_fails_at_first_fault (machine : Machine σ) :
    (∀ code, (machine.run code).2 = .ok () ∨
      ∃ index cause, machine.FailsAt code index cause (machine.run code).1) ∧
    (∀ code index cause stopped, machine.FailsAt code index cause stopped ↔
      ∃ instr reached, code[index]? = some instr ∧
        machine.run (code.take index) = (reached, .ok ()) ∧
        reached.Faults instr cause ∧
        stopped =
          if instr ∈ [Instr.add, .sub, .mul] ∧ reached.stack.length = 1 then
            { reached with stack := [] }
          else
            reached) ∧
    (∀ first second after, machine.run (first ++ second) = (after, .ok ()) ↔
      ∃ between, machine.run first = (between, .ok ()) ∧
        between.run second = (after, .ok ())) ∧
    (∀ first second index cause stopped,
      machine.FailsAt (first ++ second) index cause stopped ↔
        machine.FailsAt first index cause stopped ∨
          ∃ between later, machine.run first = (between, .ok ()) ∧
            between.FailsAt second later cause stopped ∧
            index = first.length + later) := by
  simp only [run_eq_ok_iff]
  exact ⟨machine.ok_or_failsAt, fun _ _ _ _ => failsAt_iff_getElem?,
    fun _ _ _ => executes_append_iff, fun _ _ _ _ _ => failsAt_append_iff⟩

/-- A difference in the second of two pieces of code finds its right operand only, and
that is gone afterwards. -/
theorem lone_operand_lost :
    (capturing ()).FailsAt ([.localDeclare "size", .loadLocal "size"] ++ [.sub, .mul]) 2
      (.stackUnderflow "sub")
      { capturing () with locals := (∅ : Table Int32).insert "size" 0 } := by
  let declared : Machine Unit :=
    { capturing () with locals := (∅ : Table Int32).insert "size" 0 }
  have inSecond : (declared.push 0).FailsAt [.sub, .mul] 0 (.stackUnderflow "sub") declared :=
    ((run_fails_at_first_fault (declared.push 0)).2.1 _ _ _ _).mpr
      ⟨.sub, declared.push 0, rfl, rfl, .arithmetic (by simp) (by decide),
        (if_pos ⟨by simp, rfl⟩).symm⟩
  exact ((run_fails_at_first_fault (capturing ())).2.2.2 _ _ _ _ _).mpr
    (.inr ⟨declared.push 0, 0, rfl, inSecond, rfl⟩)

end SlotLang.Machine
