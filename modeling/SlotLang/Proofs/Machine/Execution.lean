import SlotLang.Machine

/-!
# Executions

A run that gets through its code, as a relation between the machine before and the
machine after.  The relation composes along the code and forgets where in a listing
the code stands.
-/

namespace SlotLang.Machine

variable {σ : Type}

/-- `machine.Executes code after`: the machine gets through the code and is `after`
then. -/
inductive Executes : Machine σ → List Instr → Machine σ → Prop where
  | nil {machine : Machine σ} : Executes machine [] machine
  | cons {machine between after : Machine σ} {instr : Instr} {later : List Instr}
      (stepped : machine.step instr = (between, .ok ()))
      (executed : Executes between later after) :
      Executes machine (instr :: later) after

theorem runFrom_eq_ok_iff {index : Nat} {machine after : Machine σ} {code : List Instr} :
    machine.runFrom index code = (after, .ok ()) ↔ machine.Executes code after := by
  induction code generalizing index machine with
  | nil =>
      constructor
      · intro same
        obtain rfl : machine = after := congrArg Prod.fst same
        exact .nil
      · rintro ⟨⟩
        rfl
  | cons instr later inductionHypothesis =>
      rw [runFrom]
      constructor
      · intro ran
        split at ran
        · next between stepped =>
          exact .cons stepped (inductionHypothesis.mp ran)
        · cases congrArg Prod.snd ran
      · rintro (_ | ⟨stepped, executed⟩)
        rw [stepped]
        exact inductionHypothesis.mpr executed

/-- A run succeeds exactly if it gets through the whole code. -/
theorem run_eq_ok_iff {machine after : Machine σ} {code : List Instr} :
    machine.run code = (after, .ok ()) ↔ machine.Executes code after :=
  runFrom_eq_ok_iff

namespace Executes

/-- Code in sequence is executed in sequence. -/
theorem append {machine between after : Machine σ} {first second : List Instr}
    (firstExecuted : machine.Executes first between)
    (secondExecuted : between.Executes second after) :
    machine.Executes (first ++ second) after := by
  induction firstExecuted with
  | nil => exact secondExecuted
  | cons stepped _ inductionHypothesis =>
      exact .cons stepped (inductionHypothesis secondExecuted)

theorem single {machine after : Machine σ} {instr : Instr}
    (stepped : machine.step instr = (after, .ok ())) : machine.Executes [instr] after :=
  .cons stepped .nil

end Executes

/-! ## Single steps -/

theorem step_loadLocal {machine : Machine σ} {name : String} {word : Int32}
    (found : machine.locals.get? name = some word) :
    machine.step (.loadLocal name) = (machine.push word, .ok ()) := by
  simp only [step, found]

theorem step_storeLocal {machine : Machine σ} {name : String} {old : Int32}
    (declared : machine.locals.get? name = some old) (word : Int32) :
    (machine.push word).step (.storeLocal name) =
      ({ machine with locals := machine.locals.insert name word }, .ok ()) := by
  simp only [step, push, declared]

/-- A function of one argument takes the topmost word and leaves its result. -/
theorem step_call {machine : Machine σ} {name : String} {function : HostFn σ}
    (linked : machine.links.get? name = some { arity := 1, function := function })
    (word : Int32) :
    (machine.push word).step (.call name) =
      ((machine.invoke [word] function).1.push (machine.invoke [word] function).2,
        .ok ()) := by
  have enough : ¬ (machine.push word).stack.length < 1 := by simp [push]
  have found : (machine.push word).links.get? name =
      some { arity := 1, function := function } := linked
  simp only [step, found]
  rw [if_neg enough]
  rfl

end SlotLang.Machine
