import SlotLang.Proofs.Machine.Execution

/-!
# Operands beneath a run

Code that gets through takes no operand that was not there for it.  So it runs the same if
more operands lie beneath, leaves these where they are, and calls the functions of the
host with the same arguments.
-/

namespace SlotLang

/-- A call of a function of the host.  The arguments stand in the order in which they were
pushed. -/
structure HostCall where
  name : String
  arguments : List Int32
deriving DecidableEq, Repr

namespace Machine

variable {σ : Type} {machine after : Machine σ}

/-! ## Calls of the host -/

/-- The arguments that a linked function finds on the stack. -/
def argumentsFor (machine : Machine σ) (linked : Link σ) : List Int32 :=
  (machine.stack.take linked.arity).reverse

/-- The machine once a linked function has been called with these arguments. -/
def afterCall (machine : Machine σ) (linked : Link σ) : Machine σ :=
  let answer := { machine with stack := machine.stack.drop linked.arity }.invoke
    (machine.argumentsFor linked) linked.function
  answer.1.push answer.2

/-- The call that an instruction makes if it can be executed. -/
def call? (machine : Machine σ) : Instr → Option HostCall
  | .call name =>
      (machine.links.get? name).map fun linked =>
        { name := name, arguments := machine.argumentsFor linked }
  | _ => none

/-- The calls that a run makes, the earliest one first. -/
def calls (machine : Machine σ) : List Instr → List HostCall
  | [] => []
  | instr :: later =>
      match machine.step instr with
      | (next, .ok ()) => (machine.call? instr).toList ++ next.calls later
      | (_, .error _) => []

/-- A call is executed if its function is linked and all arguments are there. -/
theorem step_call_eq_ok_iff {name : String} :
    machine.step (.call name) = (after, .ok ()) ↔
      ∃ linked, machine.links.get? name = some linked ∧
        linked.arity ≤ machine.stack.length ∧ after = machine.afterCall linked := by
  cases found : machine.links.get? name with
  | none => simp [step, found]
  | some linked =>
      by_cases few : machine.stack.length < linked.arity
      · have short : ¬ linked.arity ≤ machine.stack.length := Nat.not_le.mpr few
        simp [step, found, few, short]
      · simp only [step, found, if_neg few, Prod.mk.injEq, and_true, Option.some.injEq,
          exists_eq_left', Nat.not_lt.mp few, true_and]
        exact eq_comm

/-! ## More operands -/

/-- The machine with more operands beneath its own, the topmost one last. -/
def above (base : List Int32) (machine : Machine σ) : Machine σ :=
  { machine with stack := machine.stack ++ base.reverse }

theorem operands_above (base : List Int32) (machine : Machine σ) :
    (machine.above base).operands = base ++ machine.operands := by
  rw [operands, above, List.reverse_append, List.reverse_reverse, operands]

/-- Functions of the host do not see the operands that are left. -/
theorem invoke_above (base : List Int32) (machine : Machine σ) (arguments : List Int32)
    (function : HostFn σ) :
    (machine.above base).invoke arguments function =
      ((machine.invoke arguments function).1.above base,
        (machine.invoke arguments function).2) := by
  cases function <;> rfl

theorem arithmetic_above {instr : Instr} {operation : Int32 → Int32 → Int32}
    (computed : machine.arithmetic instr operation = (after, .ok ())) (base : List Int32) :
    (machine.above base).arithmetic instr operation = (after.above base, .ok ()) := by
  rcases machine with ⟨locals, stack, links, printed, written, host⟩
  match stack, computed with
  | right :: left :: rest, computed =>
      obtain rfl := congrArg Prod.fst computed
      rfl

/-- The arguments of a call are cut off the top, wherever the bottom is. -/
theorem argumentsFor_above {linked : Link σ} (enough : linked.arity ≤ machine.stack.length)
    (base : List Int32) :
    (machine.above base).argumentsFor linked = machine.argumentsFor linked :=
  congrArg List.reverse (List.take_append_of_le_length enough)

theorem afterCall_above {linked : Link σ} (enough : linked.arity ≤ machine.stack.length)
    (base : List Int32) :
    (machine.above base).afterCall linked = (machine.afterCall linked).above base := by
  have rest : (machine.above base).stack.drop linked.arity =
      machine.stack.drop linked.arity ++ base.reverse :=
    List.drop_append_of_le_length enough
  have invoked := invoke_above base
    { machine with stack := machine.stack.drop linked.arity } (machine.argumentsFor linked)
    linked.function
  rw [afterCall, argumentsFor_above enough, rest]
  exact congrArg (fun answer => answer.1.push answer.2) invoked

/-- An instruction that is executed leaves the operands beneath alone. -/
theorem step_above {instr : Instr} (stepped : machine.step instr = (after, .ok ()))
    (base : List Int32) :
    (machine.above base).step instr = (after.above base, .ok ()) := by
  cases instr with
  | localDeclare name =>
      obtain rfl := congrArg Prod.fst stepped
      rfl
  | pushConstant value =>
      obtain rfl := congrArg Prod.fst stepped
      rfl
  | loadLocal name =>
      cases found : machine.locals.get? name with
      | none => simp [step, found] at stepped
      | some word =>
          rw [step_loadLocal found] at stepped
          obtain rfl := congrArg Prod.fst stepped
          exact step_loadLocal found
  | storeLocal name =>
      rcases machine with ⟨locals, stack, links, printed, written, host⟩
      cases found : locals.get? name with
      | none => simp [step, found] at stepped
      | some old =>
          cases stack with
          | nil => simp [step, found] at stepped
          | cons word rest =>
              let popped : Machine σ := ⟨locals, rest, links, printed, written, host⟩
              have stored : (popped.push word).step (.storeLocal name) = (after, .ok ()) :=
                stepped
              have declared : popped.locals.get? name = some old := found
              rw [step_storeLocal declared] at stored
              obtain rfl := congrArg Prod.fst stored
              have declaredAbove : (popped.above base).locals.get? name = some old := found
              exact step_storeLocal declaredAbove word
  | add => exact arithmetic_above stepped base
  | sub => exact arithmetic_above stepped base
  | mul => exact arithmetic_above stepped base
  | call name =>
      rcases step_call_eq_ok_iff.mp stepped with ⟨linked, found, enough, rfl⟩
      have enoughAbove : linked.arity ≤ (machine.above base).stack.length := by
        rw [above, List.length_append]
        exact Nat.le_add_right_of_le enough
      exact step_call_eq_ok_iff.mpr
        ⟨linked, found, enoughAbove, (afterCall_above enough base).symm⟩

/-- A call that is executed has the same arguments whatever lies beneath. -/
theorem call?_above {instr : Instr} (stepped : machine.step instr = (after, .ok ()))
    (base : List Int32) : (machine.above base).call? instr = machine.call? instr := by
  cases instr with
  | call name =>
      rcases step_call_eq_ok_iff.mp stepped with ⟨linked, found, enough, -⟩
      have foundAbove : (machine.above base).links.get? name = some linked := found
      rw [call?, call?, found, foundAbove, Option.map_some, Option.map_some,
        argumentsFor_above enough]
  | _ => rfl

/-- Code that is executed leaves the operands beneath alone. -/
theorem Executes.above {code : List Instr} (executed : machine.Executes code after)
    (base : List Int32) : (machine.above base).Executes code (after.above base) := by
  induction executed with
  | nil => exact .nil
  | cons stepped _ inductionHypothesis =>
      exact .cons (step_above stepped base) inductionHypothesis

theorem Executes.calls_above {code : List Instr} (executed : machine.Executes code after)
    (base : List Int32) : (machine.above base).calls code = machine.calls code := by
  induction executed with
  | nil => rfl
  | cons stepped _ inductionHypothesis =>
      rw [calls, calls, step_above stepped base, stepped]
      simp only [call?_above stepped base, inductionHypothesis]

/-- A run that succeeds does not touch the operands beneath those that it started with.
With any operands put beneath, it succeeds too, ends with the same operands above these,
makes the same calls with the same arguments, and is the same in everything else. -/
theorem run_spares_operands_beneath {code : List Instr}
    (ran : machine.run code = (after, .ok ())) (base : List Int32) :
    (machine.above base).operands = base ++ machine.operands ∧
      (machine.above base).run code = (after.above base, .ok ()) ∧
      (after.above base).operands = base ++ after.operands ∧
      (machine.above base).calls code = machine.calls code := by
  have executed := run_eq_ok_iff.mp ran
  exact ⟨operands_above base machine, run_eq_ok_iff.mpr (executed.above base),
    operands_above base after, executed.calls_above base⟩

/-- A machine whose host keeps the arguments of every `tally`, which answers with the
number of earlier ones. -/
def tallying : Machine (List (List Int32)) :=
  (capturing []).link "tally" 2
    (.foreign fun arguments kept => (Int32.ofNat kept.length, kept ++ [arguments]))

/-- Two words from an earlier run lie beneath, and no `tally` takes them. -/
theorem tallying_spares_leftovers :
    let code : List Instr := [.pushConstant 4, .pushConstant 9, .call "tally",
      .pushConstant 5, .call "tally", .call "print"]
    let after := ((tallying.above [7, -1]).run code).1
    (tallying.above [7, -1]).calls code =
        [⟨"tally", [4, 9]⟩, ⟨"tally", [0, 5]⟩, ⟨"print", [1]⟩] ∧
      after.operands = [7, -1, 0] ∧ after.printed = [1] ∧ after.host = [[4, 9], [0, 5]] := by
  intro code after
  have ran : tallying.run code = ((tallying.run code).1, .ok ()) := rfl
  rcases run_spares_operands_beneath ran [7, -1] with ⟨-, framed, operands, sameCalls⟩
  have same : after = (tallying.run code).1.above [7, -1] := congrArg Prod.fst framed
  exact ⟨sameCalls, same ▸ operands, same ▸ rfl, same ▸ rfl⟩

end Machine

end SlotLang
