import SlotLang.Machine

/-!
# Definite assignment

Straight-line code that works on given slots and reads none of them before it has set it.
What a run of such code does cannot depend on what the slots held before, as long as they
exist.
-/

namespace SlotLang

/-- The local that an instruction sets. -/
def Instr.storedLocal? : Instr → Option String
  | storeLocal name => some name
  | _ => none

/-- The locals that some code sets, in order and with repetitions. -/
def storedLocals (code : List Instr) : List String :=
  code.filterMap Instr.storedLocal?

theorem mem_storedLocals_iff {code : List Instr} {name : String} :
    name ∈ storedLocals code ↔ .storeLocal name ∈ code := by
  rw [storedLocals, List.mem_filterMap]
  constructor
  · rintro ⟨instr, member, stored⟩
    cases instr with
    | storeLocal => exact Option.some.inj stored ▸ member
    | _ => cases stored
  · intro member
    exact ⟨_, member, rfl⟩

/-! ## Code in order -/

/-- `Instr.InOrder slots set instr after`: the instruction may be executed where the slots
`set` have been set, and then those of `after` have.  It declares nothing, and calls nothing
but built-ins. -/
inductive Instr.InOrder (slots : List String) : List String → Instr → List String → Prop where
  | pushConstant {set : List String} {value : Int32} :
      InOrder slots set (.pushConstant value) set
  | loadLocal {set : List String} {name : String} (slotted : name ∈ slots)
      (isSet : name ∈ set) :
      InOrder slots set (.loadLocal name) set
  | storeLocal {set : List String} {name : String} (slotted : name ∈ slots) :
      InOrder slots set (.storeLocal name) (name :: set)
  | add {set : List String} : InOrder slots set .add set
  | sub {set : List String} : InOrder slots set .sub set
  | mul {set : List String} : InOrder slots set .mul set
  | call {set : List String} {name : String} {builtin : Builtin}
      (listed : Builtin.find? name = some builtin) :
      InOrder slots set (.call name) set

/-- Code is in order if its instructions are, one after the other. -/
inductive Instr.AllInOrder (slots : List String) :
    List String → List Instr → List String → Prop where
  | nil {set : List String} : AllInOrder slots set [] set
  | cons {set between after : List String} {instr : Instr} {later : List Instr}
      (instrInOrder : instr.InOrder slots set between)
      (laterInOrder : AllInOrder slots between later after) :
      AllInOrder slots set (instr :: later) after

theorem Instr.InOrder.after_eq {slots set after : List String} {instr : Instr}
    (inOrder : instr.InOrder slots set after) :
    after = instr.storedLocal?.toList ++ set := by
  cases inOrder <;> rfl

namespace Instr.AllInOrder

variable {slots set between after : List String} {code first second : List Instr}

theorem single {instr : Instr} (inOrder : instr.InOrder slots set after) :
    AllInOrder slots set [instr] after :=
  .cons inOrder .nil

theorem append (firstInOrder : AllInOrder slots set first between)
    (secondInOrder : AllInOrder slots between second after) :
    AllInOrder slots set (first ++ second) after := by
  induction firstInOrder with
  | nil => exact secondInOrder
  | cons instrInOrder _ inductionHypothesis =>
      exact .cons instrInOrder (inductionHypothesis secondInOrder)

theorem split (inOrder : AllInOrder slots set (first ++ second) after) :
    ∃ between, AllInOrder slots set first between ∧
      AllInOrder slots between second after := by
  induction first generalizing set with
  | nil => exact ⟨set, .nil, inOrder⟩
  | cons instr later inductionHypothesis =>
      cases inOrder with
      | cons instrInOrder laterInOrder =>
          rcases inductionHypothesis laterInOrder with ⟨between, firstInOrder, secondInOrder⟩
          exact ⟨between, .cons instrInOrder firstInOrder, secondInOrder⟩

theorem of_mem (inOrder : AllInOrder slots set code after) {instr : Instr}
    (member : instr ∈ code) : ∃ here next, instr.InOrder slots here next := by
  rcases List.append_of_mem member with ⟨front, back, rfl⟩
  rcases inOrder.split with ⟨here, -, backInOrder⟩
  cases backInOrder with
  | cons instrInOrder _ => exact ⟨here, _, instrInOrder⟩

/-- The slots that have been set are those from before and those that the code sets. -/
theorem after_eq (inOrder : AllInOrder slots set code after) :
    after = (storedLocals code).reverse ++ set := by
  induction inOrder with
  | nil => rfl
  | @cons set between after instr later instrInOrder _ inductionHypothesis =>
      rw [inductionHypothesis, instrInOrder.after_eq, storedLocals, storedLocals]
      cases stored : instr.storedLocal? <;> simp [stored]

theorem localDeclare_not_mem (inOrder : AllInOrder slots set code after) (name : String) :
    .localDeclare name ∉ code := by
  intro member
  rcases inOrder.of_mem member with ⟨_, _, instrInOrder⟩
  cases instrInOrder

theorem slotted (inOrder : AllInOrder slots set code after) {name : String}
    (used : .loadLocal name ∈ code ∨ .storeLocal name ∈ code) : name ∈ slots := by
  rcases used with loads | stores
  · rcases inOrder.of_mem loads with ⟨_, _, instrInOrder⟩
    cases instrInOrder with
    | loadLocal slotted => exact slotted
  · rcases inOrder.of_mem stores with ⟨_, _, instrInOrder⟩
    cases instrInOrder with
    | storeLocal slotted => exact slotted

theorem exists_builtin (inOrder : AllInOrder slots set code after) {name : String}
    (called : .call name ∈ code) : ∃ builtin, Builtin.find? name = some builtin := by
  rcases inOrder.of_mem called with ⟨_, _, instrInOrder⟩
  cases instrInOrder with
  | call listed => exact ⟨_, listed⟩

/-- What is loaded was set before, or has been stored. -/
theorem stored_of_load {name : String}
    (inOrder : AllInOrder slots set (first ++ .loadLocal name :: second) after) :
    name ∈ set ∨ .storeLocal name ∈ first := by
  rcases inOrder.split with ⟨between, firstInOrder, loadInOrder⟩
  have isSet : name ∈ between := by
    cases loadInOrder with
    | cons instrInOrder _ =>
        cases instrInOrder with
        | loadLocal _ isSet => exact isSet
  rw [firstInOrder.after_eq, List.mem_append, List.mem_reverse, mem_storedLocals_iff] at isSet
  exact isSet.symm

end Instr.AllInOrder

/-! ## Runs do not depend on slots that have not been set -/

/-- Both tables have the slots, with the same values where these have been set. -/
structure Table.Agree (slots set : List String) (first second : Table Int32) : Prop where
  exist : ∀ name ∈ slots, first.contains name ∧ second.contains name
  same : ∀ name ∈ set, second.get? name = first.get? name

namespace Table.Agree

variable {slots set : List String} {first second : Table Int32} {name : String}

theorem get? (agree : Agree slots set first second) (slotted : name ∈ slots) :
    ∃ old other, first.get? name = some old ∧ second.get? name = some other := by
  rcases agree.exist name slotted with ⟨firstHas, secondHas⟩
  rcases Option.isSome_iff_exists.mp firstHas with ⟨old, found⟩
  rcases Option.isSome_iff_exists.mp secondHas with ⟨other, otherFound⟩
  exact ⟨old, other, found, otherFound⟩

theorem insert (agree : Agree slots set first second) (name : String) (word : Int32) :
    Agree slots (name :: set) (first.insert name word) (second.insert name word) where
  exist other slotted := by
    by_cases same : other = name
    · subst same
      simp [Table.contains]
    · simpa [Table.contains, Table.get?_insert_of_ne, same] using agree.exist other slotted
  same other isSet := by
    by_cases same : other = name
    · subst same
      rw [Table.get?_insert_self, Table.get?_insert_self]
    · rw [Table.get?_insert_of_ne _ _ same, Table.get?_insert_of_ne _ _ same]
      exact agree.same other ((List.mem_cons.mp isSet).resolve_left same)

end Table.Agree

namespace Machine

variable {σ : Type} {slots set after : List String}

/-- Functions of the host do not see the locals. -/
theorem invoke_locals (machine : Machine σ) (other : Table Int32) (arguments : List Int32)
    (function : HostFn σ) :
    { machine with locals := other }.invoke arguments function =
      ({ (machine.invoke arguments function).1 with locals := other },
        (machine.invoke arguments function).2) := by
  cases function <;> rfl

theorem locals_invoke (machine : Machine σ) (arguments : List Int32) (function : HostFn σ) :
    (machine.invoke arguments function).1.locals = machine.locals := by
  cases function <;> rfl

theorem arithmetic_locals (machine : Machine σ) (other : Table Int32) (instr : Instr)
    (operation : Int32 → Int32 → Int32) :
    { machine with locals := other }.arithmetic instr operation =
      ({ (machine.arithmetic instr operation).1 with locals := other },
        (machine.arithmetic instr operation).2) := by
  rcases machine with ⟨locals, stack, links, printed, written, host⟩
  cases stack with
  | nil => rfl
  | cons right below =>
      cases below with
      | nil => rfl
      | cons left rest => rfl

theorem locals_arithmetic (machine : Machine σ) (instr : Instr)
    (operation : Int32 → Int32 → Int32) :
    (machine.arithmetic instr operation).1.locals = machine.locals := by
  unfold arithmetic
  split <;> rfl

theorem step_call_locals (machine : Machine σ) (other : Table Int32) (name : String) :
    { machine with locals := other }.step (.call name) =
      ({ (machine.step (.call name)).1 with locals := other },
        (machine.step (.call name)).2) := by
  cases linked : machine.links.get? name with
  | none => simp only [step, linked]
  | some link =>
      by_cases few : machine.stack.length < link.arity
      · simp only [step, linked, few, if_true]
      · simp only [step, linked, few, if_false]
        rw [invoke_locals { machine with stack := machine.stack.drop link.arity }]
        rfl

theorem locals_step_call (machine : Machine σ) (name : String) :
    (machine.step (.call name)).1.locals = machine.locals := by
  cases linked : machine.links.get? name with
  | none => simp only [step, linked]
  | some link =>
      by_cases few : machine.stack.length < link.arity
      · simp only [step, linked, few, if_true]
      · simp only [step, linked, few, if_false]
        exact locals_invoke _ _ _

/-- An instruction in order does the same whatever the slots that have not been set hold,
and afterwards the slots agree that have been set. -/
theorem step_of_agree {machine : Machine σ} {other : Table Int32} {instr : Instr}
    (agree : Table.Agree slots set machine.locals other)
    (inOrder : instr.InOrder slots set after) :
    ∃ otherAfter,
      { machine with locals := other }.step instr =
        ({ (machine.step instr).1 with locals := otherAfter }, (machine.step instr).2) ∧
      ((machine.step instr).2 = .ok () →
        Table.Agree slots after (machine.step instr).1.locals otherAfter) := by
  cases inOrder with
  | pushConstant => exact ⟨other, rfl, fun _ => agree⟩
  | @loadLocal name slotted isSet =>
      rcases agree.get? slotted with ⟨old, _, found, _⟩
      have otherFound := (agree.same name isSet).trans found
      refine ⟨other, ?_, fun _ => ?_⟩
      · simp only [step, found, otherFound]
        rfl
      · simp only [step, found]
        exact agree
  | @storeLocal name slotted =>
      rcases agree.get? slotted with ⟨old, otherOld, found, otherFound⟩
      cases operands : machine.stack with
      | nil => exact ⟨other, by simp [step, found, otherFound, operands],
          by simp [step, found, operands]⟩
      | cons word rest =>
          refine ⟨other.insert name word, ?_, fun _ => ?_⟩
          · simp [step, found, otherFound, operands]
          · simp only [step, found, operands]
            exact agree.insert name word
  | add =>
      exact ⟨other, arithmetic_locals machine other _ _,
        fun _ => (locals_arithmetic machine _ _).symm ▸ agree⟩
  | sub =>
      exact ⟨other, arithmetic_locals machine other _ _,
        fun _ => (locals_arithmetic machine _ _).symm ▸ agree⟩
  | mul =>
      exact ⟨other, arithmetic_locals machine other _ _,
        fun _ => (locals_arithmetic machine _ _).symm ▸ agree⟩
  | call =>
      exact ⟨other, step_call_locals machine other _,
        fun _ => (locals_step_call machine _).symm ▸ agree⟩

/-- Code in order does the same whatever the slots that have not been set hold.  If it is
executed to its end, the slots agree that have been set by then. -/
theorem runFrom_of_agree {machine : Machine σ} {other : Table Int32} {code : List Instr}
    (index : Nat) (agree : Table.Agree slots set machine.locals other)
    (inOrder : Instr.AllInOrder slots set code after) :
    ∃ otherAfter,
      { machine with locals := other }.runFrom index code =
        ({ (machine.runFrom index code).1 with locals := otherAfter },
          (machine.runFrom index code).2) ∧
      ((machine.runFrom index code).2 = .ok () →
        Table.Agree slots after (machine.runFrom index code).1.locals otherAfter) := by
  induction inOrder generalizing machine other index with
  | nil => exact ⟨other, rfl, fun _ => agree⟩
  | @cons set between after instr later instrInOrder _ inductionHypothesis =>
      rcases step_of_agree agree instrInOrder with ⟨otherNext, stepped, nextAgree⟩
      rw [runFrom, runFrom, stepped]
      rcases result : machine.step instr with ⟨next, outcome⟩
      rw [result] at nextAgree
      cases outcome with
      | error cause => exact ⟨otherNext, rfl, fun succeeded => by cases succeeded⟩
      | ok => exact inductionHypothesis (index + 1) (nextAgree rfl)

end Machine

end SlotLang
