import Mathlib.Data.List.Forall2
import SlotLang.Proofs.Machine.Execution

/-!
# Typed code

A type describes the words that its values are kept in.  Code is typed against a
shape, which says which slots exist, which types the operands have and which types
have been shown so far.  A machine of the right shape executes every instruction of
typed code, and has the next shape afterwards, so the words in it fit their types at
every point of a run.
-/

namespace SlotLang

/-- The words that the values of a type are kept in.  Objects are not kept in
words. -/
def Ty.Admits : Ty → Int32 → Prop
  | .int, _ => True
  | .bool, word => word = 0 ∨ word = 1
  | .none, word => word = 0
  | .object _, _ => False

/-! ## Shapes -/

/-- What is known of a machine at a point of typed code. -/
structure Shape where
  /-- The slots that have been declared. -/
  declared : List String := []
  /-- The types of the operands, that of the topmost one first. -/
  operands : List Ty := []
  /-- The types of the values that were printed, that of the oldest one first. -/
  shown : List Ty := []

namespace Shape

/-- One operand more. -/
def push (shape : Shape) (type : Ty) : Shape :=
  { shape with operands := type :: shape.operands }

/-- Some printed values more. -/
def record (shape : Shape) (types : List Ty) : Shape :=
  { shape with shown := shape.shown ++ types }

@[simp]
theorem record_nil (shape : Shape) : shape.record [] = shape := by
  simp [Shape.record]

theorem record_append (shape : Shape) (first second : List Ty) :
    shape.record (first ++ second) = (shape.record first).record second := by
  simp [Shape.record]

theorem record_push (shape : Shape) (type : Ty) (types : List Ty) :
    (shape.push type).record types = (shape.record types).push type :=
  rfl

end Shape

/-- An instruction is typed between two shapes, given the types of the slots. -/
inductive Instr.Typed (slotType : String → Ty) : Shape → Instr → Shape → Prop where
  | localDeclare {shape : Shape} {name : String} (admitsZero : (slotType name).Admits 0) :
      Typed slotType shape (.localDeclare name)
        { shape with declared := name :: shape.declared }
  | pushConstant {shape : Shape} {value : Int32} {type : Ty}
      (admitted : type.Admits value) :
      Typed slotType shape (.pushConstant value) (shape.push type)
  | loadLocal {shape : Shape} {name : String} (declared : name ∈ shape.declared) :
      Typed slotType shape (.loadLocal name) (shape.push (slotType name))
  | storeLocal {shape : Shape} {name : String} {type : Ty}
      (declared : name ∈ shape.declared)
      (fits : ∀ word, type.Admits word → (slotType name).Admits word) :
      Typed slotType (shape.push type) (.storeLocal name) shape
  | arithmetic {shape : Shape} {instr : Instr}
      (listed : instr ∈ [Instr.add, .sub, .mul]) :
      Typed slotType ((shape.push .int).push .int) instr (shape.push .int)
  | print {shape : Shape} {type : Ty} :
      Typed slotType (shape.push type) (.call Builtin.print.name)
        ((shape.record [type]).push .none)

/-- Code is typed if its instructions are, one after the other. -/
inductive Instr.AllTyped (slotType : String → Ty) : Shape → List Instr → Shape → Prop where
  | nil {shape : Shape} : AllTyped slotType shape [] shape
  | cons {shape between after : Shape} {instr : Instr} {later : List Instr}
      (instrTyped : instr.Typed slotType shape between)
      (laterTyped : AllTyped slotType between later after) :
      AllTyped slotType shape (instr :: later) after

namespace Instr.AllTyped

variable {slotType : String → Ty} {shape between after : Shape} {first second : List Instr}

theorem append (firstTyped : AllTyped slotType shape first between)
    (secondTyped : AllTyped slotType between second after) :
    AllTyped slotType shape (first ++ second) after := by
  induction firstTyped with
  | nil => exact secondTyped
  | cons instrTyped _ inductionHypothesis =>
      exact .cons instrTyped (inductionHypothesis secondTyped)

theorem single {instr : Instr} (instrTyped : instr.Typed slotType shape after) :
    AllTyped slotType shape [instr] after :=
  .cons instrTyped .nil

/-- Typed code can be cut anywhere. -/
theorem split (typed : AllTyped slotType shape (first ++ second) after) :
    ∃ between, AllTyped slotType shape first between ∧
      AllTyped slotType between second after := by
  induction first generalizing shape with
  | nil => exact ⟨shape, .nil, typed⟩
  | cons instr later inductionHypothesis =>
      cases typed with
      | cons instrTyped laterTyped =>
          rcases inductionHypothesis laterTyped with ⟨between, firstTyped, secondTyped⟩
          exact ⟨between, .cons instrTyped firstTyped, secondTyped⟩

/-- What was shown stays shown. -/
theorem shown_isPrefix {code : List Instr} (typed : AllTyped slotType shape code after) :
    shape.shown <+: after.shown := by
  induction typed with
  | nil => exact List.prefix_rfl
  | cons instrTyped _ inductionHypothesis =>
      apply List.IsPrefix.trans _ inductionHypothesis
      cases instrTyped with
      | print => exact List.prefix_append _ _
      | _ => exact List.prefix_rfl

end Instr.AllTyped

/-! ## Machines of a shape -/

namespace Machine

variable {σ : Type} {slotType : String → Ty} {shape : Shape} {machine : Machine σ}

/-- The built-in `print` of the machine keeps or writes its argument, and whatever
the machine has kept or written comes from there. -/
def Prints (machine : Machine σ) : Prop :=
  machine.links.get? Builtin.print.name =
      some { arity := Builtin.print.arity, function := .capture } ∧ machine.written = [] ∨
    machine.links.get? Builtin.print.name =
      some { arity := Builtin.print.arity, function := .write } ∧ machine.printed = []

/-- The words of a machine fit the types of a shape. -/
structure HasShape (slotType : String → Ty) (machine : Machine σ) (shape : Shape) :
    Prop where
  prints : machine.Prints
  declared : ∀ name ∈ shape.declared, ∃ word, machine.locals.get? name = some word
  locals : ∀ name word, machine.locals.get? name = some word → (slotType name).Admits word
  operands : List.Forall₂ Ty.Admits shape.operands machine.stack
  shown : List.Forall₂ Ty.Admits shape.shown (machine.printed ++ machine.written)

namespace HasShape

theorem push (hasShape : machine.HasShape slotType shape) {type : Ty} {word : Int32}
    (admitted : type.Admits word) :
    (machine.push word).HasShape slotType (shape.push type) :=
  { hasShape with operands := .cons admitted hasShape.operands }

/-- The topmost operand is there and fits its type. -/
theorem pop {type : Ty} (hasShape : machine.HasShape slotType (shape.push type)) :
    ∃ (below : Machine σ) (word : Int32), machine = below.push word ∧
      type.Admits word ∧ below.HasShape slotType shape := by
  rcases List.forall₂_cons_left_iff.mp hasShape.operands with
    ⟨word, rest, admitted, restAdmitted, stack⟩
  refine ⟨{ machine with stack := rest }, word, ?_, admitted, ?_⟩
  · rcases machine with ⟨locals, _, links, printed, written, host⟩
    obtain rfl := stack
    rfl
  · exact { hasShape with operands := restAdmitted }

/-- A slot that is set to a word of its type is declared from then on. -/
theorem store (hasShape : machine.HasShape slotType shape) {name : String} {word : Int32}
    (admitted : (slotType name).Admits word) :
    { machine with locals := machine.locals.insert name word }.HasShape slotType
      { shape with declared := name :: shape.declared } := by
  refine { hasShape with declared := ?_, locals := ?_ }
  · intro other listed
    by_cases same : other = name
    · subst same
      exact ⟨word, Table.get?_insert_self _ _ _⟩
    · obtain ⟨old, found⟩ := hasShape.declared other
        ((List.mem_cons.mp listed).resolve_left same)
      exact ⟨old, (Table.get?_insert_of_ne _ _ same).trans found⟩
  · intro other old found
    by_cases same : other = name
    · subst same
      obtain rfl : word = old := Option.some.inj
        ((Table.get?_insert_self machine.locals other word).symm.trans found)
      exact admitted
    · exact hasShape.locals other old
        ((Table.get?_insert_of_ne machine.locals word same).symm.trans found)

/-- Printing a word shows it, and yields null. -/
theorem print (hasShape : machine.HasShape slotType shape) {type : Ty} {word : Int32}
    (admitted : type.Admits word) :
    ∃ after, (machine.push word).step (.call Builtin.print.name) = (after, .ok ()) ∧
      after.HasShape slotType ((shape.record [type]).push .none) := by
  have shown : List.Forall₂ Ty.Admits (shape.record [type]).shown
      ((machine.printed ++ machine.written) ++ [word]) :=
    List.rel_append hasShape.shown (.cons admitted .nil)
  rcases hasShape.prints with ⟨linked, none⟩ | ⟨linked, none⟩
  · refine ⟨_, step_call linked word, push ?_ rfl⟩
    refine { hasShape with prints := .inl ⟨linked, none⟩, shown := ?_ }
    simpa [none, invoke] using shown
  · refine ⟨_, step_call linked word, push ?_ rfl⟩
    refine { hasShape with prints := .inr ⟨linked, none⟩, shown := ?_ }
    simpa [none, invoke] using shown

/-- A machine of the right shape executes a typed instruction. -/
theorem step {next : Shape} {instr : Instr} (hasShape : machine.HasShape slotType shape)
    (typed : instr.Typed slotType shape next) :
    ∃ after, machine.step instr = (after, .ok ()) ∧ after.HasShape slotType next := by
  cases typed with
  | localDeclare admitsZero => exact ⟨_, rfl, hasShape.store admitsZero⟩
  | pushConstant admitted => exact ⟨_, rfl, hasShape.push admitted⟩
  | @loadLocal _ name declared =>
      rcases hasShape.declared name declared with ⟨word, found⟩
      exact ⟨_, step_loadLocal found, hasShape.push (hasShape.locals name word found)⟩
  | @storeLocal shape name _ declared fits =>
      rcases hasShape.pop with ⟨below, word, rfl, admitted, belowShape⟩
      rcases belowShape.declared name declared with ⟨old, found⟩
      have stored := belowShape.store (fits word admitted)
      exact ⟨_, step_storeLocal found word,
        { stored with
          declared := fun other listed =>
            stored.declared other (List.mem_cons_of_mem _ listed) }⟩
  | arithmetic listed =>
      rcases hasShape.pop with ⟨between, right, rfl, _, betweenShape⟩
      rcases betweenShape.pop with ⟨below, left, rfl, _, belowShape⟩
      simp only [List.mem_cons, List.not_mem_nil, or_false] at listed
      rcases listed with rfl | rfl | rfl
      · exact ⟨_, rfl, belowShape.push trivial⟩
      · exact ⟨_, rfl, belowShape.push trivial⟩
      · exact ⟨_, rfl, belowShape.push trivial⟩
  | print =>
      rcases hasShape.pop with ⟨below, word, rfl, admitted, belowShape⟩
      exact belowShape.print admitted

/-- A machine of the right shape executes typed code to its end. -/
theorem executes {after : Shape} {code : List Instr}
    (hasShape : machine.HasShape slotType shape)
    (typed : Instr.AllTyped slotType shape code after) :
    ∃ last, machine.Executes code last ∧ last.HasShape slotType after := by
  induction typed generalizing machine with
  | nil => exact ⟨machine, .nil, hasShape⟩
  | cons instrTyped _ inductionHypothesis =>
      rcases hasShape.step instrTyped with ⟨next, stepped, nextShape⟩
      rcases inductionHypothesis nextShape with ⟨last, executed, lastShape⟩
      exact ⟨last, .cons stepped executed, lastShape⟩

end HasShape

end Machine

end SlotLang
