import SlotLang.Machine

/-!
# Outlines of machines

Whether an instruction can be executed depends on how many operands there are, which
locals exist and how many arguments the linked functions take, but never on a word or on
what a host function does.  The outline of a machine keeps just that much of it.  An
outline runs code by itself, and meets the same fault at the same place as every machine
that it is the outline of.
-/

namespace SlotLang

theorem Table.contains_insert {α : Type} (table : Table α) (name other : String)
    (value : α) :
    (table.insert name value).contains other =
      (decide (other = name) || table.contains other) := by
  by_cases same : other = name
  · simp [contains, same]
  · simp [contains, get?_insert, same]

/-! ## Running an outline -/

/-- The number of operands, the locals that exist, and the numbers of arguments of the
linked functions. -/
structure Outline where
  depth : Nat
  isDeclared : String → Bool
  arity? : String → Option Nat

namespace Outline

/-- One operand more. -/
def push (outline : Outline) : Outline :=
  { outline with depth := outline.depth + 1 }

/-- One local more. -/
def declare (outline : Outline) (name : String) : Outline :=
  { outline with
    isDeclared := fun other => decide (other = name) || outline.isDeclared other }

/-- Two operands become one.  A single one is lost. -/
def arithmetic (outline : Outline) (instr : Instr) : Outline × Except Cause Unit :=
  if outline.depth < 2 then
    ({ outline with depth := 0 }, .error (.stackUnderflow instr.text))
  else
    ({ outline with depth := outline.depth - 1 }, .ok ())

/-- Execute an instruction as far as it shows in the outline. -/
def step (outline : Outline) (instr : Instr) : Outline × Except Cause Unit :=
  match instr with
  | .localDeclare name => (outline.declare name, .ok ())
  | .pushConstant _ => (outline.push, .ok ())
  | .loadLocal name =>
      if outline.isDeclared name then (outline.push, .ok ())
      else (outline, .error (.undeclaredLocal name))
  | .storeLocal name =>
      if outline.isDeclared name then
        if outline.depth < 1 then (outline, .error (.stackUnderflow instr.text))
        else ({ outline with depth := outline.depth - 1 }, .ok ())
      else (outline, .error (.undeclaredLocal name))
  | .add => outline.arithmetic instr
  | .sub => outline.arithmetic instr
  | .mul => outline.arithmetic instr
  | .call name =>
      match outline.arity? name with
      | none => (outline, .error (.unknownFunction name))
      | some arity =>
          if outline.depth < arity then (outline, .error (.stackUnderflow instr.text))
          else ({ outline with depth := outline.depth - arity + 1 }, .ok ())

/-- Execute instructions of which the first has the given index, up to the first that
cannot be executed. -/
def runFrom (index : Nat) (outline : Outline) :
    List Instr → Outline × Except Diagnostic Unit
  | [] => (outline, .ok ())
  | instr :: later =>
      match outline.step instr with
      | (next, .ok ()) => runFrom (index + 1) next later
      | (stopped, .error cause) =>
          (stopped, .error { cause := cause, position := .inListing index })

/-- A local that is declared again was there before. -/
theorem declare_of_isDeclared {outline : Outline} {name : String}
    (declared : outline.isDeclared name = true) : outline.declare name = outline := by
  have kept : (fun other => decide (other = name) || outline.isDeclared other) =
      outline.isDeclared := by
    funext other
    by_cases same : other = name
    · subst same
      rw [declared, Bool.or_true]
    · rw [decide_eq_false same, Bool.false_or]
  rw [declare, kept]

end Outline

/-! ## The outline of a machine -/

namespace Machine

variable {σ τ : Type}

/-- What is left of a machine when its words and its host are hidden. -/
def outline (machine : Machine σ) : Outline where
  depth := machine.stack.length
  isDeclared := machine.locals.contains
  arity? name := (machine.links.get? name).map Link.arity

theorem depth_outline (machine : Machine σ) :
    machine.outline.depth = machine.stack.length :=
  rfl

theorem isDeclared_outline (machine : Machine σ) (name : String) :
    machine.outline.isDeclared name = (machine.locals.get? name).isSome :=
  rfl

theorem arity?_outline (machine : Machine σ) (name : String) :
    machine.outline.arity? name = (machine.links.get? name).map Link.arity :=
  rfl

theorem outline_push (machine : Machine σ) (word : Int32) :
    (machine.push word).outline = machine.outline.push :=
  rfl

/-- Machines have the same outline if they differ in words and hosts only. -/
theorem outline_eq_iff {first : Machine σ} {second : Machine τ} :
    first.outline = second.outline ↔
      first.stack.length = second.stack.length ∧
        (∀ name, first.locals.contains name = second.locals.contains name) ∧
          ∀ name, (first.links.get? name).map Link.arity =
            (second.links.get? name).map Link.arity := by
  rw [outline, outline, Outline.mk.injEq, funext_iff, funext_iff]

theorem outline_insert (machine : Machine σ) (name : String) (word : Int32) :
    { machine with locals := machine.locals.insert name word }.outline =
      machine.outline.declare name := by
  rw [outline, Outline.declare, outline, Outline.mk.injEq]
  exact ⟨rfl, funext fun other => Table.contains_insert _ _ _ _, rfl⟩

/-- What a host function does to a machine does not show in the outline. -/
theorem outline_invoke (machine : Machine σ) (arguments : List Int32)
    (function : HostFn σ) :
    (machine.invoke arguments function).1.outline = machine.outline := by
  cases function <;> rfl

theorem outline_arithmetic (machine : Machine σ) (instr : Instr)
    (operation : Int32 → Int32 → Int32) :
    machine.outline.arithmetic instr =
      ((machine.arithmetic instr operation).1.outline,
        (machine.arithmetic instr operation).2) := by
  rcases machine with ⟨locals, stack, links, printed, written, host⟩
  cases stack with
  | nil => rfl
  | cons right below =>
      cases below with
      | nil => rfl
      | cons left rest => rfl

/-- An outline executes an instruction as its machine does. -/
theorem outline_step (machine : Machine σ) (instr : Instr) :
    machine.outline.step instr =
      ((machine.step instr).1.outline, (machine.step instr).2) := by
  cases instr with
  | localDeclare name => rw [Outline.step, step, outline_insert]
  | pushConstant value => rfl
  | loadLocal name =>
      rw [Outline.step, step, isDeclared_outline]
      cases machine.locals.get? name with
      | none => rfl
      | some word => rfl
  | storeLocal name =>
      rw [Outline.step, step, isDeclared_outline]
      cases found : machine.locals.get? name with
      | none => rfl
      | some old =>
          rcases machine with ⟨locals, stack, links, printed, written, host⟩
          cases stack with
          | nil => rfl
          | cons word rest =>
              let popped : Machine σ := ⟨locals, rest, links, printed, written, host⟩
              have declared : popped.outline.isDeclared name = true := by
                rw [isDeclared_outline, found, Option.isSome_some]
              have stored := popped.outline_insert name word
              rw [Outline.declare_of_isDeclared declared] at stored
              exact Prod.ext stored.symm rfl
  | add => exact outline_arithmetic machine _ _
  | sub => exact outline_arithmetic machine _ _
  | mul => exact outline_arithmetic machine _ _
  | call name =>
      rw [Outline.step, step, arity?_outline]
      cases machine.links.get? name with
      | none => rfl
      | some linked =>
          by_cases few : machine.stack.length < linked.arity
          · simp only [Option.map_some, depth_outline, few, if_true]
          · simp only [Option.map_some, depth_outline, few, if_false, outline_push,
              outline_invoke]
            simp only [outline, Outline.push, List.length_drop]

/-- An outline runs code as its machine does. -/
theorem outline_runFrom (index : Nat) (machine : Machine σ) (code : List Instr) :
    machine.outline.runFrom index code =
      ((machine.runFrom index code).1.outline, (machine.runFrom index code).2) := by
  induction code generalizing index machine with
  | nil => rfl
  | cons instr later inductionHypothesis =>
      rw [Outline.runFrom, outline_step, runFrom]
      rcases machine.step instr with ⟨next, ⟨⟩ | ⟨⟩⟩
      · rfl
      · exact inductionHypothesis (index + 1) next

/-- Machines with as many operands, the same locals and linked functions of the same
arities get through the same code, or stop at the same fault in the same place, and are
alike afterwards in these respects, whatever their words are and whatever their hosts
do. -/
theorem faults_independent_of_data {first : Machine σ} {second : Machine τ}
    (depth : first.stack.length = second.stack.length)
    (locals : ∀ name, first.locals.contains name = second.locals.contains name)
    (arities : ∀ name, (first.links.get? name).map Link.arity =
      (second.links.get? name).map Link.arity)
    (code : List Instr) :
    (first.run code).2 = (second.run code).2 ∧
      (first.run code).1.stack.length = (second.run code).1.stack.length ∧
      (∀ name, (first.run code).1.locals.contains name =
        (second.run code).1.locals.contains name) ∧
      ∀ name, ((first.run code).1.links.get? name).map Link.arity =
        ((second.run code).1.links.get? name).map Link.arity := by
  have alike : first.outline = second.outline :=
    outline_eq_iff.mpr ⟨depth, locals, arities⟩
  have ran := first.outline_runFrom 0 code
  rw [alike, second.outline_runFrom 0 code, Prod.mk.injEq] at ran
  exact ⟨ran.2.symm, outline_eq_iff.mp ran.1.symm⟩

/-- A machine with a `print` of the host's own, which answers with the total of what was
printed before. -/
def totalling : Machine Int32 :=
  { ({ host := 100 } : Machine Int32).link "print" 1
      (.foreign fun arguments total => (total, total + arguments.headD 0)) with
    locals := (∅ : Table Int32).insert "size" (-3)
    stack := [8] }

/-- A machine that keeps what is printed. -/
def keeping : Machine Unit :=
  { capturing () with
    locals := (∅ : Table Int32).insert "size" 7
    stack := [-2147483648] }

/-- The second addition finds one operand only, and takes it, on either machine. -/
theorem totalling_faults_with_keeping :
    (keeping.run [.loadLocal "size", .call "print", .add, .add, .mul]).2 =
        .error { cause := .stackUnderflow "add", position := .inListing 3 } ∧
      (totalling.run [.loadLocal "size", .call "print", .add, .add, .mul]).2 =
        .error { cause := .stackUnderflow "add", position := .inListing 3 } ∧
      (totalling.run [.loadLocal "size", .call "print", .add, .add, .mul]).1.stack = [] := by
  have depth : keeping.stack.length = totalling.stack.length := rfl
  have locals : ∀ name, keeping.locals.contains name = totalling.locals.contains name := by
    intro name
    rw [keeping, totalling, Table.contains_insert, Table.contains_insert]
  have arities : ∀ name, (keeping.links.get? name).map Link.arity =
      (totalling.links.get? name).map Link.arity := by
    intro name
    change (Table.get? (Table.insert ∅ "print" _) name).map _ =
      (Table.get? (Table.insert ∅ "print" _) name).map _
    by_cases same : name = "print"
    · subst same
      rfl
    · rw [Table.get?_insert_of_ne _ _ same, Table.get?_insert_of_ne _ _ same]
      rfl
  rcases faults_independent_of_data depth locals arities
    [.loadLocal "size", .call "print", .add, .add, .mul] with ⟨fault, emptied, _⟩
  have failed : (keeping.run [.loadLocal "size", .call "print", .add, .add, .mul]).2 =
      .error { cause := .stackUnderflow "add", position := .inListing 3 } := rfl
  exact ⟨failed, fault.symm.trans failed, List.eq_nil_of_length_eq_zero emptied.symm⟩

end Machine

end SlotLang
