import Mathlib.Tactic.Tauto
import SlotLang.Proofs.Lower.Allocation
import SlotLang.Proofs.Tree.Erasure

/-!
# Slots and emitted code

Which names get a slot, when lowering in sequence succeeds, and what it then emits.
Lowering looks at shapes and spans only, so the code of a checked program is that
of its source.
-/

namespace SlotLang

/-! ## Lowering in sequence -/

namespace Lowered

variable {first second : Lowered}

theorem append_outcome_eq_ok_iff :
    (first ++ second).outcome = .ok () ↔
      first.outcome = .ok () ∧ second.outcome = .ok () := by
  cases outcome : first.outcome with
  | error => simp [append_of_error outcome, outcome]
  | ok => simp [append_of_ok outcome]

theorem append_code (succeeded : first.outcome = .ok ()) :
    (first ++ second).code = first.code ++ second.code := by
  rw [append_of_ok succeeded]

theorem append_nothing (lowered : Lowered) : lowered ++ nothing = lowered := by
  cases outcome : lowered.outcome with
  | error => exact append_of_error outcome nothing
  | ok =>
      rw [append_of_ok outcome, nothing, List.append_nil, ← outcome]

theorem onSlot_of_mem {slots : List String} {name : String} (make : String → Instr)
    (position : Position) (slotted : name ∈ slots) :
    onSlot slots make name position = emit (make name) := by
  simp [onSlot, slotOf, slotted]

theorem onSlot_outcome_eq_ok_iff {slots : List String} {name : String}
    {make : String → Instr} {position : Position} :
    (onSlot slots make name position).outcome = .ok () ↔ name ∈ slots := by
  by_cases slotted : name ∈ slots
  · simp [onSlot_of_mem make position slotted, slotted, emit]
  · simp [onSlot, slotOf, slotted]

end Lowered

theorem Expr.lower_print (mark : Mark) (argument : Expr) (slots : List String) :
    (Expr.call mark Builtin.print.name [argument]).lower slots =
      argument.lower slots ++ .emit (.call Builtin.print.name) := by
  have lowered : (Expr.call mark Builtin.print.name [argument]).lower slots =
      (argument.lower slots ++ .nothing) ++ .emit (.call Builtin.print.name) := rfl
  rw [lowered, Lowered.append_nothing]

/-! ## Allocation -/

theorem mem_allocate_iff {slots : List String} {name other : String} :
    other ∈ allocate slots name ↔ other ∈ slots ∨ other = name := by
  unfold allocate
  split
  · rename_i slotted
    constructor
    · exact .inl
    · rintro (member | rfl)
      · exact member
      · exact slotted
  · simp

theorem mem_foldl_allocate_iff {names slots : List String} {other : String} :
    other ∈ names.foldl allocate slots ↔ other ∈ slots ∨ other ∈ names := by
  induction names generalizing slots with
  | nil => simp
  | cons name later inductionHypothesis =>
      rw [List.foldl_cons, inductionHypothesis, mem_allocate_iff, List.mem_cons, or_assoc]

/-- A block has a slot for each name it sets, and the scratch slot if it needs it. -/
theorem mem_allocateBlock_iff {scratch name : String} {slots : List String}
    {body : List Stmt} :
    name ∈ allocateBlock scratch slots body ↔
      name ∈ slots ∨ name ∈ Stmt.setNamesAll body ∨
        Stmt.anyUsesScratch body = true ∧ name = scratch := by
  unfold allocateBlock
  cases Stmt.anyUsesScratch body with
  | false => simp [mem_foldl_allocate_iff]
  | true => simp [mem_allocate_iff, mem_foldl_allocate_iff, or_assoc]

theorem Stmt.mem_setNamesAll {stmt : Stmt} {body : List Stmt} {name : String}
    (member : stmt ∈ body) (set : name ∈ stmt.setNames) :
    name ∈ Stmt.setNamesAll body := by
  induction body with
  | nil => simp at member
  | cons first later inductionHypothesis =>
      rw [Stmt.setNamesAll, List.mem_append]
      rcases List.mem_cons.mp member with rfl | member
      · exact .inl set
      · exact .inr (inductionHypothesis member)

/-- What a block sets, its first statement sets or the rest does. -/
theorem Stmt.setNamesAll_cons_iff {scratch : String} {stmt : Stmt} {later : List Stmt}
    {name : String} :
    (name ∈ Stmt.setNamesAll (stmt :: later) ∨
      Stmt.anyUsesScratch (stmt :: later) = true ∧ name = scratch) ↔
    (name ∈ stmt.setNames ∨ stmt.usesScratch = true ∧ name = scratch) ∨
      (name ∈ Stmt.setNamesAll later ∨
        Stmt.anyUsesScratch later = true ∧ name = scratch) := by
  rw [Stmt.setNamesAll, Stmt.anyUsesScratch, List.mem_append, Bool.or_eq_true]
  tauto

/-! ## Annotations play no part -/

mutual

@[simp]
theorem Expr.lower_erase (slots : List String) (expr : Expr) :
    expr.erase.lower slots = expr.lower slots := by
  cases expr with
  | literal => rfl
  | name => rfl
  | unary mark op operand =>
      cases op with
      | not => rfl
      | neg => rw [Expr.erase, Expr.lower, Expr.lower, Expr.lower_erase slots operand]
  | binary mark op left right =>
      rw [Expr.erase, Expr.lower, Expr.lower, Expr.lower_erase slots left,
        Expr.lower_erase slots right]
      rfl
  | call mark callee arguments =>
      rw [Expr.erase, Expr.lower, Expr.lower, Expr.lowerAll_eraseAll slots arguments]
      rfl
  | field => rfl
  | method => rfl
termination_by structural expr

@[simp]
theorem Expr.lowerAll_eraseAll (slots : List String) (exprs : List Expr) :
    Expr.lowerAll slots (Expr.eraseAll exprs) = Expr.lowerAll slots exprs := by
  cases exprs with
  | nil => rfl
  | cons expr later =>
      simp [Expr.eraseAll, Expr.lowerAll, Expr.lower_erase slots expr,
        Expr.lowerAll_eraseAll slots later]
termination_by structural exprs

end

@[simp]
theorem Stmt.lower_erase (scratch : String) (slots : List String) (stmt : Stmt) :
    stmt.erase.lower scratch slots = stmt.lower scratch slots := by
  cases stmt with
  | varDecl => simp only [Stmt.erase, Stmt.lower, VarDecl.erase, Expr.lower_erase]
  | functionDef =>
      simp only [Stmt.erase, Stmt.lower, FunctionDef.name_erase, FunctionDef.span_erase]
  | classDef =>
      simp only [Stmt.erase, Stmt.lower, ClassDef.name_erase, ClassDef.span_erase]
  | assign =>
      simp only [Stmt.erase, Stmt.lower, Expr.name?_erase, Expr.describe_erase,
        Expr.start_erase, Expr.lower_erase]
  | evaluate => simp only [Stmt.erase, Stmt.lower, Expr.lower_erase]
  | _ => rfl

@[simp]
theorem Stmt.lowerAll_eraseAll (scratch : String) (slots : List String)
    (body : List Stmt) :
    Stmt.lowerAll scratch slots (Stmt.eraseAll body) =
      Stmt.lowerAll scratch slots body := by
  induction body with
  | nil => rfl
  | cons stmt later inductionHypothesis =>
      simp [Stmt.eraseAll, Stmt.lowerAll, inductionHypothesis]

mutual

@[simp]
theorem Stmt.setNames_erase (stmt : Stmt) : stmt.erase.setNames = stmt.setNames := by
  cases stmt with
  | branch _ _ body rest =>
      simp [Stmt.erase, Stmt.setNames, Stmt.setNamesAll_eraseAll body,
        Alternatives.setNames_erase rest]
  | loop _ _ body => simp [Stmt.erase, Stmt.setNames, Stmt.setNamesAll_eraseAll body]
  | _ => simp [Stmt.erase, Stmt.setNames, VarDecl.erase]
termination_by structural stmt

@[simp]
theorem Alternatives.setNames_erase (rest : Alternatives) :
    rest.erase.setNames = rest.setNames := by
  cases rest with
  | elif _ body rest =>
      simp [Alternatives.erase, Alternatives.setNames, Stmt.setNamesAll_eraseAll body,
        Alternatives.setNames_erase rest]
  | otherwise body =>
      simp [Alternatives.erase, Alternatives.setNames, Stmt.setNamesAll_eraseAll body]
termination_by structural rest

@[simp]
theorem Stmt.setNamesAll_eraseAll (body : List Stmt) :
    Stmt.setNamesAll (Stmt.eraseAll body) = Stmt.setNamesAll body := by
  cases body with
  | nil => rfl
  | cons stmt later =>
      simp [Stmt.eraseAll, Stmt.setNamesAll, Stmt.setNames_erase stmt,
        Stmt.setNamesAll_eraseAll later]
termination_by structural body

end

mutual

@[simp]
theorem Stmt.usesScratch_erase (stmt : Stmt) :
    stmt.erase.usesScratch = stmt.usesScratch := by
  cases stmt with
  | branch _ _ body rest =>
      simp [Stmt.erase, Stmt.usesScratch, Stmt.anyUsesScratch_eraseAll body,
        Alternatives.usesScratch_erase rest]
  | loop _ _ body =>
      simp [Stmt.erase, Stmt.usesScratch, Stmt.anyUsesScratch_eraseAll body]
  | _ => simp [Stmt.erase, Stmt.usesScratch]
termination_by structural stmt

@[simp]
theorem Alternatives.usesScratch_erase (rest : Alternatives) :
    rest.erase.usesScratch = rest.usesScratch := by
  cases rest with
  | elif _ body rest =>
      simp [Alternatives.erase, Alternatives.usesScratch,
        Stmt.anyUsesScratch_eraseAll body, Alternatives.usesScratch_erase rest]
  | otherwise body =>
      simp [Alternatives.erase, Alternatives.usesScratch,
        Stmt.anyUsesScratch_eraseAll body]
termination_by structural rest

@[simp]
theorem Stmt.anyUsesScratch_eraseAll (body : List Stmt) :
    Stmt.anyUsesScratch (Stmt.eraseAll body) = Stmt.anyUsesScratch body := by
  cases body with
  | nil => rfl
  | cons stmt later =>
      simp [Stmt.eraseAll, Stmt.anyUsesScratch, Stmt.usesScratch_erase stmt,
        Stmt.anyUsesScratch_eraseAll later]
termination_by structural body

end

/-- Programs that differ only in their annotations compile alike. -/
theorem Compiler.compile_eq_of_eraseAll_eq {compiler : Compiler} {first second : Program}
    (same : Stmt.eraseAll first = Stmt.eraseAll second) :
    compiler.compile first = compiler.compile second := by
  have setNames : Stmt.setNamesAll first = Stmt.setNamesAll second := by
    rw [← Stmt.setNamesAll_eraseAll, same, Stmt.setNamesAll_eraseAll]
  have usesScratch : Stmt.anyUsesScratch first = Stmt.anyUsesScratch second := by
    rw [← Stmt.anyUsesScratch_eraseAll, same, Stmt.anyUsesScratch_eraseAll]
  have lowered : ∀ scratch names,
      Stmt.lowerAll scratch names first = Stmt.lowerAll scratch names second := by
    intro scratch names
    rw [← Stmt.lowerAll_eraseAll, same, Stmt.lowerAll_eraseAll]
  simp only [compile_eq, declareSlots_eq, allocateSlots_eq, setNames, usesScratch, lowered]

end SlotLang
