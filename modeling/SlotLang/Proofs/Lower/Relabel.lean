import Mathlib.Data.List.Basic
import SlotLang.Proofs.Check.Relabel.Stmt
import SlotLang.Proofs.Lower.Allocation

/-!
# Relabelled programs are lowered alike

Slots are named after variables, and the code of a program mentions names only as slots
and as built-ins.  So the code of a relabelled program is the relabelled code.
-/

namespace SlotLang

variable {labels : Relabelling}

/-! ## Lowering in sequence -/

namespace Lowered

/-- Two trees emit the same code up to the names of the slots, and mirror each other in
how far they get. -/
structure Mirrored (labels : Relabelling) (run other : Lowered) : Prop where
  code : other.code = run.code.map (Instr.relabel labels)
  outcome : SlotLang.Mirrored labels.Blames id run.outcome other.outcome

namespace Mirrored

theorem nothing : Mirrored labels .nothing .nothing :=
  ⟨rfl, .ok rfl⟩

theorem emit {instr other : Instr} (same : other = instr.relabel labels) :
    Mirrored labels (.emit instr) (.emit other) := by
  subst same
  exact ⟨rfl, .ok rfl⟩

theorem fail {cause other : Cause} {position : Position} (kind : other.label = cause.label)
    (same : labels.FixesNames → other = cause) :
    Mirrored labels (.fail cause position) (.fail other (labels.start position)) :=
  ⟨rfl, .error ⟨rfl, kind, same⟩⟩

theorem append {first otherFirst second otherSecond : Lowered}
    (firstMirrored : Mirrored labels first otherFirst)
    (secondMirrored : Mirrored labels second otherSecond) :
    Mirrored labels (first ++ second) (otherFirst ++ otherSecond) := by
  rcases first with ⟨code, outcome⟩
  rcases otherFirst with ⟨otherCode, otherOutcome⟩
  rcases firstMirrored with ⟨sameCode, mirrored⟩
  change otherCode = code.map (Instr.relabel labels) at sameCode
  cases mirrored with
  | ok =>
      rw [append_of_ok rfl, append_of_ok rfl, sameCode]
      constructor
      · simp only [List.map_append, secondMirrored.code]
      · exact secondMirrored.outcome
  | error blamed =>
      rw [append_of_error rfl, append_of_error rfl]
      exact ⟨sameCode, .error blamed⟩

/-- A relabelled name has a slot exactly if the name has one. -/
theorem onSlot {make : String → Instr}
    (made : ∀ name, make (labels.name name) = (make name).relabel labels)
    (slots : List String) (name : String) (position : Position) :
    Mirrored labels (.onSlot slots make name position)
      (.onSlot (slots.map labels.name) make (labels.name name)
        (labels.start position)) := by
  have slotted : labels.name name ∈ slots.map labels.name ↔ name ∈ slots :=
    List.mem_map_of_injective labels.injective
  simp only [Lowered.onSlot, slotOf, slotted]
  by_cases member : name ∈ slots
  · simp only [member, if_true]
    exact emit (made name)
  · simp only [member, if_false]
    exact ⟨rfl, .error ⟨rfl, rfl, fun fixes => by rw [fixes]⟩⟩

end Mirrored

end Lowered

/-! ## Expressions -/

/-- The instruction of an operator mentions no slot. -/
theorem BinaryOp.relabel_instr? {op : BinaryOp} {instr : Instr}
    (found : op.instr? = some instr) : instr = instr.relabel labels := by
  cases op <;> cases found <;> rfl

/-- A built-in is called by its own name. -/
theorem Builtin.name_of_find? {name : String} {builtin : Builtin}
    (found : Builtin.find? name = some builtin) : labels.name name = name := by
  have listed : builtin ∈ Builtin.all := List.mem_of_find?_eq_some found
  have named : builtin.name = name := by simpa using List.find?_some found
  rw [← named]
  exact labels.builtin builtin listed

mutual

theorem Expr.mirrored_lower (slots : List String) (expr : Expr) :
    Lowered.Mirrored labels (expr.lower slots)
      ((expr.relabel labels).lower (slots.map labels.name)) := by
  cases expr with
  | literal mark value => exact .emit rfl
  | name mark named => exact .onSlot (fun _ => rfl) slots named mark.start
  | unary mark op operand =>
      cases op with
      | neg =>
          rw [Expr.relabel, Expr.lower, Expr.lower]
          exact .append (.emit rfl) (.append (Expr.mirrored_lower slots operand) (.emit rfl))
      | not => exact .fail rfl fun _ => rfl
  | binary mark op left right =>
      rw [Expr.relabel, Expr.lower, Expr.lower]
      cases found : op.instr? with
      | none => exact .fail rfl fun _ => rfl
      | some instr =>
          exact .append (Expr.mirrored_lower slots left)
            (.append (Expr.mirrored_lower slots right) (.emit (BinaryOp.relabel_instr? found)))
  | call mark callee arguments =>
      rw [Expr.relabel, Expr.lower, Expr.lower, Builtin.find?_relabel]
      cases found : Builtin.find? callee with
      | none => exact .fail rfl fun fixes => by rw [fixes]; rfl
      | some builtin =>
          rw [Builtin.name_of_find? found]
          exact .append (Expr.mirrored_lowerAll slots arguments) (.emit rfl)
  | field mark object member => exact .fail rfl fun fixes => by rw [fixes]; rfl
  | method mark object member arguments =>
      exact .fail rfl fun fixes => by rw [fixes]; rfl
termination_by structural expr

theorem Expr.mirrored_lowerAll (slots : List String) (exprs : List Expr) :
    Lowered.Mirrored labels (Expr.lowerAll slots exprs)
      (Expr.lowerAll (slots.map labels.name) (Expr.relabelAll labels exprs)) := by
  cases exprs with
  | nil => exact .nothing
  | cons expr later =>
      rw [Expr.relabelAll, Expr.lowerAll, Expr.lowerAll]
      exact .append (Expr.mirrored_lower slots expr) (Expr.mirrored_lowerAll slots later)
termination_by structural exprs

end

/-! ## Statements -/

theorem Stmt.mirrored_lower (scratch : String) (slots : List String) (stmt : Stmt) :
    Lowered.Mirrored labels (stmt.lower scratch slots)
      ((stmt.relabel labels).lower (labels.name scratch) (slots.map labels.name)) := by
  cases stmt with
  | varDecl declaration =>
      exact .append (Expr.mirrored_lower slots declaration.value)
        (.onSlot (fun _ => rfl) slots declaration.name declaration.span.start)
  | assign span target value =>
      simp only [Stmt.relabel, lower, Expr.name?_relabel, Expr.start_relabel]
      cases target.name? with
      | none =>
          exact .fail rfl fun fixes => by rw [Expr.describe_relabel fixes]
      | some name =>
          exact .append (Expr.mirrored_lower slots value)
            (.onSlot (fun _ => rfl) slots name target.start)
  | evaluate span value =>
      exact .append (Expr.mirrored_lower slots value)
        (.onSlot (fun _ => rfl) slots scratch span.start)
  | pass span => exact .nothing
  | functionDef definition =>
      simp only [Stmt.relabel, lower, FunctionDef.name_relabel, FunctionDef.span_relabel]
      exact .fail rfl fun fixes => by rw [fixes]
  | classDef definition =>
      simp only [Stmt.relabel, lower, ClassDef.name_relabel, ClassDef.span_relabel]
      exact .fail rfl fun fixes => by rw [fixes]
  | branch span condition body rest => exact .fail rfl fun _ => rfl
  | loop span condition body => exact .fail rfl fun _ => rfl
  | returnValue span value => exact .fail rfl fun _ => rfl

theorem Stmt.mirrored_lowerAll (scratch : String) (slots : List String)
    (body : List Stmt) :
    Lowered.Mirrored labels (Stmt.lowerAll scratch slots body)
      (Stmt.lowerAll (labels.name scratch) (slots.map labels.name)
        (Stmt.relabelAll labels body)) := by
  induction body with
  | nil => exact .nothing
  | cons stmt later inductionHypothesis =>
      exact .append (Stmt.mirrored_lower scratch slots stmt) inductionHypothesis

/-! ## Slots -/

section

variable (labels)

mutual

theorem Stmt.setNames_relabel (stmt : Stmt) :
    (stmt.relabel labels).setNames = stmt.setNames.map labels.name := by
  cases stmt with
  | varDecl declaration => rfl
  | assign span target value =>
      rw [Stmt.relabel, Stmt.setNames, Stmt.setNames, Expr.name?_relabel]
      cases target.name? <;> rfl
  | branch span condition body rest =>
      rw [Stmt.relabel, Stmt.setNames, Stmt.setNames, List.map_append,
        Stmt.setNamesAll_relabelAll body, Alternatives.setNames_relabel rest]
  | loop span condition body =>
      rw [Stmt.relabel, Stmt.setNames, Stmt.setNames, Stmt.setNamesAll_relabelAll body]
  | _ => rfl
termination_by structural stmt

theorem Alternatives.setNames_relabel (rest : Alternatives) :
    (rest.relabel labels).setNames = rest.setNames.map labels.name := by
  cases rest with
  | elif condition body rest =>
      rw [Alternatives.relabel, Alternatives.setNames, Alternatives.setNames,
        List.map_append, Stmt.setNamesAll_relabelAll body, Alternatives.setNames_relabel rest]
  | otherwise body =>
      rw [Alternatives.relabel, Alternatives.setNames, Alternatives.setNames,
        Stmt.setNamesAll_relabelAll body]
termination_by structural rest

/-- A relabelled block sets the relabelled names. -/
theorem Stmt.setNamesAll_relabelAll (body : List Stmt) :
    Stmt.setNamesAll (Stmt.relabelAll labels body) =
      (Stmt.setNamesAll body).map labels.name := by
  cases body with
  | nil => rfl
  | cons stmt later =>
      rw [Stmt.relabelAll, Stmt.setNamesAll, Stmt.setNamesAll, List.map_append,
        Stmt.setNames_relabel stmt, Stmt.setNamesAll_relabelAll later]
termination_by structural body

end

mutual

theorem Stmt.usesScratch_relabel (stmt : Stmt) :
    (stmt.relabel labels).usesScratch = stmt.usesScratch := by
  cases stmt with
  | branch span condition body rest =>
      rw [Stmt.relabel, Stmt.usesScratch, Stmt.usesScratch,
        Stmt.anyUsesScratch_relabelAll body, Alternatives.usesScratch_relabel rest]
  | loop span condition body =>
      rw [Stmt.relabel, Stmt.usesScratch, Stmt.usesScratch,
        Stmt.anyUsesScratch_relabelAll body]
  | _ => rfl
termination_by structural stmt

theorem Alternatives.usesScratch_relabel (rest : Alternatives) :
    (rest.relabel labels).usesScratch = rest.usesScratch := by
  cases rest with
  | elif condition body rest =>
      rw [Alternatives.relabel, Alternatives.usesScratch, Alternatives.usesScratch,
        Stmt.anyUsesScratch_relabelAll body, Alternatives.usesScratch_relabel rest]
  | otherwise body =>
      rw [Alternatives.relabel, Alternatives.usesScratch, Alternatives.usesScratch,
        Stmt.anyUsesScratch_relabelAll body]
termination_by structural rest

theorem Stmt.anyUsesScratch_relabelAll (body : List Stmt) :
    Stmt.anyUsesScratch (Stmt.relabelAll labels body) = Stmt.anyUsesScratch body := by
  cases body with
  | nil => rfl
  | cons stmt later =>
      rw [Stmt.relabelAll, Stmt.anyUsesScratch, Stmt.anyUsesScratch,
        Stmt.usesScratch_relabel stmt, Stmt.anyUsesScratch_relabelAll later]
termination_by structural body

end

theorem allocate_relabel (slots : List String) (name : String) :
    allocate (slots.map labels.name) (labels.name name) =
      (allocate slots name).map labels.name := by
  have slotted : labels.name name ∈ slots.map labels.name ↔ name ∈ slots :=
    List.mem_map_of_injective labels.injective
  unfold allocate
  by_cases member : name ∈ slots
  · simp only [slotted, member, if_true]
  · simp only [slotted, member, if_false, List.map_append, List.map_cons, List.map_nil]

theorem foldl_allocate_relabel (slots names : List String) :
    (names.map labels.name).foldl allocate (slots.map labels.name) =
      (names.foldl allocate slots).map labels.name := by
  induction names generalizing slots with
  | nil => rfl
  | cons name later inductionHypothesis =>
      rw [List.map_cons, List.foldl_cons, allocate_relabel, inductionHypothesis,
        List.foldl_cons]

/-- A relabelled block has the relabelled slots, in the same order. -/
theorem allocateBlock_relabelAll (scratch : String) (slots : List String)
    (body : List Stmt) :
    allocateBlock (labels.name scratch) (slots.map labels.name)
        (Stmt.relabelAll labels body) =
      (allocateBlock scratch slots body).map labels.name := by
  unfold allocateBlock
  rw [Stmt.setNamesAll_relabelAll, Stmt.anyUsesScratch_relabelAll, foldl_allocate_relabel]
  cases Stmt.anyUsesScratch body with
  | true => exact allocate_relabel labels _ scratch
  | false => rfl

end

/-! ## Programs -/

/-- The code of a relabelled program is the relabelled code. -/
theorem Program.mirrored_compile (labels : Relabelling) (scratch : String)
    (program : Program) :
    Mirrored labels.Rejects (List.map (Instr.relabel labels)) (program.compile scratch)
      (Program.compile (labels.name scratch) (Stmt.relabelAll labels program)) := by
  apply (program.mirrored_typed labels).bind
  intro typed
  apply Mirrored.mapError _ .rejected
  have slots := allocateBlock_relabelAll labels scratch [] typed
  rw [List.map_nil] at slots
  have lowered := @Stmt.mirrored_lowerAll labels scratch (allocateBlock scratch [] typed) typed
  simp only [Compiler.compile_fresh, slots]
  apply lowered.outcome.map
  intro _
  rw [lowered.code]
  simp only [List.map_append, List.map_map]
  rfl

end SlotLang
