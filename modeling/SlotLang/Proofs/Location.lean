import SlotLang.Proofs.Lower.Relabel

/-!
# Where faults are located

Positions take no part in checking and compiling.  With its spans moved about in any way,
a program compiles to the same code or is refused for the same fault, at the position that
the old one was moved to.

That a fault is located at the start of a part of the program follows from this alone: a
position at which nothing of the program starts can be moved without moving the program,
so no fault can be there.
-/

namespace SlotLang

/-! ## The spans of a program -/

/-- The spans of an expression and of all its parts. -/
def Expr.spans (expr : Expr) : List Span :=
  expr.preorder.map fun part => part.mark.span

/-- The spans of a declaration and of its value. -/
def VarDecl.spans (declaration : VarDecl) : List Span :=
  declaration.span :: declaration.value.spans

mutual

/-- The spans of a statement, of the statements, fields and methods inside of it, and of
all their expressions. -/
def Stmt.spans : Stmt → List Span
  | .varDecl declaration => declaration.spans
  | .functionDef definition => definition.spans
  | .classDef definition => definition.spans
  | .assign span target value => span :: (target.spans ++ value.spans)
  | .branch span condition body rest =>
      span :: (condition.spans ++ (Stmt.spansAll body ++ rest.spans))
  | .loop span condition body => span :: (condition.spans ++ Stmt.spansAll body)
  | .pass span => [span]
  | .returnValue span value => span :: value.spans
  | .evaluate span value => span :: value.spans

/-- The spans of a function or method and of its body. -/
def FunctionDef.spans : FunctionDef → List Span
  | ⟨span, _, _, _, body⟩ => span :: Stmt.spansAll body

/-- The spans of a class, of its fields and of its methods. -/
def ClassDef.spans : ClassDef → List Span
  | ⟨span, _, fields, methods⟩ =>
      span :: (fields.flatMap VarDecl.spans ++ FunctionDef.spansAll methods)

/-- The spans of several functions. -/
def FunctionDef.spansAll : List FunctionDef → List Span
  | [] => []
  | definition :: later => definition.spans ++ FunctionDef.spansAll later

/-- The spans of the further cases of a branch, which have none of their own. -/
def Alternatives.spans : Alternatives → List Span
  | .elif condition body rest => condition.spans ++ (Stmt.spansAll body ++ rest.spans)
  | .otherwise body => Stmt.spansAll body

/-- The spans of a block. -/
def Stmt.spansAll : List Stmt → List Span
  | [] => []
  | stmt :: later => stmt.spans ++ Stmt.spansAll later

end

/-! ## Trees that do not move -/

/-- Each of some spans is left where it is. -/
def Relabelling.Keeps (labels : Relabelling) (spans : List Span) : Prop :=
  ∀ span ∈ spans, span.relabel labels = span

namespace Relabelling

variable {labels : Relabelling} {span : Span} {first second : List Span}

theorem keeps_cons_iff :
    labels.Keeps (span :: first) ↔ span.relabel labels = span ∧ labels.Keeps first :=
  List.forall_mem_cons

theorem keeps_append_iff :
    labels.Keeps (first ++ second) ↔ labels.Keeps first ∧ labels.Keeps second :=
  List.forall_mem_append

end Relabelling

section

variable {labels : Relabelling} (fixes : labels.FixesNames)

include fixes

theorem Mark.relabel_eq_self (mark : Mark) (kept : mark.span.relabel labels = mark.span) :
    mark.relabel labels = mark := by
  have types : Ty.relabel labels = id := funext (Ty.relabel_of_fixesNames fixes)
  rcases mark with ⟨span, slot⟩
  change span.relabel labels = span at kept
  rw [Mark.relabel, types, Option.map_id, kept]
  rfl

end

mutual

/-- An expression whose spans stay is left as it is. -/
theorem Expr.relabel_eq_self {labels : Relabelling} (fixes : labels.FixesNames)
    (expr : Expr) (kept : labels.Keeps expr.spans) : expr.relabel labels = expr := by
  cases expr with
  | literal mark value =>
      rw [Expr.relabel, Mark.relabel_eq_self fixes mark (kept _ List.mem_cons_self)]
  | name mark named =>
      rw [Expr.relabel, Mark.relabel_eq_self fixes mark (kept _ List.mem_cons_self), fixes]
  | unary mark op operand =>
      rcases Relabelling.keeps_cons_iff.mp kept with ⟨own, operandKept⟩
      rw [Expr.relabel, Mark.relabel_eq_self fixes mark own,
        Expr.relabel_eq_self fixes operand operandKept]
  | binary mark op left right =>
      rcases Relabelling.keeps_cons_iff.mp kept with ⟨own, parts⟩
      rw [List.map_append] at parts
      rcases Relabelling.keeps_append_iff.mp parts with ⟨leftKept, rightKept⟩
      rw [Expr.relabel, Mark.relabel_eq_self fixes mark own,
        Expr.relabel_eq_self fixes left leftKept, Expr.relabel_eq_self fixes right rightKept]
  | call mark callee arguments =>
      rcases Relabelling.keeps_cons_iff.mp kept with ⟨own, argumentsKept⟩
      rw [Expr.relabel, Mark.relabel_eq_self fixes mark own, fixes,
        Expr.relabelAll_eq_self fixes arguments argumentsKept]
  | field mark object member =>
      rcases Relabelling.keeps_cons_iff.mp kept with ⟨own, objectKept⟩
      rw [Expr.relabel, Mark.relabel_eq_self fixes mark own, fixes,
        Expr.relabel_eq_self fixes object objectKept]
  | method mark object member arguments =>
      rcases Relabelling.keeps_cons_iff.mp kept with ⟨own, parts⟩
      rw [List.map_append] at parts
      rcases Relabelling.keeps_append_iff.mp parts with ⟨objectKept, argumentsKept⟩
      rw [Expr.relabel, Mark.relabel_eq_self fixes mark own, fixes,
        Expr.relabel_eq_self fixes object objectKept,
        Expr.relabelAll_eq_self fixes arguments argumentsKept]
termination_by structural expr

theorem Expr.relabelAll_eq_self {labels : Relabelling} (fixes : labels.FixesNames)
    (exprs : List Expr)
    (kept : labels.Keeps ((Expr.preorderAll exprs).map fun part => part.mark.span)) :
    Expr.relabelAll labels exprs = exprs := by
  cases exprs with
  | nil => rfl
  | cons expr later =>
      rw [Expr.preorderAll, List.map_append] at kept
      rcases Relabelling.keeps_append_iff.mp kept with ⟨exprKept, laterKept⟩
      rw [Expr.relabelAll, Expr.relabel_eq_self fixes expr exprKept,
        Expr.relabelAll_eq_self fixes later laterKept]
termination_by structural exprs

end

section

variable {labels : Relabelling} (fixes : labels.FixesNames)

include fixes

theorem VarDecl.relabel_eq_self {declaration : VarDecl}
    (kept : labels.Keeps declaration.spans) : declaration.relabel labels = declaration := by
  rcases declaration with ⟨span, name, type, value⟩
  rcases Relabelling.keeps_cons_iff.mp kept with ⟨own, valueKept⟩
  change span.relabel labels = span at own
  simp only [VarDecl.relabel, own, fixes name, Ty.relabel_of_fixesNames fixes,
    Expr.relabel_eq_self fixes value valueKept]

theorem VarDecl.map_relabel_eq_self {declarations : List VarDecl}
    (kept : labels.Keeps (declarations.flatMap VarDecl.spans)) :
    declarations.map (VarDecl.relabel labels) = declarations := by
  induction declarations with
  | nil => rfl
  | cons declaration later inductionHypothesis =>
      rw [List.flatMap_cons] at kept
      rcases Relabelling.keeps_append_iff.mp kept with ⟨declarationKept, laterKept⟩
      rw [List.map_cons, VarDecl.relabel_eq_self fixes declarationKept,
        inductionHypothesis laterKept]

theorem Param.map_relabel_eq_self (params : List Param) :
    params.map (Param.relabel labels) = params := by
  have same : Param.relabel labels = id := by
    funext param
    simp only [Param.relabel, fixes param.name, Ty.relabel_of_fixesNames fixes, id_eq]
  rw [same, List.map_id]

end

mutual

theorem Stmt.relabel_eq_self {labels : Relabelling} (fixes : labels.FixesNames)
    (stmt : Stmt) (kept : labels.Keeps stmt.spans) : stmt.relabel labels = stmt := by
  cases stmt with
  | varDecl declaration => rw [Stmt.relabel, VarDecl.relabel_eq_self fixes kept]
  | functionDef definition =>
      rw [Stmt.relabel, FunctionDef.relabel_eq_self fixes definition kept]
  | classDef definition =>
      rw [Stmt.relabel, ClassDef.relabel_eq_self fixes definition kept]
  | assign span target value =>
      rcases Relabelling.keeps_cons_iff.mp kept with ⟨own, parts⟩
      rcases Relabelling.keeps_append_iff.mp parts with ⟨targetKept, valueKept⟩
      rw [Stmt.relabel, own, Expr.relabel_eq_self fixes target targetKept,
        Expr.relabel_eq_self fixes value valueKept]
  | branch span condition body rest =>
      rcases Relabelling.keeps_cons_iff.mp kept with ⟨own, parts⟩
      rcases Relabelling.keeps_append_iff.mp parts with ⟨conditionKept, blocks⟩
      rcases Relabelling.keeps_append_iff.mp blocks with ⟨bodyKept, restKept⟩
      rw [Stmt.relabel, own, Expr.relabel_eq_self fixes condition conditionKept,
        Stmt.relabelAll_eq_self fixes body bodyKept,
        Alternatives.relabel_eq_self fixes rest restKept]
  | loop span condition body =>
      rcases Relabelling.keeps_cons_iff.mp kept with ⟨own, parts⟩
      rcases Relabelling.keeps_append_iff.mp parts with ⟨conditionKept, bodyKept⟩
      rw [Stmt.relabel, own, Expr.relabel_eq_self fixes condition conditionKept,
        Stmt.relabelAll_eq_self fixes body bodyKept]
  | pass span => rw [Stmt.relabel, kept span List.mem_cons_self]
  | returnValue span value =>
      rcases Relabelling.keeps_cons_iff.mp kept with ⟨own, valueKept⟩
      rw [Stmt.relabel, own, Expr.relabel_eq_self fixes value valueKept]
  | evaluate span value =>
      rcases Relabelling.keeps_cons_iff.mp kept with ⟨own, valueKept⟩
      rw [Stmt.relabel, own, Expr.relabel_eq_self fixes value valueKept]
termination_by structural stmt

theorem FunctionDef.relabel_eq_self {labels : Relabelling} (fixes : labels.FixesNames)
    (definition : FunctionDef) (kept : labels.Keeps definition.spans) :
    definition.relabel labels = definition := by
  cases definition with
  | mk span name params returnType body =>
      rcases Relabelling.keeps_cons_iff.mp kept with ⟨own, bodyKept⟩
      rw [FunctionDef.relabel, own, fixes, Param.map_relabel_eq_self fixes,
        Ty.relabel_of_fixesNames fixes, Stmt.relabelAll_eq_self fixes body bodyKept]
termination_by structural definition

theorem ClassDef.relabel_eq_self {labels : Relabelling} (fixes : labels.FixesNames)
    (definition : ClassDef) (kept : labels.Keeps definition.spans) :
    definition.relabel labels = definition := by
  cases definition with
  | mk span name fields methods =>
      rcases Relabelling.keeps_cons_iff.mp kept with ⟨own, members⟩
      rcases Relabelling.keeps_append_iff.mp members with ⟨fieldsKept, methodsKept⟩
      rw [ClassDef.relabel, own, fixes, VarDecl.map_relabel_eq_self fixes fieldsKept,
        FunctionDef.relabelAll_eq_self fixes methods methodsKept]
termination_by structural definition

theorem FunctionDef.relabelAll_eq_self {labels : Relabelling} (fixes : labels.FixesNames)
    (definitions : List FunctionDef) (kept : labels.Keeps (FunctionDef.spansAll definitions)) :
    FunctionDef.relabelAll labels definitions = definitions := by
  cases definitions with
  | nil => rfl
  | cons definition later =>
      rcases Relabelling.keeps_append_iff.mp kept with ⟨definitionKept, laterKept⟩
      rw [FunctionDef.relabelAll, FunctionDef.relabel_eq_self fixes definition definitionKept,
        FunctionDef.relabelAll_eq_self fixes later laterKept]
termination_by structural definitions

theorem Alternatives.relabel_eq_self {labels : Relabelling} (fixes : labels.FixesNames)
    (rest : Alternatives) (kept : labels.Keeps rest.spans) : rest.relabel labels = rest := by
  cases rest with
  | elif condition body rest =>
      rcases Relabelling.keeps_append_iff.mp kept with ⟨conditionKept, blocks⟩
      rcases Relabelling.keeps_append_iff.mp blocks with ⟨bodyKept, restKept⟩
      rw [Alternatives.relabel, Expr.relabel_eq_self fixes condition conditionKept,
        Stmt.relabelAll_eq_self fixes body bodyKept,
        Alternatives.relabel_eq_self fixes rest restKept]
  | otherwise body =>
      rw [Alternatives.relabel, Stmt.relabelAll_eq_self fixes body kept]
termination_by structural rest

/-- A block whose spans stay is left as it is. -/
theorem Stmt.relabelAll_eq_self {labels : Relabelling} (fixes : labels.FixesNames)
    (body : List Stmt) (kept : labels.Keeps (Stmt.spansAll body)) :
    Stmt.relabelAll labels body = body := by
  cases body with
  | nil => rfl
  | cons stmt later =>
      rcases Relabelling.keeps_append_iff.mp kept with ⟨stmtKept, laterKept⟩
      rw [Stmt.relabelAll, Stmt.relabel_eq_self fixes stmt stmtKept,
        Stmt.relabelAll_eq_self fixes later laterKept]
termination_by structural body

end

/-! ## Faults -/

section

variable {scratch : String} {program : Program}

/-- A moved program compiles to the same code, or is refused for the same cause. -/
theorem Program.compile_moved (start stop : Position → Position) :
    (∀ code, program.compile scratch = .ok code →
      Program.compile scratch
        (Stmt.relabelAll (.ofPositions start stop) program) = .ok code) ∧
    ∀ failure, program.compile scratch = .error failure →
      ∃ cause position, failure = .rejected ⟨cause, position⟩ ∧
        Program.compile scratch (Stmt.relabelAll (.ofPositions start stop) program) =
          .error (.rejected ⟨cause, start position⟩) := by
  have fixes := Relabelling.fixesNames_ofPositions start stop
  have compiled := program.mirrored_compile (.ofPositions start stop) scratch
  rw [fixes scratch] at compiled
  constructor
  · intro code succeeded
    have same : Instr.relabel (.ofPositions start stop) = id :=
      funext (Instr.relabel_of_fixesNames fixes)
    rw [succeeded] at compiled
    rw [compiled.of_ok, same, List.map_id]
  · intro failure failed
    rw [failed] at compiled
    rcases compiled.of_error with ⟨_, otherFailed, rejects⟩
    cases rejects with
    | @rejected diagnostic other blamed =>
        have moved : other = ⟨diagnostic.cause, start diagnostic.position⟩ := by
          rcases other with ⟨cause, position⟩
          cases blamed.cause fixes
          cases blamed.position
          rfl
        rw [moved] at otherFailed
        exact ⟨_, _, rfl, otherFailed⟩

/-- Move one position to the next offset, and no other position. -/
def Position.dislodge (position other : Position) : Position :=
  if other = position then { position with offset := position.offset + 1 } else other

theorem Position.dislodge_self_ne (position : Position) :
    position.dislodge position ≠ position := by
  intro same
  have offsets : position.offset + 1 = position.offset := by
    simpa [dislodge] using congrArg Position.offset same
  simp at offsets

/-- A fault is at the start of some part of the program.  Were it elsewhere, its position
could be moved while the program stays, and the same program would be refused at another
position. -/
theorem Program.start_of_compile_error {cause : Cause} {position : Position}
    (failed : program.compile scratch = .error (.rejected ⟨cause, position⟩)) :
    ∃ span ∈ Stmt.spansAll program, span.start = position := by
  by_cases starts : ∃ span ∈ Stmt.spansAll program, span.start = position
  · exact starts
  · have kept : (Relabelling.ofPositions position.dislodge id).Keeps
        (Stmt.spansAll program) := by
      intro span member
      have elsewhere : span.start ≠ position := fun here => starts ⟨span, member, here⟩
      change Span.mk (position.dislodge span.start) span.stop = span
      simp only [Position.dislodge, elsewhere, if_false]
    have same : Stmt.relabelAll (.ofPositions position.dislodge id) program = program :=
      Stmt.relabelAll_eq_self (Relabelling.fixesNames_ofPositions _ _) program kept
    rcases (Program.compile_moved position.dislodge id).2 _ failed with ⟨_, _, found, moved⟩
    cases found
    rw [same, failed] at moved
    simp only [Except.error.injEq, Failure.rejected.injEq, Diagnostic.mk.injEq] at moved
    exact absurd moved.2.symm position.dislodge_self_ne

end

/-- Faults are located by the tree, and nothing else depends on positions.  With its spans
moved in any way, a program compiles to the same code, or is refused for the same cause at
the moved position, which is the start of a statement, a field, a method or an expression
of the program. -/
theorem Program.positions_only_locate (scratch : String) (program : Program) :
    (∀ (move : Position → Position) (code : List Instr),
      Program.compile scratch (Stmt.relabelAll (.ofPositions move move) program) = .ok code ↔
        program.compile scratch = .ok code) ∧
    ∀ failure, program.compile scratch = .error failure →
      ∃ cause position, failure = .rejected ⟨cause, position⟩ ∧
        (∀ move : Position → Position,
          Program.compile scratch (Stmt.relabelAll (.ofPositions move move) program) =
            .error (.rejected ⟨cause, move position⟩)) ∧
        ∃ span ∈ Stmt.spansAll program, span.start = position := by
  constructor
  · intro move code
    constructor
    · intro succeeded
      cases outcome : program.compile scratch with
      | ok other =>
          rw [(Program.compile_moved move move).1 other outcome] at succeeded
          exact succeeded
      | error failure =>
          rcases (Program.compile_moved move move).2 failure outcome with ⟨_, _, -, failed⟩
          rw [failed] at succeeded
          cases succeeded
    · exact (Program.compile_moved move move).1 code
  · intro failure failed
    rcases (Program.compile_moved id id).2 failure failed with ⟨cause, position, rfl, -⟩
    refine ⟨cause, position, rfl, ?_, Program.start_of_compile_error failed⟩
    intro move
    rcases (Program.compile_moved move move).2 _ failed with ⟨_, _, found, moved⟩
    cases found
    exact moved

/-- A program whose fault lies in a method, behind a branch. -/
def leakingProgram : Program :=
  let mark (offset : UInt32) : Mark := { span := .ofOffsets "leak" offset (offset + 1) }
  let drain : FunctionDef :=
    { span := .ofOffsets "leak" 20 60, name := "drain"
      params := [⟨"self", .object "Tank"⟩], returnType := .none
      body :=
        [.branch (.ofOffsets "leak" 25 58) (.literal (mark 28) (.boolean true))
          [.pass (.ofOffsets "leak" 33 37)]
          (.otherwise [.assign (.ofOffsets "leak" 43 57)
            (.field (mark 43) (.name (mark 43) "self") "level")
            (.unary (mark 50) .not (.literal (mark 54) (.number 0)))])] }
  [.classDef ⟨.ofOffsets "leak" 0 60, "Tank",
    [⟨.ofOffsets "leak" 8 18, "level", .bool, .literal (mark 16) (.boolean false)⟩],
    [drain]⟩]

/-- The fault is at the operand of the operator, also if everything starts at one
position. -/
theorem leakingProgram_located :
    leakingProgram.compile "$last" = .error (.rejected
      { cause := .typeMismatch "bool" "int", position := ⟨54, "leak"⟩ }) ∧
    (∀ move : Position → Position,
      Program.compile "$last" (Stmt.relabelAll (.ofPositions move move) leakingProgram) =
        .error (.rejected
          { cause := .typeMismatch "bool" "int", position := move ⟨54, "leak"⟩ })) ∧
    ∃ span ∈ Stmt.spansAll leakingProgram, span.start = ⟨54, "leak"⟩ := by
  have refused : leakingProgram.compile "$last" = .error (.rejected
      { cause := .typeMismatch "bool" "int", position := ⟨54, "leak"⟩ }) := rfl
  rcases (Program.positions_only_locate "$last" leakingProgram).2 _ refused with
    ⟨_, _, found, moved, starts⟩
  cases found
  exact ⟨refused, moved, starts⟩

end SlotLang
