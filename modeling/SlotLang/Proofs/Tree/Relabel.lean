import SlotLang.Builtin
import SlotLang.Instr
import SlotLang.Symbol

/-!
# Relabelled trees

A relabelling gives new names to the identifiers of a tree and new positions to the ends
of its spans.  It tells names apart as far as they were apart and leaves the built-ins
alone, but may do anything to positions.  This module says what a relabelled tree is, and
that it has the shape of the old one.
-/

namespace SlotLang

/-- New names for old ones, and new positions for the starts and for the ends of spans. -/
structure Relabelling where
  name : String → String
  start : Position → Position
  stop : Position → Position
  injective : Function.Injective name
  builtin : ∀ builtin ∈ Builtin.all, name builtin.name = builtin.name

namespace Relabelling

/-- The names are left as they are. -/
def FixesNames (labels : Relabelling) : Prop :=
  ∀ name, labels.name name = name

/-- New names alone. -/
def ofNames (rename : String → String) (injective : Function.Injective rename)
    (fixesPrint : rename Builtin.print.name = Builtin.print.name) : Relabelling where
  name := rename
  start := id
  stop := id
  injective := injective
  builtin := List.forall_mem_singleton.mpr fixesPrint

/-- New positions alone. -/
def ofPositions (start stop : Position → Position) : Relabelling where
  name := id
  start := start
  stop := stop
  injective := Function.injective_id
  builtin := fun _ _ => rfl

theorem fixesNames_ofPositions (start stop : Position → Position) :
    (ofPositions start stop).FixesNames :=
  fun _ => rfl

end Relabelling

/-! ## Relabelling -/

section

variable (labels : Relabelling)

/-- A type with the name of its class relabelled. -/
def Ty.relabel : Ty → Ty
  | .object className => .object (labels.name className)
  | type => type

/-- A span with both ends moved. -/
def Span.relabel (span : Span) : Span :=
  { start := labels.start span.start, stop := labels.stop span.stop }

/-- A mark with its span and its type relabelled. -/
def Mark.relabel (mark : Mark) : Mark :=
  { span := mark.span.relabel labels, type? := mark.type?.map (Ty.relabel labels) }

mutual

/-- An expression relabelled throughout. -/
def Expr.relabel : Expr → Expr
  | .literal mark value => .literal (mark.relabel labels) value
  | .name mark named => .name (mark.relabel labels) (labels.name named)
  | .unary mark op operand => .unary (mark.relabel labels) op operand.relabel
  | .binary mark op left right =>
      .binary (mark.relabel labels) op left.relabel right.relabel
  | .call mark callee arguments =>
      .call (mark.relabel labels) (labels.name callee) (Expr.relabelAll arguments)
  | .field mark object member =>
      .field (mark.relabel labels) object.relabel (labels.name member)
  | .method mark object member arguments =>
      .method (mark.relabel labels) object.relabel (labels.name member)
        (Expr.relabelAll arguments)

/-- Several expressions relabelled throughout. -/
def Expr.relabelAll : List Expr → List Expr
  | [] => []
  | expr :: later => expr.relabel :: Expr.relabelAll later

end

/-- A declaration relabelled throughout. -/
def VarDecl.relabel (declaration : VarDecl) : VarDecl :=
  { span := declaration.span.relabel labels
    name := labels.name declaration.name
    type := declaration.type.relabel labels
    value := declaration.value.relabel labels }

/-- A parameter with its name and type relabelled. -/
def Param.relabel (param : Param) : Param :=
  { name := labels.name param.name, type := param.type.relabel labels }

mutual

/-- A statement relabelled throughout. -/
def Stmt.relabel : Stmt → Stmt
  | .varDecl declaration => .varDecl (declaration.relabel labels)
  | .functionDef definition => .functionDef definition.relabel
  | .classDef definition => .classDef definition.relabel
  | .assign span target value =>
      .assign (span.relabel labels) (target.relabel labels) (value.relabel labels)
  | .branch span condition body rest =>
      .branch (span.relabel labels) (condition.relabel labels) (Stmt.relabelAll body)
        rest.relabel
  | .loop span condition body =>
      .loop (span.relabel labels) (condition.relabel labels) (Stmt.relabelAll body)
  | .pass span => .pass (span.relabel labels)
  | .returnValue span value => .returnValue (span.relabel labels) (value.relabel labels)
  | .evaluate span value => .evaluate (span.relabel labels) (value.relabel labels)

/-- A function relabelled throughout. -/
def FunctionDef.relabel : FunctionDef → FunctionDef
  | ⟨span, name, params, returnType, body⟩ =>
      ⟨span.relabel labels, labels.name name, params.map (Param.relabel labels),
        returnType.relabel labels, Stmt.relabelAll body⟩

/-- A class relabelled throughout. -/
def ClassDef.relabel : ClassDef → ClassDef
  | ⟨span, name, fields, methods⟩ =>
      ⟨span.relabel labels, labels.name name, fields.map (VarDecl.relabel labels),
        FunctionDef.relabelAll methods⟩

/-- Several functions relabelled throughout. -/
def FunctionDef.relabelAll : List FunctionDef → List FunctionDef
  | [] => []
  | definition :: later => definition.relabel :: FunctionDef.relabelAll later

/-- The further cases of a branch relabelled throughout. -/
def Alternatives.relabel : Alternatives → Alternatives
  | .elif condition body rest =>
      .elif (condition.relabel labels) (Stmt.relabelAll body) rest.relabel
  | .otherwise body => .otherwise (Stmt.relabelAll body)

/-- A block relabelled throughout. -/
def Stmt.relabelAll : List Stmt → List Stmt
  | [] => []
  | stmt :: later => stmt.relabel :: Stmt.relabelAll later

end

/-- A signature with its types relabelled. -/
def Signature.relabel (signature : Signature) : Signature :=
  { params := signature.params.map (Ty.relabel labels)
    returnType := signature.returnType.relabel labels }

/-- The members of a class with their names and types relabelled. -/
def Members.relabel (members : Members) : Members :=
  { fields := members.fields.map (Prod.map labels.name (Ty.relabel labels))
    methods := members.methods.map (Prod.map labels.name (Signature.relabel labels)) }

/-- A symbol with all names in it relabelled. -/
def Symbol.relabel : Symbol → Symbol
  | .ofVariable type => .ofVariable (type.relabel labels)
  | .ofFunction signature => .ofFunction (signature.relabel labels)
  | .ofClass members => .ofClass (members.relabel labels)

/-- An instruction about the slot of the relabelled name.  Functions of the host are no
slots. -/
def Instr.relabel : Instr → Instr
  | .localDeclare name => .localDeclare (labels.name name)
  | .loadLocal name => .loadLocal (labels.name name)
  | .storeLocal name => .storeLocal (labels.name name)
  | instr => instr

end

/-! ## What relabelling keeps -/

section

variable (labels : Relabelling)

theorem Ty.relabel_injective : Function.Injective (Ty.relabel labels) := by
  intro first second same
  cases first with
  | object className =>
      cases second with
      | object other => rw [labels.injective (Ty.object.inj same)]
      | _ => cases same
  | int =>
      cases second with
      | int => rfl
      | _ => cases same
  | bool =>
      cases second with
      | bool => rfl
      | _ => cases same
  | none =>
      cases second with
      | none => rfl
      | _ => cases same

@[simp]
theorem Ty.relabel_inj {first second : Ty} :
    first.relabel labels = second.relabel labels ↔ first = second :=
  (Ty.relabel_injective labels).eq_iff

namespace Expr

theorem mark_relabel (expr : Expr) :
    (expr.relabel labels).mark = expr.mark.relabel labels := by
  cases expr <;> rfl

@[simp]
theorem start_relabel (expr : Expr) :
    (expr.relabel labels).start = labels.start expr.start := by
  rw [start, mark_relabel]
  rfl

@[simp]
theorem isLiteral_relabel (expr : Expr) :
    (expr.relabel labels).isLiteral = expr.isLiteral := by
  cases expr <;> rfl

@[simp]
theorem isAssignable_relabel (expr : Expr) :
    (expr.relabel labels).isAssignable = expr.isAssignable := by
  cases expr <;> rfl

@[simp]
theorem name?_relabel (expr : Expr) :
    (expr.relabel labels).name? = expr.name?.map labels.name := by
  cases expr <;> rfl

@[simp]
theorem length_relabelAll (exprs : List Expr) :
    (relabelAll labels exprs).length = exprs.length := by
  induction exprs with
  | nil => rfl
  | cons expr later inductionHypothesis =>
      rw [relabelAll, List.length_cons, inductionHypothesis, List.length_cons]

end Expr

@[simp]
theorem FunctionDef.name_relabel (definition : FunctionDef) :
    (definition.relabel labels).name = labels.name definition.name := by
  cases definition
  rfl

@[simp]
theorem FunctionDef.span_relabel (definition : FunctionDef) :
    (definition.relabel labels).span = definition.span.relabel labels := by
  cases definition
  rfl

@[simp]
theorem FunctionDef.signature_relabel (definition : FunctionDef) :
    (definition.relabel labels).signature = definition.signature.relabel labels := by
  cases definition
  simp [FunctionDef.relabel, FunctionDef.signature, Signature.relabel, Param.relabel]

theorem FunctionDef.relabelAll_eq_map (definitions : List FunctionDef) :
    FunctionDef.relabelAll labels definitions =
      definitions.map (FunctionDef.relabel labels) := by
  induction definitions with
  | nil => rfl
  | cons definition later inductionHypothesis =>
      rw [FunctionDef.relabelAll, inductionHypothesis, List.map_cons]

@[simp]
theorem ClassDef.name_relabel (definition : ClassDef) :
    (definition.relabel labels).name = labels.name definition.name := by
  cases definition
  rfl

@[simp]
theorem ClassDef.span_relabel (definition : ClassDef) :
    (definition.relabel labels).span = definition.span.relabel labels := by
  cases definition
  rfl

namespace Stmt

@[simp]
theorem span_relabel (stmt : Stmt) :
    (stmt.relabel labels).span = stmt.span.relabel labels := by
  cases stmt <;> simp [relabel, span, VarDecl.relabel]

@[simp]
theorem declaredName?_relabel (stmt : Stmt) :
    (stmt.relabel labels).declaredName? = stmt.declaredName?.map labels.name := by
  cases stmt <;> simp [relabel, declaredName?, VarDecl.relabel]

@[simp]
theorem isDeclaration_relabel (stmt : Stmt) :
    (stmt.relabel labels).isDeclaration = stmt.isDeclaration := by
  rw [isDeclaration, declaredName?_relabel, Option.isSome_map, isDeclaration]

theorem relabelAll_eq_map (body : List Stmt) :
    relabelAll labels body = body.map (relabel labels) := by
  induction body with
  | nil => rfl
  | cons stmt later inductionHypothesis =>
      rw [relabelAll, inductionHypothesis, List.map_cons]

end Stmt

mutual

theorem Stmt.returns_relabel (stmt : Stmt) :
    (stmt.relabel labels).returns = stmt.returns := by
  cases stmt with
  | branch span condition body rest =>
      rw [Stmt.relabel, Stmt.returns, Stmt.blockReturns_relabelAll body,
        Alternatives.returns_relabel rest, Stmt.returns]
  | _ => rfl
termination_by structural stmt

theorem Alternatives.returns_relabel (rest : Alternatives) :
    (rest.relabel labels).returns = rest.returns := by
  cases rest with
  | elif condition body rest =>
      rw [Alternatives.relabel, Alternatives.returns, Stmt.blockReturns_relabelAll body,
        Alternatives.returns_relabel rest, Alternatives.returns]
  | otherwise body =>
      rw [Alternatives.relabel, Alternatives.returns, Stmt.blockReturns_relabelAll body,
        Alternatives.returns]
termination_by structural rest

/-- A relabelled block returns on the same ways. -/
theorem Stmt.blockReturns_relabelAll (body : List Stmt) :
    Stmt.blockReturns (Stmt.relabelAll labels body) = Stmt.blockReturns body := by
  cases body with
  | nil => rfl
  | cons stmt later =>
      rw [Stmt.relabelAll, Stmt.blockReturns, Stmt.returns_relabel stmt,
        Stmt.blockReturns_relabelAll later, Stmt.blockReturns]
termination_by structural body

end

/-! ## Tables of members -/

/-- A value found under a relabelled name was found under the name before. -/
theorem Relabelling.lookup_map {α : Type} (convert : α → α) (entries : List (String × α))
    (name : String) :
    (entries.map (Prod.map labels.name convert)).lookup (labels.name name) =
      (entries.lookup name).map convert := by
  induction entries with
  | nil => rfl
  | cons entry later inductionHypothesis =>
      rcases entry with ⟨key, value⟩
      by_cases same : name = key
      · subst key
        simp
      · have different : labels.name name ≠ labels.name key :=
          fun equal => same (labels.injective equal)
        simp only [List.map_cons, Prod.map_apply, List.lookup_cons,
          beq_eq_false_iff_ne.mpr same, beq_eq_false_iff_ne.mpr different,
          inductionHypothesis]

@[simp]
theorem Members.field?_relabel (members : Members) (name : String) :
    (members.relabel labels).field? (labels.name name) =
      (members.field? name).map (Ty.relabel labels) :=
  labels.lookup_map _ _ _

@[simp]
theorem Members.method?_relabel (members : Members) (name : String) :
    (members.relabel labels).method? (labels.name name) =
      (members.method? name).map (Signature.relabel labels) :=
  labels.lookup_map _ _ _

/-- Built-ins are recognised by name, and no other name becomes theirs. -/
@[simp]
theorem Builtin.find?_relabel (name : String) :
    Builtin.find? (labels.name name) = Builtin.find? name := by
  have same : ∀ builtin ∈ Builtin.all,
      (builtin.name = labels.name name ↔ builtin.name = name) := by
    intro builtin member
    calc
      builtin.name = labels.name name ↔ labels.name builtin.name = labels.name name := by
        rw [labels.builtin builtin member]
      _ ↔ builtin.name = name := labels.injective.eq_iff
  unfold Builtin.find?
  generalize Builtin.all = builtins at same
  induction builtins with
  | nil => rfl
  | cons builtin later inductionHypothesis =>
      rw [List.forall_mem_cons] at same
      simp only [List.find?_cons, same.1, inductionHypothesis same.2]

end

/-! ## Names that stay -/

section

variable {labels : Relabelling} (fixes : labels.FixesNames)

include fixes

theorem Ty.relabel_of_fixesNames (type : Ty) : type.relabel labels = type := by
  cases type with
  | object className => rw [Ty.relabel, fixes]
  | _ => rfl

theorem Signature.relabel_of_fixesNames (signature : Signature) :
    signature.relabel labels = signature := by
  have types : Ty.relabel labels = id := funext (Ty.relabel_of_fixesNames fixes)
  simp only [Signature.relabel, types, List.map_id, id_eq]

/-- An expression is described by its names and shape. -/
theorem Expr.describe_relabel (expr : Expr) :
    (expr.relabel labels).describe = expr.describe := by
  cases expr with
  | name mark named => rw [Expr.relabel, fixes]; rfl
  | call mark callee arguments => rw [Expr.relabel, fixes]; rfl
  | field mark object member => rw [Expr.relabel, fixes]; rfl
  | method mark object member arguments => rw [Expr.relabel, fixes]; rfl
  | _ => rfl

theorem Instr.relabel_of_fixesNames (instr : Instr) : instr.relabel labels = instr := by
  cases instr with
  | localDeclare name => rw [Instr.relabel, fixes]
  | loadLocal name => rw [Instr.relabel, fixes]
  | storeLocal name => rw [Instr.relabel, fixes]
  | _ => rfl

end

end SlotLang
