import SlotLang.Proofs.Tree.Returns
import SlotLang.Proofs.Typing.Expr
import SlotLang.Symbol

/-!
# The typing judgements for statements

A declarative account of which statements, blocks, functions and programs are
well typed.  A block is judged from the innermost frame of the scopes around it
and leaves that frame with the names it declares added, so that later statements
see them.  All names that a block declares are there before any of its statements
is judged; nothing in the rules depends on the order of declarations.
-/

namespace SlotLang

/-! ## Names -/

/-- A type that a program writes exists in the scopes: a class type needs its
class. -/
def Scopes.Resolves (scopes : Scopes) (type : Ty) : Prop :=
  ∀ className, type = .object className →
    ∃ members, scopes.lookup? className = some (.ofClass members)

/-- The names of the fields and methods of a class. -/
def ClassDef.memberNames (definition : ClassDef) : List String :=
  definition.fields.map VarDecl.name ++ definition.methods.map FunctionDef.name

/-- What a statement binds, if it is a declaration. -/
def Stmt.binding? : Stmt → Option (String × Symbol)
  | .varDecl declaration => some (declaration.name, .ofVariable declaration.type)
  | .functionDef definition => some (definition.name, .ofFunction definition.signature)
  | .classDef definition =>
      some (definition.name, .ofClass
        { fields := definition.fields.map fun field => (field.name, field.type)
          methods := definition.methods.map fun method => (method.name, method.signature) })
  | _ => none

/-- What a parameter binds. -/
def Param.binding (param : Param) : String × Symbol :=
  (param.name, .ofVariable param.type)

/-- A frame is extended by bindings of distinct names that are new to it. -/
structure Frame.Extends (frame : Frame) (bindings : List (String × Symbol))
    (extended : Frame) : Prop where
  distinct : (bindings.map Prod.fst).Nodup
  fresh : ∀ binding ∈ bindings, frame.get? binding.1 = none
  bound : ∀ binding ∈ bindings, extended.get? binding.1 = some binding.2
  kept : ∀ name, name ∉ bindings.map Prod.fst → extended.get? name = frame.get? name

/-- The declarations of a block stand before its other statements. -/
def Stmt.DeclarationsFirst (body : List Stmt) : Prop :=
  ∃ declarations statements, body = declarations ++ statements ∧
    (∀ stmt ∈ declarations, stmt.isDeclaration = true) ∧
      ∀ stmt ∈ statements, stmt.isDeclaration = false

/-! ## Judgements -/

/-- A variable or a field is declared with a type that exists, and starts with a
literal of that type, or with null if its type is that of a class. -/
structure VarDecl.WellTyped (scopes : Scopes) (declaration : VarDecl) : Prop where
  resolved : scopes.Resolves declaration.type
  literal : declaration.value.isLiteral = true
  accepted : ∃ type, declaration.value.HasType scopes type ∧
    (declaration.type = type ∨
      (∃ className, declaration.type = .object className) ∧ type = .none)

mutual

/-- `WellTyped outer expected frame stmt after`: in the innermost frame `frame` on
top of the scopes `outer`, where a `return` must have the type `expected`, the
statement is well typed and leaves the innermost frame as `after`. -/
inductive Stmt.WellTyped : Scopes → Ty → Frame → Stmt → Frame → Prop where
  | varDecl {outer : Scopes} {expected : Ty} {frame : Frame} {declaration : VarDecl}
      (declarationTyped : declaration.WellTyped (frame :: outer)) :
      Stmt.WellTyped outer expected frame (.varDecl declaration) frame
  | functionDef {outer : Scopes} {expected : Ty} {frame : Frame}
      {definition : FunctionDef}
      (definitionTyped : FunctionDef.WellTyped (frame :: outer) definition) :
      Stmt.WellTyped outer expected frame (.functionDef definition) frame
  | classDef {outer : Scopes} {expected : Ty} {frame : Frame} {definition : ClassDef}
      (fieldsTyped : ∀ field ∈ definition.fields, field.WellTyped (frame :: outer))
      (methodsTyped : ∀ method ∈ definition.methods,
        FunctionDef.WellTyped (frame :: outer) method) :
      Stmt.WellTyped outer expected frame (.classDef definition) frame
  | assign {outer : Scopes} {expected : Ty} {frame : Frame} {span : Span}
      {target value : Expr} {type : Ty}
      (assignable : target.isAssignable = true)
      (targetTyped : target.HasType (frame :: outer) type)
      (valueTyped : value.HasType (frame :: outer) type) :
      Stmt.WellTyped outer expected frame (.assign span target value) frame
  | branch {outer : Scopes} {expected : Ty} {frame between after : Frame} {span : Span}
      {condition : Expr} {body : List Stmt} {rest : Alternatives}
      (conditionTyped : condition.HasType (frame :: outer) .bool)
      (bodyTyped : Stmt.BlockWellTyped outer expected frame body between)
      (restTyped : Alternatives.WellTyped outer expected between rest after) :
      Stmt.WellTyped outer expected frame (.branch span condition body rest) after
  | loop {outer : Scopes} {expected : Ty} {frame after : Frame} {span : Span}
      {condition : Expr} {body : List Stmt}
      (conditionTyped : condition.HasType (frame :: outer) .bool)
      (bodyTyped : Stmt.BlockWellTyped outer expected frame body after) :
      Stmt.WellTyped outer expected frame (.loop span condition body) after
  | pass {outer : Scopes} {expected : Ty} {frame : Frame} {span : Span} :
      Stmt.WellTyped outer expected frame (.pass span) frame
  | returnValue {outer : Scopes} {expected : Ty} {frame : Frame} {span : Span}
      {value : Expr} (valueTyped : value.HasType (frame :: outer) expected) :
      Stmt.WellTyped outer expected frame (.returnValue span value) frame
  | evaluate {outer : Scopes} {expected : Ty} {frame : Frame} {span : Span}
      {value : Expr} {type : Ty} (valueTyped : value.HasType (frame :: outer) type) :
      Stmt.WellTyped outer expected frame (.evaluate span value) frame

/-- A function or a method is well typed in the scopes around it: its types exist,
it returns on every way if it has a result, and its body is well typed in a frame
of its own that starts with the parameters. -/
inductive FunctionDef.WellTyped : Scopes → FunctionDef → Prop where
  | intro {scopes : Scopes} {definition : FunctionDef} {params after : Frame}
      (paramsResolved : ∀ param ∈ definition.params, scopes.Resolves param.type)
      (returnResolved : scopes.Resolves definition.returnType)
      (returns : definition.returnType = .none ∨
        ∃ stmt ∈ definition.body, stmt.Returns)
      (paramsBound : Frame.Extends ∅ (definition.params.map Param.binding) params)
      (bodyTyped : Stmt.BlockWellTyped scopes definition.returnType params
        definition.body after) :
      FunctionDef.WellTyped scopes definition

/-- The further cases of a branch are well typed, each from the frame that the one
before it leaves. -/
inductive Alternatives.WellTyped : Scopes → Ty → Frame → Alternatives → Frame → Prop where
  | elif {outer : Scopes} {expected : Ty} {frame between after : Frame}
      {condition : Expr} {body : List Stmt} {rest : Alternatives}
      (conditionTyped : condition.HasType (frame :: outer) .bool)
      (bodyTyped : Stmt.BlockWellTyped outer expected frame body between)
      (restTyped : Alternatives.WellTyped outer expected between rest after) :
      Alternatives.WellTyped outer expected frame (.elif condition body rest) after
  | otherwise {outer : Scopes} {expected : Ty} {frame after : Frame} {body : List Stmt}
      (bodyTyped : Stmt.BlockWellTyped outer expected frame body after) :
      Alternatives.WellTyped outer expected frame (.otherwise body) after

/-- A block is well typed: its declarations come first, the members of its classes
are distinct, and its statements are well typed once all the names that the block
declares have been added to the frame. -/
inductive Stmt.BlockWellTyped : Scopes → Ty → Frame → List Stmt → Frame → Prop where
  | intro {outer : Scopes} {expected : Ty} {frame bound after : Frame}
      {body : List Stmt}
      (ordered : Stmt.DeclarationsFirst body)
      (members : ∀ definition, .classDef definition ∈ body →
        definition.memberNames.Nodup)
      (extended : frame.Extends (body.filterMap Stmt.binding?) bound)
      (statementsTyped : Stmt.AllWellTyped outer expected bound body after) :
      Stmt.BlockWellTyped outer expected frame body after

/-- Statements are well typed one after the other. -/
inductive Stmt.AllWellTyped : Scopes → Ty → Frame → List Stmt → Frame → Prop where
  | nil {outer : Scopes} {expected : Ty} {frame : Frame} :
      Stmt.AllWellTyped outer expected frame [] frame
  | cons {outer : Scopes} {expected : Ty} {frame between after : Frame} {stmt : Stmt}
      {later : List Stmt}
      (stmtTyped : Stmt.WellTyped outer expected frame stmt between)
      (laterTyped : Stmt.AllWellTyped outer expected between later after) :
      Stmt.AllWellTyped outer expected frame (stmt :: later) after

end

/-- A program is well typed as a block in an outermost frame of its own, where a
`return` yields null. -/
def Program.WellTyped (program : Program) : Prop :=
  ∃ after, Stmt.BlockWellTyped [] .none ∅ program after

/-! ## Declarations in front -/

/-- A block in two parts has only declarations in front, or none behind. -/
theorem Stmt.DeclarationsFirst.append_cases {first second : List Stmt}
    (ordered : Stmt.DeclarationsFirst (first ++ second)) :
    Stmt.DeclarationsFirst first ∧
      ((∀ stmt ∈ first, stmt.isDeclaration = true) ∨
        ∀ stmt ∈ second, stmt.isDeclaration = false) := by
  rcases ordered with ⟨declarations, statements, split, declaring, executing⟩
  rcases List.append_eq_append_iff.mp split with ⟨middle, rfl, -⟩ | ⟨middle, rfl, rfl⟩
  · have front := (List.forall_mem_append.mp declaring).1
    exact ⟨⟨first, [], (List.append_nil first).symm, front, by simp⟩, .inl front⟩
  · rcases List.forall_mem_append.mp executing with ⟨middleExecuting, secondExecuting⟩
    exact ⟨⟨declarations, middle, rfl, declaring, middleExecuting⟩, .inr secondExecuting⟩

/-! ## Extending a frame name by name -/

namespace Frame

theorem extends_nil_iff {frame extended : Frame} :
    frame.Extends [] extended ↔ extended = frame := by
  constructor
  · intro extending
    apply Table.ext
    intro name
    exact extending.kept name (by simp)
  · rintro rfl
    exact ⟨by simp, by simp, by simp, fun _ _ => rfl⟩

/-- The names of an extension can be added one after the other. -/
theorem extends_cons_iff {frame extended : Frame} {name : String} {symbol : Symbol}
    {later : List (String × Symbol)} :
    frame.Extends ((name, symbol) :: later) extended ↔
      frame.get? name = none ∧
        Frame.Extends (frame.insert name symbol) later extended := by
  constructor
  · intro extending
    have distinct := List.nodup_cons.mp extending.distinct
    refine ⟨extending.fresh _ List.mem_cons_self, distinct.2, ?_, ?_, ?_⟩
    · intro binding member
      rw [Table.get?_insert_of_ne]
      · exact extending.fresh binding (List.mem_cons_of_mem _ member)
      · intro same
        exact distinct.1 (List.mem_map.mpr ⟨binding, member, same⟩)
    · intro binding member
      exact extending.bound binding (List.mem_cons_of_mem _ member)
    · intro other absent
      by_cases same : other = name
      · subst other
        rw [Table.get?_insert_self]
        exact extending.bound _ List.mem_cons_self
      · rw [Table.get?_insert_of_ne _ _ same]
        exact extending.kept other (by simp [same, absent])
  · rintro ⟨new, extending⟩
    have absent : name ∉ later.map Prod.fst := by
      intro member
      rcases List.mem_map.mp member with ⟨binding, bindingMember, same⟩
      have bound := extending.fresh binding bindingMember
      rw [same, Table.get?_insert_self] at bound
      contradiction
    refine ⟨List.nodup_cons.mpr ⟨absent, extending.distinct⟩, ?_, ?_, ?_⟩
    · intro binding member
      rcases List.mem_cons.mp member with rfl | member
      · exact new
      · have different : binding.1 ≠ name := fun same =>
          absent (List.mem_map.mpr ⟨binding, member, same⟩)
        have fresh := extending.fresh binding member
        rwa [Table.get?_insert_of_ne _ _ different] at fresh
    · intro binding member
      rcases List.mem_cons.mp member with rfl | member
      · rw [extending.kept name absent, Table.get?_insert_self]
      · exact extending.bound binding member
    · intro other notListed
      simp only [List.map_cons, List.mem_cons, not_or] at notListed
      rw [extending.kept other notListed.2, Table.get?_insert_of_ne _ _ notListed.1]

/-- Names can be bound in two groups. -/
theorem extends_append_iff {frame extended : Frame}
    {front back : List (String × Symbol)} :
    frame.Extends (front ++ back) extended ↔
      ∃ between, frame.Extends front between ∧ between.Extends back extended := by
  induction front generalizing frame with
  | nil => simp [extends_nil_iff]
  | cons binding later inductionHypothesis =>
      rcases binding with ⟨name, symbol⟩
      simp only [List.cons_append, extends_cons_iff, inductionHypothesis, and_assoc,
        exists_and_left]

end Frame

end SlotLang
