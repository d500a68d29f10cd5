import SlotLang.Tree.Stmt

/-!
# Trees without types

Erasing a tree empties its type slots and keeps everything else.  Two trees that
erase alike have the same shape and the same spans, and differ at most in what
their type slots hold.  Whatever looks only at shapes and spans cannot tell them
apart.
-/

namespace SlotLang

/-! ## Erasing -/

/-- A mark with its type slot emptied. -/
def Mark.erase (mark : Mark) : Mark :=
  { mark with type? := none }

mutual

/-- An expression with all its type slots emptied. -/
def Expr.erase : Expr → Expr
  | .literal mark value => .literal mark.erase value
  | .name mark named => .name mark.erase named
  | .unary mark op operand => .unary mark.erase op operand.erase
  | .binary mark op left right => .binary mark.erase op left.erase right.erase
  | .call mark callee arguments => .call mark.erase callee (Expr.eraseAll arguments)
  | .field mark object member => .field mark.erase object.erase member
  | .method mark object member arguments =>
      .method mark.erase object.erase member (Expr.eraseAll arguments)

/-- Several expressions with all their type slots emptied. -/
def Expr.eraseAll : List Expr → List Expr
  | [] => []
  | expr :: later => expr.erase :: Expr.eraseAll later

end

/-- A declaration with the type slots of its value emptied. -/
def VarDecl.erase (declaration : VarDecl) : VarDecl :=
  { declaration with value := declaration.value.erase }

mutual

/-- A statement with all its type slots emptied. -/
def Stmt.erase : Stmt → Stmt
  | .varDecl declaration => .varDecl declaration.erase
  | .functionDef definition => .functionDef definition.erase
  | .classDef definition => .classDef definition.erase
  | .assign span target value => .assign span target.erase value.erase
  | .branch span condition body rest =>
      .branch span condition.erase (Stmt.eraseAll body) rest.erase
  | .loop span condition body => .loop span condition.erase (Stmt.eraseAll body)
  | .pass span => .pass span
  | .returnValue span value => .returnValue span value.erase
  | .evaluate span value => .evaluate span value.erase

/-- A function with all its type slots emptied. -/
def FunctionDef.erase : FunctionDef → FunctionDef
  | ⟨span, name, params, returnType, body⟩ =>
      ⟨span, name, params, returnType, Stmt.eraseAll body⟩

/-- A class with all its type slots emptied. -/
def ClassDef.erase : ClassDef → ClassDef
  | ⟨span, name, fields, methods⟩ =>
      ⟨span, name, fields.map VarDecl.erase, FunctionDef.eraseAll methods⟩

/-- Several functions with all their type slots emptied. -/
def FunctionDef.eraseAll : List FunctionDef → List FunctionDef
  | [] => []
  | definition :: later => definition.erase :: FunctionDef.eraseAll later

/-- The further cases of a branch with all their type slots emptied. -/
def Alternatives.erase : Alternatives → Alternatives
  | .elif condition body rest =>
      .elif condition.erase (Stmt.eraseAll body) rest.erase
  | .otherwise body => .otherwise (Stmt.eraseAll body)

/-- A block with all its type slots emptied. -/
def Stmt.eraseAll : List Stmt → List Stmt
  | [] => []
  | stmt :: later => stmt.erase :: Stmt.eraseAll later

end

/-! ## What erasing keeps -/

namespace Expr

theorem mark_erase (expr : Expr) : expr.erase.mark = expr.mark.erase := by
  cases expr <;> rfl

@[simp]
theorem start_erase (expr : Expr) : expr.erase.start = expr.start := by
  rw [start, mark_erase]
  rfl

theorem start_eq_of_erase_eq {first second : Expr} (same : first.erase = second.erase) :
    first.start = second.start := by
  rw [← start_erase, same, start_erase]

@[simp]
theorem describe_erase (expr : Expr) : expr.erase.describe = expr.describe := by
  cases expr <;> rfl

@[simp]
theorem name?_erase (expr : Expr) : expr.erase.name? = expr.name? := by
  cases expr <;> rfl

@[simp]
theorem isLiteral_erase (expr : Expr) : expr.erase.isLiteral = expr.isLiteral := by
  cases expr <;> rfl

@[simp]
theorem isAssignable_erase (expr : Expr) :
    expr.erase.isAssignable = expr.isAssignable := by
  cases expr <;> rfl

theorem eraseAll_eq_map (exprs : List Expr) : eraseAll exprs = exprs.map erase := by
  induction exprs with
  | nil => rfl
  | cons expr later inductionHypothesis => rw [eraseAll, inductionHypothesis, List.map_cons]

@[simp]
theorem length_eraseAll (exprs : List Expr) : (eraseAll exprs).length = exprs.length := by
  rw [eraseAll_eq_map, List.length_map]

end Expr

mutual

@[simp]
theorem Expr.erase_erase (expr : Expr) : expr.erase.erase = expr.erase := by
  cases expr with
  | literal => rfl
  | name => rfl
  | unary mark op operand =>
      simp only [Expr.erase, Expr.erase_erase operand, Mark.erase]
  | binary mark op left right =>
      simp only [Expr.erase, Expr.erase_erase left, Expr.erase_erase right, Mark.erase]
  | call mark callee arguments =>
      simp only [Expr.erase, Expr.eraseAll_eraseAll arguments, Mark.erase]
  | field mark object member =>
      simp only [Expr.erase, Expr.erase_erase object, Mark.erase]
  | method mark object member arguments =>
      simp only [Expr.erase, Expr.erase_erase object, Expr.eraseAll_eraseAll arguments,
        Mark.erase]
termination_by structural expr

@[simp]
theorem Expr.eraseAll_eraseAll (exprs : List Expr) :
    Expr.eraseAll (Expr.eraseAll exprs) = Expr.eraseAll exprs := by
  cases exprs with
  | nil => rfl
  | cons expr later =>
      rw [Expr.eraseAll, Expr.eraseAll, Expr.erase_erase expr,
        Expr.eraseAll_eraseAll later]
termination_by structural exprs

end

@[simp]
theorem FunctionDef.name_erase (definition : FunctionDef) :
    definition.erase.name = definition.name := by
  cases definition
  rfl

@[simp]
theorem FunctionDef.span_erase (definition : FunctionDef) :
    definition.erase.span = definition.span := by
  cases definition
  rfl

@[simp]
theorem ClassDef.name_erase (definition : ClassDef) :
    definition.erase.name = definition.name := by
  cases definition
  rfl

@[simp]
theorem ClassDef.span_erase (definition : ClassDef) :
    definition.erase.span = definition.span := by
  cases definition
  rfl

theorem FunctionDef.eraseAll_eq_map (definitions : List FunctionDef) :
    FunctionDef.eraseAll definitions = definitions.map FunctionDef.erase := by
  induction definitions with
  | nil => rfl
  | cons definition later inductionHypothesis =>
      rw [FunctionDef.eraseAll, inductionHypothesis, List.map_cons]

namespace Stmt

@[simp]
theorem declaredName?_erase (stmt : Stmt) : stmt.erase.declaredName? = stmt.declaredName? := by
  cases stmt <;> simp [erase, declaredName?, VarDecl.erase]

@[simp]
theorem isDeclaration_erase (stmt : Stmt) :
    stmt.erase.isDeclaration = stmt.isDeclaration := by
  rw [isDeclaration, declaredName?_erase, isDeclaration]

@[simp]
theorem span_erase (stmt : Stmt) : stmt.erase.span = stmt.span := by
  cases stmt <;> simp [erase, span, VarDecl.erase]

theorem eraseAll_eq_map (body : List Stmt) : eraseAll body = body.map erase := by
  induction body with
  | nil => rfl
  | cons stmt later inductionHypothesis => rw [eraseAll, inductionHypothesis, List.map_cons]

end Stmt

@[simp]
theorem VarDecl.erase_erase (declaration : VarDecl) :
    declaration.erase.erase = declaration.erase := by
  simp only [VarDecl.erase, Expr.erase_erase]

mutual

@[simp]
theorem Stmt.erase_erase (stmt : Stmt) : stmt.erase.erase = stmt.erase := by
  cases stmt with
  | varDecl declaration => rw [Stmt.erase, Stmt.erase, VarDecl.erase_erase]
  | functionDef definition =>
      rw [Stmt.erase, Stmt.erase, FunctionDef.erase_erase definition]
  | classDef definition => rw [Stmt.erase, Stmt.erase, ClassDef.erase_erase definition]
  | assign span target value =>
      rw [Stmt.erase, Stmt.erase, Expr.erase_erase, Expr.erase_erase]
  | branch span condition body rest =>
      rw [Stmt.erase, Stmt.erase, Expr.erase_erase, Stmt.eraseAll_eraseAll body,
        Alternatives.erase_erase rest]
  | loop span condition body =>
      rw [Stmt.erase, Stmt.erase, Expr.erase_erase, Stmt.eraseAll_eraseAll body]
  | pass span => rfl
  | returnValue span value => rw [Stmt.erase, Stmt.erase, Expr.erase_erase]
  | evaluate span value => rw [Stmt.erase, Stmt.erase, Expr.erase_erase]
termination_by structural stmt

@[simp]
theorem FunctionDef.erase_erase (definition : FunctionDef) :
    definition.erase.erase = definition.erase := by
  cases definition with
  | mk span name params returnType body =>
      rw [FunctionDef.erase, FunctionDef.erase, Stmt.eraseAll_eraseAll body]
termination_by structural definition

@[simp]
theorem ClassDef.erase_erase (definition : ClassDef) :
    definition.erase.erase = definition.erase := by
  cases definition with
  | mk span name fields methods =>
      have fieldsErased : (fields.map VarDecl.erase).map VarDecl.erase =
          fields.map VarDecl.erase := by
        simp only [List.map_map, Function.comp_def, VarDecl.erase_erase]
      rw [ClassDef.erase, ClassDef.erase, fieldsErased, FunctionDef.eraseAll_eraseAll methods]
termination_by structural definition

@[simp]
theorem FunctionDef.eraseAll_eraseAll (definitions : List FunctionDef) :
    FunctionDef.eraseAll (FunctionDef.eraseAll definitions) =
      FunctionDef.eraseAll definitions := by
  cases definitions with
  | nil => rfl
  | cons definition later =>
      rw [FunctionDef.eraseAll, FunctionDef.eraseAll, FunctionDef.erase_erase definition,
        FunctionDef.eraseAll_eraseAll later]
termination_by structural definitions

@[simp]
theorem Alternatives.erase_erase (rest : Alternatives) : rest.erase.erase = rest.erase := by
  cases rest with
  | elif condition body rest =>
      rw [Alternatives.erase, Alternatives.erase, Expr.erase_erase,
        Stmt.eraseAll_eraseAll body, Alternatives.erase_erase rest]
  | otherwise body =>
      rw [Alternatives.erase, Alternatives.erase, Stmt.eraseAll_eraseAll body]
termination_by structural rest

@[simp]
theorem Stmt.eraseAll_eraseAll (body : List Stmt) :
    Stmt.eraseAll (Stmt.eraseAll body) = Stmt.eraseAll body := by
  cases body with
  | nil => rfl
  | cons stmt later =>
      rw [Stmt.eraseAll, Stmt.eraseAll, Stmt.erase_erase stmt, Stmt.eraseAll_eraseAll later]
termination_by structural body

end

end SlotLang
