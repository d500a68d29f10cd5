import SlotLang.Tree.Stmt

/-!
# Equality of trees

Two trees are equal when they have the same shape, the same spans and the same
types in their type slots.  Equality is decided by one comparison that descends
through both trees.
-/

namespace SlotLang

/-! ## Expressions -/

mutual

/-- Whether two expressions are equal, marks included. -/
def Expr.sameAs : Expr → Expr → Bool
  | .literal mark value, .literal otherMark otherValue =>
      mark = otherMark && value = otherValue
  | .name mark named, .name otherMark otherNamed =>
      mark = otherMark && named = otherNamed
  | .unary mark op operand, .unary otherMark otherOp otherOperand =>
      mark = otherMark && (op = otherOp && operand.sameAs otherOperand)
  | .binary mark op left right, .binary otherMark otherOp otherLeft otherRight =>
      mark = otherMark && (op = otherOp &&
        (left.sameAs otherLeft && right.sameAs otherRight))
  | .call mark callee arguments, .call otherMark otherCallee otherArguments =>
      mark = otherMark && (callee = otherCallee &&
        Expr.allSameAs arguments otherArguments)
  | .field mark object member, .field otherMark otherObject otherMember =>
      mark = otherMark && (object.sameAs otherObject && member = otherMember)
  | .method mark object member arguments,
      .method otherMark otherObject otherMember otherArguments =>
      mark = otherMark && (object.sameAs otherObject && (member = otherMember &&
        Expr.allSameAs arguments otherArguments))
  | _, _ => false

/-- Whether two lists of expressions are equal. -/
def Expr.allSameAs : List Expr → List Expr → Bool
  | [], [] => true
  | expr :: later, otherExpr :: otherLater =>
      expr.sameAs otherExpr && Expr.allSameAs later otherLater
  | _, _ => false

end

mutual

/-- The comparison of expressions holds exactly for equal ones. -/
theorem Expr.sameAs_iff (first second : Expr) :
    first.sameAs second = true ↔ first = second := by
  cases first with
  | literal => cases second <;> simp [Expr.sameAs]
  | name => cases second <;> simp [Expr.sameAs]
  | unary _ _ operand =>
      cases second <;> simp [Expr.sameAs, Expr.sameAs_iff operand]
  | binary _ _ left right =>
      cases second <;> simp [Expr.sameAs, Expr.sameAs_iff left, Expr.sameAs_iff right]
  | call _ _ arguments =>
      cases second <;> simp [Expr.sameAs, Expr.allSameAs_iff arguments]
  | field _ object =>
      cases second <;> simp [Expr.sameAs, Expr.sameAs_iff object]
  | method _ object _ arguments =>
      cases second <;>
        simp [Expr.sameAs, Expr.sameAs_iff object, Expr.allSameAs_iff arguments]
termination_by structural first

/-- The comparison of lists of expressions holds exactly for equal ones. -/
theorem Expr.allSameAs_iff (first second : List Expr) :
    Expr.allSameAs first second = true ↔ first = second := by
  cases first with
  | nil => cases second <;> simp [Expr.allSameAs]
  | cons expr later =>
      cases second <;>
        simp [Expr.allSameAs, Expr.sameAs_iff expr, Expr.allSameAs_iff later]
termination_by structural first

end

instance : DecidableEq Expr :=
  fun first second => decidable_of_iff _ (Expr.sameAs_iff first second)

deriving instance DecidableEq for VarDecl

/-! ## Statements -/

mutual

/-- Whether two statements are equal. -/
def Stmt.sameAs : Stmt → Stmt → Bool
  | .varDecl declaration, .varDecl other => declaration = other
  | .functionDef definition, .functionDef other => definition.sameAs other
  | .classDef definition, .classDef other => definition.sameAs other
  | .assign span target value, .assign otherSpan otherTarget otherValue =>
      span = otherSpan && (target = otherTarget && value = otherValue)
  | .branch span condition body rest,
      .branch otherSpan otherCondition otherBody otherRest =>
      span = otherSpan && (condition = otherCondition &&
        (Stmt.allSameAs body otherBody && rest.sameAs otherRest))
  | .loop span condition body, .loop otherSpan otherCondition otherBody =>
      span = otherSpan && (condition = otherCondition &&
        Stmt.allSameAs body otherBody)
  | .pass span, .pass otherSpan => span = otherSpan
  | .returnValue span value, .returnValue otherSpan otherValue =>
      span = otherSpan && value = otherValue
  | .evaluate span value, .evaluate otherSpan otherValue =>
      span = otherSpan && value = otherValue
  | _, _ => false

/-- Whether two functions are equal. -/
def FunctionDef.sameAs : FunctionDef → FunctionDef → Bool
  | ⟨span, name, params, returnType, body⟩,
      ⟨otherSpan, otherName, otherParams, otherReturnType, otherBody⟩ =>
      span = otherSpan && (name = otherName && (params = otherParams &&
        (returnType = otherReturnType && Stmt.allSameAs body otherBody)))

/-- Whether two classes are equal. -/
def ClassDef.sameAs : ClassDef → ClassDef → Bool
  | ⟨span, name, fields, methods⟩, ⟨otherSpan, otherName, otherFields, otherMethods⟩ =>
      span = otherSpan && (name = otherName && (fields = otherFields &&
        FunctionDef.allSameAs methods otherMethods))

/-- Whether two lists of functions are equal. -/
def FunctionDef.allSameAs : List FunctionDef → List FunctionDef → Bool
  | [], [] => true
  | definition :: later, other :: otherLater =>
      definition.sameAs other && FunctionDef.allSameAs later otherLater
  | _, _ => false

/-- Whether the further cases of two branches are equal. -/
def Alternatives.sameAs : Alternatives → Alternatives → Bool
  | .elif condition body rest, .elif otherCondition otherBody otherRest =>
      condition = otherCondition &&
        (Stmt.allSameAs body otherBody && rest.sameAs otherRest)
  | .otherwise body, .otherwise otherBody => Stmt.allSameAs body otherBody
  | _, _ => false

/-- Whether two blocks are equal. -/
def Stmt.allSameAs : List Stmt → List Stmt → Bool
  | [], [] => true
  | stmt :: later, other :: otherLater =>
      stmt.sameAs other && Stmt.allSameAs later otherLater
  | _, _ => false

end

mutual

/-- The comparison of statements holds exactly for equal ones. -/
theorem Stmt.sameAs_iff (first second : Stmt) :
    first.sameAs second = true ↔ first = second := by
  cases first with
  | varDecl => cases second <;> simp [Stmt.sameAs]
  | functionDef definition =>
      cases second <;> simp [Stmt.sameAs, FunctionDef.sameAs_iff definition]
  | classDef definition =>
      cases second <;> simp [Stmt.sameAs, ClassDef.sameAs_iff definition]
  | assign => cases second <;> simp [Stmt.sameAs]
  | branch _ _ body rest =>
      cases second <;>
        simp [Stmt.sameAs, Stmt.allSameAs_iff body, Alternatives.sameAs_iff rest]
  | loop _ _ body => cases second <;> simp [Stmt.sameAs, Stmt.allSameAs_iff body]
  | pass => cases second <;> simp [Stmt.sameAs]
  | returnValue => cases second <;> simp [Stmt.sameAs]
  | evaluate => cases second <;> simp [Stmt.sameAs]
termination_by structural first

/-- The comparison of functions holds exactly for equal ones. -/
theorem FunctionDef.sameAs_iff (first second : FunctionDef) :
    first.sameAs second = true ↔ first = second := by
  cases first with
  | mk _ _ _ _ body =>
      cases second
      simp [FunctionDef.sameAs, Stmt.allSameAs_iff body]
termination_by structural first

/-- The comparison of classes holds exactly for equal ones. -/
theorem ClassDef.sameAs_iff (first second : ClassDef) :
    first.sameAs second = true ↔ first = second := by
  cases first with
  | mk _ _ _ methods =>
      cases second
      simp [ClassDef.sameAs, FunctionDef.allSameAs_iff methods]
termination_by structural first

/-- The comparison of lists of functions holds exactly for equal ones. -/
theorem FunctionDef.allSameAs_iff (first second : List FunctionDef) :
    FunctionDef.allSameAs first second = true ↔ first = second := by
  cases first with
  | nil => cases second <;> simp [FunctionDef.allSameAs]
  | cons definition later =>
      cases second <;>
        simp [FunctionDef.allSameAs, FunctionDef.sameAs_iff definition,
          FunctionDef.allSameAs_iff later]
termination_by structural first

/-- The comparison of further cases holds exactly for equal ones. -/
theorem Alternatives.sameAs_iff (first second : Alternatives) :
    first.sameAs second = true ↔ first = second := by
  cases first with
  | elif _ body rest =>
      cases second <;>
        simp [Alternatives.sameAs, Stmt.allSameAs_iff body, Alternatives.sameAs_iff rest]
  | otherwise body =>
      cases second <;> simp [Alternatives.sameAs, Stmt.allSameAs_iff body]
termination_by structural first

/-- The comparison of blocks holds exactly for equal ones. -/
theorem Stmt.allSameAs_iff (first second : List Stmt) :
    Stmt.allSameAs first second = true ↔ first = second := by
  cases first with
  | nil => cases second <;> simp [Stmt.allSameAs]
  | cons stmt later =>
      cases second <;>
        simp [Stmt.allSameAs, Stmt.sameAs_iff stmt, Stmt.allSameAs_iff later]
termination_by structural first

end

instance : DecidableEq Stmt :=
  fun first second => decidable_of_iff _ (Stmt.sameAs_iff first second)

instance : DecidableEq FunctionDef :=
  fun first second => decidable_of_iff _ (FunctionDef.sameAs_iff first second)

instance : DecidableEq ClassDef :=
  fun first second => decidable_of_iff _ (ClassDef.sameAs_iff first second)

instance : DecidableEq Alternatives :=
  fun first second => decidable_of_iff _ (Alternatives.sameAs_iff first second)

end SlotLang
