import Mathlib.Data.List.Forall2
import Mathlib.Data.List.Perm.Basic
import SlotLang.Proofs.Tree.Erasure

/-!
# Nodes in the order of checking

The checker comes to a node after the parts of the node, and to the value of an
assignment before its target.  Otherwise it keeps to the order of the source.  This
order goes through the same nodes as the one that puts parents first, and does not
depend on what the type slots hold.
-/

namespace SlotLang

/-! ## Traversal -/

mutual

/-- An expression and all its parts, each after its own parts, from left to right. -/
def Expr.postorder : Expr → List Expr
  | .literal mark value => [.literal mark value]
  | .name mark named => [.name mark named]
  | .unary mark op operand => operand.postorder ++ [.unary mark op operand]
  | .binary mark op left right =>
      (left.postorder ++ right.postorder) ++ [.binary mark op left right]
  | .call mark callee arguments =>
      Expr.postorderAll arguments ++ [.call mark callee arguments]
  | .field mark object member => object.postorder ++ [.field mark object member]
  | .method mark object member arguments =>
      (object.postorder ++ Expr.postorderAll arguments) ++
        [.method mark object member arguments]

/-- The parts of several expressions, one expression after the other. -/
def Expr.postorderAll : List Expr → List Expr
  | [] => []
  | expr :: later => expr.postorder ++ Expr.postorderAll later

end

mutual

/-- The expressions of a statement with all their parts, in the order of checking. -/
def Stmt.postorder : Stmt → List Expr
  | .varDecl declaration => declaration.value.postorder
  | .functionDef definition => definition.postorder
  | .classDef definition => definition.postorder
  | .assign _ target value => value.postorder ++ target.postorder
  | .branch _ condition body rest =>
      (condition.postorder ++ Stmt.postorderAll body) ++ rest.postorder
  | .loop _ condition body => condition.postorder ++ Stmt.postorderAll body
  | .pass _ => []
  | .returnValue _ value => value.postorder
  | .evaluate _ value => value.postorder

/-- The expressions of a function's body. -/
def FunctionDef.postorder : FunctionDef → List Expr
  | ⟨_, _, _, _, body⟩ => Stmt.postorderAll body

/-- The expressions of a class: those of its fields, then those of its methods. -/
def ClassDef.postorder : ClassDef → List Expr
  | ⟨_, _, fields, methods⟩ =>
      fields.flatMap (fun field => field.value.postorder) ++
        FunctionDef.postorderAll methods

/-- The expressions of several functions, one after the other. -/
def FunctionDef.postorderAll : List FunctionDef → List Expr
  | [] => []
  | definition :: later => definition.postorder ++ FunctionDef.postorderAll later

/-- The expressions of the further cases of a branch. -/
def Alternatives.postorder : Alternatives → List Expr
  | .elif condition body rest =>
      (condition.postorder ++ Stmt.postorderAll body) ++ rest.postorder
  | .otherwise body => Stmt.postorderAll body

/-- The expressions of a block. -/
def Stmt.postorderAll : List Stmt → List Expr
  | [] => []
  | stmt :: later => stmt.postorder ++ Stmt.postorderAll later

end

/-! ## The same nodes in both orders -/

mutual

theorem Expr.postorder_perm (expr : Expr) : expr.postorder.Perm expr.preorder := by
  cases expr with
  | literal mark value => exact .refl _
  | name mark named => exact .refl _
  | unary mark op operand =>
      exact (List.perm_append_singleton _ _).trans ((Expr.postorder_perm operand).cons _)
  | binary mark op left right =>
      exact (List.perm_append_singleton _ _).trans
        (((Expr.postorder_perm left).append (Expr.postorder_perm right)).cons _)
  | call mark callee arguments =>
      exact (List.perm_append_singleton _ _).trans
        ((Expr.postorderAll_perm arguments).cons _)
  | field mark object member =>
      exact (List.perm_append_singleton _ _).trans ((Expr.postorder_perm object).cons _)
  | method mark object member arguments =>
      exact (List.perm_append_singleton _ _).trans
        (((Expr.postorder_perm object).append (Expr.postorderAll_perm arguments)).cons _)
termination_by structural expr

theorem Expr.postorderAll_perm (exprs : List Expr) :
    (Expr.postorderAll exprs).Perm (Expr.preorderAll exprs) := by
  cases exprs with
  | nil => exact .refl _
  | cons expr later =>
      exact (Expr.postorder_perm expr).append (Expr.postorderAll_perm later)
termination_by structural exprs

end

mutual

theorem Stmt.postorder_perm (stmt : Stmt) : stmt.postorder.Perm stmt.preorder := by
  cases stmt with
  | varDecl declaration => exact declaration.value.postorder_perm
  | functionDef definition => exact FunctionDef.postorder_perm definition
  | classDef definition => exact ClassDef.postorder_perm definition
  | assign span target value =>
      exact List.perm_append_comm.trans (target.postorder_perm.append value.postorder_perm)
  | branch span condition body rest =>
      rw [Stmt.postorder, Stmt.preorder, List.append_assoc]
      exact condition.postorder_perm.append
        ((Stmt.postorderAll_perm body).append (Alternatives.postorder_perm rest))
  | loop span condition body =>
      exact condition.postorder_perm.append (Stmt.postorderAll_perm body)
  | pass span => exact .refl _
  | returnValue span value => exact value.postorder_perm
  | evaluate span value => exact value.postorder_perm
termination_by structural stmt

theorem FunctionDef.postorder_perm (definition : FunctionDef) :
    definition.postorder.Perm definition.preorder := by
  cases definition with
  | mk span name params returnType body => exact Stmt.postorderAll_perm body
termination_by structural definition

theorem ClassDef.postorder_perm (definition : ClassDef) :
    definition.postorder.Perm definition.preorder := by
  cases definition with
  | mk span name fields methods =>
      exact (List.Perm.flatMap_left fields fun field _ => field.value.postorder_perm).append
        (FunctionDef.postorderAll_perm methods)
termination_by structural definition

theorem FunctionDef.postorderAll_perm (definitions : List FunctionDef) :
    (FunctionDef.postorderAll definitions).Perm (FunctionDef.preorderAll definitions) := by
  cases definitions with
  | nil => exact .refl _
  | cons definition later =>
      exact (FunctionDef.postorder_perm definition).append
        (FunctionDef.postorderAll_perm later)
termination_by structural definitions

theorem Alternatives.postorder_perm (rest : Alternatives) :
    rest.postorder.Perm rest.preorder := by
  cases rest with
  | elif condition body rest =>
      rw [Alternatives.postorder, Alternatives.preorder, List.append_assoc]
      exact condition.postorder_perm.append
        ((Stmt.postorderAll_perm body).append (Alternatives.postorder_perm rest))
  | otherwise body => exact Stmt.postorderAll_perm body
termination_by structural rest

/-- The order of checking goes through every node of a block once. -/
theorem Stmt.postorderAll_perm (body : List Stmt) :
    (Stmt.postorderAll body).Perm (Stmt.preorderAll body) := by
  cases body with
  | nil => exact .refl _
  | cons stmt later =>
      exact (Stmt.postorder_perm stmt).append (Stmt.postorderAll_perm later)
termination_by structural body

end

/-! ## The same order for trees that erase alike -/

mutual

theorem Expr.postorder_erase (expr : Expr) :
    expr.erase.postorder = expr.postorder.map Expr.erase := by
  cases expr with
  | literal mark value => rfl
  | name mark named => rfl
  | unary mark op operand =>
      simp [Expr.erase, Expr.postorder, Expr.postorder_erase operand]
  | binary mark op left right =>
      simp [Expr.erase, Expr.postorder, Expr.postorder_erase left,
        Expr.postorder_erase right]
  | call mark callee arguments =>
      simp [Expr.erase, Expr.postorder, Expr.postorderAll_eraseAll arguments]
  | field mark object member =>
      simp [Expr.erase, Expr.postorder, Expr.postorder_erase object]
  | method mark object member arguments =>
      simp [Expr.erase, Expr.postorder, Expr.postorder_erase object,
        Expr.postorderAll_eraseAll arguments]
termination_by structural expr

theorem Expr.postorderAll_eraseAll (exprs : List Expr) :
    Expr.postorderAll (Expr.eraseAll exprs) = (Expr.postorderAll exprs).map Expr.erase := by
  cases exprs with
  | nil => rfl
  | cons expr later =>
      simp [Expr.eraseAll, Expr.postorderAll, Expr.postorder_erase expr,
        Expr.postorderAll_eraseAll later]
termination_by structural exprs

end

mutual

theorem Stmt.postorder_erase (stmt : Stmt) :
    stmt.erase.postorder = stmt.postorder.map Expr.erase := by
  cases stmt with
  | varDecl declaration => exact declaration.value.postorder_erase
  | functionDef definition => exact FunctionDef.postorder_erase definition
  | classDef definition => exact ClassDef.postorder_erase definition
  | assign span target value =>
      simp [Stmt.erase, Stmt.postorder, Expr.postorder_erase]
  | branch span condition body rest =>
      simp [Stmt.erase, Stmt.postorder, Expr.postorder_erase,
        Stmt.postorderAll_eraseAll body, Alternatives.postorder_erase rest]
  | loop span condition body =>
      simp [Stmt.erase, Stmt.postorder, Expr.postorder_erase,
        Stmt.postorderAll_eraseAll body]
  | pass span => rfl
  | returnValue span value => exact value.postorder_erase
  | evaluate span value => exact value.postorder_erase
termination_by structural stmt

theorem FunctionDef.postorder_erase (definition : FunctionDef) :
    definition.erase.postorder = definition.postorder.map Expr.erase := by
  cases definition with
  | mk span name params returnType body => exact Stmt.postorderAll_eraseAll body
termination_by structural definition

theorem ClassDef.postorder_erase (definition : ClassDef) :
    definition.erase.postorder = definition.postorder.map Expr.erase := by
  cases definition with
  | mk span name fields methods =>
      simp [ClassDef.erase, ClassDef.postorder, FunctionDef.postorderAll_eraseAll methods,
        List.flatMap_map, List.map_flatMap, VarDecl.erase, Expr.postorder_erase]
termination_by structural definition

theorem FunctionDef.postorderAll_eraseAll (definitions : List FunctionDef) :
    FunctionDef.postorderAll (FunctionDef.eraseAll definitions) =
      (FunctionDef.postorderAll definitions).map Expr.erase := by
  cases definitions with
  | nil => rfl
  | cons definition later =>
      simp [FunctionDef.eraseAll, FunctionDef.postorderAll,
        FunctionDef.postorder_erase definition, FunctionDef.postorderAll_eraseAll later]
termination_by structural definitions

theorem Alternatives.postorder_erase (rest : Alternatives) :
    rest.erase.postorder = rest.postorder.map Expr.erase := by
  cases rest with
  | elif condition body rest =>
      simp [Alternatives.erase, Alternatives.postorder, Expr.postorder_erase,
        Stmt.postorderAll_eraseAll body, Alternatives.postorder_erase rest]
  | otherwise body => exact Stmt.postorderAll_eraseAll body
termination_by structural rest

theorem Stmt.postorderAll_eraseAll (body : List Stmt) :
    Stmt.postorderAll (Stmt.eraseAll body) = (Stmt.postorderAll body).map Expr.erase := by
  cases body with
  | nil => rfl
  | cons stmt later =>
      simp [Stmt.eraseAll, Stmt.postorderAll, Stmt.postorder_erase stmt,
        Stmt.postorderAll_eraseAll later]
termination_by structural body

end

/-- Blocks that erase alike have matching nodes at matching places. -/
theorem Stmt.forall₂_postorderAll_of_eraseAll_eq {first second : List Stmt}
    (same : Stmt.eraseAll first = Stmt.eraseAll second) :
    List.Forall₂ (fun node other => node.erase = other.erase) (Stmt.postorderAll first)
      (Stmt.postorderAll second) := by
  have listed : (Stmt.postorderAll first).map Expr.erase =
      (Stmt.postorderAll second).map Expr.erase := by
    rw [← Stmt.postorderAll_eraseAll, same, Stmt.postorderAll_eraseAll]
  rw [← List.forall₂_eq_eq_eq, List.forall₂_map_left_iff, List.forall₂_map_right_iff]
    at listed
  exact listed

end SlotLang
