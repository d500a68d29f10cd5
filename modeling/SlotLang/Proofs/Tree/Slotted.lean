import SlotLang.Proofs.Tree.Postorder

/-!
# Trees with type slots

Expressions, statements, and lists and pairs of them are trees whose nodes have type
slots.  The same things matter about all of them when they are checked: what is left
if the slots are emptied, the order in which the nodes are settled, and whether
another tree keeps the annotations.
-/

namespace SlotLang

variable {α β γ : Type}

/-! ## Kept annotations -/

/-- Whatever the annotation of a node says, the new annotation says too. -/
def Expr.Respected (old new : Expr) : Prop :=
  ∀ type, old.type? = some type → new.type? = some type

theorem Expr.Respected.refl (expr : Expr) : expr.Respected expr :=
  fun _ carried => carried

theorem Expr.Respected.trans {first second third : Expr} (earlier : first.Respected second)
    (later : second.Respected third) : first.Respected third :=
  fun type carried => later type (earlier type carried)

/-- `Kept nodes old new`: the new tree has as many nodes as the old one, and each respects
the annotation of the old node in its place. -/
def Kept (nodes : α → List Expr) (old new : α) : Prop :=
  List.Forall₂ Expr.Respected (nodes old) (nodes new)

namespace Kept

theorem refl (nodes : α → List Expr) (tree : α) : Kept nodes tree tree :=
  List.forall₂_same.mpr fun expr _ => .refl expr

theorem trans {nodes : α → List Expr} {old new newer : α} (earlier : Kept nodes old new)
    (later : Kept nodes new newer) : Kept nodes old newer := by
  unfold Kept at earlier later ⊢
  generalize nodes new = middle at earlier later
  generalize nodes old = first at earlier ⊢
  generalize nodes newer = last at later ⊢
  induction earlier generalizing last with
  | nil => exact later
  | cons respected _ inductionHypothesis =>
      cases later with
      | cons again others => exact .cons (respected.trans again) (inductionHypothesis _ others)

end Kept

/-! ## Kinds of trees -/

/-- A kind of trees with type slots. -/
class Slotted (α : Type) where
  /-- The tree with its type slots emptied. -/
  erase : α → α
  /-- The nodes of the tree in the order of checking. -/
  nodes : α → List Expr
  /-- The second tree keeps the annotations of the first one. -/
  Keeps : α → α → Prop
  erase_erase : ∀ tree, erase (erase tree) = erase tree
  keeps_refl : ∀ tree, Keeps tree tree

namespace Slotted

/-- Trees that are given by their nodes. -/
abbrev ofNodes (erase : α → α) (postorder preorder : α → List Expr)
    (erase_erase : ∀ tree, erase (erase tree) = erase tree) : Slotted α where
  erase := erase
  nodes := postorder
  Keeps := Kept preorder
  erase_erase := erase_erase
  keeps_refl := Kept.refl preorder

instance : Slotted Unit :=
  ofNodes id (fun _ => []) (fun _ => []) fun _ => rfl

instance : Slotted Expr :=
  ofNodes Expr.erase Expr.postorder Expr.preorder Expr.erase_erase

instance : Slotted (List Expr) :=
  ofNodes Expr.eraseAll Expr.postorderAll Expr.preorderAll Expr.eraseAll_eraseAll

instance : Slotted VarDecl :=
  ofNodes VarDecl.erase (fun declaration => declaration.value.postorder)
    (fun declaration => declaration.value.preorder) VarDecl.erase_erase

instance : Slotted (List VarDecl) :=
  ofNodes (List.map VarDecl.erase)
    (List.flatMap fun declaration => declaration.value.postorder)
    (List.flatMap fun declaration => declaration.value.preorder)
    fun _ => by simp only [List.map_map, Function.comp_def, VarDecl.erase_erase]

instance : Slotted Stmt :=
  ofNodes Stmt.erase Stmt.postorder Stmt.preorder Stmt.erase_erase

instance : Slotted (List Stmt) :=
  ofNodes Stmt.eraseAll Stmt.postorderAll Stmt.preorderAll Stmt.eraseAll_eraseAll

instance : Slotted FunctionDef :=
  ofNodes FunctionDef.erase FunctionDef.postorder FunctionDef.preorder FunctionDef.erase_erase

instance : Slotted (List FunctionDef) :=
  ofNodes FunctionDef.eraseAll FunctionDef.postorderAll FunctionDef.preorderAll
    FunctionDef.eraseAll_eraseAll

instance : Slotted ClassDef :=
  ofNodes ClassDef.erase ClassDef.postorder ClassDef.preorder ClassDef.erase_erase

instance : Slotted Alternatives :=
  ofNodes Alternatives.erase Alternatives.postorder Alternatives.preorder
    Alternatives.erase_erase

/-- Of a pair, the first part is checked first.  Where its parts stand in the source is
left open. -/
instance [Slotted α] [Slotted β] : Slotted (α × β) where
  erase parts := (erase parts.1, erase parts.2)
  nodes parts := nodes parts.1 ++ nodes parts.2
  Keeps old new := Keeps old.1 new.1 ∧ Keeps old.2 new.2
  erase_erase _ := Prod.ext (erase_erase _) (erase_erase _)
  keeps_refl _ := ⟨keeps_refl _, keeps_refl _⟩

/-- What looks past the type slots cannot tell trees of the same shape apart. -/
theorem eq_of_erase_eq [Slotted α] {rule : α → γ} (blind : ∀ tree, rule (erase tree) = rule tree)
    {first second : α} (same : erase first = erase second) : rule first = rule second := by
  rw [← blind first, same, blind]

/-! ## Trees and their parts -/

/-- A tree is rebuilt from its parts and has no nodes besides theirs. -/
structure Rebuilds [Slotted α] [Slotted β] (rebuild : α → β) : Prop where
  erase : ∀ parts, Slotted.erase (rebuild parts) = rebuild (Slotted.erase parts) := by
    intros; rfl
  nodes : ∀ parts, Slotted.nodes (rebuild parts) = Slotted.nodes parts := by
    intros; rfl
  keeps : ∀ old new, Keeps old new → Keeps (rebuild old) (rebuild new)

/-- An expression is rebuilt from its parts under a node of its own, which is settled
after them. -/
structure RebuildsNode [Slotted α] (rebuild : Mark → α → Expr) : Prop where
  erase : ∀ mark parts,
      Slotted.erase (rebuild mark parts) = rebuild mark.erase (Slotted.erase parts) := by
    intros; rfl
  nodes : ∀ mark parts,
      Slotted.nodes (rebuild mark parts) = Slotted.nodes parts ++ [rebuild mark parts] := by
    intros; rfl
  mark : ∀ mark parts, (rebuild mark parts).mark = mark := by
    intros; rfl
  keeps : ∀ (mark filled : Mark) (old new : α),
    (∀ type, mark.type? = some type → filled.type? = some type) → Keeps old new →
      Keeps (rebuild mark old) (rebuild filled new)

end Slotted

end SlotLang
