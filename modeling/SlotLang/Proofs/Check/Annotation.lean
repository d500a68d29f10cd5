import SlotLang.Proofs.Check.Erasure
import SlotLang.Proofs.Check.Sound

/-!
# What a check writes into the type slots

After a check that succeeds, the type slot of every part of the expression holds a
type of that part.
-/

namespace SlotLang

/-- The type slot of an expression holds a type that the expression has. -/
def Expr.Labelled (scopes : Scopes) (expr : Expr) : Prop :=
  ∃ type, expr.type? = some type ∧ expr.HasType scopes type

/-! ## Trees of successful checks -/

theorem Annotated.andThen_tree_snd {α β γ δ : Type} {first : Annotated α β} {value : β}
    (passed : first.result = .ok value) (untouched : γ) (next : β → Annotated γ δ) :
    (first.andThen untouched next).tree.2 = (next value).tree := by
  rw [andThen_of_ok passed]

theorem Annotated.after_tree {α β γ : Type} {condition : Except Diagnostic β} {value : β}
    (met : condition = .ok value) (untouched : α) (next : β → Annotated α γ) :
    (after condition untouched next).tree = (next value).tree := by
  rw [met]
  rfl

/-- A node that has been settled carries its type. -/
theorem Annotated.settle_tree {α : Type} {parts : Annotated α Ty} {mark : Mark}
    {rebuild : Mark → α → Expr} {type : Ty}
    (passed : (parts.settle mark rebuild).result = .ok type) :
    ∃ filled : Mark, filled.type? = some type ∧
      (parts.settle mark rebuild).tree = rebuild filled parts.tree := by
  rcases settle_eq_ok_iff.mp passed with ⟨partsPassed, allowed⟩
  rw [settle, partsPassed]
  simp only [Mark.annotate]
  cases slot : mark.type? with
  | none => exact ⟨{ mark with type? := some type }, rfl, rfl⟩
  | some existing =>
      obtain rfl := allowed existing slot
      simp only [if_true]
      exact ⟨mark, slot, rfl⟩

/-! ## Expressions -/

theorem Expr.type?_check {scopes : Scopes} {expr : Expr} {type : Ty}
    (passed : (expr.check scopes).result = .ok type) :
    (expr.check scopes).tree.type? = some type := by
  cases expr
  all_goals
    rw [Expr.check] at passed ⊢
    rcases Annotated.settle_tree passed with ⟨filled, label, tree⟩
    rw [tree]
    exact label

theorem Expr.labelled_check {scopes : Scopes} {expr : Expr} {type : Ty}
    (passed : (expr.check scopes).result = .ok type) :
    (expr.check scopes).tree.Labelled scopes :=
  ⟨type, Expr.type?_check passed,
    (Expr.hasType_of_check expr passed).of_erase_eq (Expr.erase_check scopes expr)⟩

mutual

/-- Every part of a checked expression is labelled. -/
theorem Expr.forall_labelled_check {scopes : Scopes} (expr : Expr) {type : Ty}
    (passed : (expr.check scopes).result = .ok type) :
    ∀ part ∈ (expr.check scopes).tree.preorder, part.Labelled scopes := by
  have top := Expr.labelled_check passed
  cases expr with
  | literal mark value =>
      rw [Expr.check] at passed top ⊢
      rcases Annotated.settle_tree passed with ⟨filled, _, tree⟩
      rw [tree] at top ⊢
      exact List.forall_mem_singleton.mpr top
  | name mark named =>
      rw [Expr.check] at passed top ⊢
      rcases Annotated.settle_tree passed with ⟨filled, _, tree⟩
      rw [tree] at top ⊢
      exact List.forall_mem_singleton.mpr top
  | unary mark op operand =>
      rw [Expr.check] at passed top ⊢
      rcases Annotated.settle_tree passed with ⟨filled, _, tree⟩
      obtain ⟨operandType, operandPassed, _⟩ := Annotated.require_eq_ok_iff.mp
        (Annotated.settle_eq_ok_iff.mp passed).1
      rw [tree] at top ⊢
      exact List.forall_mem_cons.mpr
        ⟨top, Expr.forall_labelled_check operand operandPassed⟩
  | binary mark op left right =>
      rw [Expr.check] at passed top ⊢
      rcases Annotated.settle_tree passed with ⟨filled, _, tree⟩
      obtain ⟨leftType, leftPassed, rightPassed⟩ := Annotated.andThen_eq_ok_iff.mp
        (Annotated.settle_eq_ok_iff.mp passed).1
      rcases Annotated.require_eq_ok_iff.mp rightPassed with ⟨rightType, rightPassed, _⟩
      rw [tree, Annotated.andThen_tree_fst, Annotated.andThen_tree_snd leftPassed,
        Annotated.require_tree] at top ⊢
      rw [Expr.preorder, List.forall_mem_cons, List.forall_mem_append]
      exact ⟨top, Expr.forall_labelled_check left leftPassed,
        Expr.forall_labelled_check right rightPassed⟩
  | call mark callee arguments =>
      rw [Expr.check] at passed top ⊢
      rcases Annotated.settle_tree passed with ⟨filled, _, tree⟩
      obtain ⟨rule, ruled, argumentsPassed⟩ := Annotated.after_eq_ok_iff.mp
        (Annotated.settle_eq_ok_iff.mp passed).1
      rcases Annotated.require_eq_ok_iff.mp argumentsPassed with ⟨_, argumentsPassed, _⟩
      rw [tree, Annotated.after_tree ruled, Annotated.require_tree] at top ⊢
      exact List.forall_mem_cons.mpr ⟨top, Expr.forall_labelled_checkAll arguments
        (Scopes.length_demands_of_callRule ruled) argumentsPassed⟩
  | field mark object member =>
      rw [Expr.check] at passed top ⊢
      rcases Annotated.settle_tree passed with ⟨filled, _, tree⟩
      obtain ⟨objectType, objectPassed, _⟩ := Annotated.require_eq_ok_iff.mp
        (Annotated.settle_eq_ok_iff.mp passed).1
      rw [tree] at top ⊢
      exact List.forall_mem_cons.mpr
        ⟨top, Expr.forall_labelled_check object objectPassed⟩
  | method mark object member arguments =>
      rw [Expr.check] at passed top ⊢
      rcases Annotated.settle_tree passed with ⟨filled, _, tree⟩
      obtain ⟨rule, rulePassed, argumentsPassed⟩ := Annotated.andThen_eq_ok_iff.mp
        (Annotated.settle_eq_ok_iff.mp passed).1
      rcases Annotated.require_eq_ok_iff.mp rulePassed with
        ⟨objectType, objectPassed, ruled⟩
      rcases Annotated.require_eq_ok_iff.mp argumentsPassed with ⟨_, argumentsPassed, _⟩
      rw [tree, Annotated.andThen_tree_fst, Annotated.andThen_tree_snd rulePassed,
        Annotated.require_tree, Annotated.require_tree] at top ⊢
      rw [Expr.preorder, List.forall_mem_cons, List.forall_mem_append]
      exact ⟨top, Expr.forall_labelled_check object objectPassed,
        Expr.forall_labelled_checkAll arguments
          (Scopes.length_demands_of_methodRule ruled) argumentsPassed⟩
termination_by structural expr

/-- Every part of checked arguments is labelled. -/
theorem Expr.forall_labelled_checkAll {scopes : Scopes} {demands : List (Option Ty)}
    (arguments : List Expr) (count : demands.length = arguments.length)
    (passed : (Expr.checkAll scopes demands arguments).result = .ok ()) :
    ∀ part ∈ Expr.preorderAll (Expr.checkAll scopes demands arguments).tree,
      part.Labelled scopes := by
  cases arguments with
  | nil =>
      rw [Expr.checkAll]
      exact fun part member => absurd member List.not_mem_nil
  | cons argument later =>
      cases demands with
      | nil => cases count
      | cons demand demands =>
          rw [Expr.checkAll] at passed ⊢
          rcases Annotated.andThen_eq_ok_iff.mp passed with ⟨_, argumentPassed, laterPassed⟩
          rw [Annotated.map_tree, Annotated.andThen_tree_fst,
            Annotated.andThen_tree_snd argumentPassed, Annotated.require_tree,
            Expr.preorderAll, List.forall_mem_append]
          rcases Annotated.require_eq_ok_iff.mp argumentPassed with
            ⟨type, argumentPassed, _⟩
          exact ⟨Expr.forall_labelled_check argument argumentPassed,
            Expr.forall_labelled_checkAll later (Nat.succ.inj count) laterPassed⟩
termination_by structural arguments

end

/-! ## Programs -/

theorem Checked.andThen_tree_snd {α β : Type} {first : Checked α} {between : Checker}
    (ended : first.EndsIn between) (untouched : β) (next : Checker → Checked β) :
    (first.andThen untouched next).tree.2 = (next between).tree := by
  rw [andThen_of_ok ended.1, ended.2]

/-- The tree of an accepted program comes from the check of its statements in a frame
with all its declarations. -/
theorem Program.checkAll_of_typed {program typed : Program}
    (accepted : program.typed = .ok typed) :
    ∃ bound after, Frame.Extends ∅ (program.filterMap Stmt.binding?) bound ∧
      (Stmt.checkAll ⟨[bound], []⟩ program).EndsIn after ∧
        (Stmt.checkAll ⟨[bound], []⟩ program).tree = typed := by
  rcases Program.typed_eq_ok_iff.mp accepted with ⟨after, passed, rfl⟩
  rcases Checked.endsIn_followedBy_iff.mp passed with ⟨_, opened, checked⟩
  rcases Checker.endsIn_openBlock_iff.mp opened with ⟨_, _, bound, extending, rfl⟩
  have tree := Checked.andThen_tree_snd opened program
    fun checker => Stmt.checkAll checker program
  exact ⟨bound, after, extending, checked, tree.symm⟩

end SlotLang
