import SlotLang.Proofs.Check.Congruence

/-!
# Checking only fills type slots

A check fills empty type slots and leaves everything else alone.  So however it ends, the
tree that it hands back has the shape of the one it was given, and each node that carried
a type before carries the same type afterwards.
-/

namespace SlotLang

/-! ## Trees of checks -/

namespace Annotated

variable {α β γ δ : Type}

@[simp]
theorem map_tree (rebuild : α → γ) (checked : Annotated α β) :
    (checked.map rebuild).tree = rebuild checked.tree :=
  rfl

@[simp]
theorem require_tree (checked : Annotated α β) (rule : β → Except Diagnostic γ) :
    (checked.require rule).tree = checked.tree :=
  rfl

@[simp]
theorem andThen_tree_fst (first : Annotated α β) (untouched : γ)
    (next : β → Annotated γ δ) : (first.andThen untouched next).tree.1 = first.tree := by
  cases result : first.result with
  | error => rw [andThen_of_error result]
  | ok => rw [andThen_of_ok result]

end Annotated

namespace Checked

variable {α β : Type}

@[simp]
theorem ofAnnotated_tree (checker : Checker) (annotated : Annotated α Unit) :
    (ofAnnotated checker annotated).tree = annotated.tree :=
  rfl

@[simp]
theorem map_tree (rebuild : α → β) (checked : Checked α) :
    (checked.map rebuild).tree = rebuild checked.tree :=
  rfl

@[simp]
theorem andThen_tree_fst (first : Checked α) (untouched : β)
    (next : Checker → Checked β) : (first.andThen untouched next).tree.1 = first.tree := by
  cases outcome : first.outcome with
  | error => rw [andThen_of_error outcome]
  | ok => rw [andThen_of_ok outcome]

end Checked

/-! ## Growing trees -/

namespace Slotted

variable {α β γ δ : Type} [Slotted α] [Slotted β]

/-- The new tree is the old one with more of its type slots filled. -/
structure Grows (old new : α) : Prop where
  erase_eq : erase new = erase old
  keeps : Keeps old new

namespace Grows

theorem refl (tree : α) : Grows tree tree :=
  ⟨rfl, keeps_refl tree⟩

theorem pair {old new : α} {other otherNew : β} (grows : Grows old new)
    (otherGrows : Grows other otherNew) : Grows (old, other) (new, otherNew) :=
  ⟨Prod.ext grows.erase_eq otherGrows.erase_eq, grows.keeps, otherGrows.keeps⟩

theorem rebuild {rebuild : α → β} {old new : α} (grows : Grows old new)
    (rebuilds : Rebuilds rebuild) : Grows (rebuild old) (rebuild new) where
  erase_eq := by rw [rebuilds.erase, rebuilds.erase, grows.erase_eq]
  keeps := rebuilds.keeps old new grows.keeps

theorem andThen {old : α} {later : β} {first : Annotated α γ} {next : γ → Annotated β δ}
    (grows : Grows old first.tree)
    (laterGrows : ∀ value, first.result = .ok value → Grows later (next value).tree) :
    Grows (old, later) (first.andThen later next).tree := by
  cases result : first.result with
  | error =>
      rw [Annotated.andThen_of_error result]
      exact grows.pair (.refl later)
  | ok value =>
      rw [Annotated.andThen_of_ok result]
      exact grows.pair (laterGrows value result)

theorem work_andThen {old : α} {later : β} {first : Checked α} {next : Checker → Checked β}
    (grows : Grows old first.tree) (laterGrows : ∀ checker, Grows later (next checker).tree) :
    Grows (old, later) (first.andThen later next).tree := by
  cases outcome : first.outcome with
  | error =>
      rw [Checked.andThen_of_error outcome]
      exact grows.pair (.refl later)
  | ok =>
      rw [Checked.andThen_of_ok outcome]
      exact grows.pair (laterGrows first.checker)

end Grows

end Slotted

/-- Settling a node leaves its slot alone or fills an empty one. -/
theorem Annotated.exists_settle_tree {α : Type} (parts : Annotated α Ty) (mark : Mark)
    (rebuild : Mark → α → Expr) :
    ∃ filled : Mark, filled.erase = mark.erase ∧
      (∀ type, mark.type? = some type → filled.type? = some type) ∧
        (parts.settle mark rebuild).tree = rebuild filled parts.tree := by
  unfold settle Mark.annotate
  cases parts.result with
  | error => exact ⟨mark, rfl, fun _ carried => carried, rfl⟩
  | ok type =>
      cases slot : mark.type? with
      | none => exact ⟨{ mark with type? := some type }, rfl, nofun, rfl⟩
      | some existing =>
          by_cases agrees : existing = type
          · exact ⟨mark, rfl, fun _ carried => slot.trans carried,
              by simp only [agrees, if_true]⟩
          · exact ⟨mark, rfl, fun _ carried => slot.trans carried,
              by simp only [agrees, if_false]⟩

/-- What is left of a tree after a check has grown from it. -/
def growth : CheckProperty where
  Check check tree := Slotted.Grows tree (check tree).tree
  Work work tree := ∀ checker, Slotted.Grows tree (work checker tree).tree

theorem growth_congruence : growth.Congruence where
  check_congr holds agree := by
    dsimp only [growth]
    rw [agree _ rfl]
    exact holds
  plain _ := .refl ()
  map rebuild holds rebuilds unfolds := by
    dsimp only [growth]
    rw [unfolds]
    exact holds.rebuild rebuilds
  require _ holds := holds
  after condition holds := by
    cases condition with
    | error => exact .refl _
    | ok value => exact holds value rfl
  andThen holds laterHolds := holds.andThen (laterHolds _)
  settle rebuild holds rebuilds unfolds := by
    dsimp only [growth]
    rw [unfolds _ rfl]
    rcases Annotated.exists_settle_tree _ _ rebuild with ⟨filled, erased, slotKept, tree⟩
    rw [tree]
    constructor
    · rw [rebuilds.erase, rebuilds.erase, erased, holds.erase_eq]
    · exact rebuilds.keeps _ filled _ _ slotKept holds.keeps
  work_congr holds agree := by
    intro checker
    rw [agree checker _ rfl]
    exact holds checker
  done _ := .refl ()
  ofAnnotated holds := holds
  work_map rebuild holds rebuilds unfolds := by
    intro checker
    rw [unfolds]
    exact (holds checker).rebuild rebuilds
  work_andThen holds laterHolds checker := (holds checker).work_andThen laterHolds
  followedBy _ holds := by
    intro checker
    rcases (Slotted.Grows.refl ()).work_andThen holds with ⟨erased, kept⟩
    exact ⟨congrArg Prod.snd erased, kept.2⟩
  provided condition holds := by
    intro checker
    dsimp only
    cases condition checker with
    | error => exact .refl _
    | ok => exact holds checker
  withScope holds checker := holds checker.enter.checker
  expecting returnType holds checker :=
    holds { checker with returnTypes := returnType :: checker.returnTypes }

/-! ## Expressions, statements and blocks -/

theorem Expr.grows_check (scopes : Scopes) (expr : Expr) :
    Slotted.Grows expr (expr.check scopes).tree :=
  growth_congruence.check_expr scopes expr

theorem Stmt.grows_check (checker : Checker) (stmt : Stmt) :
    Slotted.Grows stmt (stmt.check checker).tree :=
  growth_congruence.work_stmt stmt checker

theorem FunctionDef.grows_check (checker : Checker) (definition : FunctionDef) :
    Slotted.Grows definition (definition.check checker).tree :=
  growth_congruence.work_functionDef definition checker

theorem Checker.grows_checkBlock (checker : Checker) (body : List Stmt) :
    Slotted.Grows body (checker.checkBlock body).tree :=
  growth_congruence.work_checkBlock (growth_congruence.work_block body) checker

/-- Checking an expression only fills type slots. -/
theorem Expr.erase_check (scopes : Scopes) (expr : Expr) :
    (expr.check scopes).tree.erase = expr.erase :=
  (expr.grows_check scopes).erase_eq

/-- Checking a statement only fills type slots. -/
theorem Stmt.erase_check (checker : Checker) (stmt : Stmt) :
    (stmt.check checker).tree.erase = stmt.erase :=
  (stmt.grows_check checker).erase_eq

/-- Checking a function only fills type slots. -/
theorem FunctionDef.erase_check (checker : Checker) (definition : FunctionDef) :
    (definition.check checker).tree.erase = definition.erase :=
  (definition.grows_check checker).erase_eq

/-- Checking a block only fills type slots. -/
theorem Checker.eraseAll_checkBlock (checker : Checker) (body : List Stmt) :
    Stmt.eraseAll (checker.checkBlock body).tree = Stmt.eraseAll body :=
  (checker.grows_checkBlock body).erase_eq

/-! ## Programs -/

/-- A checked program differs from its source at most in its annotations. -/
theorem Program.eraseAll_typed {program typed : Program}
    (accepted : program.typed = .ok typed) :
    Stmt.eraseAll typed = Stmt.eraseAll program := by
  have kept : Stmt.eraseAll program.check.tree = Stmt.eraseAll program :=
    Checker.eraseAll_checkBlock ⟨[∅], []⟩ program
  unfold Program.typed at accepted
  cases outcome : program.check.outcome with
  | error => simp [outcome, Except.map] at accepted
  | ok =>
      simp only [outcome, Except.map, Except.ok.injEq] at accepted
      rw [← accepted, kept]

end SlotLang
