import SlotLang.Tree.Stmt

/-!
# Ways through a block

A declarative account of when every way through a statement ends in a `return`,
and its agreement with the analysis.
-/

namespace SlotLang

mutual

/-- Every way through a statement ends in a `return`. -/
inductive Stmt.Returns : Stmt → Prop where
  | returnValue {span : Span} {value : Expr} : Stmt.Returns (.returnValue span value)
  | branch {span : Span} {condition : Expr} {body : List Stmt} {rest : Alternatives}
      {stmt : Stmt} (member : stmt ∈ body) (stmtReturns : Stmt.Returns stmt)
      (restReturns : Alternatives.Returns rest) :
      Stmt.Returns (.branch span condition body rest)

/-- Every further case of a branch ends in a `return`. -/
inductive Alternatives.Returns : Alternatives → Prop where
  | elif {condition : Expr} {body : List Stmt} {rest : Alternatives} {stmt : Stmt}
      (member : stmt ∈ body) (stmtReturns : Stmt.Returns stmt)
      (restReturns : Alternatives.Returns rest) :
      Alternatives.Returns (.elif condition body rest)
  | otherwise {body : List Stmt} {stmt : Stmt} (member : stmt ∈ body)
      (stmtReturns : Stmt.Returns stmt) : Alternatives.Returns (.otherwise body)

end

mutual

/-- The analysis of a statement is exact. -/
theorem Stmt.returns_iff (stmt : Stmt) : stmt.returns = true ↔ stmt.Returns := by
  cases stmt with
  | returnValue => exact ⟨fun _ => .returnValue, fun _ => rfl⟩
  | branch span condition body rest =>
      rw [Stmt.returns, Bool.and_eq_true, Stmt.blockReturns_iff body,
        Alternatives.returns_iff rest]
      constructor
      · rintro ⟨⟨stmt, member, stmtReturns⟩, restReturns⟩
        exact .branch member stmtReturns restReturns
      · rintro (_ | ⟨member, stmtReturns, restReturns⟩)
        exact ⟨⟨_, member, stmtReturns⟩, restReturns⟩
  | _ =>
      simp only [Stmt.returns, Bool.false_eq_true, false_iff]
      rintro ⟨⟩
termination_by structural stmt

/-- The analysis of the further cases of a branch is exact. -/
theorem Alternatives.returns_iff (rest : Alternatives) :
    rest.returns = true ↔ rest.Returns := by
  cases rest with
  | elif condition body rest =>
      rw [Alternatives.returns, Bool.and_eq_true, Stmt.blockReturns_iff body,
        Alternatives.returns_iff rest]
      constructor
      · rintro ⟨⟨stmt, member, stmtReturns⟩, restReturns⟩
        exact .elif member stmtReturns restReturns
      · rintro ⟨member, stmtReturns, restReturns⟩
        exact ⟨⟨_, member, stmtReturns⟩, restReturns⟩
  | otherwise body =>
      rw [Alternatives.returns, Stmt.blockReturns_iff body]
      constructor
      · rintro ⟨stmt, member, stmtReturns⟩
        exact .otherwise member stmtReturns
      · rintro (_ | ⟨member, stmtReturns⟩)
        exact ⟨_, member, stmtReturns⟩
termination_by structural rest

/-- The analysis of a block is exact: some statement of it returns. -/
theorem Stmt.blockReturns_iff (body : List Stmt) :
    Stmt.blockReturns body = true ↔ ∃ stmt ∈ body, stmt.Returns := by
  cases body with
  | nil => simp [Stmt.blockReturns]
  | cons stmt later =>
      simp [Stmt.blockReturns, Stmt.returns_iff stmt, Stmt.blockReturns_iff later]
termination_by structural body

end

end SlotLang
