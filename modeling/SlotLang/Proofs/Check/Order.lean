import Mathlib.Data.List.Perm.Basic
import SlotLang.Proofs.Check.Coherence

/-!
# The order of declarations

A block binds the names of its declarations before it checks any of its statements, and
the check of a declaration leaves the state as it is.  So each declaration is checked in
the same state, wherever it stands among the others, and neither the outcome nor the state
nor the annotations depend on the order.
-/

namespace SlotLang

/-- Whether bindings can be added to a frame, and what they give, does not depend on their
order. -/
theorem Frame.Extends.perm {frame extended : Frame} {bindings others : List (String × Symbol)}
    (extending : frame.Extends bindings extended) (order : bindings.Perm others) :
    frame.Extends others extended where
  distinct := (order.map Prod.fst).nodup_iff.mp extending.distinct
  fresh binding member := extending.fresh binding (order.mem_iff.mpr member)
  bound binding member := extending.bound binding (order.mem_iff.mpr member)
  kept name absent := extending.kept name fun member =>
    absent ((order.map Prod.fst).mem_iff.mp member)

/-! ## Declarations leave the state as it is -/

theorem Stmt.bindings_of_isDeclaration {stmt : Stmt} (declaring : stmt.isDeclaration = true) :
    stmt.bindings = [] := by
  cases stmt with
  | branch => cases declaring
  | loop => cases declaring
  | _ => rfl

section

variable {frame : Frame} {outer : Scopes} {returnTypes : List Ty} {after : Checker}

theorem Stmt.after_check_declaration {stmt : Stmt} (declaring : stmt.isDeclaration = true)
    (ended : (stmt.check ⟨frame :: outer, returnTypes⟩).EndsIn after) :
    after = ⟨frame :: outer, returnTypes⟩ := by
  rw [Stmt.after_check ended, Stmt.bindings_of_isDeclaration declaring]
  rfl

/-- Declarations pass if each of them does, all from the same state, in which what follows
them is checked too. -/
theorem Stmt.endsIn_checkAll_append_iff {declarations statements : List Stmt}
    (declaring : ∀ stmt ∈ declarations, stmt.isDeclaration = true) :
    (Stmt.checkAll ⟨frame :: outer, returnTypes⟩ (declarations ++ statements)).EndsIn after ↔
      (∀ stmt ∈ declarations, (stmt.check ⟨frame :: outer, returnTypes⟩).EndsIn
        ⟨frame :: outer, returnTypes⟩) ∧
      (Stmt.checkAll ⟨frame :: outer, returnTypes⟩ statements).EndsIn after := by
  induction declarations with
  | nil => simp
  | cons stmt later inductionHypothesis =>
      rcases List.forall_mem_cons.mp declaring with ⟨stmtDeclaring, laterDeclaring⟩
      rw [List.cons_append, Stmt.checkAll, Checked.endsIn_map_iff,
        Checked.endsIn_andThen_iff, List.forall_mem_cons, and_assoc,
        ← inductionHypothesis laterDeclaring]
      constructor
      · rintro ⟨between, stmtEnded, laterEnded⟩
        cases Stmt.after_check_declaration stmtDeclaring stmtEnded
        exact ⟨stmtEnded, laterEnded⟩
      · rintro ⟨stmtEnded, laterEnded⟩
        exact ⟨_, stmtEnded, laterEnded⟩

end

theorem Stmt.tree_checkAll_append {checker : Checker} {declarations : List Stmt}
    (unchanged : ∀ stmt ∈ declarations, (stmt.check checker).EndsIn checker)
    (statements : List Stmt) :
    (Stmt.checkAll checker (declarations ++ statements)).tree =
      declarations.map (fun stmt => (stmt.check checker).tree) ++
        (Stmt.checkAll checker statements).tree := by
  induction declarations with
  | nil => rfl
  | cons stmt later inductionHypothesis =>
      rcases List.forall_mem_cons.mp unchanged with ⟨stmtEnded, laterEnded⟩
      rw [List.cons_append, Stmt.checkAll, Checked.map_tree, Checked.andThen_tree_fst,
        Checked.andThen_tree_snd stmtEnded, inductionHypothesis laterEnded, List.map_cons,
        List.cons_append]

/-! ## Blocks -/

section

variable {frame : Frame} {outer : Scopes} {returnTypes : List Ty} {after : Checker}
  {declarations reordered statements : List Stmt}

/-- A block of declarations and other statements passes if the members of its classes are
distinct, all its names can be bound, each declaration passes in the frame that has them,
and so do the statements after them. -/
theorem Checker.endsIn_checkBlock_append_iff
    (declaring : ∀ stmt ∈ declarations, stmt.isDeclaration = true)
    (executing : ∀ stmt ∈ statements, stmt.isDeclaration = false) :
    (Checker.checkBlock ⟨frame :: outer, returnTypes⟩
        (declarations ++ statements)).EndsIn after ↔
      (∀ definition, .classDef definition ∈ declarations ++ statements →
        definition.memberNames.Nodup) ∧
      ∃ bound, frame.Extends ((declarations ++ statements).filterMap Stmt.binding?) bound ∧
        (∀ stmt ∈ declarations, (stmt.check ⟨bound :: outer, returnTypes⟩).EndsIn
          ⟨bound :: outer, returnTypes⟩) ∧
        (Stmt.checkAll ⟨bound :: outer, returnTypes⟩ statements).EndsIn after := by
  have ordered : Stmt.DeclarationsFirst (declarations ++ statements) :=
    ⟨declarations, statements, rfl, declaring, executing⟩
  rw [Checker.checkBlock, Checker.endsIn_inBlock_iff, and_iff_right ordered]
  simp only [Stmt.endsIn_checkAll_append_iff declaring]

/-- The trees of the declarations come from checks of each of them in one state. -/
theorem Checker.tree_checkBlock_append
    (declaring : ∀ stmt ∈ declarations, stmt.isDeclaration = true) {bound : Frame}
    (extending :
      frame.Extends ((declarations ++ statements).filterMap Stmt.binding?) bound)
    (ended : (Checker.checkBlock ⟨frame :: outer, returnTypes⟩
      (declarations ++ statements)).EndsIn after) :
    (Checker.checkBlock ⟨frame :: outer, returnTypes⟩ (declarations ++ statements)).tree =
      declarations.map (fun stmt => (stmt.check ⟨bound :: outer, returnTypes⟩).tree) ++
        (Stmt.checkAll ⟨bound :: outer, returnTypes⟩ statements).tree := by
  rcases Checker.checkAll_of_checkBlock ended with ⟨checked, tree⟩
  rw [← extending.eq_extend] at checked tree
  rw [tree]
  exact Stmt.tree_checkAll_append
    ((Stmt.endsIn_checkAll_append_iff declaring).mp checked).1 statements

/-- A block still passes, and ends in the same state, when its declarations are put in
another order. -/
theorem Checker.endsIn_checkBlock_reordered
    (declaring : ∀ stmt ∈ declarations, stmt.isDeclaration = true)
    (executing : ∀ stmt ∈ statements, stmt.isDeclaration = false)
    (order : declarations.Perm reordered)
    (ended : (Checker.checkBlock ⟨frame :: outer, returnTypes⟩
      (declarations ++ statements)).EndsIn after) :
    (Checker.checkBlock ⟨frame :: outer, returnTypes⟩
      (reordered ++ statements)).EndsIn after := by
  have whole := order.append_right statements
  have reorderedDeclaring : ∀ stmt ∈ reordered, stmt.isDeclaration = true :=
    fun stmt member => declaring stmt (order.mem_iff.mpr member)
  rcases (Checker.endsIn_checkBlock_append_iff declaring executing).mp ended with
    ⟨members, bound, extending, declarationsEnded, statementsEnded⟩
  apply (Checker.endsIn_checkBlock_append_iff reorderedDeclaring executing).mpr
  constructor
  · intro definition member
    exact members definition (whole.mem_iff.mpr member)
  · exact ⟨bound, extending.perm (whole.filterMap _),
      fun stmt member => declarationsEnded stmt (order.mem_iff.mpr member), statementsEnded⟩

end

/-- The order of the declarations of a block does not matter: the block passes in one
order if and only if it passes in another; it then ends in the same state, and each
statement gets the same annotations, those of the declarations from one state that is the
same for all of them. -/
theorem Checker.checkBlock_declaration_order {checker : Checker}
    (active : checker.scopes ≠ []) {declarations reordered statements : List Stmt}
    (declaring : ∀ stmt ∈ declarations, stmt.isDeclaration = true)
    (executing : ∀ stmt ∈ statements, stmt.isDeclaration = false)
    (order : declarations.Perm reordered) :
    ((checker.checkBlock (declarations ++ statements)).outcome = .ok () ↔
      (checker.checkBlock (reordered ++ statements)).outcome = .ok ()) ∧
    ((checker.checkBlock (declarations ++ statements)).outcome = .ok () →
      (checker.checkBlock (declarations ++ statements)).checker =
          (checker.checkBlock (reordered ++ statements)).checker ∧
        ∃ (inside : Checker) (annotated : List Stmt),
          (checker.checkBlock (declarations ++ statements)).tree =
              declarations.map (fun stmt => (stmt.check inside).tree) ++ annotated ∧
            (checker.checkBlock (reordered ++ statements)).tree =
              reordered.map (fun stmt => (stmt.check inside).tree) ++ annotated) := by
  have reorderedDeclaring : ∀ stmt ∈ reordered, stmt.isDeclaration = true :=
    fun stmt member => declaring stmt (order.mem_iff.mpr member)
  rcases checker with ⟨scopes, returnTypes⟩
  cases scopes with
  | nil => exact absurd rfl active
  | cons frame outer =>
      constructor
      · constructor
        · intro passed
          exact (Checker.endsIn_checkBlock_reordered declaring executing order
            (Checked.endsIn_of_outcome passed)).1
        · intro passed
          exact (Checker.endsIn_checkBlock_reordered reorderedDeclaring executing order.symm
            (Checked.endsIn_of_outcome passed)).1
      · intro passed
        have ended := Checked.endsIn_of_outcome passed
        have reorderedEnded :=
          Checker.endsIn_checkBlock_reordered declaring executing order ended
        rcases (Checker.endsIn_checkBlock_append_iff declaring executing).mp ended with
          ⟨-, bound, extending, -⟩
        have reorderedExtending :=
          extending.perm ((order.append_right statements).filterMap Stmt.binding?)
        constructor
        · exact reorderedEnded.2.symm
        · exact ⟨⟨bound :: outer, returnTypes⟩, _,
            Checker.tree_checkBlock_append declaring extending ended,
            Checker.tree_checkBlock_append reorderedDeclaring reorderedExtending
              reorderedEnded⟩

/-- Declarations that need later ones: a function that calls another one and takes an
object, and a variable of the class of that object. -/
def forwardDeclarations : List Stmt :=
  let mark : Mark := { span := .null }
  let peek : FunctionDef :=
    { span := .null, name := "peek", params := [⟨"box", .object "Box"⟩], returnType := .int
      body :=
        [.returnValue .null
          (.call mark "next" [.field mark (.name mark "box") "content"])] }
  let next : FunctionDef :=
    { span := .null, name := "next", params := [⟨"n", .int⟩], returnType := .int
      body :=
        [.returnValue .null
          (.binary mark .add (.name mark "n") (.literal mark (.number 1)))] }
  [.functionDef peek,
  .varDecl ⟨.null, "box", .object "Box", .literal mark .none⟩,
  .functionDef next,
  .classDef ⟨.null, "Box", [⟨.null, "content", .int, .literal mark (.number 0)⟩], []⟩]

/-- A statement that uses them. -/
def showPeek : Stmt :=
  let mark : Mark := { span := .null }
  .evaluate .null (.call mark "print" [.call mark "peek" [.name mark "box"]])

/-- The declarations pass in both directions. -/
theorem forwardDeclarations_reversed :
    (Checker.checkBlock ⟨[∅], []⟩ (forwardDeclarations ++ [showPeek])).outcome = .ok () ∧
    (Checker.checkBlock ⟨[∅], []⟩
      (forwardDeclarations.reverse ++ [showPeek])).outcome = .ok () ∧
    (Checker.checkBlock ⟨[∅], []⟩ (forwardDeclarations ++ [showPeek])).checker =
      (Checker.checkBlock ⟨[∅], []⟩ (forwardDeclarations.reverse ++ [showPeek])).checker ∧
    ∃ (inside : Checker) (annotated : List Stmt),
      (Checker.checkBlock ⟨[∅], []⟩ (forwardDeclarations ++ [showPeek])).tree =
          forwardDeclarations.map (fun stmt => (stmt.check inside).tree) ++ annotated ∧
        (Checker.checkBlock ⟨[∅], []⟩ (forwardDeclarations.reverse ++ [showPeek])).tree =
          forwardDeclarations.reverse.map (fun stmt => (stmt.check inside).tree) ++
            annotated := by
  have passed : (Checker.checkBlock ⟨[∅], []⟩
      (forwardDeclarations ++ [showPeek])).outcome = .ok () := rfl
  have active : (Checker.mk [∅] []).scopes ≠ [] := List.cons_ne_nil _ _
  have declaring : ∀ stmt ∈ forwardDeclarations, stmt.isDeclaration = true := by decide
  have executing : ∀ stmt ∈ [showPeek], stmt.isDeclaration = false := by decide
  rcases Checker.checkBlock_declaration_order active declaring executing
    (List.reverse_perm forwardDeclarations).symm with ⟨both, same⟩
  exact ⟨passed, both.mp passed, same passed⟩

end SlotLang
