import SlotLang.Proofs.Location

/-!
# Hidden bindings

A check sees of a state what each name denotes, which names are taken in the innermost
scope, and which return type is expected.  It does not see how many scopes there are, nor
a binding that another one hides.  So two states with the same view are interchangeable:
every check ends in the same way from both, and leaves them with the same view again.
-/

namespace SlotLang

variable {α : Type}

/-! ## What a check sees -/

/-- Two symbols that no check can tell apart.  Classes have the same members by name, in
whatever order they were declared. -/
inductive Symbol.SameView : Symbol → Symbol → Prop where
  | ofVariable (type : Ty) : SameView (.ofVariable type) (.ofVariable type)
  | ofFunction (signature : Signature) :
      SameView (.ofFunction signature) (.ofFunction signature)
  | ofClass {members others : Members}
      (fields : ∀ name, others.field? name = members.field? name)
      (methods : ∀ name, others.method? name = members.method? name) :
      SameView (.ofClass members) (.ofClass others)

/-- Two active states in which each name denotes the same, the same names are taken in the
innermost scope, and the same return type is expected. -/
structure Checker.SameView (checker other : Checker) : Prop where
  active : checker.scopes ≠ []
  otherActive : other.scopes ≠ []
  lookup : ∀ name, Option.Rel Symbol.SameView (checker.scopes.lookup? name)
    (other.scopes.lookup? name)
  taken : ∀ name, (other.scopes.innermost? name).isSome =
    (checker.scopes.innermost? name).isSome
  expected : other.expectedReturn = checker.expectedReturn

/-- Two runs leave the same tree and have the same outcome, and the states that they end in
have the same view. -/
structure Checked.EndsLike (run other : Checked α) : Prop where
  tree : other.tree = run.tree
  outcome : other.outcome = run.outcome
  state : run.checker.SameView other.checker

/-! ## Labels that change nothing -/

namespace Relabelling

/-- The relabelling that changes nothing. -/
def unchanged : Relabelling :=
  .ofPositions id id

theorem fixesNames_unchanged : unchanged.FixesNames :=
  fixesNames_ofPositions id id

theorem keeps_unchanged (spans : List Span) : unchanged.Keeps spans :=
  fun _ _ => rfl

/-- Without new labels there is one diagnostic for both. -/
theorem Rejects.eq {failure other : Failure} (rejects : unchanged.Rejects failure other) :
    other = failure := by
  cases rejects with
  | @rejected diagnostic otherDiagnostic blamed =>
      rcases diagnostic with ⟨cause, position⟩
      rcases otherDiagnostic with ⟨otherCause, otherPosition⟩
      cases blamed.cause fixesNames_unchanged
      cases blamed.position
      rfl

end Relabelling

open Relabelling

theorem Symbol.sameView_iff_agree {symbol other : Symbol} :
    symbol.SameView other ↔ symbol.Agree unchanged other := by
  have types : Ty.relabel unchanged = id :=
    funext (Ty.relabel_of_fixesNames fixesNames_unchanged)
  have signatures : Signature.relabel unchanged = id :=
    funext (Signature.relabel_of_fixesNames fixesNames_unchanged)
  constructor
  · intro same
    cases same with
    | ofVariable type =>
        have agree := @Symbol.Agree.ofVariable unchanged type
        rwa [types] at agree
    | ofFunction signature =>
        have agree := @Symbol.Agree.ofFunction unchanged signature
        rwa [signatures] at agree
    | ofClass fields methods =>
        apply Symbol.Agree.ofClass
        constructor
        · rw [types, Option.map_id_fun]
          exact fields
        · rw [signatures, Option.map_id_fun]
          exact methods
  · intro agree
    cases agree with
    | ofVariable type =>
        rw [types]
        exact .ofVariable type
    | ofFunction signature =>
        rw [signatures]
        exact .ofFunction signature
    | ofClass agree =>
        have fields := agree.fields
        have methods := agree.methods
        rw [types, Option.map_id_fun] at fields
        rw [signatures, Option.map_id_fun] at methods
        exact .ofClass fields methods

/-- States have the same view exactly if they are alike under labels that change nothing. -/
theorem Checker.sameView_iff_alike {checker other : Checker} :
    checker.SameView other ↔ checker.Alike unchanged other := by
  have symbols : Symbol.SameView = Symbol.Agree unchanged := by
    funext symbol other
    exact propext Symbol.sameView_iff_agree
  constructor
  · intro same
    have agree := same.lookup
    rw [symbols] at agree
    refine ⟨agree, same.taken, same.active, same.otherActive, ?_⟩
    rw [Ty.relabel_of_fixesNames fixesNames_unchanged, same.expected]
  · intro alike
    have agree := alike.agree
    unfold Scopes.Agree at agree
    rw [← symbols] at agree
    refine ⟨alike.active, alike.otherActive, agree, alike.taken, ?_⟩
    rw [alike.expected, Ty.relabel_of_fixesNames fixesNames_unchanged]

/-- Runs that mirror each other under labels that change nothing end in the same way. -/
theorem Checked.Mirrored.endsLike {image : α → α} {run other : Checked α}
    (mirrored : Checked.Mirrored unchanged image run other)
    (same : image run.tree = run.tree) : run.EndsLike other where
  tree := mirrored.tree.trans same
  outcome := by
    have ended := mirrored.outcome
    generalize run.outcome = outcome, other.outcome = otherOutcome at ended ⊢
    cases ended with
    | ok => rfl
    | error rejects => rw [rejects.eq]
  state := Checker.sameView_iff_alike.mpr mirrored.state

/-! ## Interchangeable states -/

section

variable {checker other : Checker}

theorem Stmt.endsLike_check (same : checker.SameView other) (stmt : Stmt) :
    (stmt.check checker).EndsLike (stmt.check other) := by
  have mirrored := stmt.mirrored_check (Checker.sameView_iff_alike.mp same)
  rw [stmt.relabel_eq_self fixesNames_unchanged (keeps_unchanged _)] at mirrored
  exact mirrored.endsLike (Stmt.relabel_eq_self fixesNames_unchanged _ (keeps_unchanged _))

theorem Checker.endsLike_checkBlock (same : checker.SameView other) (body : List Stmt) :
    (checker.checkBlock body).EndsLike (other.checkBlock body) := by
  have mirrored := Checker.mirrored_checkBlock
    (fun alike => Stmt.mirrored_checkAll alike body) (Checker.sameView_iff_alike.mp same)
  rw [Stmt.relabelAll_eq_self fixesNames_unchanged body (keeps_unchanged _)] at mirrored
  exact mirrored.endsLike
    (Stmt.relabelAll_eq_self fixesNames_unchanged _ (keeps_unchanged _))

theorem FunctionDef.endsLike_check (same : checker.SameView other)
    (definition : FunctionDef) :
    (definition.check checker).EndsLike (definition.check other) := by
  have mirrored := definition.mirrored_check (Checker.sameView_iff_alike.mp same)
  rw [definition.relabel_eq_self fixesNames_unchanged (keeps_unchanged _)] at mirrored
  exact mirrored.endsLike
    (FunctionDef.relabel_eq_self fixesNames_unchanged _ (keeps_unchanged _))

end

/-- Hidden bindings never matter.  From two states with the same view, whatever their
depths and hidden bindings, the check of any statement, block or function has the same
outcome and leaves the same annotations, and the states have the same view afterwards. -/
theorem Checker.hidden_bindings_never_matter {checker other : Checker}
    (same : checker.SameView other) :
    (∀ stmt : Stmt, (stmt.check checker).EndsLike (stmt.check other)) ∧
      (∀ body : List Stmt, (checker.checkBlock body).EndsLike (other.checkBlock body)) ∧
      ∀ definition : FunctionDef,
        (definition.check checker).EndsLike (definition.check other) :=
  ⟨Stmt.endsLike_check same, Checker.endsLike_checkBlock same,
    FunctionDef.endsLike_check same⟩

/-- A state in a function, with a variable of the function and a class around it. -/
def shallowChecker : Checker :=
  ⟨[Table.insert ∅ "total" (.ofVariable .int),
    Table.insert ∅ "Box" (.ofClass { fields := [("size", .int), ("full", .bool)] })],
    [.int]⟩

/-- The same view from one scope deeper.  The fields of the class were declared in another
order.  The scopes around bind the same names again, to other things, and belong to
functions with other return types. -/
def deepChecker : Checker :=
  ⟨[Table.insert ∅ "total" (.ofVariable .int),
    Table.insert
      (Table.insert ∅ "Box" (.ofClass { fields := [("full", .bool), ("size", .int)] }))
      "total" (.ofVariable .bool),
    Table.insert (Table.insert ∅ "Box" (.ofVariable .none)) "total"
      (.ofFunction ⟨[], .none⟩)],
    [.int, .bool, .none]⟩

theorem shallowChecker_sameView_deepChecker : shallowChecker.SameView deepChecker where
  active := List.cons_ne_nil _ _
  otherActive := List.cons_ne_nil _ _
  lookup := by
    intro name
    by_cases total : name = "total"
    · subst total
      exact .some (.ofVariable .int)
    by_cases box : name = "Box"
    · subst box
      apply Option.Rel.some
      apply Symbol.SameView.ofClass
      · intro field
        by_cases size : field = "size"
        · subst size
          rfl
        by_cases full : field = "full"
        · subst full
          rfl
        · simp only [Members.field?, List.lookup_cons, beq_eq_false_iff_ne.mpr size,
            beq_eq_false_iff_ne.mpr full]
      · exact fun _ => rfl
    · simp only [deepChecker, shallowChecker, Scopes.lookup?, List.findSome?_cons,
        List.findSome?_nil, Table.get?_insert, Table.get?_empty, total, box, if_false]
      exact .none
  taken := fun _ => rfl
  expected := rfl

/-- A function with a variable of its own that has the name of the one outside. -/
def sizeFunction : FunctionDef :=
  let mark : Mark := { span := .null }
  { span := .null, name := "size", params := [⟨"box", .object "Box"⟩], returnType := .int
    body :=
      [.varDecl ⟨.null, "total", .bool, .literal mark (.boolean true)⟩,
      .returnValue .null (.field mark (.name mark "box") "size")] }

/-- At both depths the variable may be returned and the function passes, but the block of
the function may not declare the variable a second time. -/
theorem shallowChecker_interchangeable :
    let returned : Stmt := .returnValue .null (.name { span := .null } "total")
    let again : List Stmt :=
      [.varDecl ⟨.null, "total", .int, .literal { span := .null } (.number 1)⟩]
    shallowChecker.SameView deepChecker ∧
      shallowChecker.scopes.depth = 2 ∧ deepChecker.scopes.depth = 3 ∧
      ((returned.check shallowChecker).EndsLike (returned.check deepChecker) ∧
        (returned.check deepChecker).outcome = .ok ()) ∧
      ((shallowChecker.checkBlock again).EndsLike (deepChecker.checkBlock again) ∧
        (deepChecker.checkBlock again).outcome = .error (.rejected
          { cause := .duplicateDefinition "total", position := .null })) ∧
      (sizeFunction.check shallowChecker).EndsLike (sizeFunction.check deepChecker) ∧
        (sizeFunction.check deepChecker).outcome = .ok () := by
  have same := shallowChecker_sameView_deepChecker
  rcases Checker.hidden_bindings_never_matter same with ⟨statements, blocks, functions⟩
  exact ⟨same, rfl, rfl, ⟨statements _, rfl⟩, ⟨blocks _, rfl⟩, functions _, rfl⟩

end SlotLang
