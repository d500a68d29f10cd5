import SlotLang.Proofs.Check.Congruence

/-!
# Scope discipline

However a check ends, it closes every scope that it has opened and forgets every
return type that it has pushed.  A statement or a block may leave new names in the
innermost frame, next to the old ones; a function leaves nothing at all.  No check
that starts with an active scope misuses the scopes, and a function may even be
checked without one.
-/

namespace SlotLang

/-! ## Checks in a scope -/

/-- Work is disciplined from every state with an active scope. -/
def discipline : CheckProperty where
  Check _ _ := True
  Work work tree := Checker.Disciplines fun checker => work checker tree

theorem discipline_congruence : discipline.Congruence where
  check_congr _ _ := trivial
  plain _ := trivial
  map _ _ _ _ := trivial
  require _ _ := trivial
  after _ _ := trivial
  andThen _ _ := trivial
  settle _ _ _ _ := trivial
  work_congr holds agree := by
    intro frame outer returnTypes
    dsimp only
    rw [agree _ _ rfl]
    exact holds frame outer returnTypes
  done _ _ _ := Checked.disciplined_done ()
  ofAnnotated _ _ _ _ := Checked.disciplined_ofAnnotated _
  work_map rebuild holds _ unfolds := by
    intro frame outer returnTypes
    dsimp only
    rw [unfolds]
    exact (holds frame outer returnTypes).map rebuild
  work_andThen holds laterHolds frame outer returnTypes :=
    (holds frame outer returnTypes).andThen _ fun left => laterHolds left outer returnTypes
  followedBy prepared holds frame outer returnTypes :=
    (prepared frame outer returnTypes).followedBy _ fun left => holds left outer returnTypes
  provided condition holds := by
    intro frame outer returnTypes
    dsimp only
    cases condition ⟨frame :: outer, returnTypes⟩ with
    | error => exact Checked.disciplined_of_unchanged (Checked.proper_of_rejected rfl) rfl
    | ok => exact holds frame outer returnTypes
  withScope holds := Checker.Disciplines.withScope holds
  expecting returnType holds := Checker.Disciplines.expecting returnType holds

theorem Stmt.disciplined_check {frame : Frame} {outer : Scopes} {returnTypes : List Ty}
    (stmt : Stmt) :
    (stmt.check ⟨frame :: outer, returnTypes⟩).Disciplined frame outer returnTypes :=
  discipline_congruence.work_stmt stmt frame outer returnTypes

theorem Checker.disciplined_checkBlock {frame : Frame} {outer : Scopes}
    {returnTypes : List Ty} (body : List Stmt) :
    (Checker.checkBlock ⟨frame :: outer, returnTypes⟩ body).Disciplined frame outer
      returnTypes :=
  discipline_congruence.work_checkBlock (discipline_congruence.work_block body) frame outer
    returnTypes

/-! ## Functions -/

/-- The scope around the body of a function is closed again however the check ends. -/
theorem Checker.inBody_of_inside (checker : Checker) (definition : FunctionDef)
    (body : List Stmt) :
    (checker.inBody definition body).outcome =
        (checkInside definition body
          ⟨∅ :: checker.scopes, definition.returnType :: checker.returnTypes⟩).outcome ∧
      (checker.inBody definition body).Proper ∧
        (checker.inBody definition body).checker = checker := by
  have inside : (checkInside definition body
      ⟨∅ :: checker.scopes, definition.returnType :: checker.returnTypes⟩).Disciplined ∅
        checker.scopes (definition.returnType :: checker.returnTypes) := by
    apply (disciplines_declareParams _ _ _ _ _).followedBy
    intro params
    exact disciplined_checkBlock body
  have outside := withScope_of_disciplined (checkInside definition body) inside
  constructor
  · exact outside.1
  constructor
  · intro misuse misused
    exact inside.proper misuse (outside.1.symm.trans misused)
  · change Checker.mk (withScope _ (checkInside definition body)).checker.scopes
      (withScope _ (checkInside definition body)).checker.returnTypes.tail = checker
    rw [outside.2, List.tail_cons]

/-- The check of a function is proper and leaves the state as it was, whatever the
state and however the check ends. -/
theorem FunctionDef.check_unchanged (checker : Checker) (definition : FunctionDef) :
    (definition.check checker).Proper ∧ (definition.check checker).checker = checker := by
  cases header : definition.expectHeader checker.scopes with
  | error =>
      rw [check_of_header_error header]
      exact ⟨Checked.proper_of_rejected rfl, rfl⟩
  | ok =>
      rw [check_of_header header]
      exact (checker.inBody_of_inside definition definition.body).2

/-! ## Programs -/

/-- A call of a method is granted only if the method has a receiver, so there is a
first parameter to leave out when the arguments are compared with the rest. -/
theorem Scopes.receiver_of_methodRule {scopes : Scopes} {member : String} {count : Nat}
    {position : Position} {object : Ty} {rule : CallRule}
    (ruled : scopes.methodRule member count position object = .ok rule) :
    ∃ className members receiver params returnType,
      object = .object className ∧ scopes.lookup? className = some (.ofClass members) ∧
        members.method? member = some ⟨receiver :: params, returnType⟩ ∧
          rule = ⟨params.map some, returnType⟩ := by
  rcases methodRule_eq_ok_iff.mp ruled with
    ⟨className, members, ⟨params, returnType⟩, isObject, bound, declared, count, rfl⟩
  cases params with
  | nil => simp at count
  | cons receiver params =>
      exact ⟨className, members, receiver, params, returnType, isObject, bound, declared, rfl⟩

/-- The check of a program misuses nothing, since it opens a scope first. -/
theorem Program.proper_check (program : Program) : program.check.Proper := by
  have opened : (Checker.checkBlock ⟨[∅], []⟩ program).Disciplined ∅ [] [] :=
    Checker.disciplined_checkBlock program
  exact opened.proper

/-- A program that fails to check is refused. -/
theorem Program.rejected_of_typed_error {program : Program} {failure : Failure}
    (failed : program.typed = .error failure) :
    ∃ diagnostic, failure = .rejected diagnostic := by
  have proper := program.proper_check
  cases failure with
  | rejected diagnostic => exact ⟨diagnostic, rfl⟩
  | misused misuse =>
      unfold Program.typed at failed
      cases outcome : program.check.outcome with
      | error other =>
          simp only [outcome, Except.map, Except.error.injEq] at failed
          rw [failed] at outcome
          exact absurd outcome (proper misuse)
      | ok => simp [outcome, Except.map] at failed

/-- Scope discipline on every path.  With an active scope, statements and blocks are
checked without a misuse, and at most add names to the innermost frame.  Functions are
checked without a misuse from any state and leave it exactly as it was.  A parameter
list is cut behind its receiver only if it has one.  So no program is misused. -/
theorem Checker.scope_discipline :
    (∀ (frame : Frame) (outer : Scopes) (returnTypes : List Ty),
      (∀ stmt : Stmt,
        (stmt.check ⟨frame :: outer, returnTypes⟩).Disciplined frame outer returnTypes) ∧
      ∀ body : List Stmt,
        (Checker.checkBlock ⟨frame :: outer, returnTypes⟩ body).Disciplined frame outer
          returnTypes) ∧
    (∀ (checker : Checker) (definition : FunctionDef),
      (definition.check checker).Proper ∧ (definition.check checker).checker = checker) ∧
    (∀ (scopes : Scopes) (member : String) (count : Nat) (position : Position)
      (object : Ty) (rule : CallRule),
      scopes.methodRule member count position object = .ok rule →
        ∃ className members receiver params returnType,
          object = .object className ∧ scopes.lookup? className = some (.ofClass members) ∧
            members.method? member = some ⟨receiver :: params, returnType⟩ ∧
              rule = ⟨params.map some, returnType⟩) ∧
    ∀ (program : Program) (misuse : Misuse), program.typed ≠ .error (.misused misuse) := by
  constructor
  · intro frame outer returnTypes
    constructor
    · intro stmt
      exact Stmt.disciplined_check stmt
    · intro body
      exact Checker.disciplined_checkBlock body
  constructor
  · intro checker definition
    exact FunctionDef.check_unchanged checker definition
  constructor
  · intro scopes member count position object rule ruled
    exact Scopes.receiver_of_methodRule ruled
  · intro program misuse misused
    rcases Program.rejected_of_typed_error misused with ⟨diagnostic, rejected⟩
    cases rejected

/-- A function whose fault lies in a function in a method in a class in its body. -/
def buriedFault : FunctionDef :=
  let inner : FunctionDef :=
    { span := .null, name := "inner", params := [], returnType := .none
      body := [.evaluate .null (.name { span := .null } "missing")] }
  let method : FunctionDef :=
    { span := .null, name := "method", params := [⟨"self", .object "Box"⟩]
      returnType := .none, body := [.functionDef inner] }
  { span := .null, name := "outer", params := [⟨"self", .int⟩], returnType := .none
    body := [.classDef ⟨.null, "Box", [], [method]⟩] }

/-- Scopes with a class that has a method of two parameters. -/
def boxScopes : Scopes :=
  [Table.insert ∅ "Box"
    (.ofClass { methods := [("put", ⟨[.object "Box", .int], .none⟩)] })]

/-- The fault is found three scopes deep, and all three are gone afterwards. -/
theorem buriedFault_leaves_no_scope :
    ((buriedFault.check {}).outcome = .error (.rejected
        { cause := .badName "missing" .notDefined, position := .null }) ∧
      (buriedFault.check {}).checker = {}) ∧
    boxScopes.methodRule "put" 1 .null (.object "Box") = .ok ⟨[some .int], .none⟩ ∧
      ∃ className members receiver params returnType,
        Ty.object "Box" = .object className ∧
          boxScopes.lookup? className = some (.ofClass members) ∧
            members.method? "put" = some ⟨receiver :: params, returnType⟩ ∧
              (⟨[some .int], .none⟩ : CallRule) = ⟨params.map some, returnType⟩ := by
  have ruled : boxScopes.methodRule "put" 1 .null (.object "Box") =
      .ok ⟨[some .int], .none⟩ := by rfl
  rcases Checker.scope_discipline with ⟨-, functions, methods, -⟩
  exact ⟨⟨rfl, (functions {} buriedFault).2⟩, ruled,
    methods boxScopes "put" 1 .null (.object "Box") _ ruled⟩

end SlotLang
