import SlotLang.Proofs.Check.Relabel.Expr

/-!
# Relabelled programs are checked alike

The check of a relabelled block mirrors that of the block, from any two states that are
alike.  So a program passes with its annotated tree exactly if the relabelled program
passes with the relabelled tree, and otherwise both are refused for the same kind of
fault at corresponding positions.
-/

namespace SlotLang

variable {labels : Relabelling}

/-! ## Declarations -/

theorem FunctionDef.mirrored_expectHeader {scopes others : Scopes}
    (agree : scopes.Agree labels others) (definition : FunctionDef) :
    Mirrored labels.Blames id (definition.expectHeader scopes)
      ((definition.relabel labels).expectHeader others) := by
  rcases definition with ⟨span, name, params, returnType, body⟩
  have types : (params.map (Param.relabel labels)).map Param.type ++
      [returnType.relabel labels] =
        (params.map Param.type ++ [returnType]).map (Ty.relabel labels) := by
    simp [Param.relabel]
  have isNone : returnType.relabel labels = .none ↔ returnType = .none :=
    @Ty.relabel_inj labels returnType .none
  unfold expectHeader
  simp only [FunctionDef.relabel, start, types]
  apply (Scopes.mirrored_resolveAll agree _ _).bind
  intro _
  simp only [expectReturns, isNone, Stmt.blockReturns_relabelAll]
  split
  · exact .ok rfl
  · exact .error ⟨rfl, rfl, fun fixes => by rw [fixes]⟩

theorem Members.contains_relabel (members : Members) (name : String) :
    (members.relabel labels).contains (labels.name name) = members.contains name := by
  simp only [contains, field?_relabel, method?_relabel, Option.isSome_map]

/-- Relabelled entries are added as the entries are. -/
theorem Members.mirrored_addAll {α : Type} {name : α → String} {position : α → Position}
    {extend : Members → List α → Members} {convert : α → α}
    (named : ∀ entry, name (convert entry) = labels.name (name entry))
    (placed : ∀ entry, position (convert entry) = labels.start (position entry))
    (extended : ∀ members entry, extend (members.relabel labels) [convert entry] =
      (extend members [entry]).relabel labels)
    (members : Members) (entries : List α) :
    Mirrored labels.Blames (Members.relabel labels)
      (addAll name position extend members entries)
      (addAll name position extend (members.relabel labels) (entries.map convert)) := by
  induction entries generalizing members with
  | nil => exact .ok rfl
  | cons entry later inductionHypothesis =>
      simp only [List.map_cons, addAll, named, placed, contains_relabel]
      cases members.contains (name entry) with
      | true => exact .error ⟨rfl, rfl, fun fixes => by rw [fixes]⟩
      | false =>
          simp only [Bool.false_eq_true, if_false, extended]
          exact inductionHypothesis _

theorem ClassDef.mirrored_members (definition : ClassDef) :
    Mirrored labels.Blames (Members.relabel labels) definition.members
      (definition.relabel labels).members := by
  rcases definition with ⟨span, name, fields, methods⟩
  have fieldsAdded : Mirrored labels.Blames (Members.relabel labels)
      (Members.addFields {} fields)
      (Members.addFields {} (fields.map (VarDecl.relabel labels))) := by
    apply Members.mirrored_addAll
    · exact fun _ => rfl
    · exact fun _ => rfl
    · intro members field
      simp [Members.withFields, Members.relabel, VarDecl.relabel]
  have methodsAdded : ∀ members : Members, Mirrored labels.Blames (Members.relabel labels)
      (members.addMethods methods)
      ((members.relabel labels).addMethods (FunctionDef.relabelAll labels methods)) := by
    intro members
    rw [FunctionDef.relabelAll_eq_map]
    apply Members.mirrored_addAll
    · exact FunctionDef.name_relabel labels
    · intro method
      rw [FunctionDef.span_relabel]
      rfl
    · intro members method
      simp [Members.withMethods, Members.relabel]
  exact fieldsAdded.bind methodsAdded

theorem mirrored_expectDeclarationsFirst (body : List Stmt) :
    Mirrored labels.Blames id (expectDeclarationsFirst body)
      (expectDeclarationsFirst (Stmt.relabelAll labels body)) := by
  have blind : Stmt.isDeclaration ∘ Stmt.relabel labels = Stmt.isDeclaration := by
    funext stmt
    exact stmt.isDeclaration_relabel labels
  have late : lateDeclaration? (Stmt.relabelAll labels body) =
      (lateDeclaration? body).map (Stmt.relabel labels) := by
    rw [lateDeclaration?, Stmt.relabelAll_eq_map, List.dropWhile_map, List.find?_map, blind,
      lateDeclaration?]
  unfold expectDeclarationsFirst
  rw [late]
  cases found : lateDeclaration? body with
  | none => exact .ok rfl
  | some stmt =>
      refine .error ⟨?_, rfl, fun fixes => ?_⟩
      · simp only [Stmt.start, Stmt.span_relabel]
        rfl
      · rw [Stmt.declaredName?_relabel]
        cases stmt.declaredName? with
        | none => rfl
        | some name => simp only [Option.map_some, Option.getD_some, fixes name]

namespace Checker

variable {checker other : Checker}

theorem mirrored_declare (alike : checker.Alike labels other) (stmt : Stmt) :
    Checked.Mirrored labels id (checker.declare stmt)
      (other.declare (stmt.relabel labels)) := by
  cases stmt with
  | varDecl declaration => exact mirrored_define alike _ _ _
  | functionDef definition =>
      have defined := mirrored_define alike definition.name
        (.ofFunction definition.signature) definition.span.start
      rw [Stmt.relabel]
      simp only [declare, FunctionDef.name_relabel, FunctionDef.signature_relabel,
        FunctionDef.span_relabel]
      exact defined
  | classDef definition =>
      rw [Stmt.relabel]
      simp only [declare, ClassDef.name_relabel, ClassDef.span_relabel]
      have members := @ClassDef.mirrored_members labels definition
      generalize definition.members = found, (definition.relabel labels).members = otherFound
        at members ⊢
      cases members with
      | ok same =>
          subst same
          exact mirrored_define alike _ _ _
      | error blamed => exact .rejected alike rfl blamed
  | _ => exact .done alike rfl

theorem mirrored_declareAll (alike : checker.Alike labels other) (body : List Stmt) :
    Checked.Mirrored labels id (checker.declareAll body)
      (other.declareAll (Stmt.relabelAll labels body)) := by
  induction body generalizing checker other with
  | nil => exact .done alike rfl
  | cons stmt later inductionHypothesis =>
      exact (mirrored_declare alike stmt).followedBy rfl inductionHypothesis

theorem mirrored_declareParams (alike : checker.Alike labels other) (position : Position)
    (params : List Param) :
    Checked.Mirrored labels id (checker.declareParams position params)
      (other.declareParams (labels.start position) (params.map (Param.relabel labels))) := by
  induction params generalizing checker other with
  | nil => exact .done alike rfl
  | cons param later inductionHypothesis =>
      exact (mirrored_define alike _ _ _).followedBy rfl inductionHypothesis

theorem mirrored_openBlock (alike : checker.Alike labels other) (body : List Stmt) :
    Checked.Mirrored labels id (checker.openBlock body)
      (other.openBlock (Stmt.relabelAll labels body)) := by
  have ordered := @mirrored_expectDeclarationsFirst labels body
  unfold openBlock
  generalize expectDeclarationsFirst body = order,
    expectDeclarationsFirst (Stmt.relabelAll labels body) = otherOrder at ordered ⊢
  cases ordered with
  | ok => exact mirrored_declareAll alike body
  | error blamed => exact .rejected alike rfl blamed

/-! ## Blocks and functions -/

section

variable {body : List Stmt}
  (statements : ∀ {checker other : Checker}, checker.Alike labels other →
    Checked.Mirrored labels (Stmt.relabelAll labels) (Stmt.checkAll checker body)
      (Stmt.checkAll other (Stmt.relabelAll labels body)))

include statements

theorem mirrored_checkBlock (alike : checker.Alike labels other) :
    Checked.Mirrored labels (Stmt.relabelAll labels) (checker.checkBlock body)
      (other.checkBlock (Stmt.relabelAll labels body)) :=
  (mirrored_openBlock alike body).followedBy rfl statements

theorem mirrored_checkGuarded (alike : checker.Alike labels other) (condition : Expr) :
    Checked.Mirrored labels (Prod.map (Expr.relabel labels) (Stmt.relabelAll labels))
      (checker.checkGuarded (condition, body))
      (other.checkGuarded (condition.relabel labels, Stmt.relabelAll labels body)) :=
  (Checked.Mirrored.ofAnnotated alike
    (condition.mirrored_checkCondition alike.agree)).andThen rfl
      (mirrored_checkBlock statements)

/-- The body of a function is checked in a scope that is gone afterwards, so the states
are alike again. -/
theorem mirrored_inBody (alike : checker.Alike labels other) (definition : FunctionDef) :
    Checked.Mirrored labels (Stmt.relabelAll labels) (checker.inBody definition body)
      (other.inBody (definition.relabel labels) (Stmt.relabelAll labels body)) := by
  rcases inBody_of_inside checker definition body with ⟨outcome, -, state⟩
  rcases inBody_of_inside other (definition.relabel labels) (Stmt.relabelAll labels body) with
    ⟨otherOutcome, -, otherState⟩
  have inside : Checked.Mirrored labels (Stmt.relabelAll labels)
      (checkInside definition body
        ⟨∅ :: checker.scopes, definition.returnType :: checker.returnTypes⟩)
      (checkInside (definition.relabel labels) (Stmt.relabelAll labels body)
        ⟨∅ :: other.scopes,
          (definition.relabel labels).returnType :: other.returnTypes⟩) := by
    rcases definition with ⟨span, name, params, returnType, _⟩
    exact (mirrored_declareParams (alike.enter returnType) span.start params).followedBy rfl
      (mirrored_checkBlock statements)
  constructor
  · exact inside.tree
  · rw [outcome, otherOutcome]
    exact inside.outcome
  · rw [state, otherState]
    exact alike

end

end Checker

/-! ## Statements -/

mutual

/-- The check of a relabelled statement mirrors that of the statement. -/
theorem Stmt.mirrored_check {checker other : Checker} (alike : checker.Alike labels other)
    (stmt : Stmt) :
    Checked.Mirrored labels (Stmt.relabel labels) (stmt.check checker)
      ((stmt.relabel labels).check other) := by
  cases stmt with
  | varDecl declaration =>
      have parts := Checked.Mirrored.ofAnnotated alike (declaration.mirrored_check alike.agree)
      rw [Stmt.check, Stmt.relabel, Stmt.check]
      exact parts.map fun _ => rfl
  | functionDef definition =>
      have parts := FunctionDef.mirrored_check alike definition
      rw [Stmt.check, Stmt.relabel, Stmt.check]
      exact parts.map fun _ => rfl
  | classDef definition =>
      have parts := ClassDef.mirrored_check alike definition
      rw [Stmt.check, Stmt.relabel, Stmt.check]
      exact parts.map fun _ => rfl
  | assign span target value =>
      have parts := Checked.Mirrored.ofAnnotated alike
        (Expr.mirrored_checkAssignment alike.agree target value)
      rw [Stmt.check, Stmt.relabel, Stmt.check]
      exact parts.map fun _ => rfl
  | branch span condition body rest =>
      rw [Stmt.check_branch, Stmt.relabel, Stmt.check_branch]
      apply Checked.Mirrored.map
      · apply (Checker.mirrored_checkGuarded
          (fun alike => Stmt.mirrored_checkAll alike body) alike condition).andThen rfl
        intro _ _ alike
        exact Alternatives.mirrored_check alike rest
      · exact fun _ => rfl
  | loop span condition body =>
      have parts := Checker.mirrored_checkGuarded
        (fun alike => Stmt.mirrored_checkAll alike body) alike condition
      rw [Stmt.check_loop, Stmt.relabel, Stmt.check_loop]
      exact parts.map fun _ => rfl
  | pass span =>
      rw [Stmt.check, Stmt.relabel, Stmt.check]
      exact .done alike rfl
  | returnValue span value =>
      have parts := Checked.Mirrored.ofAnnotated alike
        (value.mirrored_checkReturn alike.agree checker.expectedReturn)
      rw [← alike.expected] at parts
      rw [Stmt.check, Stmt.relabel, Stmt.check]
      exact parts.map fun _ => rfl
  | evaluate span value =>
      rw [Stmt.check, Stmt.relabel, Stmt.check]
      apply Checked.Mirrored.map
      · apply Checked.Mirrored.ofAnnotated alike
        exact (value.mirrored_check alike.agree).require fun _ => .ok rfl
      · exact fun _ => rfl
termination_by structural stmt

theorem FunctionDef.mirrored_check {checker other : Checker}
    (alike : checker.Alike labels other) (definition : FunctionDef) :
    Checked.Mirrored labels (FunctionDef.relabel labels) (definition.check checker)
      ((definition.relabel labels).check other) := by
  cases definition with
  | mk span name params returnType body =>
      have headers := FunctionDef.mirrored_expectHeader alike.agree
        ⟨span, name, params, returnType, body⟩
      have inside := Checker.mirrored_inBody
        (fun alike => Stmt.mirrored_checkAll alike body) alike
        ⟨span, name, params, returnType, body⟩
      rw [FunctionDef.check_eq, FunctionDef.check_eq]
      exact (Checked.Mirrored.provided headers alike rfl inside).map fun _ => rfl
termination_by structural definition

theorem ClassDef.mirrored_check {checker other : Checker}
    (alike : checker.Alike labels other) (definition : ClassDef) :
    Checked.Mirrored labels (ClassDef.relabel labels) (definition.check checker)
      ((definition.relabel labels).check other) := by
  cases definition with
  | mk span name fields methods =>
      rw [ClassDef.check, ClassDef.relabel, ClassDef.check]
      apply Checked.Mirrored.map
      · apply (Checked.Mirrored.ofAnnotated alike
          (VarDecl.mirrored_checkAll alike.agree fields)).andThen rfl
        intro _ _ alike
        exact FunctionDef.mirrored_checkAll alike methods
      · exact fun _ => rfl
termination_by structural definition

theorem FunctionDef.mirrored_checkAll {checker other : Checker}
    (alike : checker.Alike labels other) (definitions : List FunctionDef) :
    Checked.Mirrored labels (FunctionDef.relabelAll labels)
      (FunctionDef.checkAll checker definitions)
      (FunctionDef.checkAll other (FunctionDef.relabelAll labels definitions)) := by
  cases definitions with
  | nil =>
      rw [FunctionDef.relabelAll, FunctionDef.checkAll, FunctionDef.checkAll]
      exact .done alike rfl
  | cons definition later =>
      rw [FunctionDef.relabelAll, FunctionDef.checkAll, FunctionDef.checkAll]
      apply Checked.Mirrored.map
      · apply (FunctionDef.mirrored_check alike definition).andThen rfl
        intro _ _ alike
        exact FunctionDef.mirrored_checkAll alike later
      · exact fun _ => rfl
termination_by structural definitions

theorem Alternatives.mirrored_check {checker other : Checker}
    (alike : checker.Alike labels other) (rest : Alternatives) :
    Checked.Mirrored labels (Alternatives.relabel labels) (rest.check checker)
      ((rest.relabel labels).check other) := by
  cases rest with
  | elif condition body rest =>
      rw [Alternatives.check_elif, Alternatives.relabel, Alternatives.check_elif]
      apply Checked.Mirrored.map
      · apply (Checker.mirrored_checkGuarded
          (fun alike => Stmt.mirrored_checkAll alike body) alike condition).andThen rfl
        intro _ _ alike
        exact Alternatives.mirrored_check alike rest
      · exact fun _ => rfl
  | otherwise body =>
      have block := Checker.mirrored_checkBlock
        (fun alike => Stmt.mirrored_checkAll alike body) alike
      rw [Alternatives.check_otherwise, Alternatives.relabel, Alternatives.check_otherwise]
      exact block.map fun _ => rfl
termination_by structural rest

theorem Stmt.mirrored_checkAll {checker other : Checker}
    (alike : checker.Alike labels other) (body : List Stmt) :
    Checked.Mirrored labels (Stmt.relabelAll labels) (Stmt.checkAll checker body)
      (Stmt.checkAll other (Stmt.relabelAll labels body)) := by
  cases body with
  | nil =>
      rw [Stmt.relabelAll, Stmt.checkAll, Stmt.checkAll]
      exact .done alike rfl
  | cons stmt later =>
      rw [Stmt.relabelAll, Stmt.checkAll, Stmt.checkAll]
      apply Checked.Mirrored.map
      · apply (Stmt.mirrored_check alike stmt).andThen rfl
        intro _ _ alike
        exact Stmt.mirrored_checkAll alike later
      · exact fun _ => rfl
termination_by structural body

end

/-! ## Programs -/

/-- The check of a relabelled program mirrors that of the program. -/
theorem Program.mirrored_typed (labels : Relabelling) (program : Program) :
    Mirrored labels.Rejects (Stmt.relabelAll labels) program.typed
      (Program.typed (Stmt.relabelAll labels program)) := by
  have start : Checker.Alike labels ⟨[∅], []⟩ ⟨[∅], []⟩ :=
    { agree := fun _ => .none
      taken := fun _ => rfl
      active := List.cons_ne_nil _ _
      otherActive := List.cons_ne_nil _ _
      expected := rfl }
  have block := Checker.mirrored_checkBlock
    (fun alike => Stmt.mirrored_checkAll alike program) start
  exact block.outcome.map fun _ => block.tree

end SlotLang
