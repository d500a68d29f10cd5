import SlotLang.Proofs.Check.Annotation
import SlotLang.Proofs.Check.Outline
import SlotLang.Proofs.Typing.Sites

/-!
# A checked tree fits together

After a check that succeeds every node carries a type, and at every place of the tree
the types fit: the type of a node follows from the types of its children by the rule of
its construct, targets and values of assignments agree, conditions are truth values, and
what a function returns is what it declares.
-/

namespace SlotLang

/-! ## Places that fit -/

/-- The type slot of an expression holds the type. -/
def Expr.Carries (expr : Expr) (type : Ty) : Prop :=
  expr.type? = some type

/-- The types that meet at a place fit. -/
def Site.Fits : Site → Prop
  | .node scopes expr =>
      ∃ type, expr.Carries type ∧ expr.Follows Expr.Carries scopes type
  | .initial declared value =>
      ∃ type, value.Carries type ∧
        (declared = type ∨ (∃ className, declared = .object className) ∧ type = .none)
  | .assignment target value => ∃ type, target.Carries type ∧ value.Carries type
  | .condition value => value.Carries .bool
  | .result expected value => value.Carries expected

/-- All places of a list fit. -/
def Site.AllFit (sites : List Site) : Prop :=
  ∀ site ∈ sites, site.Fits

theorem Site.allFit_cons {site : Site} {later : List Site} (first : site.Fits)
    (rest : Site.AllFit later) : Site.AllFit (site :: later) :=
  List.forall_mem_cons.mpr ⟨first, rest⟩

theorem Site.allFit_append {first later : List Site} (firstFit : Site.AllFit first)
    (laterFit : Site.AllFit later) : Site.AllFit (first ++ later) :=
  List.forall_mem_append.mpr ⟨firstFit, laterFit⟩

/-! ## Expressions -/

/-- A slot that holds some type of an expression holds every type of it. -/
theorem Expr.Labelled.carries {scopes : Scopes} {expr : Expr} {type : Ty}
    (labelled : expr.Labelled scopes) (typed : expr.HasType scopes type) :
    expr.Carries type := by
  rcases labelled with ⟨slot, filled, slotTyped⟩
  rw [← expr.hasType_unique slotTyped typed]
  exact filled

/-- Nodes fit together if each is labelled with a type of its own. -/
theorem Expr.allFit_of_labelled {scopes : Scopes} {expr : Expr}
    (labelled : ∀ part ∈ expr.preorder, part.Labelled scopes) :
    Site.AllFit (expr.sites scopes) := by
  intro site member
  rcases List.mem_map.mp member with ⟨part, inside, rfl⟩
  rcases labelled part inside with ⟨type, filled, typed⟩
  refine ⟨type, filled, typed.follows.imp ?_⟩
  -- A child has the type that the rule asks for, and its slot holds a type that it has;
  -- since types are unique, these are the same.
  intro child isChild childType childTyped
  have within := expr.preorder_subset inside (part.children_subset_preorder isChild)
  exact (labelled child within).carries childTyped

theorem Expr.allFit_check {scopes : Scopes} {expr : Expr} {type : Ty}
    (passed : (expr.check scopes).result = .ok type) :
    Site.AllFit ((expr.check scopes).tree.sites scopes) :=
  Expr.allFit_of_labelled (Expr.forall_labelled_check expr passed)

theorem Expr.fits_checkCondition {scopes : Scopes} {condition : Expr}
    (passed : (condition.checkCondition scopes).result = .ok ()) :
    Site.AllFit (.condition (condition.checkCondition scopes).tree ::
      (condition.checkCondition scopes).tree.sites scopes) := by
  rcases Annotated.require_eq_ok_iff.mp passed with ⟨type, checked, isBool⟩
  cases expectType_eq_ok_iff.mp isBool
  exact Site.allFit_cons (Expr.type?_check checked) (Expr.allFit_check checked)

theorem Expr.fits_checkReturn {scopes : Scopes} {expected : Ty} {value : Expr}
    (passed : (value.checkReturn scopes expected).result = .ok ()) :
    Site.AllFit (.result expected (value.checkReturn scopes expected).tree ::
      (value.checkReturn scopes expected).tree.sites scopes) := by
  rcases Annotated.require_eq_ok_iff.mp passed with ⟨type, checked, asExpected⟩
  cases expectType_eq_ok_iff.mp asExpected
  exact Site.allFit_cons (Expr.type?_check checked) (Expr.allFit_check checked)

theorem Expr.fits_checkAssignment {scopes : Scopes} {target value : Expr}
    (passed : (Expr.checkAssignment scopes target value).result = .ok ()) :
    Site.AllFit (.assignment (Expr.checkAssignment scopes target value).tree.1
        (Expr.checkAssignment scopes target value).tree.2 ::
      ((Expr.checkAssignment scopes target value).tree.1.sites scopes ++
        (Expr.checkAssignment scopes target value).tree.2.sites scopes)) := by
  rw [Expr.checkAssignment_eq] at passed ⊢
  rcases Annotated.after_eq_ok_iff.mp passed with ⟨_, assignable, partsPassed⟩
  rcases Annotated.andThen_eq_ok_iff.mp partsPassed with
    ⟨valueType, valuePassed, targetPassed⟩
  rcases Annotated.require_eq_ok_iff.mp targetPassed with ⟨targetType, targetPassed, same⟩
  cases expectType_eq_ok_iff.mp same
  rw [Annotated.after_tree assignable, Annotated.map_tree, Annotated.andThen_tree_fst,
    Annotated.andThen_tree_snd valuePassed, Annotated.require_tree]
  apply Site.allFit_cons
  · exact ⟨valueType, Expr.type?_check targetPassed, Expr.type?_check valuePassed⟩
  · exact Site.allFit_append (Expr.allFit_check targetPassed) (Expr.allFit_check valuePassed)

/-! ## Declarations -/

theorem VarDecl.fits_check {scopes : Scopes} {declaration : VarDecl}
    (passed : (declaration.check scopes).result = .ok ()) :
    Site.AllFit ((declaration.check scopes).tree.sites scopes) := by
  rw [VarDecl.check, Annotated.map_result] at passed
  rcases Annotated.after_eq_ok_iff.mp passed with ⟨_, header, valuePassed⟩
  rcases Annotated.require_eq_ok_iff.mp valuePassed with ⟨type, valuePassed, accepted⟩
  have suits := VarDecl.expectAccepted_eq_ok_iff.mp accepted
  rw [VarDecl.check, Annotated.map_tree, Annotated.after_tree header,
    Annotated.require_tree]
  apply Site.allFit_cons
  · exact ⟨type, Expr.type?_check valuePassed, suits⟩
  · exact Expr.allFit_check valuePassed

theorem VarDecl.fits_checkAll {scopes : Scopes} {declarations : List VarDecl}
    (passed : (VarDecl.checkAll scopes declarations).result = .ok ()) :
    Site.AllFit ((VarDecl.checkAll scopes declarations).tree.flatMap
      (VarDecl.sites scopes)) := by
  induction declarations with
  | nil => exact fun site member => absurd member List.not_mem_nil
  | cons declaration later inductionHypothesis =>
      rcases Annotated.andThen_eq_ok_iff.mp passed with ⟨_, firstPassed, laterPassed⟩
      rw [VarDecl.checkAll, Annotated.map_tree, Annotated.andThen_tree_fst,
        Annotated.andThen_tree_snd firstPassed, List.flatMap_cons]
      exact Site.allFit_append (VarDecl.fits_check firstPassed)
        (inductionHypothesis laterPassed)

/-! ## What a tree binds -/

theorem Stmt.binding?_erase (stmt : Stmt) : stmt.erase.binding? = stmt.binding? := by
  cases stmt with
  | varDecl declaration => rfl
  | functionDef definition =>
      simp only [Stmt.erase, Stmt.binding?, FunctionDef.name_erase,
        FunctionDef.signature_erase]
  | classDef definition =>
      rcases definition with ⟨span, name, fields, methods⟩
      simp [Stmt.erase, ClassDef.erase, Stmt.binding?, FunctionDef.eraseAll_eq_map,
        VarDecl.erase, FunctionDef.signature_erase]
  | _ => rfl

theorem Stmt.filterMap_binding?_eraseAll (body : List Stmt) :
    (Stmt.eraseAll body).filterMap Stmt.binding? = body.filterMap Stmt.binding? := by
  have blind : Stmt.binding? ∘ Stmt.erase = Stmt.binding? := by
    funext stmt
    exact stmt.binding?_erase
  rw [Stmt.eraseAll_eq_map, List.filterMap_map, blind]

mutual

theorem Stmt.bindings_erase (stmt : Stmt) : stmt.erase.bindings = stmt.bindings := by
  cases stmt with
  | branch span condition body rest =>
      rw [Stmt.erase, Stmt.bindings, Stmt.filterMap_binding?_eraseAll,
        Stmt.bindingsAll_eraseAll body, Alternatives.bindings_erase rest, Stmt.bindings]
  | loop span condition body =>
      rw [Stmt.erase, Stmt.bindings, Stmt.filterMap_binding?_eraseAll,
        Stmt.bindingsAll_eraseAll body, Stmt.bindings]
  | _ => rfl
termination_by structural stmt

theorem Alternatives.bindings_erase (rest : Alternatives) :
    rest.erase.bindings = rest.bindings := by
  cases rest with
  | elif condition body rest =>
      rw [Alternatives.erase, Alternatives.bindings, Stmt.filterMap_binding?_eraseAll,
        Stmt.bindingsAll_eraseAll body, Alternatives.bindings_erase rest,
        Alternatives.bindings]
  | otherwise body =>
      rw [Alternatives.erase, Alternatives.bindings, Stmt.filterMap_binding?_eraseAll,
        Stmt.bindingsAll_eraseAll body, Alternatives.bindings]
termination_by structural rest

theorem Stmt.bindingsAll_eraseAll (body : List Stmt) :
    Stmt.bindingsAll (Stmt.eraseAll body) = Stmt.bindingsAll body := by
  cases body with
  | nil => rfl
  | cons stmt later =>
      rw [Stmt.eraseAll, Stmt.bindingsAll, Stmt.bindings_erase stmt,
        Stmt.bindingsAll_eraseAll later, Stmt.bindingsAll]
termination_by structural body

end

theorem Stmt.bindings_check (checker : Checker) (stmt : Stmt) :
    (stmt.check checker).tree.bindings = stmt.bindings := by
  rw [← Stmt.bindings_erase, Stmt.erase_check, Stmt.bindings_erase]

theorem Checker.filterMap_binding?_checkBlock (checker : Checker) (body : List Stmt) :
    (checker.checkBlock body).tree.filterMap Stmt.binding? =
      body.filterMap Stmt.binding? := by
  rw [← Stmt.filterMap_binding?_eraseAll, eraseAll_checkBlock,
    Stmt.filterMap_binding?_eraseAll]

/-- A check of a block does not change what the block binds. -/
theorem Checker.blockBindings_checkBlock (checker : Checker) (body : List Stmt) :
    Stmt.blockBindings (checker.checkBlock body).tree = Stmt.blockBindings body := by
  rw [Stmt.blockBindings, filterMap_binding?_checkBlock, ← Stmt.bindingsAll_eraseAll,
    eraseAll_checkBlock, Stmt.bindingsAll_eraseAll, Stmt.blockBindings]

/-! ## Blocks and functions -/

section

variable {outer : Scopes} {returnTypes : List Ty} {frame : Frame} {after : Checker}

/-- The statements of a block are checked in the frame with its declarations. -/
theorem Checker.checkAll_of_checkBlock {body : List Stmt}
    (ended : (Checker.checkBlock ⟨frame :: outer, returnTypes⟩ body).EndsIn after) :
    (Stmt.checkAll ⟨frame.extend (body.filterMap Stmt.binding?) :: outer, returnTypes⟩
        body).EndsIn after ∧
      (Checker.checkBlock ⟨frame :: outer, returnTypes⟩ body).tree =
        (Stmt.checkAll ⟨frame.extend (body.filterMap Stmt.binding?) :: outer, returnTypes⟩
          body).tree := by
  rcases Checked.endsIn_followedBy_iff.mp ended with ⟨_, opened, checked⟩
  have tree := Checked.andThen_tree_snd opened body fun checker => Stmt.checkAll checker body
  rcases Checker.endsIn_openBlock_iff.mp opened with ⟨_, _, bound, extending, rfl⟩
  rw [← extending.eq_extend]
  exact ⟨checked, tree⟩

/-- After a statement the innermost frame has the names of the blocks in it. -/
theorem Stmt.after_check {stmt : Stmt}
    (ended : (stmt.check ⟨frame :: outer, returnTypes⟩).EndsIn after) :
    after = ⟨frame.extend stmt.bindings :: outer, returnTypes⟩ := by
  rcases Stmt.wellTyped_of_check stmt ended with ⟨left, rfl, typed⟩
  rw [(Stmt.extends_bindings stmt typed).eq_extend]

theorem Checker.after_checkBlock {body : List Stmt}
    (ended : (Checker.checkBlock ⟨frame :: outer, returnTypes⟩ body).EndsIn after) :
    after = ⟨frame.extend (Stmt.blockBindings body) :: outer, returnTypes⟩ := by
  rcases Stmt.blockWellTyped_of_inBlock
    (fun checked => Stmt.allWellTyped_of_checkAll body checked) ended with ⟨left, rfl, typed⟩
  have extending := typed.extends_blockBindings fun _ => Stmt.extends_bindingsAll body
  rw [extending.eq_extend]

/-- The body of a function is checked as a block, in a frame with the parameters. -/
theorem FunctionDef.checkBlock_of_check {scopes : Scopes} {definition : FunctionDef}
    (ended : (definition.check ⟨scopes, returnTypes⟩).EndsIn after) :
    ∃ inside,
      (Checker.checkBlock ⟨Frame.extend ∅ (definition.params.map Param.binding) :: scopes,
        definition.returnType :: returnTypes⟩ definition.body).EndsIn inside ∧
      (definition.check ⟨scopes, returnTypes⟩).tree =
        { definition with
          body := (Checker.checkBlock
            ⟨Frame.extend ∅ (definition.params.map Param.binding) :: scopes,
              definition.returnType :: returnTypes⟩ definition.body).tree } := by
  cases header : definition.expectHeader scopes with
  | error diagnostic =>
      rw [FunctionDef.check_of_header_error header] at ended
      cases ended.1
  | ok =>
      rw [FunctionDef.check_of_header header, Checked.endsIn_map_iff, Checker.inBody,
        Checker.endsIn_expecting_iff] at ended
      rcases ended with ⟨_, ended, -⟩
      rcases Checker.endsIn_withScope_iff.mp ended with ⟨_, _, inside, ended, -, -⟩
      rcases Checked.endsIn_followedBy_iff.mp ended with ⟨_, bound, blockEnded⟩
      have tree := Checked.andThen_tree_snd bound definition.body
        fun checker => checker.checkBlock definition.body
      rcases Checker.endsIn_declareParams_iff.mp bound with ⟨params, extending, rfl⟩
      rw [FunctionDef.check_of_header header, ← extending.eq_extend]
      exact ⟨inside, blockEnded, congrArg (fun body => { definition with body := body }) tree⟩

variable {body : List Stmt}
  (statements : ∀ bound after,
    (Stmt.checkAll ⟨bound :: outer, returnTypes⟩ body).EndsIn after →
      Site.AllFit (Stmt.sitesAll (bound :: outer) (returnTypes.head?.getD .none)
        (Stmt.checkAll ⟨bound :: outer, returnTypes⟩ body).tree))

include statements

/-- The places of a block fit if those of its statements do. -/
theorem Checker.fits_checkBlock
    (ended : (Checker.checkBlock ⟨frame :: outer, returnTypes⟩ body).EndsIn after) :
    Site.AllFit (Stmt.blockSites (frame :: outer) (returnTypes.head?.getD .none)
      (Checker.checkBlock ⟨frame :: outer, returnTypes⟩ body).tree) := by
  rcases Checker.checkAll_of_checkBlock ended with ⟨checked, tree⟩
  rw [Stmt.blockSites, filterMap_binding?_checkBlock, tree]
  exact statements _ _ checked

/-- The places of a condition and of the block that it guards fit if those of the
statements do. -/
theorem Checker.fits_checkGuarded {condition : Expr}
    (ended : (Checker.checkGuarded ⟨frame :: outer, returnTypes⟩
      (condition, body)).EndsIn after) :
    ∃ checkedCondition checkedBody,
      (Checker.checkGuarded ⟨frame :: outer, returnTypes⟩ (condition, body)).tree =
          (checkedCondition, checkedBody) ∧
        Site.AllFit (.condition checkedCondition ::
          (checkedCondition.sites (frame :: outer) ++ Stmt.blockSites (frame :: outer)
            (returnTypes.head?.getD .none) checkedBody)) ∧
        after = ⟨frame.extend (Stmt.blockBindings checkedBody) :: outer, returnTypes⟩ := by
  rcases Checked.endsIn_andThen_iff.mp ended with ⟨_, conditionEnded, blockEnded⟩
  rcases Checked.endsIn_ofAnnotated_iff.mp conditionEnded with ⟨conditionPassed, rfl⟩
  have tree := Checked.andThen_tree_snd conditionEnded body
    fun checker => checker.checkBlock body
  refine ⟨_, _, Prod.ext (Checked.andThen_tree_fst _ _ _) tree, ?_, ?_⟩
  · exact Site.allFit_append (Expr.fits_checkCondition conditionPassed)
      (Checker.fits_checkBlock statements blockEnded)
  · rw [blockBindings_checkBlock]
    exact Checker.after_checkBlock blockEnded

/-- What follows a guarded block is checked in the scopes that the list of places gives
it, so that all places fit if those of both parts do. -/
theorem Checker.fits_cases {condition : Expr} {rest : Alternatives}
    (restFits : ∀ left, (rest.check ⟨left :: outer, returnTypes⟩).EndsIn after →
      Site.AllFit ((rest.check ⟨left :: outer, returnTypes⟩).tree.sites (left :: outer)
        (returnTypes.head?.getD .none)))
    (ended : ((Checker.checkGuarded ⟨frame :: outer, returnTypes⟩ (condition, body)).andThen
      rest fun checker => rest.check checker).EndsIn after) :
    ∃ checkedCondition checkedBody checkedRest,
      ((Checker.checkGuarded ⟨frame :: outer, returnTypes⟩ (condition, body)).andThen rest
          fun checker => rest.check checker).tree =
          ((checkedCondition, checkedBody), checkedRest) ∧
        Site.AllFit (.condition checkedCondition ::
          (checkedCondition.sites (frame :: outer) ++
            (Stmt.blockSites (frame :: outer) (returnTypes.head?.getD .none) checkedBody ++
              checkedRest.sites
                (Scopes.extend (frame :: outer) (Stmt.blockBindings checkedBody))
                (returnTypes.head?.getD .none)))) := by
  rcases Checked.endsIn_andThen_iff.mp ended with ⟨_, guarded, restEnded⟩
  rcases Checker.fits_checkGuarded statements guarded with
    ⟨checkedCondition, checkedBody, tree, fits, rfl⟩
  have places := Site.allFit_append fits (restFits _ restEnded)
  rw [List.cons_append, List.append_assoc] at places
  have restTree := Checked.andThen_tree_snd guarded rest fun checker => rest.check checker
  exact ⟨checkedCondition, checkedBody, _,
    Prod.ext ((Checked.andThen_tree_fst _ _ _).trans tree) restTree, places⟩

end

/-! ## Statements -/

mutual

/-- The places of a statement fit after a check that succeeds. -/
theorem Stmt.fits_check {outer : Scopes} {returnTypes : List Ty} {frame : Frame}
    (stmt : Stmt) {after : Checker}
    (ended : (stmt.check ⟨frame :: outer, returnTypes⟩).EndsIn after) :
    Site.AllFit ((stmt.check ⟨frame :: outer, returnTypes⟩).tree.sites (frame :: outer)
      (returnTypes.head?.getD .none)) := by
  cases stmt with
  | varDecl declaration =>
      rw [Stmt.check] at ended ⊢
      exact VarDecl.fits_check (Checked.endsIn_ofAnnotated_iff.mp ended).1
  | functionDef definition =>
      rw [Stmt.check] at ended ⊢
      exact FunctionDef.fits_check definition ended
  | classDef definition =>
      rw [Stmt.check] at ended ⊢
      exact ClassDef.fits_check definition ended
  | assign span target value =>
      rw [Stmt.check] at ended ⊢
      exact Expr.fits_checkAssignment (Checked.endsIn_ofAnnotated_iff.mp ended).1
  | branch span condition body rest =>
      rw [Stmt.check_branch] at ended ⊢
      rcases Checker.fits_cases (fun _ _ => Stmt.fits_checkAll body)
        (fun _ => Alternatives.fits_check rest) ended with ⟨_, _, _, tree, fits⟩
      rw [Checked.map_tree, tree]
      exact fits
  | loop span condition body =>
      rw [Stmt.check_loop] at ended ⊢
      rcases Checker.fits_checkGuarded (fun _ _ => Stmt.fits_checkAll body) ended with
        ⟨_, _, tree, fits, -⟩
      rw [Checked.map_tree, tree]
      exact fits
  | pass span =>
      rw [Stmt.check]
      exact fun site member => absurd member List.not_mem_nil
  | returnValue span value =>
      rw [Stmt.check] at ended ⊢
      exact Expr.fits_checkReturn (Checked.endsIn_ofAnnotated_iff.mp ended).1
  | evaluate span value =>
      rw [Stmt.check] at ended ⊢
      have passed := (Checked.endsIn_ofAnnotated_iff.mp ended).1
      rcases Annotated.require_eq_ok_iff.mp passed with ⟨type, checked, -⟩
      exact Expr.allFit_check checked
termination_by structural stmt

theorem FunctionDef.fits_check {scopes : Scopes} {returnTypes : List Ty}
    (definition : FunctionDef) {after : Checker}
    (ended : (definition.check ⟨scopes, returnTypes⟩).EndsIn after) :
    Site.AllFit ((definition.check ⟨scopes, returnTypes⟩).tree.sites scopes) := by
  rcases FunctionDef.checkBlock_of_check ended with ⟨inside, blockEnded, tree⟩
  rw [tree]
  cases definition with
  | mk span name params returnType body =>
      exact Checker.fits_checkBlock (fun _ _ => Stmt.fits_checkAll body) blockEnded
termination_by structural definition

theorem ClassDef.fits_check {scopes : Scopes} {returnTypes : List Ty}
    (definition : ClassDef) {after : Checker}
    (ended : (definition.check ⟨scopes, returnTypes⟩).EndsIn after) :
    Site.AllFit ((definition.check ⟨scopes, returnTypes⟩).tree.sites scopes) := by
  cases definition with
  | mk span name fields methods =>
      rw [ClassDef.check] at ended ⊢
      rcases Checked.endsIn_andThen_iff.mp ended with ⟨_, fieldsEnded, methodsEnded⟩
      rcases Checked.endsIn_ofAnnotated_iff.mp fieldsEnded with ⟨fieldsPassed, rfl⟩
      rw [Checked.map_tree, Checked.andThen_tree_fst, Checked.andThen_tree_snd fieldsEnded]
      exact Site.allFit_append (VarDecl.fits_checkAll fieldsPassed)
        (FunctionDef.fits_checkAll methods methodsEnded)
termination_by structural definition

theorem FunctionDef.fits_checkAll {scopes : Scopes} {returnTypes : List Ty}
    (definitions : List FunctionDef) {after : Checker}
    (ended : (FunctionDef.checkAll ⟨scopes, returnTypes⟩ definitions).EndsIn after) :
    Site.AllFit (FunctionDef.sitesAll scopes
      (FunctionDef.checkAll ⟨scopes, returnTypes⟩ definitions).tree) := by
  cases definitions with
  | nil =>
      rw [FunctionDef.checkAll]
      exact fun site member => absurd member List.not_mem_nil
  | cons definition later =>
      rw [FunctionDef.checkAll] at ended ⊢
      rcases Checked.endsIn_andThen_iff.mp ended with ⟨_, firstEnded, laterEnded⟩
      rw [Checked.map_tree, Checked.andThen_tree_fst, Checked.andThen_tree_snd firstEnded]
      obtain rfl := (FunctionDef.wellTyped_of_check definition firstEnded).1
      exact Site.allFit_append (FunctionDef.fits_check definition firstEnded)
        (FunctionDef.fits_checkAll later laterEnded)
termination_by structural definitions

theorem Alternatives.fits_check {outer : Scopes} {returnTypes : List Ty} {frame : Frame}
    (rest : Alternatives) {after : Checker}
    (ended : (rest.check ⟨frame :: outer, returnTypes⟩).EndsIn after) :
    Site.AllFit ((rest.check ⟨frame :: outer, returnTypes⟩).tree.sites (frame :: outer)
      (returnTypes.head?.getD .none)) := by
  cases rest with
  | elif condition body rest =>
      rw [Alternatives.check_elif] at ended ⊢
      rcases Checker.fits_cases (fun _ _ => Stmt.fits_checkAll body)
        (fun _ => Alternatives.fits_check rest) ended with ⟨_, _, _, tree, fits⟩
      rw [Checked.map_tree, tree]
      exact fits
  | otherwise body =>
      rw [Alternatives.check_otherwise] at ended ⊢
      exact Checker.fits_checkBlock (fun _ _ => Stmt.fits_checkAll body) ended
termination_by structural rest

theorem Stmt.fits_checkAll {outer : Scopes} {returnTypes : List Ty} {frame : Frame}
    (body : List Stmt) {after : Checker}
    (ended : (Stmt.checkAll ⟨frame :: outer, returnTypes⟩ body).EndsIn after) :
    Site.AllFit (Stmt.sitesAll (frame :: outer) (returnTypes.head?.getD .none)
      (Stmt.checkAll ⟨frame :: outer, returnTypes⟩ body).tree) := by
  cases body with
  | nil =>
      rw [Stmt.checkAll]
      exact fun site member => absurd member List.not_mem_nil
  | cons stmt later =>
      rw [Stmt.checkAll] at ended ⊢
      rcases Checked.endsIn_andThen_iff.mp ended with ⟨_, stmtEnded, laterEnded⟩
      rw [Checked.map_tree, Checked.andThen_tree_fst, Checked.andThen_tree_snd stmtEnded]
      -- The later statements were checked in the scopes that the list of places gives
      -- them: those before, with the names of the blocks in the first statement.
      obtain rfl := Stmt.after_check stmtEnded
      rw [Stmt.sitesAll, Stmt.bindings_check]
      exact Site.allFit_append (Stmt.fits_check stmt stmtEnded)
        (Stmt.fits_checkAll later laterEnded)
termination_by structural body

end

/-! ## Programs -/

theorem Program.fits_typed {program typed : Program} (accepted : program.typed = .ok typed) :
    Site.AllFit (Program.sites typed) := by
  rcases Program.typed_eq_ok_iff.mp accepted with ⟨after, ended, rfl⟩
  exact Checker.fits_checkBlock (fun _ _ => Stmt.fits_checkAll program) ended

/-- A node among places that fit carries a type. -/
theorem Site.AllFit.carries {sites : List Site} (fit : Site.AllFit sites) {node : Expr}
    (member : node ∈ sites.filterMap Site.node?) : ∃ type, node.Carries type := by
  rcases List.mem_filterMap.mp member with ⟨site, listed, isNode⟩
  have fits := fit site listed
  cases site with
  | node scopes expr =>
      cases Option.some.inj isNode
      rcases fits with ⟨type, carries, -⟩
      exact ⟨type, carries⟩
  | _ => cases isNode

/-- An accepted program comes back with every node annotated, and with no other change.
The annotation of a node follows from those of its children by the rule of its construct
in the scopes around it; and first values, assignments, conditions and returned values
carry the types that their statements ask for. -/
theorem Program.typed_annotates_coherently {program typed : Program}
    (accepted : program.typed = .ok typed) :
    Stmt.eraseAll typed = Stmt.eraseAll program ∧
      (∀ node ∈ Stmt.preorderAll typed, ∃ type, node.Carries type) ∧
        (Program.sites typed).filterMap Site.node? = Stmt.preorderAll typed ∧
          ∀ site ∈ Program.sites typed, site.Fits := by
  have listed : (Program.sites typed).filterMap Site.node? = Stmt.preorderAll typed :=
    Stmt.nodes_sitesAll _ _ typed
  have fit := Program.fits_typed accepted
  constructor
  · exact Program.eraseAll_typed accepted
  constructor
  · intro node member
    rw [← listed] at member
    exact fit.carries member
  · exact ⟨listed, fit⟩

/-- A program with a class whose method changes a field, and with a function that holds
another function and chooses between three ways. -/
def tallyProgram : Program :=
  let mark : Mark := { span := .null }
  let name (named : String) : Expr := .name mark named
  let number (value : Int32) : Expr := .literal mark (.number value)
  let total : Expr := .field mark (name "self") "total"
  let add : FunctionDef :=
    { span := .null, name := "add", params := [⟨"self", .object "Tally"⟩, ⟨"by", .int⟩]
      returnType := .int
      body :=
        [.assign .null total (.binary mark .add total (name "by")),
        .returnValue .null total] }
  let isZero : FunctionDef :=
    { span := .null, name := "isZero", params := [⟨"n", .int⟩], returnType := .bool
      body := [.returnValue .null (.binary mark .equal (name "n") (number 0))] }
  let enough : FunctionDef :=
    { span := .null, name := "enough", params := [⟨"tally", .object "Tally"⟩]
      returnType := .bool
      body :=
        [.functionDef isZero,
        .branch .null (.call mark "isZero" [.field mark (name "tally") "total"])
          [.returnValue .null (.literal mark (.boolean false))]
          (.elif (.binary mark .less (.method mark (name "tally") "add" [number 1]) (number 3))
            [.varDecl ⟨.null, "last", .int, number 0⟩,
            .assign .null (name "last") (.unary mark .neg (number 1)),
            .returnValue .null (.unary mark .not (.call mark "isZero" [name "last"]))]
            (.otherwise [.returnValue .null (.literal mark (.boolean true))]))] }
  [.functionDef enough,
  .classDef ⟨.null, "Tally", [⟨.null, "total", .int, number 0⟩], [add]⟩,
  .varDecl ⟨.null, "tally", .object "Tally", .literal mark .none⟩,
  .evaluate .null (.call mark "print" [.call mark "enough" [name "tally"]])]

theorem tallyProgram_annotated :
    ∃ typed, tallyProgram.typed = .ok typed ∧
      Stmt.eraseAll typed = Stmt.eraseAll tallyProgram ∧
        (∀ node ∈ Stmt.preorderAll typed, ∃ type, node.Carries type) ∧
          (Program.sites typed).filterMap Site.node? = Stmt.preorderAll typed ∧
            ∀ site ∈ Program.sites typed, site.Fits :=
  ⟨_, rfl, Program.typed_annotates_coherently rfl⟩

end SlotLang
