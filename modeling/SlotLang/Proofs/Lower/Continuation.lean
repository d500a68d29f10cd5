import SlotLang.Proofs.Check.Order
import SlotLang.Proofs.Lower.Simulation
import SlotLang.Proofs.Lower.Typing

/-!
# Programs that are continued

A program that compiles may be cut off behind any of its statements.  What is left still
passes and compiles; its slots and its instructions are the first ones of the whole, and
it prints what the whole prints first.

Nothing in front can depend on what was cut off.  Either the front has only declarations,
which have no class to refer to and start with literals; or no declaration was cut off, so
that the front sees the same names.
-/

namespace SlotLang

/-! ## Checking the front -/

theorem Stmt.filterMap_binding?_eq_nil {body : List Stmt}
    (executing : ∀ stmt ∈ body, stmt.isDeclaration = false) :
    body.filterMap Stmt.binding? = [] := by
  rw [List.filterMap_eq_nil_iff]
  intro stmt member
  have silent := executing stmt member
  cases stmt with
  | varDecl => cases silent
  | functionDef => cases silent
  | classDef => cases silent
  | _ => rfl

/-- Statements in two groups are checked one group after the other. -/
theorem Stmt.endsIn_checkAll_split_iff {checker after : Checker} {first second : List Stmt} :
    (Stmt.checkAll checker (first ++ second)).EndsIn after ↔
      ∃ between, (Stmt.checkAll checker first).EndsIn between ∧
        (Stmt.checkAll between second).EndsIn after := by
  induction first generalizing checker with
  | nil => simp [Stmt.checkAll, Checked.endsIn_done_iff]
  | cons stmt later inductionHypothesis =>
      simp only [List.cons_append, Stmt.checkAll, Checked.endsIn_map_iff,
        Checked.endsIn_andThen_iff, inductionHypothesis]
      constructor
      · rintro ⟨next, stmtEnded, between, laterEnded, secondEnded⟩
        exact ⟨between, ⟨next, stmtEnded, laterEnded⟩, secondEnded⟩
      · rintro ⟨between, ⟨next, stmtEnded, laterEnded⟩, secondEnded⟩
        exact ⟨next, stmtEnded, between, laterEnded, secondEnded⟩

/-- The declaration of a variable that is no object passes in all scopes or in none, since
it starts with a literal. -/
theorem VarDecl.check_of_primitive {declaration : VarDecl} {scopes : Scopes}
    (primitive : ∀ className, declaration.type ≠ .object className)
    (passed : (declaration.check scopes).result = .ok ()) (others : Scopes) :
    (declaration.check others).result = .ok () := by
  rcases declaration with ⟨span, name, type, value⟩
  cases type with
  | object className => exact absurd rfl (primitive className)
  | _ =>
      cases value with
      | literal mark literal => exact passed
      | _ => cases passed

/-- In a program of supported statements there is no class, so no variable is an object. -/
theorem Program.type_ne_object {program typed : Program}
    (accepted : program.typed = .ok typed) (supported : ∀ stmt ∈ program, stmt.Supported)
    {declaration : VarDecl} (member : .varDecl declaration ∈ program) (className : String) :
    declaration.type ≠ .object className := by
  intro object
  rcases Program.wellTyped_of_typed accepted with ⟨after, ⟨_, _, extending, judged⟩⟩
  cases judged.of_mem supported member with
  | varDecl declarationTyped =>
      rcases declarationTyped.resolved className object with ⟨members, found⟩
      rw [Scopes.lookup?_singleton] at found
      exact extending.get?_ne_class supported className members found

/-- A supported declaration is that of a variable. -/
theorem Stmt.exists_varDecl {stmt : Stmt} (declaring : stmt.isDeclaration = true)
    (supported : stmt.isSupported = true) : ∃ declaration, stmt = .varDecl declaration := by
  cases stmt with
  | varDecl declaration => exact ⟨declaration, rfl⟩
  | functionDef => cases supported
  | classDef => cases supported
  | _ => cases declaring

/-- Declarations of variables that are no objects pass in any frame if they do in one. -/
theorem Stmt.endsIn_checkAll_of_primitive {body : List Stmt} {bound : Frame}
    (declaring : ∀ stmt ∈ body, ∃ declaration, stmt = .varDecl declaration ∧
      ∀ className, declaration.type ≠ .object className)
    (passed : ∀ stmt ∈ body, (stmt.check ⟨[bound], []⟩).EndsIn ⟨[bound], []⟩)
    (other : Frame) : (Stmt.checkAll ⟨[other], []⟩ body).EndsIn ⟨[other], []⟩ := by
  induction body with
  | nil => exact Checked.endsIn_done_iff.mpr rfl
  | cons stmt later inductionHypothesis =>
      rcases List.forall_mem_cons.mp declaring with
        ⟨⟨declaration, rfl, primitive⟩, laterDeclaring⟩
      rcases List.forall_mem_cons.mp passed with ⟨stmtPassed, laterPassed⟩
      rw [Stmt.check, Checked.endsIn_map_iff, Checked.endsIn_ofAnnotated_iff] at stmtPassed
      have elsewhere := declaration.check_of_primitive primitive stmtPassed.1 [other]
      rw [Stmt.checkAll, Checked.endsIn_map_iff, Checked.endsIn_andThen_iff, Stmt.check]
      exact ⟨⟨[other], []⟩, Checked.endsIn_ofAnnotated_iff.mpr ⟨elsewhere, rfl⟩,
        inductionHypothesis laterDeclaring laterPassed⟩

/-- The front of a program of supported statements passes if the program does. -/
theorem Program.exists_typed_front {first second typed : Program}
    (accepted : Program.typed (first ++ second) = .ok typed)
    (supported : ∀ stmt ∈ first ++ second, stmt.Supported) :
    ∃ typed, Program.typed first = .ok typed := by
  rcases Program.typed_eq_ok_iff.mp accepted with ⟨after, passed, -⟩
  rw [Checker.checkBlock, Checker.endsIn_inBlock_iff] at passed
  rcases passed with ⟨ordered, members, bound, extending, checked⟩
  rcases ordered.append_cases with ⟨frontOrdered, cases⟩
  have frontMembers : ∀ definition, .classDef definition ∈ first →
      definition.memberNames.Nodup :=
    fun definition member => members definition (List.mem_append_left second member)
  rw [List.filterMap_append] at extending
  have front : ∃ frontBound, Frame.Extends ∅ (first.filterMap Stmt.binding?) frontBound ∧
      ∃ ended, (Stmt.checkAll ⟨[frontBound], []⟩ first).EndsIn ended := by
    rcases cases with declaring | executing
    · -- Fewer names are bound for the front alone, but its declarations look up none.
      rcases Frame.extends_append_iff.mp extending with ⟨frontBound, frontExtending, -⟩
      have each := ((Stmt.endsIn_checkAll_append_iff declaring).mp checked).1
      have primitive : ∀ stmt ∈ first, ∃ declaration, stmt = .varDecl declaration ∧
          ∀ className, declaration.type ≠ .object className := by
        intro stmt member
        have whole := List.mem_append_left second member
        rcases Stmt.exists_varDecl (declaring stmt member) (supported stmt whole).1 with
          ⟨declaration, rfl⟩
        exact ⟨declaration, rfl, Program.type_ne_object accepted supported whole⟩
      exact ⟨frontBound, frontExtending, _,
        Stmt.endsIn_checkAll_of_primitive primitive each frontBound⟩
    · rw [Stmt.filterMap_binding?_eq_nil executing, List.append_nil] at extending
      rcases Stmt.endsIn_checkAll_split_iff.mp checked with ⟨ended, frontEnded, -⟩
      exact ⟨bound, extending, ended, frontEnded⟩
  rcases front with ⟨frontBound, frontExtending, ended, frontEnded⟩
  have frontPassed : (Checker.checkBlock ⟨[∅], []⟩ first).EndsIn ended := by
    rw [Checker.checkBlock, Checker.endsIn_inBlock_iff]
    exact ⟨frontOrdered, frontMembers, frontBound, frontExtending, frontEnded⟩
  exact ⟨_, Program.typed_eq_ok_iff.mpr ⟨ended, frontPassed, rfl⟩⟩

/-! ## Slots -/

theorem Stmt.setNamesAll_append (first second : List Stmt) :
    Stmt.setNamesAll (first ++ second) =
      Stmt.setNamesAll first ++ Stmt.setNamesAll second := by
  induction first with
  | nil => rfl
  | cons stmt later inductionHypothesis =>
      rw [List.cons_append, Stmt.setNamesAll, inductionHypothesis, Stmt.setNamesAll,
        List.append_assoc]

theorem Stmt.anyUsesScratch_append (first second : List Stmt) :
    Stmt.anyUsesScratch (first ++ second) =
      (Stmt.anyUsesScratch first || Stmt.anyUsesScratch second) := by
  induction first with
  | nil => rfl
  | cons stmt later inductionHypothesis =>
      rw [List.cons_append, Stmt.anyUsesScratch, inductionHypothesis, Stmt.anyUsesScratch,
        Bool.or_assoc]

theorem prefix_allocate (slots : List String) (name : String) :
    slots <+: allocate slots name := by
  unfold allocate
  split
  · exact List.prefix_refl slots
  · exact List.prefix_append slots [name]

/-- Slots are given out behind those that exist. -/
theorem prefix_foldl_allocate (slots names : List String) :
    slots <+: names.foldl allocate slots := by
  induction names generalizing slots with
  | nil => exact List.prefix_refl slots
  | cons name later inductionHypothesis =>
      exact (prefix_allocate slots name).trans (inductionHypothesis (allocate slots name))

theorem foldl_allocate_of_subset {slots names : List String}
    (slotted : ∀ name ∈ names, name ∈ slots) : names.foldl allocate slots = slots := by
  induction names with
  | nil => rfl
  | cons name later inductionHypothesis =>
      rcases List.forall_mem_cons.mp slotted with ⟨nameSlotted, laterSlotted⟩
      rw [List.foldl_cons, allocate, if_pos nameSlotted, inductionHypothesis laterSlotted]

/-- The slots of the front come first, if the front needs no scratch slot or no variable is
set for the first time behind it. -/
theorem prefix_allocateBlock {scratch : String} {first second : List Stmt}
    (settled : Stmt.anyUsesScratch first = true →
      ∀ name ∈ Stmt.setNamesAll second, name ∈ Stmt.setNamesAll first) :
    allocateBlock scratch [] first <+: allocateBlock scratch [] (first ++ second) := by
  unfold allocateBlock
  rw [Stmt.setNamesAll_append, Stmt.anyUsesScratch_append, List.foldl_append]
  cases uses : Stmt.anyUsesScratch first with
  | true =>
      have slotted : ∀ name ∈ Stmt.setNamesAll second,
          name ∈ (Stmt.setNamesAll first).foldl allocate [] := by
        intro name member
        exact mem_foldl_allocate_iff.mpr (.inr (settled uses name member))
      rw [foldl_allocate_of_subset slotted]
      exact List.prefix_refl _
  | false =>
      have named := prefix_foldl_allocate ((Stmt.setNamesAll first).foldl allocate [])
        (Stmt.setNamesAll second)
      cases Stmt.anyUsesScratch second with
      | true => exact named.trans (prefix_allocate _ scratch)
      | false => exact named

theorem Stmt.exists_of_mem_setNamesAll {body : List Stmt} {name : String}
    (set : name ∈ Stmt.setNamesAll body) : ∃ stmt ∈ body, name ∈ stmt.setNames := by
  induction body with
  | nil => cases set
  | cons stmt later inductionHypothesis =>
      rw [Stmt.setNamesAll, List.mem_append] at set
      rcases set with here | later
      · exact ⟨stmt, List.mem_cons_self, here⟩
      · rcases inductionHypothesis later with ⟨other, member, set⟩
        exact ⟨other, List.mem_cons_of_mem stmt member, set⟩

/-- A supported program sets only variables that it declares. -/
theorem Program.declared_of_setNames {program typed : Program}
    (accepted : program.typed = .ok typed) (supported : ∀ stmt ∈ program, stmt.Supported)
    {stmt : Stmt} (member : stmt ∈ program) {name : String} (set : name ∈ stmt.setNames) :
    ∃ declaration : VarDecl, .varDecl declaration ∈ program ∧ declaration.name = name := by
  rcases Program.wellTyped_of_typed accepted with ⟨after, ⟨_, _, extending, judged⟩⟩
  have stmtSupported := (supported stmt member).1
  cases judged.of_mem supported member with
  | varDecl => exact ⟨_, member, (List.mem_singleton.mp set).symm⟩
  | assign _ targetTyped =>
      cases targetTyped with
      | name found =>
          rcases extending.declared_of_variable found with ⟨declaration, declared, rfl, _⟩
          exact ⟨declaration, declared, (List.mem_singleton.mp set).symm⟩
      | _ => cases stmtSupported
  | branch => cases stmtSupported
  | loop => cases stmtSupported
  | _ => cases set

theorem Stmt.exists_of_anyUsesScratch {body : List Stmt}
    (uses : Stmt.anyUsesScratch body = true) : ∃ stmt ∈ body, stmt.usesScratch = true := by
  induction body with
  | nil => cases uses
  | cons stmt later inductionHypothesis =>
      rw [Stmt.anyUsesScratch, Bool.or_eq_true] at uses
      rcases uses with here | later
      · exact ⟨stmt, List.mem_cons_self, here⟩
      · rcases inductionHypothesis later with ⟨other, member, uses⟩
        exact ⟨other, List.mem_cons_of_mem stmt member, uses⟩

/-- The slots of the front of a program are the first slots of the program. -/
theorem Program.prefix_slots {first second typed : Program}
    (accepted : Program.typed (first ++ second) = .ok typed)
    (supported : ∀ stmt ∈ first ++ second, stmt.Supported) (scratch : String) :
    allocateBlock scratch [] first <+: allocateBlock scratch [] (first ++ second) := by
  apply prefix_allocateBlock
  intro uses name set
  rcases Program.wellTyped_of_typed accepted with ⟨after, ⟨ordered, _⟩⟩
  rcases Stmt.exists_of_mem_setNamesAll set with ⟨stmt, member, stmtSets⟩
  rcases Program.declared_of_setNames accepted supported
    (List.mem_append_right first member) stmtSets with ⟨declaration, declared, rfl⟩
  rcases ordered.append_cases.2 with declaring | executing
  · -- Declarations leave no value behind.
    rcases Stmt.exists_of_anyUsesScratch uses with ⟨user, userMember, userUses⟩
    have userSupported := (supported user (List.mem_append_left second userMember)).1
    rcases Stmt.exists_varDecl (declaring user userMember) userSupported with ⟨_, rfl⟩
    cases userUses
  · rcases List.mem_append.mp declared with front | back
    · exact Stmt.mem_setNamesAll front List.mem_cons_self
    · cases executing _ back

/-! ## Code -/

mutual

/-- Code that has all its slots stays the same when there are more. -/
theorem Expr.lower_of_subset {slots more : List String}
    (kept : ∀ name ∈ slots, name ∈ more) (expr : Expr)
    (lowered : (expr.lower slots).outcome = .ok ()) :
    expr.lower more = expr.lower slots := by
  cases expr with
  | literal => rfl
  | name mark named =>
      rw [Expr.lower] at lowered ⊢
      have slotted := Lowered.onSlot_outcome_eq_ok_iff.mp lowered
      rw [Lowered.onSlot_of_mem _ _ (kept named slotted), Expr.lower,
        Lowered.onSlot_of_mem _ _ slotted]
  | unary mark op operand =>
      cases op with
      | not => cases lowered
      | neg =>
          rw [Expr.lower] at lowered
          simp only [Lowered.append_outcome_eq_ok_iff] at lowered
          rw [Expr.lower, Expr.lower, Expr.lower_of_subset kept operand lowered.2.1]
  | binary mark op left right =>
      rw [Expr.lower] at lowered
      cases instruction : op.instr? with
      | none =>
          rw [instruction] at lowered
          cases lowered
      | some instr =>
          simp only [instruction, Lowered.append_outcome_eq_ok_iff] at lowered
          rw [Expr.lower, Expr.lower, Expr.lower_of_subset kept left lowered.1,
            Expr.lower_of_subset kept right lowered.2.1]
  | call mark callee arguments =>
      rw [Expr.lower] at lowered
      cases listed : Builtin.find? callee with
      | none =>
          rw [listed] at lowered
          cases lowered
      | some builtin =>
          simp only [listed, Lowered.append_outcome_eq_ok_iff] at lowered
          rw [Expr.lower, Expr.lower, Expr.lowerAll_of_subset kept arguments lowered.1]
  | field => cases lowered
  | method => cases lowered
termination_by structural expr

theorem Expr.lowerAll_of_subset {slots more : List String}
    (kept : ∀ name ∈ slots, name ∈ more) (exprs : List Expr)
    (lowered : (Expr.lowerAll slots exprs).outcome = .ok ()) :
    Expr.lowerAll more exprs = Expr.lowerAll slots exprs := by
  cases exprs with
  | nil => rfl
  | cons expr later =>
      rw [Expr.lowerAll, Lowered.append_outcome_eq_ok_iff] at lowered
      rw [Expr.lowerAll, Expr.lowerAll, Expr.lower_of_subset kept expr lowered.1,
        Expr.lowerAll_of_subset kept later lowered.2]
termination_by structural exprs

end

theorem Stmt.lower_of_subset {scratch : String} {slots more : List String} {stmt : Stmt}
    (kept : ∀ name ∈ slots, name ∈ more)
    (lowered : (stmt.lower scratch slots).outcome = .ok ()) :
    stmt.lower scratch more = stmt.lower scratch slots := by
  cases supported : stmt.isSupported with
  | false =>
      rcases Stmt.lower_of_not_isSupported scratch slots supported with ⟨_, _, refused⟩
      rw [refused] at lowered
      cases lowered
  | true =>
      rcases Stmt.pass_or_sets scratch supported with ⟨span, rfl⟩ | ⟨name, value, sets⟩
      · rfl
      · rcases sets.lower_eq slots with ⟨position, split⟩
        rcases sets.lower_eq more with ⟨_, moreSplit⟩
        rw [split, Lowered.append_outcome_eq_ok_iff] at lowered
        have slotted := Lowered.onSlot_outcome_eq_ok_iff.mp lowered.2
        rw [moreSplit, split, Expr.lower_of_subset kept value lowered.1,
          Lowered.onSlot_of_mem _ _ slotted, Lowered.onSlot_of_mem _ _ (kept name slotted)]

/-- Statements in two groups are lowered one group after the other, and those in front to
the same code as by themselves. -/
theorem Stmt.prefix_lowerAll {scratch : String} {slots more : List String}
    {first second : List Stmt} (kept : ∀ name ∈ slots, name ∈ more)
    (lowered : (Stmt.lowerAll scratch slots first).outcome = .ok ()) :
    (Stmt.lowerAll scratch slots first).code <+:
      (Stmt.lowerAll scratch more (first ++ second)).code := by
  induction first with
  | nil => exact List.nil_prefix
  | cons stmt later inductionHypothesis =>
      rw [Stmt.lowerAll] at lowered ⊢
      rcases Lowered.append_outcome_eq_ok_iff.mp lowered with ⟨stmtLowered, laterLowered⟩
      rw [List.cons_append, Stmt.lowerAll, Stmt.lower_of_subset kept stmtLowered,
        Lowered.append_code stmtLowered, Lowered.append_code stmtLowered]
      exact (List.prefix_append_right_inj _).mpr (inductionHypothesis laterLowered)

/-! ## Printed values -/

theorem Stmt.evalAll_append (scratch : String) (evaluation : Evaluation)
    (first second : List Stmt) :
    Stmt.evalAll scratch evaluation (first ++ second) =
      (Stmt.evalAll scratch evaluation first).bind fun between =>
        Stmt.evalAll scratch between second := by
  induction first generalizing evaluation with
  | nil => rfl
  | cons stmt later inductionHypothesis =>
      simp only [List.cons_append, Stmt.evalAll, inductionHypothesis, Option.bind_assoc]

/-- What has been printed stays printed. -/
theorem Stmt.printed_of_eval {scratch : String} {stmt : Stmt} {evaluation next : Evaluation}
    (evaluated : stmt.eval scratch evaluation = some next) :
    evaluation.printed <+: next.printed := by
  rcases Stmt.cases_of_eval evaluated with ⟨_, _, rfl⟩ | ⟨_, _, output, _, _, rfl⟩
  · exact List.prefix_refl _
  · exact List.prefix_append evaluation.printed output.printed

theorem Stmt.printed_of_evalAll {scratch : String} {body : List Stmt}
    {evaluation final : Evaluation}
    (evaluated : Stmt.evalAll scratch evaluation body = some final) :
    evaluation.printed <+: final.printed := by
  induction body generalizing evaluation with
  | nil =>
      obtain rfl := Option.some.inj evaluated
      exact List.prefix_refl _
  | cons stmt later inductionHypothesis =>
      rcases Option.bind_eq_some_iff.mp evaluated with
        ⟨between, stmtEvaluated, laterEvaluated⟩
      exact (Stmt.printed_of_eval stmtEvaluated).trans (inductionHypothesis laterEvaluated)

/-- The front of a program prints what the program prints first. -/
theorem Program.printed_front {first second : Program} {scratch : String} {final : Evaluation}
    (evaluated : Program.eval scratch (first ++ second) = some final) :
    ∃ between, first.eval scratch = some between ∧ between.printed <+: final.printed := by
  rw [Program.eval, Stmt.evalAll_append] at evaluated
  rcases Option.bind_eq_some_iff.mp evaluated with ⟨between, frontEvaluated, backEvaluated⟩
  exact ⟨between, frontEvaluated, Stmt.printed_of_evalAll backEvaluated⟩

/-- A machine that keeps what is printed keeps what the program prints. -/
theorem Program.run_capturing {σ : Type} {program typed : Program} {scratch : String}
    {code : List Instr} {final : Evaluation} (host : σ)
    (accepted : program.typed = .ok typed)
    (compiled : ({ scratch := scratch } : Compiler).compile typed = .ok code)
    (evaluated : program.eval scratch = some final) :
    ∃ after, (Machine.capturing host).run code = (after, .ok ()) ∧
      after.printed = final.printed.map Int32.ofInt := by
  rcases (Program.compile_eq_ok_iff accepted).mp compiled with ⟨supported, rfl⟩
  have lowered := (Program.wellTyped_of_typed accepted).lower_succeeds supported scratch
  have captures : (Machine.capturing host).Captures := rfl
  rcases (Machine.capturing host).executes_declarations (allocateBlock scratch [] program) with
    ⟨locals, declared, entries⟩
  rcases Stmt.executes_lowerAll captures (Machine.tracks_of_declared entries) evaluated
    lowered with ⟨after, executed, tracks⟩
  exact ⟨after, Machine.run_eq_ok_iff.mpr (declared.append executed),
    congrArg Machine.printed tracks.rest⟩

/-! ## Programs -/

/-- Code is the declarations of its locals and then the code of the statements. -/
theorem Program.compile_splits {program typed : Program}
    (accepted : program.typed = .ok typed) {scratch : String} {code : List Instr}
    (compiled : ({ scratch := scratch } : Compiler).compile typed = .ok code) :
    code = (declaredLocals code).map .localDeclare ++
      (Stmt.lowerAll scratch (allocateBlock scratch [] program) program).code := by
  rw [Program.declaredLocals_compile accepted compiled]
  exact ((Program.compile_eq_ok_iff accepted).mp compiled).2.symm

/-- The front of a program that compiles compiles by itself.  Its locals are the first
locals of the whole, its instructions behind their declarations are the first ones of the
whole behind its declarations, and what it prints is what the whole prints first. -/
theorem Program.compile_front_stable {first second typed : Program} {scratch : String}
    {code : List Instr} (accepted : Program.typed (first ++ second) = .ok typed)
    (compiled : ({ scratch := scratch } : Compiler).compile typed = .ok code) :
    ∃ frontTyped frontCode frontBody body,
      Program.typed first = .ok frontTyped ∧
      ({ scratch := scratch } : Compiler).compile frontTyped = .ok frontCode ∧
      frontCode = (declaredLocals frontCode).map .localDeclare ++ frontBody ∧
      code = (declaredLocals code).map .localDeclare ++ body ∧
      declaredLocals frontCode <+: declaredLocals code ∧
      frontBody <+: body ∧
      ∀ {σ : Type} (host : σ), ∃ frontAfter after,
        (Machine.capturing host).run frontCode = (frontAfter, .ok ()) ∧
        (Machine.capturing host).run code = (after, .ok ()) ∧
        frontAfter.printed <+: after.printed := by
  have supported := ((Program.compile_eq_ok_iff accepted).mp compiled).1
  have frontSupported := (List.forall_mem_append.mp supported).1
  rcases Program.exists_typed_front accepted supported with ⟨frontTyped, frontAccepted⟩
  have frontCompiled :=
    (@Program.compile_eq_ok_iff _ _ frontAccepted scratch _).mpr ⟨frontSupported, rfl⟩
  have slots := Program.prefix_slots accepted supported scratch
  have frontLowered :=
    (Program.wellTyped_of_typed frontAccepted).lower_succeeds frontSupported scratch
  refine ⟨frontTyped, _, _, _, frontAccepted, frontCompiled,
    Program.compile_splits frontAccepted frontCompiled,
    Program.compile_splits accepted compiled, ?_, ?_, ?_⟩
  · rw [Program.declaredLocals_compile frontAccepted frontCompiled,
      Program.declaredLocals_compile accepted compiled]
    exact slots
  · exact Stmt.prefix_lowerAll (fun name member => slots.subset member) frontLowered
  · intro σ host
    rcases (Program.wellTyped_of_typed accepted).exists_eval supported scratch with
      ⟨final, evaluated⟩
    rcases Program.printed_front evaluated with ⟨between, frontEvaluated, printedFirst⟩
    rcases Program.run_capturing host frontAccepted frontCompiled frontEvaluated with
      ⟨frontAfter, frontRan, frontPrinted⟩
    rcases Program.run_capturing host accepted compiled evaluated with ⟨after, ran, printed⟩
    refine ⟨frontAfter, after, frontRan, ran, ?_⟩
    rw [frontPrinted, printed]
    exact printedFirst.map Int32.ofInt

/-- Two variables, one of which is the scratch variable, and a value nobody asked for. -/
def squareFront : Program :=
  let mark : Mark := { span := .null }
  [.varDecl ⟨.null, "side", .int, .literal mark (.number 7)⟩,
  .varDecl ⟨.null, "done", .none, .literal mark .none⟩,
  .evaluate .null (.call mark "print" [.name mark "side"])]

/-- What goes on with the variables of the front. -/
def squareBack : Program :=
  let mark : Mark := { span := .null }
  [.assign .null (.name mark "side")
    (.binary mark .mul (.name mark "side") (.unary mark .neg (.name mark "side"))),
  .assign .null (.name mark "done") (.call mark "print" [.name mark "side"])]

theorem squareFront_continued :
    ∃ typed code frontTyped frontCode frontBody body frontAfter after,
      Program.typed (squareFront ++ squareBack) = .ok typed ∧
      ({ scratch := "done" } : Compiler).compile typed = .ok code ∧
      squareFront.typed = .ok frontTyped ∧
      ({ scratch := "done" } : Compiler).compile frontTyped = .ok frontCode ∧
      frontCode = (declaredLocals frontCode).map .localDeclare ++ frontBody ∧
      code = (declaredLocals code).map .localDeclare ++ body ∧
      declaredLocals frontCode <+: declaredLocals code ∧
      frontBody <+: body ∧
      (Machine.capturing ()).run frontCode = (frontAfter, .ok ()) ∧
      (Machine.capturing ()).run code = (after, .ok ()) ∧
      frontAfter.printed <+: after.printed ∧
      frontAfter.printed = [7] ∧ after.printed = [7, -49] := by
  obtain ⟨typed, accepted⟩ : ∃ typed, Program.typed (squareFront ++ squareBack) = .ok typed :=
    ⟨_, rfl⟩
  have supported : ∀ stmt ∈ squareFront ++ squareBack, stmt.Supported :=
    Program.fault?_eq_none_iff.mp rfl
  have compiled : ({ scratch := "done" } : Compiler).compile typed = .ok _ :=
    (Program.compile_eq_ok_iff accepted).mpr ⟨supported, rfl⟩
  rcases Program.compile_front_stable accepted compiled with
    ⟨frontTyped, frontCode, frontBody, body, frontAccepted, frontCompiled, frontSplit, split,
      locals, instructions, runs⟩
  rcases runs () with ⟨frontAfter, after, frontRan, ran, printed⟩
  have frontPrinted : frontAfter.printed = [7] := by
    rcases (Program.compile_eq_ok_iff frontAccepted).mp frontCompiled with ⟨_, rfl⟩
    exact (congrArg (fun result => result.1.printed) frontRan).symm
  exact ⟨typed, _, frontTyped, frontCode, frontBody, body, frontAfter, after, accepted,
    compiled, frontAccepted, frontCompiled, frontSplit, split, locals, instructions, frontRan,
    ran, printed, frontPrinted,
    (congrArg (fun result => result.1.printed) ran).symm⟩

end SlotLang
