import SlotLang.Proofs.Check.Order
import SlotLang.Proofs.Check.Discipline

/-!
# Functions are checked one by one

A block binds a function by its signature, so the other statements see nothing else of it;
and the check of a function leaves the state as it was.  So a function of an accepted
program can be replaced by another one with the same header exactly if the new one passes
by itself, among the declarations of the program, and the rest of the program is annotated
as before.
-/

namespace SlotLang

/-- Only declarations stand in front of a declaration. -/
theorem Stmt.declarationsFirst_around_iff {before after : List Stmt} {stmt : Stmt}
    (declaring : stmt.isDeclaration = true) :
    Stmt.DeclarationsFirst (before ++ stmt :: after) ↔
      (∀ other ∈ before, other.isDeclaration = true) ∧ Stmt.DeclarationsFirst after := by
  constructor
  · rintro ⟨declarations, statements, whole, front, back⟩
    have inFront : stmt ∉ statements := by
      intro member
      rw [back stmt member] at declaring
      cases declaring
    rcases List.append_eq_append_iff.mp whole with
      ⟨middle, rfl, rest⟩ | ⟨middle, rfl, rfl⟩
    · cases middle with
      | nil =>
          rw [List.nil_append] at rest
          exact absurd (rest ▸ List.mem_cons_self) inFront
      | cons first middle =>
          rcases List.cons.inj rest with ⟨rfl, rfl⟩
          rcases List.forall_mem_append.mp front with ⟨beforeFront, middleFront⟩
          exact ⟨beforeFront, middle, statements, rfl,
            (List.forall_mem_cons.mp middleFront).2, back⟩
    · exact absurd (List.mem_append_right middle List.mem_cons_self) inFront
  · rintro ⟨beforeFront, declarations, statements, rfl, front, back⟩
    refine ⟨before ++ stmt :: declarations, statements, by simp, ?_, back⟩
    exact List.forall_mem_append.mpr
      ⟨beforeFront, List.forall_mem_cons.mpr ⟨declaring, front⟩⟩

/-- A block with another function of the same header in it binds the same names. -/
theorem Stmt.filterMap_binding?_replaced (before after : List Stmt)
    {definition replacement : FunctionDef}
    (sameName : replacement.name = definition.name)
    (sameSignature : replacement.signature = definition.signature) :
    (before ++ .functionDef replacement :: after).filterMap Stmt.binding? =
      (before ++ .functionDef definition :: after).filterMap Stmt.binding? := by
  simp only [List.filterMap_append, List.filterMap_cons, Stmt.binding?, sameName,
    sameSignature]

section

variable {frame : Frame} {outer : Scopes} {returnTypes : List Ty} {ended : Checker}
  {before after : List Stmt} {stmt : Stmt}

/-- A declaration among others is checked in the same state as they are, and as what
follows it. -/
theorem Stmt.endsIn_checkAll_around_iff
    (front : ∀ other ∈ before, other.isDeclaration = true)
    (declaring : stmt.isDeclaration = true) :
    (Stmt.checkAll ⟨frame :: outer, returnTypes⟩ (before ++ stmt :: after)).EndsIn ended ↔
      (∀ other ∈ before, (other.check ⟨frame :: outer, returnTypes⟩).EndsIn
        ⟨frame :: outer, returnTypes⟩) ∧
      (stmt.check ⟨frame :: outer, returnTypes⟩).EndsIn ⟨frame :: outer, returnTypes⟩ ∧
      (Stmt.checkAll ⟨frame :: outer, returnTypes⟩ after).EndsIn ended := by
  have declarations : ∀ other ∈ before ++ [stmt], other.isDeclaration = true :=
    List.forall_mem_append.mpr ⟨front, List.forall_mem_singleton.mpr declaring⟩
  rw [List.append_cons, Stmt.endsIn_checkAll_append_iff declarations,
    List.forall_mem_append, List.forall_mem_singleton, and_assoc]

/-- What the check of a block asks of one of its declarations, and what of the rest. -/
theorem Checker.endsIn_checkBlock_around_iff (declaring : stmt.isDeclaration = true) :
    (Checker.checkBlock ⟨frame :: outer, returnTypes⟩ (before ++ stmt :: after)).EndsIn
        ended ↔
      ((∀ other ∈ before, other.isDeclaration = true) ∧ Stmt.DeclarationsFirst after) ∧
      (∀ definition, .classDef definition ∈ before ++ stmt :: after →
        definition.memberNames.Nodup) ∧
      ∃ bound, frame.Extends ((before ++ stmt :: after).filterMap Stmt.binding?) bound ∧
        (∀ other ∈ before, (other.check ⟨bound :: outer, returnTypes⟩).EndsIn
          ⟨bound :: outer, returnTypes⟩) ∧
        (stmt.check ⟨bound :: outer, returnTypes⟩).EndsIn ⟨bound :: outer, returnTypes⟩ ∧
        (Stmt.checkAll ⟨bound :: outer, returnTypes⟩ after).EndsIn ended := by
  rw [Checker.checkBlock, Checker.endsIn_inBlock_iff,
    Stmt.declarationsFirst_around_iff declaring]
  apply and_congr_right
  rintro ⟨front, -⟩
  simp only [Stmt.endsIn_checkAll_around_iff front declaring]

/-- The tree of a declaration comes from its own check, and so do those around it. -/
theorem Checker.tree_checkBlock_around (declaring : stmt.isDeclaration = true)
    {bound : Frame}
    (extending : frame.Extends ((before ++ stmt :: after).filterMap Stmt.binding?) bound)
    (passed : (Checker.checkBlock ⟨frame :: outer, returnTypes⟩
      (before ++ stmt :: after)).EndsIn ended) :
    (Checker.checkBlock ⟨frame :: outer, returnTypes⟩ (before ++ stmt :: after)).tree =
      before.map (fun other => (other.check ⟨bound :: outer, returnTypes⟩).tree) ++
        (stmt.check ⟨bound :: outer, returnTypes⟩).tree ::
          (Stmt.checkAll ⟨bound :: outer, returnTypes⟩ after).tree := by
  rcases (Checker.endsIn_checkBlock_around_iff declaring).mp passed with ⟨⟨front, -⟩, -⟩
  rcases Checker.checkAll_of_checkBlock passed with ⟨checked, tree⟩
  rw [← extending.eq_extend] at checked tree
  rcases (Stmt.endsIn_checkAll_around_iff front declaring).mp checked with
    ⟨beforeEnded, stmtEnded, -⟩
  have unchanged : ∀ other ∈ before ++ [stmt],
      (other.check ⟨bound :: outer, returnTypes⟩).EndsIn ⟨bound :: outer, returnTypes⟩ :=
    List.forall_mem_append.mpr ⟨beforeEnded, List.forall_mem_singleton.mpr stmtEnded⟩
  rw [tree, List.append_cons, Stmt.tree_checkAll_append unchanged]
  simp

/-- A function in a block that passes can be replaced by one with the same header exactly
if the new one passes in the frame with the declarations of the block. -/
theorem Checker.checkBlock_replaced_iff {definition replacement : FunctionDef}
    (sameName : replacement.name = definition.name)
    (sameSignature : replacement.signature = definition.signature) {bound : Frame}
    (extending : frame.Extends
      ((before ++ .functionDef definition :: after).filterMap Stmt.binding?) bound)
    (passed : (Checker.checkBlock ⟨frame :: outer, returnTypes⟩
      (before ++ .functionDef definition :: after)).EndsIn ended) :
    (Checker.checkBlock ⟨frame :: outer, returnTypes⟩
        (before ++ .functionDef replacement :: after)).outcome = .ok () ↔
      (replacement.check ⟨bound :: outer, returnTypes⟩).outcome = .ok () := by
  have sameBindings := Stmt.filterMap_binding?_replaced before after sameName sameSignature
  constructor
  · intro replacedPassed
    rcases (Checker.endsIn_checkBlock_around_iff rfl).mp
      (Checked.endsIn_of_outcome replacedPassed) with
      ⟨-, -, others, othersExtending, -, replacementEnded, -⟩
    rw [sameBindings] at othersExtending
    rw [extending.eq_extend, ← othersExtending.eq_extend]
    exact replacementEnded.1
  · intro replacementPassed
    rcases (Checker.endsIn_checkBlock_around_iff rfl).mp passed with
      ⟨ordered, members, original, originalExtending, beforeEnded, -, afterEnded⟩
    -- Only one frame extends another one by given bindings, so both checks see the same.
    rw [originalExtending.eq_extend, ← extending.eq_extend] at beforeEnded afterEnded
    have replacementEnded : ((Stmt.functionDef replacement).check
        ⟨bound :: outer, returnTypes⟩).EndsIn ⟨bound :: outer, returnTypes⟩ :=
      ⟨replacementPassed, (FunctionDef.check_unchanged _ replacement).2⟩
    have replacedEnded : (Checker.checkBlock ⟨frame :: outer, returnTypes⟩
        (before ++ .functionDef replacement :: after)).EndsIn ended := by
      apply (Checker.endsIn_checkBlock_around_iff rfl).mpr
      refine ⟨ordered, ?_, bound, sameBindings ▸ extending, beforeEnded, replacementEnded,
        afterEnded⟩
      intro classDefinition member
      apply members classDefinition
      simpa using member
    exact replacedEnded.1

end

/-- Functions are checked modularly.  Each function of an accepted program may be replaced
by any other one with the same name, parameter types and return type: the program is then
accepted if and only if the new function passes in the scopes with all the declarations of
the program, and outside of the function it is annotated as before. -/
theorem Program.functions_checked_modularly {before after typed : Program}
    {definition : FunctionDef}
    (accepted : Program.typed (before ++ .functionDef definition :: after) = .ok typed) :
    ∃ (globals : Frame) (typedBefore typedAfter : List Stmt) (typedDefinition : FunctionDef),
      (Checker.openBlock ⟨[∅], []⟩ (before ++ .functionDef definition :: after)).EndsIn
        ⟨[globals], []⟩ ∧
      typed = typedBefore ++ .functionDef typedDefinition :: typedAfter ∧
      typedBefore.length = before.length ∧
      ∀ replacement : FunctionDef, replacement.name = definition.name →
        replacement.params.map Param.type = definition.params.map Param.type →
        replacement.returnType = definition.returnType →
        ((∃ typed, Program.typed (before ++ .functionDef replacement :: after) = .ok typed) ↔
          (replacement.check ⟨[globals], []⟩).outcome = .ok ()) ∧
        ∀ typed, Program.typed (before ++ .functionDef replacement :: after) = .ok typed →
          typed = typedBefore ++
            .functionDef (replacement.check ⟨[globals], []⟩).tree :: typedAfter := by
  rcases Program.typed_eq_ok_iff.mp accepted with ⟨ended, passed, rfl⟩
  rcases (Checker.endsIn_checkBlock_around_iff rfl).mp passed with
    ⟨ordered, members, globals, extending, -⟩
  refine ⟨globals, _, _, _, ?_, Checker.tree_checkBlock_around rfl extending passed,
    List.length_map _, ?_⟩
  · exact Checker.endsIn_openBlock_iff.mpr
      ⟨(Stmt.declarationsFirst_around_iff rfl).mpr ordered, members, globals, extending, rfl⟩
  · intro replacement sameName sameParams sameReturn
    have sameSignature : replacement.signature = definition.signature := by
      rw [FunctionDef.signature, FunctionDef.signature, sameParams, sameReturn]
    constructor
    · rw [← Checker.checkBlock_replaced_iff sameName sameSignature extending passed]
      constructor
      · rintro ⟨typed, replacedAccepted⟩
        rcases Program.typed_eq_ok_iff.mp replacedAccepted with ⟨_, replacedEnded, -⟩
        exact replacedEnded.1
      · intro replacedPassed
        exact ⟨_, Program.typed_eq_ok_iff.mpr
          ⟨_, Checked.endsIn_of_outcome replacedPassed, rfl⟩⟩
    · intro replacedTyped replacedAccepted
      rcases Program.typed_eq_ok_iff.mp replacedAccepted with ⟨_, replacedEnded, rfl⟩
      have replacedExtending :=
        (Stmt.filterMap_binding?_replaced before after sameName sameSignature) ▸ extending
      exact Checker.tree_checkBlock_around rfl replacedExtending replacedEnded

/-- A function of one integer that yields another, with the given parameter and result. -/
def nextFunction (param : String) (body : List Stmt) : FunctionDef :=
  { span := .null, name := "next", params := [⟨param, .int⟩], returnType := .int
    body := body }

/-- The successor of the parameter. -/
def successor : FunctionDef :=
  let mark : Mark := { span := .null }
  nextFunction "n"
    [.returnValue .null (.binary mark .add (.name mark "n") (.literal mark (.number 1)))]

/-- A function that calls itself and uses a variable declared after it. -/
def untilLimit : FunctionDef :=
  let mark : Mark := { span := .null }
  nextFunction "seed"
    [.branch .null (.binary mark .less (.name mark "seed") (.name mark "limit"))
      [.varDecl ⟨.null, "n", .bool, .literal mark (.boolean true)⟩,
      .returnValue .null (.call mark "next" [.name mark "limit"])]
      (.otherwise [.returnValue .null (.name mark "seed")])]

/-- A function that yields a truth value, against its header. -/
def isLimit : FunctionDef :=
  let mark : Mark := { span := .null }
  nextFunction "n"
    [.returnValue .null (.binary mark .equal (.name mark "n") (.name mark "limit"))]

/-- A variable in front of the function. -/
def beforeNext : List Stmt :=
  [.varDecl ⟨.null, "count", .int, .literal { span := .null } (.number 0)⟩]

/-- A variable behind the function, and a statement that calls the function. -/
def afterNext : List Stmt :=
  let mark : Mark := { span := .null }
  [.varDecl ⟨.null, "limit", .int, .literal mark (.number 10)⟩,
  .assign .null (.name mark "count") (.call mark "next" [.name mark "limit"])]

/-- The successor may be replaced by the function that calls itself, but not by the one
that yields a truth value. -/
theorem successor_replaced :
    (∃ typed, Program.typed (beforeNext ++ .functionDef successor :: afterNext) = .ok typed) ∧
    ∃ globals,
      (Checker.openBlock ⟨[∅], []⟩ (beforeNext ++ .functionDef successor :: afterNext)).EndsIn
        ⟨[globals], []⟩ ∧
      (untilLimit.check ⟨[globals], []⟩).outcome = .ok () ∧
      (∃ typed,
        Program.typed (beforeNext ++ .functionDef untilLimit :: afterNext) = .ok typed) ∧
      (isLimit.check ⟨[globals], []⟩).outcome ≠ .ok () ∧
      ¬ ∃ typed, Program.typed (beforeNext ++ .functionDef isLimit :: afterNext) = .ok typed := by
  have accepted : Program.typed (beforeNext ++ .functionDef successor :: afterNext) =
      .ok (Checker.checkBlock ⟨[∅], []⟩
        (beforeNext ++ .functionDef successor :: afterNext)).tree := rfl
  have replaced : ∃ typed,
      Program.typed (beforeNext ++ .functionDef untilLimit :: afterNext) = .ok typed := ⟨_, rfl⟩
  have refused :
      ¬ ∃ typed, Program.typed (beforeNext ++ .functionDef isLimit :: afterNext) = .ok typed := by
    rintro ⟨typed, passed⟩
    cases passed
  rcases Program.functions_checked_modularly accepted with
    ⟨globals, _, _, _, opened, -, -, modular⟩
  refine ⟨⟨_, accepted⟩, globals, opened, ?_, replaced, ?_, refused⟩
  · exact (modular untilLimit rfl rfl rfl).1.mp replaced
  · intro passed
    exact refused ((modular isLimit rfl rfl rfl).1.mpr passed)

end SlotLang
