import SlotLang.Proofs.Check.Order
import SlotLang.Proofs.Typing.Origin

/-!
# The flat body of a block

The blocks of branches and loops declare their names in the frame around them, so all the
declarations of a block and of those blocks in it end up in one frame.  They are bound in
several waves, one whenever a block is entered; but each is bound once, and in the end the
frame has exactly one new name for each of them.
-/

namespace SlotLang

/-! ## What a block binds -/

/-- A well-typed block adds the names of its flat body to the frame. -/
theorem Stmt.BlockWellTyped.extends_flatBindings {outer : Scopes} {expected : Ty}
    {frame after : Frame} {body : List Stmt}
    (typed : Stmt.BlockWellTyped outer expected frame body after) :
    frame.Extends (Stmt.flatBindings body) after := by
  have extending := typed.extends_blockBindings fun _ => Stmt.extends_bindingsAll body
  exact extending.perm (Stmt.flattenAll_perm body).symm

/-- The frame of a function starts with its parameters, to which its body adds the names
of its flat body; so all of them are distinct. -/
theorem FunctionDef.WellTyped.names_nodup {scopes : Scopes} {definition : FunctionDef}
    (typed : definition.WellTyped scopes) :
    (definition.params.map Param.name ++ Stmt.flatNames definition.body).Nodup := by
  cases typed with
  | intro _ _ _ paramsBound bodyTyped =>
      have whole := Frame.extends_append_iff.mpr
        ⟨_, paramsBound, bodyTyped.extends_flatBindings⟩
      have distinct := whole.distinct
      rw [List.map_append, List.map_map, Stmt.map_fst_flatBindings] at distinct
      exact distinct

theorem Stmt.BlockWellTyped.function {outer : Scopes} {expected : Ty} {frame after : Frame}
    {body : List Stmt} {definition : FunctionDef}
    (typed : Stmt.BlockWellTyped outer expected frame body after)
    (within : definition.Within body) : ∃ scopes, definition.WellTyped scopes := by
  rcases within with inside | ⟨owner, inside, member⟩
  · rcases typed.exists_of_inside inside with ⟨_, _, _, _, stmtTyped⟩
    cases stmtTyped with
    | functionDef definitionTyped => exact ⟨_, definitionTyped⟩
  · rcases typed.exists_of_inside inside with ⟨_, _, _, _, stmtTyped⟩
    cases stmtTyped with
    | classDef _ methodsTyped => exact ⟨_, methodsTyped definition member⟩

/-- A block that passes adds to the innermost frame exactly what its flat body declares,
each name once and each new; nothing else of the state changes.  So in a function that
passes, by itself or anywhere in a program, the parameters and the names of the flat body
are all distinct. -/
theorem Checker.checkBlock_binds_flat_body :
    (∀ (frame : Frame) (outer : Scopes) (returnTypes : List Ty) (body : List Stmt),
      (Checker.checkBlock ⟨frame :: outer, returnTypes⟩ body).outcome = .ok () →
        ∃ extended, frame.Extends (Stmt.flatBindings body) extended ∧
          (Checker.checkBlock ⟨frame :: outer, returnTypes⟩ body).checker =
            ⟨extended :: outer, returnTypes⟩) ∧
    (∀ (checker : Checker) (definition : FunctionDef),
      (definition.check checker).outcome = .ok () →
        (definition.params.map Param.name ++ Stmt.flatNames definition.body).Nodup) ∧
    ∀ program typed : Program, program.typed = .ok typed →
      ∀ definition : FunctionDef, definition.Within program →
        (definition.params.map Param.name ++ Stmt.flatNames definition.body).Nodup := by
  constructor
  · intro frame outer returnTypes body passed
    rcases Stmt.blockWellTyped_of_inBlock
      (fun checked => Stmt.allWellTyped_of_checkAll body checked)
      (Checked.endsIn_of_outcome passed) with ⟨left, state, blockTyped⟩
    exact ⟨left, blockTyped.extends_flatBindings, state⟩
  constructor
  · rintro ⟨scopes, returnTypes⟩ definition passed
    have ended := Checked.endsIn_of_outcome passed
    exact (FunctionDef.wellTyped_of_check definition ended).2.names_nodup
  · intro program typed accepted definition within
    rcases Program.wellTyped_of_typed accepted with ⟨after, blockTyped⟩
    rcases blockTyped.function within with ⟨scopes, definitionTyped⟩
    exact definitionTyped.names_nodup

/-- A body that declares a variable, a class and a function of its own, and further names
in every case of a branch and in a loop inside one of them.  The function has a variable
of the same name as one of the body. -/
def sizingBody : List Stmt :=
  let mark : Mark := { span := .null }
  let number (value : Int32) : Expr := .literal mark (.number value)
  let counter (name : String) : Stmt := .varDecl ⟨.null, name, .int, number 0⟩
  let positive (name : String) : Expr :=
    .binary mark .greater (.name mark name) (number 0)
  let half : FunctionDef :=
    { span := .null, name := "half", params := [⟨"n", .int⟩], returnType := .int
      body :=
        [counter "small",
        .returnValue .null (.binary mark .div (.name mark "n") (number 2))] }
  [counter "size",
  .functionDef half,
  .classDef ⟨.null, "Box", [⟨.null, "content", .int, number 0⟩], []⟩,
  .branch .null (positive "limit")
    [counter "small",
    .loop .null (positive "small") [counter "round", .pass .null]]
    (.elif (positive "round")
      [.varDecl ⟨.null, "box", .object "Box", .literal mark .none⟩]
      (.otherwise [counter "large"])),
  .returnValue .null (.call mark "half" [.name mark "large"])]

/-- A function with that body. -/
def sizing : FunctionDef :=
  { span := .null, name := "sizing", params := [⟨"limit", .int⟩], returnType := .int
    body := sizingBody }

/-- A frame with the parameter of the function. -/
def limitFrame : Frame :=
  Table.insert ∅ "limit" (.ofVariable .int)

/-- The body binds seven names beside the parameter, as a block of its own, in the
function, and in a program with the function. -/
theorem sizing_binds_flat_body :
    Stmt.flatNames sizingBody =
      ["size", "half", "Box", "small", "round", "box", "large"] ∧
    ((Checker.checkBlock ⟨[limitFrame], [.int]⟩ sizingBody).outcome = .ok () ∧
      ∃ extended, limitFrame.Extends (Stmt.flatBindings sizingBody) extended ∧
        (Checker.checkBlock ⟨[limitFrame], [.int]⟩ sizingBody).checker =
          ⟨[extended], [.int]⟩) ∧
    ((sizing.check {}).outcome = .ok () ∧
      (sizing.params.map Param.name ++ Stmt.flatNames sizing.body).Nodup) ∧
    (∃ typed, Program.typed [.functionDef sizing] = .ok typed) ∧
      (sizing.params.map Param.name ++ Stmt.flatNames sizing.body).Nodup := by
  rcases Checker.checkBlock_binds_flat_body with ⟨blocks, functions, programs⟩
  have within : sizing.Within [.functionDef sizing] := .inl (.here List.mem_cons_self)
  exact ⟨rfl, ⟨rfl, blocks _ _ _ sizingBody rfl⟩, ⟨rfl, functions {} sizing rfl⟩,
    ⟨_, rfl⟩, programs _ _ rfl sizing within⟩

end SlotLang
