import SlotLang.Proofs.Typing.Flat

/-!
# Where the names in scope come from

Each frame of the scopes around a place of a program belongs to a block of the program:
to the whole of it, or to the body of a function.  The frame holds the parameters of the
function and what the flat body of the block declares.  So each function and each class
that a name stands for can be traced back, through the frame that binds the name, to its
definition.
-/

namespace SlotLang

/-! ## Statements inside a block -/

/-- The blocks of the further cases of a branch. -/
def Alternatives.blocks : Alternatives → List (List Stmt)
  | .elif _ body rest => body :: rest.blocks
  | .otherwise body => [body]

/-- The blocks directly inside a statement. -/
def Stmt.blocks : Stmt → List (List Stmt)
  | .functionDef definition => [definition.body]
  | .classDef definition => definition.methods.map FunctionDef.body
  | .branch _ _ body rest => body :: rest.blocks
  | .loop _ _ body => [body]
  | _ => []

/-- `stmt.Inside body`: the statement is one of the block, or stands at any depth in the
blocks inside it. -/
inductive Stmt.Inside (stmt : Stmt) : List Stmt → Prop where
  | here {body : List Stmt} (member : stmt ∈ body) : Inside stmt body
  | deeper {body block : List Stmt} {around : Stmt} (member : around ∈ body)
      (listed : block ∈ around.blocks) (inside : Inside stmt block) : Inside stmt body

/-- Every block inside a well-typed statement is well typed in some scopes. -/
theorem Alternatives.WellTyped.block {outer : Scopes} {expected : Ty} {frame after : Frame}
    {rest : Alternatives} (typed : Alternatives.WellTyped outer expected frame rest after)
    {block : List Stmt} (listed : block ∈ rest.blocks) :
    ∃ before after, Stmt.BlockWellTyped outer expected before block after := by
  cases rest with
  | elif condition body rest =>
      cases typed with
      | elif _ bodyTyped restTyped =>
          rcases List.mem_cons.mp listed with rfl | listed
          · exact ⟨_, _, bodyTyped⟩
          · exact restTyped.block listed
  | otherwise body =>
      cases typed with
      | otherwise bodyTyped =>
          cases List.mem_singleton.mp listed
          exact ⟨_, _, bodyTyped⟩
termination_by structural rest

theorem Stmt.WellTyped.block {outer : Scopes} {expected : Ty} {frame after : Frame}
    {stmt : Stmt} (typed : Stmt.WellTyped outer expected frame stmt after)
    {block : List Stmt} (listed : block ∈ stmt.blocks) :
    ∃ scopes result before after, Stmt.BlockWellTyped scopes result before block after := by
  cases typed with
  | functionDef definitionTyped =>
      cases List.mem_singleton.mp listed
      cases definitionTyped with
      | intro _ _ _ _ bodyTyped => exact ⟨_, _, _, _, bodyTyped⟩
  | classDef _ methodsTyped =>
      rcases List.mem_map.mp listed with ⟨method, member, rfl⟩
      cases methodsTyped method member with
      | intro _ _ _ _ bodyTyped => exact ⟨_, _, _, _, bodyTyped⟩
  | branch _ bodyTyped restTyped =>
      rcases List.mem_cons.mp listed with rfl | listed
      · exact ⟨_, _, _, _, bodyTyped⟩
      · exact ⟨_, _, restTyped.block listed⟩
  | loop _ bodyTyped =>
      cases List.mem_singleton.mp listed
      exact ⟨_, _, _, _, bodyTyped⟩
  | _ => cases listed

theorem Stmt.AllWellTyped.exists_of_mem {outer : Scopes} {expected : Ty} {frame after : Frame}
    {body : List Stmt} (typed : Stmt.AllWellTyped outer expected frame body after)
    {stmt : Stmt} (member : stmt ∈ body) :
    ∃ before after, Stmt.WellTyped outer expected before stmt after := by
  induction body generalizing frame with
  | nil => cases member
  | cons first later inductionHypothesis =>
      cases typed with
      | cons firstTyped laterTyped =>
          rcases List.mem_cons.mp member with rfl | member
          · exact ⟨_, _, firstTyped⟩
          · exact inductionHypothesis laterTyped member

/-- Every statement inside a well-typed block is well typed in some scopes. -/
theorem Stmt.BlockWellTyped.exists_of_inside {outer : Scopes} {expected : Ty}
    {frame after : Frame} {body : List Stmt} {stmt : Stmt}
    (typed : Stmt.BlockWellTyped outer expected frame body after) (inside : stmt.Inside body) :
    ∃ scopes result before after, Stmt.WellTyped scopes result before stmt after := by
  induction inside generalizing outer expected frame after with
  | here member =>
      cases typed with
      | intro _ _ _ statementsTyped => exact ⟨_, _, statementsTyped.exists_of_mem member⟩
  | deeper member listed _ inductionHypothesis =>
      cases typed with
      | intro _ _ _ statementsTyped =>
          rcases statementsTyped.exists_of_mem member with ⟨_, _, aroundTyped⟩
          rcases aroundTyped.block listed with ⟨_, _, _, _, blockTyped⟩
          exact inductionHypothesis blockTyped

/-- The members of every class inside a well-typed block are distinct. -/
theorem Stmt.BlockWellTyped.members_nodup {outer : Scopes} {expected : Ty}
    {frame after : Frame} {body : List Stmt} {definition : ClassDef}
    (typed : Stmt.BlockWellTyped outer expected frame body after)
    (inside : (Stmt.classDef definition).Inside body) : definition.memberNames.Nodup := by
  induction inside generalizing outer expected frame after with
  | here member =>
      cases typed with
      | intro _ members _ _ => exact members definition member
  | deeper member listed _ inductionHypothesis =>
      cases typed with
      | intro _ _ _ statementsTyped =>
          rcases statementsTyped.exists_of_mem member with ⟨_, _, aroundTyped⟩
          rcases aroundTyped.block listed with ⟨_, _, _, _, blockTyped⟩
          exact inductionHypothesis blockTyped

/-! ## Blocks with a frame -/

/-- A function or a method that stands at any depth in a block. -/
def FunctionDef.Within (definition : FunctionDef) (body : List Stmt) : Prop :=
  (Stmt.functionDef definition).Inside body ∨
    ∃ owner : ClassDef, (Stmt.classDef owner).Inside body ∧ definition ∈ owner.methods

/-- A block that has a frame of its own: the whole program, or the body of a function. -/
def Stmt.OpensFrame (program body : List Stmt) : Prop :=
  body = program ∨
    ∃ definition : FunctionDef, definition.Within program ∧ definition.body = body

theorem Stmt.Inside.of_block {stmt around : Stmt} {block program : List Stmt}
    (outside : around.Inside program) (listed : block ∈ around.blocks)
    (inside : stmt.Inside block) : stmt.Inside program := by
  induction outside with
  | here member => exact .deeper member listed inside
  | deeper member blockListed _ inductionHypothesis =>
      exact .deeper member blockListed inductionHypothesis

theorem Stmt.OpensFrame.inside {program body : List Stmt} {stmt : Stmt}
    (opens : Stmt.OpensFrame program body) (inside : stmt.Inside body) :
    stmt.Inside program := by
  rcases opens with rfl | ⟨definition, within | ⟨owner, within, member⟩, rfl⟩
  · exact inside
  · exact within.of_block (List.mem_singleton_self _) inside
  · exact within.of_block (List.mem_map_of_mem member) inside

mutual

/-- A statement of a flat body stands at its top or in a block inside. -/
theorem Stmt.inside_of_mem_flatten {stmt : Stmt} (around : Stmt)
    (member : stmt ∈ around.flatten) :
    stmt = around ∨ ∃ block ∈ around.blocks, stmt.Inside block := by
  cases around with
  | branch span condition body rest =>
      rcases List.mem_cons.mp member with same | member
      · exact .inl same
      · right
        rcases List.mem_append.mp member with member | member
        · exact ⟨body, List.mem_cons_self, Stmt.inside_of_mem_flattenAll body member⟩
        · rcases Alternatives.inside_of_mem_flatten rest member with ⟨block, listed, inside⟩
          exact ⟨block, List.mem_cons_of_mem _ listed, inside⟩
  | loop span condition body =>
      rcases List.mem_cons.mp member with same | member
      · exact .inl same
      · exact .inr ⟨body, List.mem_singleton_self body,
          Stmt.inside_of_mem_flattenAll body member⟩
  | _ => exact .inl (List.mem_singleton.mp member)
termination_by structural around

theorem Alternatives.inside_of_mem_flatten {stmt : Stmt} (rest : Alternatives)
    (member : stmt ∈ rest.flatten) : ∃ block ∈ rest.blocks, stmt.Inside block := by
  cases rest with
  | elif condition body rest =>
      rcases List.mem_append.mp member with member | member
      · exact ⟨body, List.mem_cons_self, Stmt.inside_of_mem_flattenAll body member⟩
      · rcases Alternatives.inside_of_mem_flatten rest member with ⟨block, listed, inside⟩
        exact ⟨block, List.mem_cons_of_mem _ listed, inside⟩
  | otherwise body =>
      exact ⟨body, List.mem_singleton_self body, Stmt.inside_of_mem_flattenAll body member⟩
termination_by structural rest

theorem Stmt.inside_of_mem_flattenAll {stmt : Stmt} (body : List Stmt)
    (member : stmt ∈ Stmt.flattenAll body) : stmt.Inside body := by
  cases body with
  | nil => cases member
  | cons first later =>
      rcases List.mem_append.mp member with member | member
      · rcases Stmt.inside_of_mem_flatten first member with rfl | ⟨block, listed, inside⟩
        · exact .here List.mem_cons_self
        · exact .deeper List.mem_cons_self listed inside
      · cases Stmt.inside_of_mem_flattenAll later member with
        | here member => exact .here (List.mem_cons_of_mem _ member)
        | deeper member listed inside =>
            exact .deeper (List.mem_cons_of_mem _ member) listed inside
termination_by structural body

end

/-! ## Scopes drawn from a program -/

/-- A binding is that of a variable, or the flat body declares it. -/
def Stmt.Provides (body : List Stmt) (binding : String × Symbol) : Prop :=
  (∃ type, binding.2 = .ofVariable type) ∨ binding ∈ Stmt.flatBindings body

/-- The frame belongs to a block of the program, whose flat body declares the functions and
the classes in the frame. -/
structure Frame.OpenedFor (program body : List Stmt) (frame : Frame) : Prop where
  opens : Stmt.OpensFrame program body
  drawn : ∀ name symbol, frame.get? name = some symbol → Stmt.Provides body (name, symbol)

/-- Every frame of the scopes belongs to a block of the program. -/
def Scopes.DrawnFrom (program : List Stmt) (scopes : Scopes) : Prop :=
  ∀ frame ∈ scopes, ∃ body, Frame.OpenedFor program body frame

/-- The innermost frame belongs to the given block, and the others to blocks of the program
too. -/
inductive Scopes.OpenedFor (program body : List Stmt) : Scopes → Prop where
  | cons {frame : Frame} {outer : Scopes} (opened : Frame.OpenedFor program body frame)
      (drawn : outer.DrawnFrom program) : OpenedFor program body (frame :: outer)

/-- A name in an extended frame is one of the added bindings or was there before. -/
theorem Frame.mem_or_get?_of_get?_extend {bindings : List (String × Symbol)}
    {frame : Frame} {name : String} {symbol : Symbol}
    (bound : (frame.extend bindings).get? name = some symbol) :
    (name, symbol) ∈ bindings ∨ frame.get? name = some symbol := by
  induction bindings generalizing frame with
  | nil => exact .inr bound
  | cons binding later inductionHypothesis =>
      rcases inductionHypothesis bound with member | before
      · exact .inl (List.mem_cons_of_mem _ member)
      · by_cases same : name = binding.1
        · subst name
          rw [Table.get?_insert_self] at before
          cases before
          exact .inl List.mem_cons_self
        · rw [Table.get?_insert_of_ne _ _ same] at before
          exact .inr before

theorem Frame.OpenedFor.extend {program body : List Stmt} {frame : Frame}
    (opened : Frame.OpenedFor program body frame) {bindings : List (String × Symbol)}
    (provided : ∀ binding ∈ bindings, Stmt.Provides body binding) :
    Frame.OpenedFor program body (frame.extend bindings) where
  opens := opened.opens
  drawn := by
    intro name symbol bound
    rcases Frame.mem_or_get?_of_get?_extend bound with member | before
    · exact provided _ member
    · exact opened.drawn name symbol before

theorem Frame.openedFor_empty {program body : List Stmt}
    (opens : Stmt.OpensFrame program body) : Frame.OpenedFor program body ∅ where
  opens := opens
  drawn := by
    intro name symbol bound
    rw [Table.get?_empty] at bound
    cases bound

namespace Scopes.OpenedFor

variable {program body : List Stmt} {scopes : Scopes}

theorem drawnFrom (opened : scopes.OpenedFor program body) : scopes.DrawnFrom program := by
  cases opened with
  | cons opened drawn => exact List.forall_mem_cons.mpr ⟨⟨body, opened⟩, drawn⟩

theorem opens (opened : scopes.OpenedFor program body) : Stmt.OpensFrame program body := by
  cases opened with
  | cons opened _ => exact opened.opens

theorem extend (opened : scopes.OpenedFor program body) {bindings : List (String × Symbol)}
    (listed : ∀ binding ∈ bindings, binding ∈ Stmt.flatBindings body) :
    (scopes.extend bindings).OpenedFor program body := by
  cases opened with
  | cons opened drawn =>
      exact .cons (opened.extend fun binding member => .inr (listed binding member)) drawn

/-- The frame of a function starts with its parameters. -/
theorem enter (opened : scopes.OpenedFor program body) {definition : FunctionDef}
    (within : definition.Within program) (params : List Param) :
    OpenedFor program definition.body
      (Frame.extend ∅ (params.map Param.binding) :: scopes) := by
  apply OpenedFor.cons _ opened.drawnFrom
  apply (Frame.openedFor_empty (.inr ⟨definition, within, rfl⟩)).extend
  intro binding member
  rcases List.mem_map.mp member with ⟨param, _, rfl⟩
  exact .inl ⟨param.type, rfl⟩

section

variable {block : List Stmt} (shared : ∀ stmt ∈ Stmt.flattenAll block,
  stmt ∈ Stmt.flattenAll body)

include shared

/-- A block that shares the frame leaves all its names there. -/
theorem afterBlock (opened : scopes.OpenedFor program body) :
    (scopes.extend (Stmt.blockBindings block)).OpenedFor program body := by
  apply opened.extend
  intro binding member
  rcases List.mem_filterMap.mp ((Stmt.flattenAll_perm block).mem_iff.mpr member) with
    ⟨stmt, listed, binds⟩
  exact List.mem_filterMap.mpr ⟨stmt, shared stmt listed, binds⟩

/-- The declarations of a block that shares the frame are added first. -/
theorem openBlock (opened : scopes.OpenedFor program body) :
    (scopes.extend (block.filterMap Stmt.binding?)).OpenedFor program body := by
  apply opened.extend
  intro binding member
  have among : binding ∈ Stmt.blockBindings block := List.mem_append_left _ member
  rcases List.mem_filterMap.mp ((Stmt.flattenAll_perm block).mem_iff.mpr among) with
    ⟨stmt, listed, binds⟩
  exact List.mem_filterMap.mpr ⟨stmt, shared stmt listed, binds⟩

end

/-- A statement leaves the names of the blocks in it that share the frame. -/
theorem afterStmt (opened : scopes.OpenedFor program body) {stmt : Stmt}
    (shared : ∀ inner ∈ stmt.flatten, inner ∈ Stmt.flattenAll body) :
    (scopes.extend stmt.bindings).OpenedFor program body := by
  apply opened.extend
  intro binding member
  have among := (Stmt.flatten_perm stmt).mem_iff.mpr (List.mem_append_right _ member)
  rcases List.mem_filterMap.mp among with ⟨inner, listed, binds⟩
  exact List.mem_filterMap.mpr ⟨inner, shared inner listed, binds⟩

end Scopes.OpenedFor

/-! ## The frame of a name -/

/-- The innermost frame that binds a name. -/
def Scopes.home? (scopes : Scopes) (name : String) : Option Frame :=
  scopes.find? fun frame => frame.contains name

theorem Scopes.lookup?_eq_home? (scopes : Scopes) (name : String) :
    scopes.lookup? name = (scopes.home? name).bind fun home => home.get? name := by
  induction scopes with
  | nil => rfl
  | cons frame outer inductionHypothesis =>
      unfold lookup? home? at inductionHypothesis ⊢
      rw [List.findSome?_cons, List.find?_cons, Table.contains]
      cases bound : frame.get? name with
      | none => exact inductionHypothesis
      | some symbol => exact bound.symm

/-- What a name stands for is bound in its frame, which belongs to a block of the program.
Unless it is a variable, a statement in the flat body of that block declares it. -/
theorem Scopes.DrawnFrom.exists_home {program : List Stmt} {scopes : Scopes}
    (drawn : scopes.DrawnFrom program) {name : String} {symbol : Symbol}
    (bound : scopes.lookup? name = some symbol)
    (declared : ∀ type, symbol ≠ .ofVariable type) :
    ∃ home body, scopes.home? name = some home ∧ Frame.OpenedFor program body home ∧
      ∃ stmt ∈ Stmt.flattenAll body, stmt.binding? = some (name, symbol) := by
  rw [Scopes.lookup?_eq_home?] at bound
  rcases Option.bind_eq_some_iff.mp bound with ⟨home, found, inFrame⟩
  rcases drawn home (List.mem_of_find?_eq_some found) with ⟨body, opened⟩
  rcases opened.drawn name symbol inFrame with ⟨type, isVariable⟩ | listed
  · exact absurd isVariable (declared type)
  · exact ⟨home, body, found, opened, List.mem_filterMap.mp listed⟩

/-! ## The scopes around places -/

/-- The scopes around the nodes of a list are drawn from the program, and with a node the
list has its children, in the same scopes. -/
structure Site.AllRooted (program : List Stmt) (sites : List Site) : Prop where
  drawn : ∀ scopes node, .node scopes node ∈ sites → scopes.DrawnFrom program
  closed : ∀ scopes node, .node scopes node ∈ sites →
    ∀ child ∈ node.children, .node scopes child ∈ sites

section

variable {program : List Stmt} {scopes : Scopes}

theorem Site.allRooted_nil : Site.AllRooted program [] := by
  constructor
  · intro scopes node listed
    cases listed
  · intro scopes node listed
    cases listed

theorem Site.allRooted_append {first later : List Site}
    (firstRooted : Site.AllRooted program first)
    (laterRooted : Site.AllRooted program later) :
    Site.AllRooted program (first ++ later) := by
  constructor
  · intro scopes node listed
    rcases List.mem_append.mp listed with listed | listed
    · exact firstRooted.drawn scopes node listed
    · exact laterRooted.drawn scopes node listed
  · intro scopes node listed child isChild
    rcases List.mem_append.mp listed with listed | listed
    · exact List.mem_append_left _ (firstRooted.closed scopes node listed child isChild)
    · exact List.mem_append_right _ (laterRooted.closed scopes node listed child isChild)

/-- A place that is not that of a node has no scopes. -/
theorem Site.allRooted_cons {site : Site} {later : List Site} (other : site.node? = none)
    (laterRooted : Site.AllRooted program later) :
    Site.AllRooted program (site :: later) := by
  have among : ∀ scopes node, .node scopes node ∈ site :: later →
      .node scopes node ∈ later := by
    intro scopes node listed
    rcases List.mem_cons.mp listed with rfl | listed
    · cases other
    · exact listed
  constructor
  · intro scopes node listed
    exact laterRooted.drawn scopes node (among scopes node listed)
  · intro scopes node listed child isChild
    exact List.mem_cons_of_mem _
      (laterRooted.closed scopes node (among scopes node listed) child isChild)

theorem Expr.rooted_sites (drawn : scopes.DrawnFrom program) (expr : Expr) :
    Site.AllRooted program (expr.sites scopes) := by
  constructor
  · intro around node listed
    rcases List.mem_map.mp listed with ⟨part, inside, same⟩
    cases same
    exact drawn
  · intro around node listed child isChild
    rcases List.mem_map.mp listed with ⟨part, inside, same⟩
    cases same
    have within := expr.preorder_subset inside (node.children_subset_preorder isChild)
    exact List.mem_map_of_mem within

theorem VarDecl.rooted_sites (drawn : scopes.DrawnFrom program) (declaration : VarDecl) :
    Site.AllRooted program (declaration.sites scopes) :=
  Site.allRooted_cons rfl (declaration.value.rooted_sites drawn)

theorem VarDecl.rooted_flatMap_sites (drawn : scopes.DrawnFrom program)
    (fields : List VarDecl) :
    Site.AllRooted program (fields.flatMap (VarDecl.sites scopes)) := by
  induction fields with
  | nil => exact Site.allRooted_nil
  | cons field later inductionHypothesis =>
      rw [List.flatMap_cons]
      exact Site.allRooted_append (field.rooted_sites drawn) inductionHypothesis

theorem Site.allRooted_guarded (drawn : scopes.DrawnFrom program) (condition : Expr)
    {inner : List Site} (innerRooted : Site.AllRooted program inner) :
    Site.AllRooted program (.condition condition :: (condition.sites scopes ++ inner)) :=
  Site.allRooted_cons rfl
    (Site.allRooted_append (condition.rooted_sites drawn) innerRooted)

end

mutual

/-- The places of a statement are rooted in the program, if the innermost frame belongs to
a block with the statement in its flat body. -/
theorem Stmt.rooted_sites {program body : List Stmt} {scopes : Scopes} {expected : Ty}
    (stmt : Stmt) (opened : scopes.OpenedFor program body)
    (shared : ∀ inner ∈ stmt.flatten, inner ∈ Stmt.flattenAll body) :
    Site.AllRooted program (stmt.sites scopes expected) := by
  have drawn := opened.drawnFrom
  have inside : ∀ inner ∈ stmt.flatten, inner.Inside program := fun inner member =>
    opened.opens.inside (Stmt.inside_of_mem_flattenAll body (shared inner member))
  cases stmt with
  | varDecl declaration => exact declaration.rooted_sites drawn
  | functionDef definition =>
      exact FunctionDef.rooted_sites definition opened
        (.inl (inside _ (List.mem_singleton_self _)))
  | classDef definition =>
      apply ClassDef.rooted_sites definition opened
      intro method member
      exact .inr ⟨definition, inside _ (List.mem_singleton_self _), member⟩
  | assign span target value =>
      exact Site.allRooted_cons rfl
        (Site.allRooted_append (target.rooted_sites drawn) (value.rooted_sites drawn))
  | branch span condition block rest =>
      rcases List.forall_mem_append.mp (List.forall_mem_cons.mp shared).2 with
        ⟨blockShared, restShared⟩
      apply Site.allRooted_guarded drawn
      apply Site.allRooted_append
      · exact Stmt.rooted_sitesAll block (opened.openBlock blockShared) blockShared
      · exact Alternatives.rooted_sites rest (opened.afterBlock blockShared) restShared
  | loop span condition block =>
      have blockShared := (List.forall_mem_cons.mp shared).2
      apply Site.allRooted_guarded drawn
      exact Stmt.rooted_sitesAll block (opened.openBlock blockShared) blockShared
  | pass span => exact Site.allRooted_nil
  | returnValue span value => exact Site.allRooted_cons rfl (value.rooted_sites drawn)
  | evaluate span value => exact value.rooted_sites drawn
termination_by structural stmt

theorem FunctionDef.rooted_sites {program body : List Stmt} {scopes : Scopes}
    (definition : FunctionDef) (opened : scopes.OpenedFor program body)
    (within : definition.Within program) :
    Site.AllRooted program (definition.sites scopes) := by
  cases definition with
  | mk span name params returnType block =>
      have entered := opened.enter within params
      exact Stmt.rooted_sitesAll block (entered.openBlock fun _ member => member)
        fun _ member => member
termination_by structural definition

theorem ClassDef.rooted_sites {program body : List Stmt} {scopes : Scopes}
    (definition : ClassDef) (opened : scopes.OpenedFor program body)
    (within : ∀ method ∈ definition.methods, method.Within program) :
    Site.AllRooted program (definition.sites scopes) := by
  cases definition with
  | mk span name fields methods =>
      apply Site.allRooted_append
      · exact VarDecl.rooted_flatMap_sites opened.drawnFrom fields
      · exact FunctionDef.rooted_sitesAll methods opened within
termination_by structural definition

theorem FunctionDef.rooted_sitesAll {program body : List Stmt} {scopes : Scopes}
    (definitions : List FunctionDef) (opened : scopes.OpenedFor program body)
    (within : ∀ definition ∈ definitions, definition.Within program) :
    Site.AllRooted program (FunctionDef.sitesAll scopes definitions) := by
  cases definitions with
  | nil => exact Site.allRooted_nil
  | cons definition later =>
      rcases List.forall_mem_cons.mp within with ⟨firstWithin, laterWithin⟩
      apply Site.allRooted_append
      · exact FunctionDef.rooted_sites definition opened firstWithin
      · exact FunctionDef.rooted_sitesAll later opened laterWithin
termination_by structural definitions

theorem Alternatives.rooted_sites {program body : List Stmt} {scopes : Scopes}
    {expected : Ty} (rest : Alternatives) (opened : scopes.OpenedFor program body)
    (shared : ∀ inner ∈ rest.flatten, inner ∈ Stmt.flattenAll body) :
    Site.AllRooted program (rest.sites scopes expected) := by
  cases rest with
  | elif condition block rest =>
      rcases List.forall_mem_append.mp shared with ⟨blockShared, restShared⟩
      apply Site.allRooted_guarded opened.drawnFrom
      apply Site.allRooted_append
      · exact Stmt.rooted_sitesAll block (opened.openBlock blockShared) blockShared
      · exact Alternatives.rooted_sites rest (opened.afterBlock blockShared) restShared
  | otherwise block => exact Stmt.rooted_sitesAll block (opened.openBlock shared) shared
termination_by structural rest

theorem Stmt.rooted_sitesAll {program body : List Stmt} {scopes : Scopes} {expected : Ty}
    (block : List Stmt) (opened : scopes.OpenedFor program body)
    (shared : ∀ stmt ∈ Stmt.flattenAll block, stmt ∈ Stmt.flattenAll body) :
    Site.AllRooted program (Stmt.sitesAll scopes expected block) := by
  cases block with
  | nil => exact Site.allRooted_nil
  | cons stmt later =>
      rcases List.forall_mem_append.mp shared with ⟨stmtShared, laterShared⟩
      apply Site.allRooted_append
      · exact Stmt.rooted_sites stmt opened stmtShared
      · exact Stmt.rooted_sitesAll later (opened.afterStmt stmtShared) laterShared
termination_by structural block

end

/-- The places of a program are rooted in the program. -/
theorem Program.rooted_sites (program : Program) :
    Site.AllRooted program (Program.sites program) := by
  have opened : Scopes.OpenedFor program program [∅] :=
    .cons (Frame.openedFor_empty (.inl rfl)) fun _ member => absurd member List.not_mem_nil
  exact Stmt.rooted_sitesAll program (opened.openBlock fun _ member => member)
    fun _ member => member

end SlotLang
