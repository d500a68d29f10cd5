import SlotLang.Proofs.Typing.Rule
import SlotLang.Proofs.Typing.Stmt

/-!
# The places of a program and their scopes

Types meet at the nodes of expressions, where declarations give a first value, where
values are assigned, at conditions and where functions return.  This module lists those
places of a tree, each node with the scopes around it and each returned value with the
return type of the innermost function around it.  The scopes are computed from the names
that declarations bind, without any check.
-/

namespace SlotLang

/-! ## Scopes with more names -/

/-- A frame with bindings added in order. -/
def Frame.extend (frame : Frame) (bindings : List (String × Symbol)) : Frame :=
  bindings.foldl (fun frame binding => frame.insert binding.1 binding.2) frame

/-- Scopes with bindings added to the innermost frame. -/
def Scopes.extend : Scopes → List (String × Symbol) → Scopes
  | [], _ => []
  | frame :: outer, bindings => frame.extend bindings :: outer

theorem Frame.extend_append (frame : Frame) (first later : List (String × Symbol)) :
    frame.extend (first ++ later) = (frame.extend first).extend later :=
  List.foldl_append

/-- There is only one way to extend a frame by given bindings. -/
theorem Frame.Extends.eq_extend {frame extended : Frame} {bindings : List (String × Symbol)}
    (extending : frame.Extends bindings extended) : extended = frame.extend bindings := by
  induction bindings generalizing frame with
  | nil => exact Frame.extends_nil_iff.mp extending
  | cons binding later inductionHypothesis =>
      exact inductionHypothesis (Frame.extends_cons_iff.mp extending).2

/-! ## Names from inner blocks -/

mutual

/-- What the bodies of a branch or a loop bind in the frame around the statement. -/
def Stmt.bindings : Stmt → List (String × Symbol)
  | .branch _ _ body rest =>
      (body.filterMap Stmt.binding? ++ Stmt.bindingsAll body) ++ rest.bindings
  | .loop _ _ body => body.filterMap Stmt.binding? ++ Stmt.bindingsAll body
  | _ => []

/-- What the further cases of a branch bind in the frame around it. -/
def Alternatives.bindings : Alternatives → List (String × Symbol)
  | .elif _ body rest =>
      (body.filterMap Stmt.binding? ++ Stmt.bindingsAll body) ++ rest.bindings
  | .otherwise body => body.filterMap Stmt.binding? ++ Stmt.bindingsAll body

/-- What the inner blocks of several statements bind in the frame around them. -/
def Stmt.bindingsAll : List Stmt → List (String × Symbol)
  | [] => []
  | stmt :: later => stmt.bindings ++ Stmt.bindingsAll later

end

/-- What a block binds: the names of its own declarations, then those of the blocks in
it. -/
def Stmt.blockBindings (body : List Stmt) : List (String × Symbol) :=
  body.filterMap Stmt.binding? ++ Stmt.bindingsAll body

/-- A block adds all its names to the frame if its statements add theirs. -/
theorem Stmt.BlockWellTyped.extends_blockBindings {outer : Scopes} {expected : Ty}
    {frame after : Frame} {body : List Stmt}
    (statements : ∀ bound, Stmt.AllWellTyped outer expected bound body after →
      bound.Extends (Stmt.bindingsAll body) after)
    (typed : Stmt.BlockWellTyped outer expected frame body after) :
    frame.Extends (Stmt.blockBindings body) after := by
  cases typed with
  | intro _ _ extended statementsTyped =>
      exact Frame.extends_append_iff.mpr ⟨_, extended, statements _ statementsTyped⟩

mutual

/-- A well-typed statement adds the names of its inner blocks to the frame, all of them
new and distinct. -/
theorem Stmt.extends_bindings {outer : Scopes} {expected : Ty} {frame after : Frame}
    (stmt : Stmt) (typed : Stmt.WellTyped outer expected frame stmt after) :
    frame.Extends stmt.bindings after := by
  cases stmt with
  | branch span condition body rest =>
      cases typed with
      | branch _ bodyTyped restTyped =>
          have bodyExtends := bodyTyped.extends_blockBindings
            fun bound => Stmt.extends_bindingsAll body
          exact Frame.extends_append_iff.mpr
            ⟨_, bodyExtends, Alternatives.extends_bindings rest restTyped⟩
  | loop span condition body =>
      cases typed with
      | loop _ bodyTyped =>
          exact bodyTyped.extends_blockBindings fun bound => Stmt.extends_bindingsAll body
  | _ =>
      cases typed
      exact Frame.extends_nil_iff.mpr rfl
termination_by structural stmt

theorem Alternatives.extends_bindings {outer : Scopes} {expected : Ty}
    {frame after : Frame} (rest : Alternatives)
    (typed : Alternatives.WellTyped outer expected frame rest after) :
    frame.Extends rest.bindings after := by
  cases rest with
  | elif condition body rest =>
      cases typed with
      | elif _ bodyTyped restTyped =>
          have bodyExtends := bodyTyped.extends_blockBindings
            fun bound => Stmt.extends_bindingsAll body
          exact Frame.extends_append_iff.mpr
            ⟨_, bodyExtends, Alternatives.extends_bindings rest restTyped⟩
  | otherwise body =>
      cases typed with
      | otherwise bodyTyped =>
          exact bodyTyped.extends_blockBindings fun bound => Stmt.extends_bindingsAll body
termination_by structural rest

theorem Stmt.extends_bindingsAll {outer : Scopes} {expected : Ty} {frame after : Frame}
    (body : List Stmt) (typed : Stmt.AllWellTyped outer expected frame body after) :
    frame.Extends (Stmt.bindingsAll body) after := by
  cases body with
  | nil =>
      cases typed
      exact Frame.extends_nil_iff.mpr rfl
  | cons stmt later =>
      cases typed with
      | cons stmtTyped laterTyped =>
          exact Frame.extends_append_iff.mpr
            ⟨_, Stmt.extends_bindings stmt stmtTyped, Stmt.extends_bindingsAll later laterTyped⟩
termination_by structural body

end

/-! ## Places -/

/-- A place where types meet. -/
inductive Site where
  /-- A node, in the scopes around it. -/
  | node (scopes : Scopes) (expr : Expr)
  /-- The first value of a variable or a field, and the declared type. -/
  | initial (declared : Ty) (value : Expr)
  | assignment (target value : Expr)
  | condition (value : Expr)
  /-- A returned value, and the type that the function around it declares. -/
  | result (expected : Ty) (value : Expr)

/-- The node at a place, if it is the place of a node. -/
def Site.node? : Site → Option Expr
  | .node _ expr => some expr
  | _ => none

/-- The nodes of an expression. -/
def Expr.sites (scopes : Scopes) (expr : Expr) : List Site :=
  expr.preorder.map (.node scopes)

/-- The places of a declaration. -/
def VarDecl.sites (scopes : Scopes) (declaration : VarDecl) : List Site :=
  .initial declaration.type declaration.value :: declaration.value.sites scopes

mutual

/-- The places of a statement.  An inner block sees the names that it binds itself, and
what follows it sees those and the names of the blocks in it. -/
def Stmt.sites (scopes : Scopes) (expected : Ty) : Stmt → List Site
  | .varDecl declaration => declaration.sites scopes
  | .functionDef definition => definition.sites scopes
  | .classDef definition => definition.sites scopes
  | .assign _ target value =>
      .assignment target value :: (target.sites scopes ++ value.sites scopes)
  | .branch _ condition body rest =>
      .condition condition ::
        (condition.sites scopes ++
          (Stmt.sitesAll (scopes.extend (body.filterMap Stmt.binding?)) expected body ++
            rest.sites (scopes.extend (Stmt.blockBindings body)) expected))
  | .loop _ condition body =>
      .condition condition ::
        (condition.sites scopes ++
          Stmt.sitesAll (scopes.extend (body.filterMap Stmt.binding?)) expected body)
  | .pass _ => []
  | .returnValue _ value => .result expected value :: value.sites scopes
  | .evaluate _ value => value.sites scopes

/-- The places of a function, in a frame of its own that holds the parameters. -/
def FunctionDef.sites (scopes : Scopes) : FunctionDef → List Site
  | ⟨_, _, params, returnType, body⟩ =>
      Stmt.sitesAll
        (Scopes.extend (Frame.extend ∅ (params.map Param.binding) :: scopes)
          (body.filterMap Stmt.binding?))
        returnType body

/-- The places of a class: those of its fields, then those of its methods. -/
def ClassDef.sites (scopes : Scopes) : ClassDef → List Site
  | ⟨_, _, fields, methods⟩ =>
      fields.flatMap (VarDecl.sites scopes) ++ FunctionDef.sitesAll scopes methods

/-- The places of several functions, one after the other. -/
def FunctionDef.sitesAll (scopes : Scopes) : List FunctionDef → List Site
  | [] => []
  | definition :: later => definition.sites scopes ++ FunctionDef.sitesAll scopes later

/-- The places of the further cases of a branch, each of which sees the names of those
before it. -/
def Alternatives.sites (scopes : Scopes) (expected : Ty) : Alternatives → List Site
  | .elif condition body rest =>
      .condition condition ::
        (condition.sites scopes ++
          (Stmt.sitesAll (scopes.extend (body.filterMap Stmt.binding?)) expected body ++
            rest.sites (scopes.extend (Stmt.blockBindings body)) expected))
  | .otherwise body =>
      Stmt.sitesAll (scopes.extend (body.filterMap Stmt.binding?)) expected body

/-- The places of several statements, each of which sees the names of the inner blocks
before it. -/
def Stmt.sitesAll (scopes : Scopes) (expected : Ty) : List Stmt → List Site
  | [] => []
  | stmt :: later =>
      stmt.sites scopes expected ++
        Stmt.sitesAll (scopes.extend stmt.bindings) expected later

end

/-- The places of a block. -/
def Stmt.blockSites (scopes : Scopes) (expected : Ty) (body : List Stmt) : List Site :=
  Stmt.sitesAll (scopes.extend (body.filterMap Stmt.binding?)) expected body

/-- The places of a program: those of a block in an outermost frame of its own, where a
`return` yields null. -/
def Program.sites (program : Program) : List Site :=
  Stmt.blockSites [∅] .none program

/-! ## All nodes are listed -/

theorem Expr.nodes_sites (scopes : Scopes) (expr : Expr) :
    (expr.sites scopes).filterMap Site.node? = expr.preorder := by
  rw [Expr.sites, List.filterMap_map]
  exact List.filterMap_some

theorem VarDecl.nodes_sites (scopes : Scopes) (declaration : VarDecl) :
    (declaration.sites scopes).filterMap Site.node? = declaration.value.preorder :=
  Expr.nodes_sites scopes declaration.value

theorem VarDecl.nodes_flatMap_sites (scopes : Scopes) (fields : List VarDecl) :
    (fields.flatMap (VarDecl.sites scopes)).filterMap Site.node? =
      fields.flatMap fun field => field.value.preorder := by
  rw [List.filterMap_flatMap]
  exact List.flatMap_congr fun field _ => field.nodes_sites scopes

mutual

theorem Stmt.nodes_sites (scopes : Scopes) (expected : Ty) (stmt : Stmt) :
    (stmt.sites scopes expected).filterMap Site.node? = stmt.preorder := by
  cases stmt with
  | varDecl declaration => exact declaration.nodes_sites scopes
  | functionDef definition => exact FunctionDef.nodes_sites scopes definition
  | classDef definition => exact ClassDef.nodes_sites scopes definition
  | assign span target value =>
      rw [Stmt.sites, List.filterMap_cons_none rfl, List.filterMap_append,
        Expr.nodes_sites, Expr.nodes_sites, Stmt.preorder]
  | branch span condition body rest =>
      rw [Stmt.sites, List.filterMap_cons_none rfl, List.filterMap_append,
        List.filterMap_append, Expr.nodes_sites, Stmt.nodes_sitesAll _ expected body,
        Alternatives.nodes_sites _ expected rest, Stmt.preorder]
  | loop span condition body =>
      rw [Stmt.sites, List.filterMap_cons_none rfl, List.filterMap_append,
        Expr.nodes_sites, Stmt.nodes_sitesAll _ expected body, Stmt.preorder]
  | pass span => rfl
  | returnValue span value => exact value.nodes_sites scopes
  | evaluate span value => exact value.nodes_sites scopes
termination_by structural stmt

theorem FunctionDef.nodes_sites (scopes : Scopes) (definition : FunctionDef) :
    (definition.sites scopes).filterMap Site.node? = definition.preorder := by
  cases definition with
  | mk span name params returnType body => exact Stmt.nodes_sitesAll _ returnType body
termination_by structural definition

theorem ClassDef.nodes_sites (scopes : Scopes) (definition : ClassDef) :
    (definition.sites scopes).filterMap Site.node? = definition.preorder := by
  cases definition with
  | mk span name fields methods =>
      rw [ClassDef.sites, List.filterMap_append, VarDecl.nodes_flatMap_sites,
        FunctionDef.nodes_sitesAll scopes methods, ClassDef.preorder]
termination_by structural definition

theorem FunctionDef.nodes_sitesAll (scopes : Scopes) (definitions : List FunctionDef) :
    (FunctionDef.sitesAll scopes definitions).filterMap Site.node? =
      FunctionDef.preorderAll definitions := by
  cases definitions with
  | nil => rfl
  | cons definition later =>
      rw [FunctionDef.sitesAll, List.filterMap_append,
        FunctionDef.nodes_sites scopes definition, FunctionDef.nodes_sitesAll scopes later,
        FunctionDef.preorderAll]
termination_by structural definitions

theorem Alternatives.nodes_sites (scopes : Scopes) (expected : Ty) (rest : Alternatives) :
    (rest.sites scopes expected).filterMap Site.node? = rest.preorder := by
  cases rest with
  | elif condition body rest =>
      rw [Alternatives.sites, List.filterMap_cons_none rfl, List.filterMap_append,
        List.filterMap_append, Expr.nodes_sites, Stmt.nodes_sitesAll _ expected body,
        Alternatives.nodes_sites _ expected rest, Alternatives.preorder]
  | otherwise body => exact Stmt.nodes_sitesAll _ expected body
termination_by structural rest

/-- The nodes among the places of statements are those of the traversal, in its order. -/
theorem Stmt.nodes_sitesAll (scopes : Scopes) (expected : Ty) (body : List Stmt) :
    (Stmt.sitesAll scopes expected body).filterMap Site.node? = Stmt.preorderAll body := by
  cases body with
  | nil => rfl
  | cons stmt later =>
      rw [Stmt.sitesAll, List.filterMap_append, Stmt.nodes_sites scopes expected stmt,
        Stmt.nodes_sitesAll _ expected later, Stmt.preorderAll]
termination_by structural body

end

end SlotLang
