import SlotLang.Proofs.Typing.Sites

/-!
# Flat bodies

The blocks of branches and loops share the frame of the block around them.  The flat body
of a block has the statements of all of them, and its declarations are what ends up in the
frame.
-/

namespace SlotLang

mutual

/-- A statement, followed by the statements in the blocks of it that share its frame.  The
bodies of functions and classes do not. -/
def Stmt.flatten : Stmt → List Stmt
  | .branch span condition body rest =>
      .branch span condition body rest :: (Stmt.flattenAll body ++ rest.flatten)
  | .loop span condition body => .loop span condition body :: Stmt.flattenAll body
  | stmt => [stmt]

/-- The statements in the further cases of a branch. -/
def Alternatives.flatten : Alternatives → List Stmt
  | .elif _ body rest => Stmt.flattenAll body ++ rest.flatten
  | .otherwise body => Stmt.flattenAll body

/-- The flat body of a block, in source order. -/
def Stmt.flattenAll : List Stmt → List Stmt
  | [] => []
  | stmt :: later => stmt.flatten ++ Stmt.flattenAll later

end

/-- What the declarations in the flat body of a block bind. -/
def Stmt.flatBindings (body : List Stmt) : List (String × Symbol) :=
  (Stmt.flattenAll body).filterMap Stmt.binding?

/-- The names that the flat body of a block declares. -/
def Stmt.flatNames (body : List Stmt) : List String :=
  (Stmt.flattenAll body).filterMap Stmt.declaredName?

theorem Stmt.fst_binding? (stmt : Stmt) :
    stmt.binding?.map Prod.fst = stmt.declaredName? := by
  cases stmt <;> rfl

theorem Stmt.map_fst_flatBindings (body : List Stmt) :
    (Stmt.flatBindings body).map Prod.fst = Stmt.flatNames body := by
  rw [Stmt.flatBindings, List.map_filterMap, Stmt.flatNames]
  exact List.filterMap_congr fun stmt _ => stmt.fst_binding?

/-! ## Waves of declarations -/

theorem Stmt.blockBindings_cons (stmt : Stmt) (later : List Stmt) :
    Stmt.blockBindings (stmt :: later) =
      stmt.binding?.toList ++ (later.filterMap Stmt.binding? ++
        (stmt.bindings ++ Stmt.bindingsAll later)) := by
  rw [Stmt.blockBindings, Stmt.bindingsAll, List.filterMap_cons]
  cases stmt.binding? <;> rfl

mutual

/-- A statement is bound with its block, and the blocks in it are bound when they are
entered. -/
theorem Stmt.flatten_perm (stmt : Stmt) :
    (stmt.flatten.filterMap Stmt.binding?).Perm (stmt.binding?.toList ++ stmt.bindings) := by
  cases stmt with
  | branch span condition body rest =>
      rw [Stmt.flatten, List.filterMap_cons_none rfl, List.filterMap_append]
      exact (Stmt.flattenAll_perm body).append (Alternatives.flatten_perm rest)
  | loop span condition body =>
      rw [Stmt.flatten, List.filterMap_cons_none rfl]
      exact Stmt.flattenAll_perm body
  | _ => exact List.Perm.refl _
termination_by structural stmt

theorem Alternatives.flatten_perm (rest : Alternatives) :
    (rest.flatten.filterMap Stmt.binding?).Perm rest.bindings := by
  cases rest with
  | elif condition body rest =>
      rw [Alternatives.flatten, List.filterMap_append]
      exact (Stmt.flattenAll_perm body).append (Alternatives.flatten_perm rest)
  | otherwise body => exact Stmt.flattenAll_perm body
termination_by structural rest

/-- The waves in which a block binds names bind those of its flat body. -/
theorem Stmt.flattenAll_perm (body : List Stmt) :
    ((Stmt.flattenAll body).filterMap Stmt.binding?).Perm (Stmt.blockBindings body) := by
  cases body with
  | nil => exact List.Perm.refl _
  | cons stmt later =>
      rw [Stmt.flattenAll, List.filterMap_append, Stmt.blockBindings_cons]
      have parts := (Stmt.flatten_perm stmt).append (Stmt.flattenAll_perm later)
      rw [Stmt.blockBindings, List.append_assoc] at parts
      -- The names of the later declarations overtake those of the inner blocks.
      have overtaken := List.perm_append_comm_assoc stmt.bindings
        (later.filterMap Stmt.binding?) (Stmt.bindingsAll later)
      exact parts.trans (overtaken.append_left stmt.binding?.toList)
termination_by structural body

end

end SlotLang
