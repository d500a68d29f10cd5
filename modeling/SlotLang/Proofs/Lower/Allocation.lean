import SlotLang.Proofs.Lower.Emission

/-!
# Allocation

The slots that a block gets, as a list: those of the names that it sets, and the scratch
slot if it needs one.  The walk that gives them out takes the names in this order, and so
the code of a program is that of its slots and the lowered code of its statements.
-/

namespace SlotLang

mutual

/-- The names that a statement sets, in order and with repetitions. -/
def Stmt.setNames : Stmt → List String
  | .varDecl declaration => [declaration.name]
  | .assign _ target _ => target.name?.toList
  | .branch _ _ body rest => Stmt.setNamesAll body ++ rest.setNames
  | .loop _ _ body => Stmt.setNamesAll body
  | _ => []

/-- The names that the further cases of a branch set. -/
def Alternatives.setNames : Alternatives → List String
  | .elif _ body rest => Stmt.setNamesAll body ++ rest.setNames
  | .otherwise body => Stmt.setNamesAll body

/-- The names that a block sets. -/
def Stmt.setNamesAll : List Stmt → List String
  | [] => []
  | stmt :: later => stmt.setNames ++ Stmt.setNamesAll later

end

mutual

/-- Whether a statement leaves a value that nobody asked for. -/
def Stmt.usesScratch : Stmt → Bool
  | .evaluate _ _ => true
  | .branch _ _ body rest => Stmt.anyUsesScratch body || rest.usesScratch
  | .loop _ _ body => Stmt.anyUsesScratch body
  | _ => false

/-- Whether a further case of a branch leaves a value that nobody asked for. -/
def Alternatives.usesScratch : Alternatives → Bool
  | .elif _ body rest => Stmt.anyUsesScratch body || rest.usesScratch
  | .otherwise body => Stmt.anyUsesScratch body

/-- Whether a block leaves a value that nobody asked for. -/
def Stmt.anyUsesScratch : List Stmt → Bool
  | [] => false
  | stmt :: later => stmt.usesScratch || Stmt.anyUsesScratch later

end

/-- Give a name a slot, unless it has one. -/
def allocate (slots : List String) (name : String) : List String :=
  if name ∈ slots then slots else slots ++ [name]

/-- The slots of a block on top of those that exist already: one for each name it
sets, in the order of first mention, and at the end the scratch slot if it is
needed. -/
def allocateBlock (scratch : String) (slots : List String) (body : List Stmt) :
    List String :=
  let named := (Stmt.setNamesAll body).foldl allocate slots
  if Stmt.anyUsesScratch body then allocate named scratch else named

/-! ## The walk through a block -/

/-- The walk after some more names were met, and perhaps values that nobody asked for. -/
def SlotWalk.meet (walk : SlotWalk) (names : List String) (scratch : Bool) : SlotWalk :=
  { compiler := names.foldl Compiler.allocate walk.compiler
    needsScratch := walk.needsScratch || scratch }

theorem SlotWalk.meet_meet (walk : SlotWalk) (names later : List String)
    (scratch laterScratch : Bool) :
    (walk.meet names scratch).meet later laterScratch =
      walk.meet (names ++ later) (scratch || laterScratch) := by
  simp only [meet, List.foldl_append, Bool.or_assoc]

theorem SlotWalk.meet_nil (walk : SlotWalk) : walk.meet [] false = walk := by
  rw [meet, Bool.or_false, List.foldl_nil]

theorem SlotWalk.meet_name (walk : SlotWalk) (name : String) :
    walk.meet [name] false = { walk with compiler := walk.compiler.allocate name } := by
  rw [meet, Bool.or_false, List.foldl_cons, List.foldl_nil]

mutual

/-- The walk meets the names that a statement sets, in their order. -/
theorem Stmt.collectSlots_eq (walk : SlotWalk) (stmt : Stmt) :
    stmt.collectSlots walk = walk.meet stmt.setNames stmt.usesScratch := by
  cases stmt with
  | varDecl declaration => exact (walk.meet_name declaration.name).symm
  | assign span target value =>
      change _ = walk.meet target.name?.toList false
      rw [Stmt.collectSlots]
      cases target.name? with
      | none => exact walk.meet_nil.symm
      | some name => exact (walk.meet_name name).symm
  | evaluate =>
      rw [Stmt.collectSlots, Stmt.usesScratch, SlotWalk.meet, Bool.or_true]
      rfl
  | branch span condition body rest =>
      rw [Stmt.collectSlots, Stmt.collectSlotsAll_eq walk body,
        Alternatives.collectSlots_eq _ rest, SlotWalk.meet_meet]
      rfl
  | loop span condition body => exact Stmt.collectSlotsAll_eq walk body
  | _ => exact walk.meet_nil.symm
termination_by structural stmt

theorem Alternatives.collectSlots_eq (walk : SlotWalk) (rest : Alternatives) :
    rest.collectSlots walk = walk.meet rest.setNames rest.usesScratch := by
  cases rest with
  | elif condition body rest =>
      rw [Alternatives.collectSlots, Stmt.collectSlotsAll_eq walk body,
        Alternatives.collectSlots_eq _ rest, SlotWalk.meet_meet]
      rfl
  | otherwise body => exact Stmt.collectSlotsAll_eq walk body
termination_by structural rest

theorem Stmt.collectSlotsAll_eq (walk : SlotWalk) (body : List Stmt) :
    Stmt.collectSlotsAll walk body =
      walk.meet (Stmt.setNamesAll body) (Stmt.anyUsesScratch body) := by
  cases body with
  | nil => exact walk.meet_nil.symm
  | cons stmt later =>
      rw [Stmt.collectSlotsAll, Stmt.collectSlots_eq walk stmt,
        Stmt.collectSlotsAll_eq _ later, SlotWalk.meet_meet]
      rfl
termination_by structural body

end

namespace Compiler

/-- The names that a block needs slots for, in the order in which it gets them. -/
theorem allocateSlots_eq (compiler : Compiler) (body : List Stmt) :
    compiler.allocateSlots body =
      let named := (Stmt.setNamesAll body).foldl allocate compiler
      if Stmt.anyUsesScratch body then named.allocate named.scratch else named := by
  rw [allocateSlots, Stmt.collectSlotsAll_eq]
  rfl

/-! ## Declarations -/

theorem foldl_emit (compiler : Compiler) (slots : List String) :
    slots.foldl (fun compiler slot => compiler.emit (.localDeclare slot)) compiler =
      { compiler with code := compiler.code ++ slots.map .localDeclare } := by
  induction slots generalizing compiler with
  | nil => simp
  | cons slot later inductionHypothesis =>
      rw [List.foldl_cons, inductionHypothesis]
      simp [emit]

/-- All slots are declared, those among them that were there before. -/
theorem declareSlots_eq (compiler : Compiler) (body : List Stmt) :
    compiler.declareSlots body =
      let allocated := compiler.allocateSlots body
      { allocated with code := allocated.code ++ allocated.slots.map .localDeclare } :=
  foldl_emit _ _

/-- The code of a program is its lowered code behind the declarations. -/
theorem compile_eq (compiler : Compiler) (program : Program) :
    compiler.compile program =
      let declared := compiler.declareSlots program
      let lowered := Stmt.lowerAll declared.scratch declared.slotNames program
      lowered.outcome.map fun _ => declared.code ++ lowered.code := by
  rw [compile, Stmt.emits_emitAll program (compiler.declareSlots program) rfl rfl]
  rfl

/-! ## Slots in step with their names -/

/-- The compiler with other slots, which are the names that have a slot. -/
def withSlots (compiler : Compiler) (slots : List String) : Compiler :=
  { compiler with slots := slots, slotNames := slots }

theorem withSlots_allocate (compiler : Compiler) (slots : List String) (name : String) :
    (compiler.withSlots slots).allocate name =
      compiler.withSlots (SlotLang.allocate slots name) := by
  by_cases slotted : name ∈ slots <;> simp [allocate, SlotLang.allocate, withSlots, slotted]

theorem withSlots_foldl_allocate (compiler : Compiler) (slots names : List String) :
    names.foldl allocate (compiler.withSlots slots) =
      compiler.withSlots (names.foldl SlotLang.allocate slots) := by
  induction names generalizing slots with
  | nil => rfl
  | cons name later inductionHypothesis =>
      rw [List.foldl_cons, withSlots_allocate, inductionHypothesis, List.foldl_cons]

theorem withSlots_allocateSlots (compiler : Compiler) (slots : List String)
    (body : List Stmt) :
    (compiler.withSlots slots).allocateSlots body =
      compiler.withSlots (allocateBlock compiler.scratch slots body) := by
  rw [allocateSlots_eq, withSlots_foldl_allocate, allocateBlock]
  cases Stmt.anyUsesScratch body with
  | false => rfl
  | true => exact withSlots_allocate ..

/-- A fresh compiler declares the slots of the program, and lowers the program with
them. -/
theorem compile_fresh (scratch : String) (program : Program) :
    ({ scratch := scratch } : Compiler).compile program =
      let slots := allocateBlock scratch [] program
      let lowered := Stmt.lowerAll scratch slots program
      lowered.outcome.map fun _ => slots.map .localDeclare ++ lowered.code := by
  have slotted : ({ scratch := scratch } : Compiler).allocateSlots program =
      ({ scratch := scratch } : Compiler).withSlots (allocateBlock scratch [] program) :=
    withSlots_allocateSlots { scratch := scratch } [] program
  rw [compile_eq, declareSlots_eq, slotted]
  rfl

end Compiler

end SlotLang
