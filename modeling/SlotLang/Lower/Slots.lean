import SlotLang.Lower.Emitter
import SlotLang.Tree.Stmt

/-!
# Slots of a block

Every variable that a block declares or assigns has one slot, however deep inside
branches and loops it is mentioned.  Functions and classes have slots of their
own and are left out.
-/

namespace SlotLang

/-- Give a name a slot, unless it has one. -/
def Compiler.allocate (compiler : Compiler) (name : String) : Compiler :=
  if name ∈ compiler.slotNames then compiler
  else
    { compiler with
      slots := compiler.slots ++ [name]
      slotNames := compiler.slotNames ++ [name] }

/-- A walk through a block: the compiler that gives out slots on the way, and
whether some value has been met that nobody asked for. -/
structure SlotWalk where
  compiler : Compiler
  needsScratch : Bool := false

mutual

/-- Give out the slots of a statement. -/
def Stmt.collectSlots (walk : SlotWalk) : Stmt → SlotWalk
  | .varDecl declaration =>
      { walk with compiler := walk.compiler.allocate declaration.name }
  | .assign _ target _ =>
      match target.name? with
      | none => walk
      | some name => { walk with compiler := walk.compiler.allocate name }
  | .evaluate _ _ => { walk with needsScratch := true }
  | .branch _ _ body rest => rest.collectSlots (Stmt.collectSlotsAll walk body)
  | .loop _ _ body => Stmt.collectSlotsAll walk body
  | _ => walk

/-- Give out the slots of the further cases of a branch. -/
def Alternatives.collectSlots (walk : SlotWalk) : Alternatives → SlotWalk
  | .elif _ body rest => rest.collectSlots (Stmt.collectSlotsAll walk body)
  | .otherwise body => Stmt.collectSlotsAll walk body

/-- Give out the slots of a block. -/
def Stmt.collectSlotsAll (walk : SlotWalk) : List Stmt → SlotWalk
  | [] => walk
  | stmt :: later => Stmt.collectSlotsAll (stmt.collectSlots walk) later

end

end SlotLang
