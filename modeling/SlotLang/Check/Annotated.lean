import SlotLang.Diagnostic
import SlotLang.Tree.Expr

/-!
# Annotated trees

Checking a part of a tree fills type slots and yields a result.  What was filled
before a fault stays filled, so the tree is handed back in either case.  The
operations here put such checks in sequence: after a fault the remaining parts
are left as they were.
-/

namespace SlotLang

/-- A tree after a check, and the result of the check. -/
structure Annotated (α β : Type) where
  tree : α
  result : Except Diagnostic β

namespace Annotated

variable {α β γ δ : Type}

/-- A tree that needs no check of its own. -/
def plain (tree : α) (result : Except Diagnostic β) : Annotated α β :=
  { tree := tree, result := result }

/-- Rebuild the tree around its checked parts. -/
def map (rebuild : α → γ) (checked : Annotated α β) : Annotated γ β :=
  { tree := rebuild checked.tree, result := checked.result }

/-- Demand something more of the result. -/
def require (checked : Annotated α β) (rule : β → Except Diagnostic γ) :
    Annotated α γ :=
  { tree := checked.tree, result := checked.result.bind rule }

/-- Check a tree only if a condition outside of it is met. -/
def after (condition : Except Diagnostic β) (untouched : α)
    (next : β → Annotated α γ) : Annotated α γ :=
  match condition with
  | .error diagnostic => { tree := untouched, result := .error diagnostic }
  | .ok value => next value

/-- Check a second tree once the first one has passed. -/
def andThen (first : Annotated α β) (untouched : γ) (next : β → Annotated γ δ) :
    Annotated (α × γ) δ :=
  match first.result with
  | .error diagnostic =>
      { tree := (first.tree, untouched), result := .error diagnostic }
  | .ok value =>
      let second := next value
      { tree := (first.tree, second.tree), result := second.result }

/-- A second tree is checked in the light of the first one's result. -/
theorem andThen_of_ok {first : Annotated α β} {value : β}
    (passed : first.result = .ok value) (untouched : γ) (next : β → Annotated γ δ) :
    first.andThen untouched next =
      { tree := (first.tree, (next value).tree), result := (next value).result } := by
  simp only [andThen, passed]

/-- A second tree stays as it was after a fault in the first one. -/
theorem andThen_of_error {first : Annotated α β} {diagnostic : Diagnostic}
    (failed : first.result = .error diagnostic) (untouched : γ)
    (next : β → Annotated γ δ) :
    first.andThen untouched next =
      { tree := (first.tree, untouched), result := .error diagnostic } := by
  simp only [andThen, failed]

end Annotated

/-- Fill the type slot of a node.  A slot that is filled already keeps its type,
and the new type must agree with it. -/
def Mark.annotate (mark : Mark) (type : Ty) : Except Diagnostic Mark :=
  match mark.type? with
  | none => .ok { mark with type? := some type }
  | some existing =>
      if existing = type then .ok mark
      else
        .error
          { cause := .typeMismatch existing.text type.text, position := mark.start }

/-- Finish the check of a node whose parts have been checked: its type goes into
its own slot. -/
def Annotated.settle {α : Type} (parts : Annotated α Ty) (mark : Mark)
    (rebuild : Mark → α → Expr) : Annotated Expr Ty :=
  match parts.result with
  | .error diagnostic =>
      { tree := rebuild mark parts.tree, result := .error diagnostic }
  | .ok type =>
      match mark.annotate type with
      | .error diagnostic =>
          { tree := rebuild mark parts.tree, result := .error diagnostic }
      | .ok filled => { tree := rebuild filled parts.tree, result := .ok type }

end SlotLang
