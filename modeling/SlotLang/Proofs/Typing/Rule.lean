import SlotLang.Proofs.Typing.Expr

/-!
# One step of typing

The rule of a construct derives the type of a node from what is known of its parts.
Here the rules are stated for anything that may be known: with the typing judgement
itself they unfold the judgement once, and with the contents of the type slots they say
when the slot of a node is filled as its parts ask.
-/

namespace SlotLang

/-- `expr.Follows known scopes type`: the rule of the topmost construct gives the type,
if `known` says which types the parts have. -/
inductive Expr.Follows (known : Expr → Ty → Prop) (scopes : Scopes) : Expr → Ty → Prop where
  | literal {mark : Mark} {value : Literal} :
      Follows known scopes (.literal mark value) value.type
  | name {mark : Mark} {named : String} {type : Ty}
      (bound : scopes.lookup? named = some (.ofVariable type)) :
      Follows known scopes (.name mark named) type
  | not {mark : Mark} {operand : Expr} (operandKnown : known operand .bool) :
      Follows known scopes (.unary mark .not operand) .bool
  | neg {mark : Mark} {operand : Expr} (operandKnown : known operand .int) :
      Follows known scopes (.unary mark .neg operand) .int
  | arithmetic {mark : Mark} {op : BinaryOp} {left right : Expr}
      (listed : op ∈ [BinaryOp.add, .sub, .mul, .div, .mod])
      (leftKnown : known left .int) (rightKnown : known right .int) :
      Follows known scopes (.binary mark op left right) .int
  | ordering {mark : Mark} {op : BinaryOp} {left right : Expr}
      (listed : op ∈ [BinaryOp.less, .atMost, .greater, .atLeast])
      (leftKnown : known left .int) (rightKnown : known right .int) :
      Follows known scopes (.binary mark op left right) .bool
  | comparison {mark : Mark} {op : BinaryOp} {left right : Expr} {type : Ty}
      (listed : op ∈ [BinaryOp.equal, .unequal, .same])
      (leftKnown : known left type) (rightKnown : known right type) :
      Follows known scopes (.binary mark op left right) .bool
  | builtin {mark : Mark} {callee : String} {builtin : Builtin} {arguments : List Expr}
      {types : List Ty}
      (listed : Builtin.find? callee = some builtin)
      (arity : types.length = builtin.arity)
      (argumentsKnown : List.Forall₂ known arguments types) :
      Follows known scopes (.call mark callee arguments) builtin.returnType
  | call {mark : Mark} {callee : String} {params : List Ty} {returnType : Ty}
      {arguments : List Expr}
      (unlisted : Builtin.find? callee = none)
      (bound : scopes.lookup? callee = some (.ofFunction ⟨params, returnType⟩))
      (argumentsKnown : List.Forall₂ known arguments params) :
      Follows known scopes (.call mark callee arguments) returnType
  | field {mark : Mark} {object : Expr} {className member : String} {members : Members}
      {type : Ty}
      (objectKnown : known object (.object className))
      (bound : scopes.lookup? className = some (.ofClass members))
      (declared : members.field? member = some type) :
      Follows known scopes (.field mark object member) type
  | method {mark : Mark} {object : Expr} {className member : String} {members : Members}
      {receiver : Ty} {params : List Ty} {returnType : Ty} {arguments : List Expr}
      (objectKnown : known object (.object className))
      (bound : scopes.lookup? className = some (.ofClass members))
      (declared : members.method? member = some ⟨receiver :: params, returnType⟩)
      (argumentsKnown : List.Forall₂ known arguments params) :
      Follows known scopes (.method mark object member arguments) returnType

namespace Expr

variable {scopes : Scopes} {type other : Ty}

/-! ## The judgement in one step -/

theorem HasType.follows {expr : Expr} (typed : expr.HasType scopes type) :
    expr.Follows (HasType scopes) scopes type := by
  cases typed with
  | number => exact .literal
  | boolean => exact .literal
  | null => exact .literal
  | name bound => exact .name bound
  | not operandTyped => exact .not operandTyped
  | neg operandTyped => exact .neg operandTyped
  | arithmetic listed leftTyped rightTyped => exact .arithmetic listed leftTyped rightTyped
  | ordering listed leftTyped rightTyped => exact .ordering listed leftTyped rightTyped
  | comparison listed leftTyped rightTyped => exact .comparison listed leftTyped rightTyped
  | builtin listed arity argumentsTyped => exact .builtin listed arity argumentsTyped
  | call unlisted bound argumentsTyped => exact .call unlisted bound argumentsTyped
  | field objectTyped bound declared => exact .field objectTyped bound declared
  | method objectTyped bound declared argumentsTyped =>
      exact .method objectTyped bound declared argumentsTyped

/-! ## Types are unique -/

theorem HasType.type_of_binary {mark : Mark} {op : BinaryOp} {left right : Expr}
    (typed : (Expr.binary mark op left right).HasType scopes type) :
    type = if op ∈ [BinaryOp.add, .sub, .mul, .div, .mod] then .int else .bool := by
  cases typed with
  | arithmetic listed => rw [if_pos listed]
  | ordering listed =>
      rw [if_neg]
      intro arithmetic
      cases op <;> simp at listed arithmetic
  | comparison listed =>
      rw [if_neg]
      intro arithmetic
      cases op <;> simp at listed arithmetic

/-- An expression has at most one type. -/
theorem hasType_unique (expr : Expr) {type other : Ty} (typed : expr.HasType scopes type)
    (alsoTyped : expr.HasType scopes other) : type = other := by
  cases expr with
  | literal mark value =>
      cases typed <;> cases alsoTyped <;> rfl
  | name mark named =>
      cases typed with
      | name bound =>
          cases alsoTyped with
          | name alsoBound => simpa using bound.symm.trans alsoBound
  | unary mark op operand =>
      cases typed <;> cases alsoTyped <;> rfl
  | binary mark op left right =>
      -- The operator alone decides, so the operands need no induction.
      rw [typed.type_of_binary, alsoTyped.type_of_binary]
  | call mark callee arguments =>
      cases typed with
      | builtin listed =>
          cases alsoTyped with
          | builtin alsoListed =>
              cases listed.symm.trans alsoListed
              rfl
          | call unlisted => cases listed.symm.trans unlisted
      | call unlisted bound =>
          cases alsoTyped with
          | builtin listed => cases listed.symm.trans unlisted
          | call _ alsoBound =>
              cases bound.symm.trans alsoBound
              rfl
  | field mark object member =>
      cases typed with
      | field objectTyped bound declared =>
          cases alsoTyped with
          | field alsoObjectTyped alsoBound alsoDeclared =>
              cases hasType_unique object objectTyped alsoObjectTyped
              cases bound.symm.trans alsoBound
              exact Option.some.inj (declared.symm.trans alsoDeclared)
  | method mark object member arguments =>
      cases typed with
      | method objectTyped bound declared =>
          cases alsoTyped with
          | method alsoObjectTyped alsoBound alsoDeclared =>
              cases hasType_unique object objectTyped alsoObjectTyped
              cases bound.symm.trans alsoBound
              cases declared.symm.trans alsoDeclared
              rfl
termination_by structural expr

end Expr

/-! ## Parts of parts -/

theorem Expr.mem_preorder_self (expr : Expr) : expr ∈ expr.preorder := by
  cases expr <;> exact List.mem_cons_self

theorem Expr.mem_preorderAll {argument : Expr} {arguments : List Expr}
    (member : argument ∈ arguments) : argument ∈ Expr.preorderAll arguments := by
  induction arguments with
  | nil => cases member
  | cons first later inductionHypothesis =>
      rw [Expr.preorderAll, List.mem_append]
      rcases List.mem_cons.mp member with rfl | member
      · exact .inl argument.mem_preorder_self
      · exact .inr (inductionHypothesis member)

mutual

/-- The parts of a part are parts of the whole. -/
theorem Expr.preorder_subset (expr : Expr) {part : Expr} (member : part ∈ expr.preorder) :
    part.preorder ⊆ expr.preorder := by
  by_cases top : part = expr
  · rw [top]
    exact List.Subset.refl _
  · cases expr with
    | literal mark value => exact absurd (List.mem_singleton.mp member) top
    | name mark named => exact absurd (List.mem_singleton.mp member) top
    | unary mark op operand =>
        have inside := (List.mem_cons.mp member).resolve_left top
        exact List.subset_cons_of_subset _ (Expr.preorder_subset operand inside)
    | binary mark op left right =>
        have inside := (List.mem_cons.mp member).resolve_left top
        apply List.subset_cons_of_subset
        rcases List.mem_append.mp inside with inside | inside
        · exact List.subset_append_of_subset_left _ (Expr.preorder_subset left inside)
        · exact List.subset_append_of_subset_right _ (Expr.preorder_subset right inside)
    | call mark callee arguments =>
        have inside := (List.mem_cons.mp member).resolve_left top
        exact List.subset_cons_of_subset _ (Expr.preorderAll_subset arguments inside)
    | field mark object called =>
        have inside := (List.mem_cons.mp member).resolve_left top
        exact List.subset_cons_of_subset _ (Expr.preorder_subset object inside)
    | method mark object called arguments =>
        have inside := (List.mem_cons.mp member).resolve_left top
        apply List.subset_cons_of_subset
        rcases List.mem_append.mp inside with inside | inside
        · exact List.subset_append_of_subset_left _ (Expr.preorder_subset object inside)
        · exact List.subset_append_of_subset_right _
            (Expr.preorderAll_subset arguments inside)
termination_by structural expr

theorem Expr.preorderAll_subset (exprs : List Expr) {part : Expr}
    (member : part ∈ Expr.preorderAll exprs) : part.preorder ⊆ Expr.preorderAll exprs := by
  cases exprs with
  | nil => cases member
  | cons expr later =>
      rcases List.mem_append.mp member with inside | inside
      · exact List.subset_append_of_subset_left _ (Expr.preorder_subset expr inside)
      · exact List.subset_append_of_subset_right _ (Expr.preorderAll_subset later inside)
termination_by structural exprs

end

/-- The immediate parts of an expression. -/
def Expr.children : Expr → List Expr
  | .literal _ _ => []
  | .name _ _ => []
  | .unary _ _ operand => [operand]
  | .binary _ _ left right => [left, right]
  | .call _ _ arguments => arguments
  | .field _ object _ => [object]
  | .method _ object _ arguments => object :: arguments

theorem Expr.children_subset_preorder (expr : Expr) : expr.children ⊆ expr.preorder := by
  intro child member
  cases expr with
  | literal => cases member
  | name => cases member
  | unary mark op operand =>
      cases List.mem_singleton.mp member
      exact List.mem_cons_of_mem _ child.mem_preorder_self
  | binary mark op left right =>
      apply List.mem_cons_of_mem
      rw [List.mem_append]
      rcases List.mem_pair.mp member with rfl | rfl
      · exact .inl child.mem_preorder_self
      · exact .inr child.mem_preorder_self
  | call mark callee arguments =>
      exact List.mem_cons_of_mem _ (Expr.mem_preorderAll member)
  | field mark object called =>
      cases List.mem_singleton.mp member
      exact List.mem_cons_of_mem _ child.mem_preorder_self
  | method mark object called arguments =>
      apply List.mem_cons_of_mem
      rw [List.mem_append]
      rcases List.mem_cons.mp member with rfl | member
      · exact .inl child.mem_preorder_self
      · exact .inr (Expr.mem_preorderAll member)

mutual

/-- Every part of a typed expression has a type in the same scopes. -/
theorem Expr.exists_hasType_of_mem {scopes : Scopes} (expr : Expr) {part : Expr} {type : Ty}
    (typed : expr.HasType scopes type) (member : part ∈ expr.preorder) :
    ∃ type, part.HasType scopes type := by
  by_cases top : part = expr
  · subst top
    exact ⟨type, typed⟩
  · cases expr with
    | literal mark value => exact absurd (List.mem_singleton.mp member) top
    | name mark named => exact absurd (List.mem_singleton.mp member) top
    | unary mark op operand =>
        have inside := (List.mem_cons.mp member).resolve_left top
        cases typed with
        | not operandTyped => exact Expr.exists_hasType_of_mem operand operandTyped inside
        | neg operandTyped => exact Expr.exists_hasType_of_mem operand operandTyped inside
    | binary mark op left right =>
        have inside := (List.mem_cons.mp member).resolve_left top
        rcases typed.operands with ⟨_, _, leftTyped, rightTyped⟩
        rcases List.mem_append.mp inside with inside | inside
        · exact Expr.exists_hasType_of_mem left leftTyped inside
        · exact Expr.exists_hasType_of_mem right rightTyped inside
    | call mark callee arguments =>
        have inside := (List.mem_cons.mp member).resolve_left top
        rcases typed.arguments with ⟨_, argumentsTyped⟩
        exact Expr.exists_hasType_of_mem_all arguments argumentsTyped inside
    | field mark object called =>
        have inside := (List.mem_cons.mp member).resolve_left top
        cases typed with
        | field objectTyped => exact Expr.exists_hasType_of_mem object objectTyped inside
    | method mark object called arguments =>
        have inside := (List.mem_cons.mp member).resolve_left top
        cases typed with
        | method objectTyped _ _ argumentsTyped =>
            rcases List.mem_append.mp inside with inside | inside
            · exact Expr.exists_hasType_of_mem object objectTyped inside
            · exact Expr.exists_hasType_of_mem_all arguments argumentsTyped inside
termination_by structural expr

theorem Expr.exists_hasType_of_mem_all {scopes : Scopes} (exprs : List Expr) {part : Expr}
    {types : List Ty} (typed : List.Forall₂ (Expr.HasType scopes) exprs types)
    (member : part ∈ Expr.preorderAll exprs) : ∃ type, part.HasType scopes type := by
  cases exprs with
  | nil => cases member
  | cons expr later =>
      cases typed with
      | cons exprTyped laterTyped =>
          rcases List.mem_append.mp member with inside | inside
          · exact Expr.exists_hasType_of_mem expr exprTyped inside
          · exact Expr.exists_hasType_of_mem_all later laterTyped inside
termination_by structural exprs

end

/-! ## Knowing more of the children -/

theorem forall₂_imp_of_mem {α β : Type} {first second : α → β → Prop} {left : List α}
    {right : List β} (all : List.Forall₂ first left right)
    (implies : ∀ a ∈ left, ∀ b, first a b → second a b) :
    List.Forall₂ second left right := by
  induction all with
  | nil => exact .nil
  | cons holds _ inductionHypothesis =>
      apply List.Forall₂.cons
      · exact implies _ List.mem_cons_self _ holds
      · apply inductionHypothesis
        intro a member
        exact implies a (List.mem_cons_of_mem _ member)

/-- A rule reads what is known of the children, and nothing else. -/
theorem Expr.Follows.imp {known recorded : Expr → Ty → Prop} {scopes : Scopes} {expr : Expr}
    {type : Ty} (follows : expr.Follows known scopes type)
    (implies : ∀ child ∈ expr.children, ∀ type, known child type → recorded child type) :
    expr.Follows recorded scopes type := by
  cases follows with
  | literal => exact .literal
  | name bound => exact .name bound
  | not operandKnown => exact .not (implies _ List.mem_cons_self _ operandKnown)
  | neg operandKnown => exact .neg (implies _ List.mem_cons_self _ operandKnown)
  | arithmetic listed leftKnown rightKnown =>
      exact .arithmetic listed (implies _ List.mem_cons_self _ leftKnown)
        (implies _ (List.mem_cons_of_mem _ List.mem_cons_self) _ rightKnown)
  | ordering listed leftKnown rightKnown =>
      exact .ordering listed (implies _ List.mem_cons_self _ leftKnown)
        (implies _ (List.mem_cons_of_mem _ List.mem_cons_self) _ rightKnown)
  | comparison listed leftKnown rightKnown =>
      exact .comparison listed (implies _ List.mem_cons_self _ leftKnown)
        (implies _ (List.mem_cons_of_mem _ List.mem_cons_self) _ rightKnown)
  | builtin listed arity argumentsKnown =>
      exact .builtin listed arity (forall₂_imp_of_mem argumentsKnown implies)
  | call unlisted bound argumentsKnown =>
      exact .call unlisted bound (forall₂_imp_of_mem argumentsKnown implies)
  | field objectKnown bound declared =>
      exact .field (implies _ List.mem_cons_self _ objectKnown) bound declared
  | method objectKnown bound declared argumentsKnown =>
      apply Expr.Follows.method _ bound declared
      · apply forall₂_imp_of_mem argumentsKnown
        intro argument member
        exact implies argument (List.mem_cons_of_mem _ member)
      · exact implies _ List.mem_cons_self _ objectKnown

end SlotLang
