import SlotLang.Proofs.Check.Mirror
import SlotLang.Proofs.Check.Outline

/-!
# Relabelled expressions are checked alike

The rules for single constructs look at names only to find out whether two of them are
equal, or whether one is that of a built-in; they look at positions only to report a
fault.  So the check of a relabelled expression mirrors that of the expression, in any
scopes that agree up to the labels.
-/

namespace SlotLang

variable {labels : Relabelling}

/-! ## Rules -/

/-- A rule for a call with its types relabelled. -/
def CallRule.relabel (labels : Relabelling) (rule : CallRule) : CallRule :=
  { demands := rule.demands.map (Option.map (Ty.relabel labels))
    returnType := rule.returnType.relabel labels }

theorem mirrored_expectType (expected actual : Ty) (position : Position) :
    Mirrored labels.Blames id (expectType expected actual position)
      (expectType (expected.relabel labels) (actual.relabel labels)
        (labels.start position)) := by
  simp only [expectType, Ty.relabel_inj]
  split
  · exact .ok rfl
  · refine .error ⟨rfl, rfl, fun fixes => ?_⟩
    simp only [Ty.relabel_of_fixesNames fixes]

theorem mirrored_expectArity {callee otherCallee : String}
    (named : labels.FixesNames → otherCallee = callee) (expected received : Nat)
    (position : Position) :
    Mirrored labels.Blames id (expectArity callee expected received position)
      (expectArity otherCallee expected received (labels.start position)) := by
  unfold expectArity
  split
  · exact .ok rfl
  · exact .error ⟨rfl, rfl, fun fixes => by rw [named fixes]⟩

theorem mirrored_expectDemand (demand : Option Ty) (position : Position) (actual : Ty) :
    Mirrored labels.Blames id (expectDemand demand position actual)
      (expectDemand (demand.map (Ty.relabel labels)) (labels.start position)
        (actual.relabel labels)) := by
  cases demand with
  | none => exact .ok rfl
  | some expected => exact mirrored_expectType expected actual position

theorem UnaryOp.mirrored_resultType (op : UnaryOp) (position : Position) (operand : Ty) :
    Mirrored labels.Blames (Ty.relabel labels) (op.resultType position operand)
      (op.resultType (labels.start position) (operand.relabel labels)) := by
  have primitive : op.type.relabel labels = op.type := by cases op <;> rfl
  have operandTyped := @mirrored_expectType labels op.type operand position
  rw [primitive] at operandTyped
  exact operandTyped.map fun _ => primitive.symm

theorem mirrored_expectInts (leftStart rightStart : Position) (left right : Ty) :
    Mirrored labels.Blames id (expectInts leftStart rightStart left right)
      (expectInts (labels.start leftStart) (labels.start rightStart)
        (left.relabel labels) (right.relabel labels)) :=
  (mirrored_expectType .int left leftStart).bind fun _ =>
    mirrored_expectType .int right rightStart

theorem BinaryOp.mirrored_resultType (op : BinaryOp) (leftStart rightStart : Position)
    (left right : Ty) :
    Mirrored labels.Blames (Ty.relabel labels)
      (op.resultType leftStart rightStart left right)
      (op.resultType (labels.start leftStart) (labels.start rightStart)
        (left.relabel labels) (right.relabel labels)) := by
  unfold resultType
  cases op.family with
  | arithmetic => exact (mirrored_expectInts _ _ left right).map fun _ => rfl
  | ordering => exact (mirrored_expectInts _ _ left right).map fun _ => rfl
  | comparison => exact (mirrored_expectType left right _).map fun _ => rfl

/-- A built-in yields no object, so its type has no name to relabel. -/
theorem Builtin.returnType_relabel {name : String} {builtin : Builtin}
    (found : Builtin.find? name = some builtin) :
    builtin.returnType.relabel labels = builtin.returnType := by
  have listed : builtin ∈ Builtin.all := List.mem_of_find?_eq_some found
  rw [List.mem_singleton.mp listed]
  rfl

namespace Scopes

variable {scopes others : Scopes} (agree : scopes.Agree labels others)

include agree

theorem mirrored_variableType (name : String) (position : Position) :
    Mirrored labels.Blames (Ty.relabel labels) (scopes.variableType name position)
      (others.variableType (labels.name name) (labels.start position)) := by
  have agreed := agree name
  unfold variableType
  generalize scopes.lookup? name = found, others.lookup? (labels.name name) = otherFound
    at agreed ⊢
  cases agreed with
  | none => exact .error ⟨rfl, rfl, fun fixes => by rw [fixes]⟩
  | some symbols =>
      cases symbols with
      | ofVariable => exact .ok rfl
      | _ => exact .error ⟨rfl, rfl, fun fixes => by rw [fixes]⟩

theorem mirrored_functionSignature (name : String) (position : Position) :
    Mirrored labels.Blames (Signature.relabel labels)
      (scopes.functionSignature name position)
      (others.functionSignature (labels.name name) (labels.start position)) := by
  have agreed := agree name
  unfold functionSignature
  generalize scopes.lookup? name = found, others.lookup? (labels.name name) = otherFound
    at agreed ⊢
  cases agreed with
  | none => exact .error ⟨rfl, rfl, fun fixes => by rw [fixes]⟩
  | some symbols =>
      cases symbols with
      | ofFunction => exact .ok rfl
      | _ => exact .error ⟨rfl, rfl, fun fixes => by rw [fixes]⟩

theorem matched_classMembers (name : String) (position : Position) :
    Matched labels.Blames (Members.Agree labels) (scopes.classMembers name position)
      (others.classMembers (labels.name name) (labels.start position)) := by
  have agreed := agree name
  unfold classMembers
  generalize scopes.lookup? name = found, others.lookup? (labels.name name) = otherFound
    at agreed ⊢
  cases agreed with
  | none => exact .error ⟨rfl, rfl, fun fixes => by rw [fixes]⟩
  | some symbols =>
      cases symbols with
      | ofClass members => exact .ok members
      | _ => exact .error ⟨rfl, rfl, fun fixes => by rw [fixes]⟩

theorem mirrored_resolve (position : Position) (type : Ty) :
    Mirrored labels.Blames id (scopes.resolve position type)
      (others.resolve (labels.start position) (type.relabel labels)) := by
  cases type with
  | object className =>
      exact (matched_classMembers agree className position).map fun _ => rfl
  | _ => exact .ok rfl

theorem mirrored_resolveAll (position : Position) (types : List Ty) :
    Mirrored labels.Blames id (scopes.resolveAll position types)
      (others.resolveAll (labels.start position) (types.map (Ty.relabel labels))) := by
  induction types with
  | nil => exact .ok rfl
  | cons type later inductionHypothesis =>
      exact (mirrored_resolve agree position type).bind fun _ => inductionHypothesis

theorem matched_membersOf (type : Ty) (member : String) (position : Position) :
    Matched labels.Blames
      (fun found other => other.1 = labels.name found.1 ∧ found.2.Agree labels other.2)
      (scopes.membersOf type member position)
      (others.membersOf (type.relabel labels) (labels.name member)
        (labels.start position)) := by
  cases type with
  | object className =>
      exact (matched_classMembers agree className position).map fun same => ⟨rfl, same⟩
  | _ => exact .error ⟨rfl, rfl, fun fixes => by rw [fixes]; rfl⟩

theorem mirrored_callRule (callee : String) (count : Nat) (position : Position) :
    Mirrored labels.Blames (CallRule.relabel labels)
      (scopes.callRule callee count position)
      (others.callRule (labels.name callee) count (labels.start position)) := by
  unfold callRule
  rw [Builtin.find?_relabel]
  cases found : Builtin.find? callee with
  | some builtin =>
      apply (mirrored_expectArity (fun fixes => fixes callee) _ _ _).map
      intro _
      simp only [CallRule.relabel, List.map_replicate, Option.map_none,
        Builtin.returnType_relabel found]
  | none =>
      apply (mirrored_functionSignature agree callee position).bind
      intro signature
      simp only [Signature.relabel, List.length_map]
      apply (mirrored_expectArity (fun fixes => fixes callee) _ _ _).map
      intro _
      simp [CallRule.relabel]

theorem mirrored_fieldType (member : String) (position : Position) (object : Ty) :
    Mirrored labels.Blames (Ty.relabel labels) (scopes.fieldType member position object)
      (others.fieldType (labels.name member) (labels.start position)
        (object.relabel labels)) := by
  apply (matched_membersOf agree object member position).bind
  rintro ⟨className, members⟩ ⟨_, otherMembers⟩ ⟨rfl, same⟩
  simp only [same.fields]
  cases members.field? member with
  | some type => exact .ok rfl
  | none => exact .error ⟨rfl, rfl, fun fixes => by rw [fixes, fixes]⟩

theorem mirrored_methodRule (member : String) (count : Nat) (position : Position)
    (object : Ty) :
    Mirrored labels.Blames (CallRule.relabel labels)
      (scopes.methodRule member count position object)
      (others.methodRule (labels.name member) count (labels.start position)
        (object.relabel labels)) := by
  apply (matched_membersOf agree object member position).bind
  rintro ⟨className, members⟩ ⟨_, otherMembers⟩ ⟨rfl, same⟩
  simp only [same.methods]
  cases members.method? member with
  | none => exact .error ⟨rfl, rfl, fun fixes => by rw [fixes, fixes]⟩
  | some signature =>
      simp only [Option.map_some, Signature.relabel, List.length_map]
      apply (mirrored_expectArity (fun fixes => by rw [fixes, fixes]) _ _ _).map
      intro _
      simp only [CallRule.relabel, List.drop_one, List.map_tail, List.map_map]
      rfl

end Scopes

/-! ## Expressions -/

mutual

/-- The check of a relabelled expression mirrors that of the expression. -/
theorem Expr.mirrored_check {scopes others : Scopes} (agree : scopes.Agree labels others)
    (expr : Expr) :
    Annotated.Mirrored labels (Expr.relabel labels) (Ty.relabel labels)
      (expr.check scopes) ((expr.relabel labels).check others) := by
  cases expr with
  | literal mark value =>
      have typed : value.type = value.type.relabel labels := by cases value <;> rfl
      have leaf : Annotated.Mirrored labels id (Ty.relabel labels)
          (.plain () (.ok value.type)) (.plain () (.ok value.type)) :=
        .plain rfl (.ok typed)
      rw [Expr.check, Expr.relabel, Expr.check]
      exact leaf.settle fun _ _ => rfl
  | name mark named =>
      have leaf : Annotated.Mirrored labels id (Ty.relabel labels)
          (.plain () (scopes.variableType named mark.start))
          (.plain () (others.variableType (labels.name named) (labels.start mark.start))) :=
        .plain rfl (Scopes.mirrored_variableType agree named mark.start)
      rw [Expr.check, Expr.relabel, Expr.check]
      exact leaf.settle fun _ _ => rfl
  | unary mark op operand =>
      rw [Expr.check, Expr.relabel, Expr.check, Expr.start_relabel]
      apply Annotated.Mirrored.settle
      · exact (Expr.mirrored_check agree operand).require (op.mirrored_resultType operand.start)
      · exact fun _ _ => rfl
  | binary mark op left right =>
      rw [Expr.check, Expr.relabel, Expr.check, Expr.start_relabel, Expr.start_relabel]
      apply Annotated.Mirrored.settle
      · apply (Expr.mirrored_check agree left).andThen rfl
        intro leftType
        exact (Expr.mirrored_check agree right).require
          (op.mirrored_resultType left.start right.start leftType)
      · exact fun _ _ => rfl
  | call mark callee arguments =>
      rw [Expr.check, Expr.relabel, Expr.check, Expr.length_relabelAll]
      apply Annotated.Mirrored.settle
      · apply Annotated.Mirrored.after
          (Scopes.mirrored_callRule agree callee arguments.length mark.start) rfl
        intro rule
        exact (Expr.mirrored_checkAll agree rule.demands arguments).require fun _ => .ok rfl
      · exact fun _ _ => rfl
  | field mark object member =>
      rw [Expr.check, Expr.relabel, Expr.check]
      apply Annotated.Mirrored.settle
      · exact (Expr.mirrored_check agree object).require
          (Scopes.mirrored_fieldType agree member mark.start)
      · exact fun _ _ => rfl
  | method mark object member arguments =>
      rw [Expr.check, Expr.relabel, Expr.check, Expr.length_relabelAll]
      apply Annotated.Mirrored.settle
      · apply ((Expr.mirrored_check agree object).require
          (Scopes.mirrored_methodRule agree member arguments.length mark.start)).andThen rfl
        intro rule
        exact (Expr.mirrored_checkAll agree rule.demands arguments).require fun _ => .ok rfl
      · exact fun _ _ => rfl
termination_by structural expr

theorem Expr.mirrored_checkAll {scopes others : Scopes}
    (agree : scopes.Agree labels others) (demands : List (Option Ty))
    (arguments : List Expr) :
    Annotated.Mirrored labels (Expr.relabelAll labels) id
      (Expr.checkAll scopes demands arguments)
      (Expr.checkAll others (demands.map (Option.map (Ty.relabel labels)))
        (Expr.relabelAll labels arguments)) := by
  cases arguments with
  | nil =>
      rw [Expr.relabelAll, Expr.checkAll, Expr.checkAll]
      exact .plain rfl (.ok rfl)
  | cons argument later =>
      cases demands with
      | nil => exact .plain rfl (.ok rfl)
      | cons demand demands =>
          rw [Expr.checkAll, Expr.relabelAll, List.map_cons, Expr.checkAll,
            Expr.start_relabel]
          apply Annotated.Mirrored.map
          · apply ((Expr.mirrored_check agree argument).require
              (mirrored_expectDemand demand argument.start)).andThen rfl
            intro _
            exact Expr.mirrored_checkAll agree demands later
          · exact fun _ => rfl
termination_by structural arguments

end

/-! ## Parts of statements -/

theorem Expr.mirrored_expectAssignable (target : Expr) :
    Mirrored labels.Blames id target.expectAssignable
      (target.relabel labels).expectAssignable := by
  simp only [expectAssignable, isAssignable_relabel, start_relabel]
  split
  · exact .ok rfl
  · exact .error ⟨rfl, rfl, fun fixes => by rw [describe_relabel fixes]⟩

theorem Expr.mirrored_expectLiteral (value : Expr) :
    Mirrored labels.Blames id value.expectLiteral
      (value.relabel labels).expectLiteral := by
  simp only [expectLiteral, isLiteral_relabel, start_relabel]
  split
  · exact .ok rfl
  · exact .error ⟨rfl, rfl, fun fixes => by rw [describe_relabel fixes]⟩

theorem VarDecl.mirrored_expectAccepted (declaration : VarDecl) (actual : Ty) :
    Mirrored labels.Blames id (declaration.expectAccepted actual)
      ((declaration.relabel labels).expectAccepted (actual.relabel labels)) := by
  have accepts : (declaration.type.relabel labels).acceptsInitialiser (actual.relabel labels) =
      declaration.type.acceptsInitialiser actual := by
    have isObject : (declaration.type.relabel labels).isObject = declaration.type.isObject := by
      cases declaration.type <;> rfl
    have isNone : actual.relabel labels = .none ↔ actual = .none :=
      @Ty.relabel_inj labels actual .none
    simp only [Ty.acceptsInitialiser, Ty.relabel_inj, isObject, isNone]
  simp only [expectAccepted, VarDecl.relabel, accepts, Expr.start_relabel]
  split
  · exact .ok rfl
  · refine .error ⟨rfl, rfl, fun fixes => ?_⟩
    simp only [Ty.relabel_of_fixesNames fixes]

section

variable {scopes others : Scopes} (agree : scopes.Agree labels others)

include agree

theorem Expr.mirrored_checkCondition (condition : Expr) :
    Annotated.Mirrored labels (Expr.relabel labels) id (condition.checkCondition scopes)
      ((condition.relabel labels).checkCondition others) := by
  unfold checkCondition
  rw [start_relabel]
  exact (mirrored_check agree condition).require fun actual =>
    mirrored_expectType .bool actual condition.start

theorem Expr.mirrored_checkReturn (expected : Ty) (value : Expr) :
    Annotated.Mirrored labels (Expr.relabel labels) id (value.checkReturn scopes expected)
      ((value.relabel labels).checkReturn others (expected.relabel labels)) := by
  unfold checkReturn
  rw [start_relabel]
  exact (mirrored_check agree value).require fun actual =>
    mirrored_expectType expected actual value.start

theorem Expr.mirrored_checkAssignment (target value : Expr) :
    Annotated.Mirrored labels (Prod.map (Expr.relabel labels) (Expr.relabel labels)) id
      (checkAssignment scopes target value)
      (checkAssignment others (target.relabel labels) (value.relabel labels)) := by
  rw [checkAssignment_eq, checkAssignment_eq, start_relabel]
  apply Annotated.Mirrored.after target.mirrored_expectAssignable rfl
  intro _
  apply Annotated.Mirrored.map
  · apply (mirrored_check agree value).andThen rfl
    intro valueType
    exact (mirrored_check agree target).require fun targetType =>
      mirrored_expectType targetType valueType value.start
  · exact fun _ => rfl

theorem VarDecl.mirrored_check (declaration : VarDecl) :
    Annotated.Mirrored labels (VarDecl.relabel labels) id (declaration.check scopes)
      ((declaration.relabel labels).check others) := by
  have met : Mirrored labels.Blames id
      ((scopes.resolve declaration.span.start declaration.type).bind
        fun _ => declaration.value.expectLiteral)
      ((others.resolve (declaration.relabel labels).span.start
        (declaration.relabel labels).type).bind
          fun _ => (declaration.relabel labels).value.expectLiteral) := by
    apply (Scopes.mirrored_resolve agree declaration.span.start declaration.type).bind
    intro _
    exact declaration.value.mirrored_expectLiteral
  unfold check
  apply Annotated.Mirrored.map
  · apply Annotated.Mirrored.after met rfl
    intro _
    exact (Expr.mirrored_check agree declaration.value).require
      declaration.mirrored_expectAccepted
  · exact fun _ => rfl

theorem VarDecl.mirrored_checkAll (declarations : List VarDecl) :
    Annotated.Mirrored labels (List.map (VarDecl.relabel labels)) id
      (checkAll scopes declarations)
      (checkAll others (declarations.map (VarDecl.relabel labels))) := by
  induction declarations with
  | nil => exact .plain rfl (.ok rfl)
  | cons declaration later inductionHypothesis =>
      rw [List.map_cons, checkAll, checkAll]
      apply Annotated.Mirrored.map
      · apply (mirrored_check agree declaration).andThen rfl
        intro _
        exact inductionHypothesis
      · exact fun _ => rfl

end

end SlotLang
