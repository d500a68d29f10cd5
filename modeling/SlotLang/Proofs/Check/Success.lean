import SlotLang.Check.Program

/-!
# When a check succeeds

Each way of combining checks succeeds exactly when its parts do, one after the
other, and each rule for a single construct grants a type under exactly one
condition.  Proofs about whole trees put these characterisations together and
never look into the combinations themselves.
-/

namespace SlotLang

variable {α β γ δ ε : Type}

theorem bind_eq_ok_iff {first : Except ε α} {next : α → Except ε β} {value : β} :
    first.bind next = .ok value ↔ ∃ middle, first = .ok middle ∧ next middle = .ok value := by
  cases first <;> simp [Except.bind]

theorem map_eq_ok_iff {result : Except ε α} {convert : α → β} {value : β} :
    result.map convert = .ok value ↔ ∃ inner, result = .ok inner ∧ convert inner = value := by
  cases result <;> simp [Except.map]

theorem mapError_eq_ok_iff {result : Except ε α} {convert : ε → δ} {value : α} :
    result.mapError convert = .ok value ↔ result = .ok value := by
  constructor
  · intro same
    cases result with
    | error => cases same
    | ok => exact congrArg Except.ok (Except.ok.inj same)
  · rintro rfl
    rfl

/-! ## Checks that leave the state alone -/

namespace Annotated

@[simp]
theorem map_result (rebuild : α → γ) (checked : Annotated α β) :
    (checked.map rebuild).result = checked.result :=
  rfl

theorem require_eq_ok_iff {checked : Annotated α β} {rule : β → Except Diagnostic γ}
    {value : γ} :
    (checked.require rule).result = .ok value ↔
      ∃ middle, checked.result = .ok middle ∧ rule middle = .ok value :=
  bind_eq_ok_iff

theorem after_eq_ok_iff {condition : Except Diagnostic β} {untouched : α}
    {next : β → Annotated α γ} {value : γ} :
    (after condition untouched next).result = .ok value ↔
      ∃ middle, condition = .ok middle ∧ (next middle).result = .ok value := by
  cases condition <;> simp [after]

theorem andThen_eq_ok_iff {first : Annotated α β} {untouched : γ}
    {next : β → Annotated γ δ} {value : δ} :
    (first.andThen untouched next).result = .ok value ↔
      ∃ middle, first.result = .ok middle ∧ (next middle).result = .ok value := by
  cases result : first.result with
  | error => simp [andThen_of_error result]
  | ok => simp [andThen_of_ok result]

end Annotated

/-- A mark allows a type when its type slot is empty or holds that type. -/
def Mark.Allows (mark : Mark) (type : Ty) : Prop :=
  ∀ existing, mark.type? = some existing → existing = type

theorem Mark.allows_of_empty {mark : Mark} (empty : mark.type? = none) (type : Ty) :
    mark.Allows type := by
  intro existing filled
  rw [empty] at filled
  contradiction

theorem Annotated.settle_eq_ok_iff {parts : Annotated α Ty} {mark : Mark}
    {rebuild : Mark → α → Expr} {type : Ty} :
    (parts.settle mark rebuild).result = .ok type ↔
      parts.result = .ok type ∧ mark.Allows type := by
  unfold Annotated.settle Mark.annotate Mark.Allows
  cases parts.result with
  | error => simp
  | ok found =>
      cases mark.type? with
      | none => simp
      | some existing =>
          by_cases agrees : existing = found
          · simp only [agrees, if_true, Except.ok.injEq, Option.some.injEq]
            constructor
            · rintro rfl
              exact ⟨rfl, fun _ => Eq.symm⟩
            · exact fun both => both.1
          · simp only [agrees, if_false, reduceCtorEq, Option.some.injEq, Except.ok.injEq,
              false_iff, not_and]
            rintro rfl allowed
            exact agrees (allowed existing rfl)

/-! ## Rules -/

theorem expectType_eq_ok_iff {expected actual : Ty} {position : Position} {value : Unit} :
    expectType expected actual position = .ok value ↔ expected = actual := by
  unfold expectType
  split <;> simp_all

theorem expectArity_eq_ok_iff {callee : String} {expected received : Nat}
    {position : Position} {value : Unit} :
    expectArity callee expected received position = .ok value ↔ expected = received := by
  unfold expectArity
  split <;> simp_all

theorem expectDemand_eq_ok_iff {demand : Option Ty} {position : Position} {actual : Ty}
    {value : Unit} :
    expectDemand demand position actual = .ok value ↔ ∀ type ∈ demand, type = actual := by
  cases demand with
  | none => simp [expectDemand]
  | some expected => simp [expectDemand, expectType_eq_ok_iff]

theorem UnaryOp.resultType_eq_ok_iff {op : UnaryOp} {position : Position}
    {operand type : Ty} :
    op.resultType position operand = .ok type ↔ op.type = operand ∧ op.type = type := by
  simp [resultType, map_eq_ok_iff, expectType_eq_ok_iff]

theorem expectInts_eq_ok_iff {leftStart rightStart : Position} {left right : Ty}
    {value : Unit} :
    expectInts leftStart rightStart left right = .ok value ↔ .int = left ∧ .int = right := by
  simp [expectInts, bind_eq_ok_iff, expectType_eq_ok_iff]

namespace Scopes

variable {scopes : Scopes} {position : Position}

theorem variableType_eq_ok_iff {name : String} {type : Ty} :
    scopes.variableType name position = .ok type ↔
      scopes.lookup? name = some (.ofVariable type) := by
  unfold variableType
  split <;> simp_all

theorem functionSignature_eq_ok_iff {name : String} {signature : Signature} :
    scopes.functionSignature name position = .ok signature ↔
      scopes.lookup? name = some (.ofFunction signature) := by
  unfold functionSignature
  split <;> simp_all

theorem classMembers_eq_ok_iff {name : String} {members : Members} :
    scopes.classMembers name position = .ok members ↔
      scopes.lookup? name = some (.ofClass members) := by
  unfold classMembers
  split <;> simp_all

theorem membersOf_eq_ok_iff {type : Ty} {member className : String} {members : Members} :
    scopes.membersOf type member position = .ok (className, members) ↔
      type = .object className ∧ scopes.lookup? className = some (.ofClass members) := by
  cases type with
  | object named =>
      simp only [membersOf, map_eq_ok_iff, classMembers_eq_ok_iff, Prod.mk.injEq,
        Ty.object.injEq]
      constructor
      · rintro ⟨_, found, rfl, rfl⟩
        exact ⟨rfl, found⟩
      · rintro ⟨rfl, found⟩
        exact ⟨members, found, rfl, rfl⟩
  | _ => simp [membersOf]

theorem fieldType_eq_ok_iff {member : String} {object type : Ty} :
    scopes.fieldType member position object = .ok type ↔
      ∃ className members, object = .object className ∧
        scopes.lookup? className = some (.ofClass members) ∧
          members.field? member = some type := by
  simp only [fieldType, bind_eq_ok_iff, Prod.exists, membersOf_eq_ok_iff, and_assoc]
  refine exists_congr fun className => exists_congr fun members => ?_
  cases members.field? member <;> simp

theorem callRule_eq_ok_iff {callee : String} {count : Nat} {rule : CallRule} :
    scopes.callRule callee count position = .ok rule ↔
      (∃ builtin, Builtin.find? callee = some builtin ∧ builtin.arity = count ∧
        ⟨List.replicate builtin.arity none, builtin.returnType⟩ = rule) ∨
      (∃ signature, Builtin.find? callee = none ∧
        scopes.lookup? callee = some (.ofFunction signature) ∧
          signature.params.length = count ∧
            ⟨signature.params.map some, signature.returnType⟩ = rule) := by
  cases found : Builtin.find? callee with
  | none =>
      simp [callRule, found, bind_eq_ok_iff, map_eq_ok_iff, functionSignature_eq_ok_iff,
        expectArity_eq_ok_iff]
  | some builtin =>
      simp [callRule, found, map_eq_ok_iff, expectArity_eq_ok_iff]

theorem methodRule_eq_ok_iff {member : String} {count : Nat} {object : Ty}
    {rule : CallRule} :
    scopes.methodRule member count position object = .ok rule ↔
      ∃ className members signature, object = .object className ∧
        scopes.lookup? className = some (.ofClass members) ∧
          members.method? member = some signature ∧
            signature.params.length = count + 1 ∧
              ⟨(signature.params.drop 1).map some, signature.returnType⟩ = rule := by
  simp only [methodRule, bind_eq_ok_iff, Prod.exists, membersOf_eq_ok_iff, and_assoc]
  refine exists_congr fun className => exists_congr fun members => ?_
  cases members.method? member with
  | none => simp
  | some signature => simp [map_eq_ok_iff, expectArity_eq_ok_iff]

/-- There is a demand on each argument of a call that is granted. -/
theorem length_demands_of_callRule {callee : String} {count : Nat} {rule : CallRule}
    (ruled : scopes.callRule callee count position = .ok rule) :
    rule.demands.length = count := by
  rcases callRule_eq_ok_iff.mp ruled with
    ⟨builtin, _, same, rfl⟩ | ⟨signature, _, _, same, rfl⟩
  · simpa using same
  · simpa using same

theorem length_demands_of_methodRule {member : String} {count : Nat} {object : Ty}
    {rule : CallRule} (ruled : scopes.methodRule member count position object = .ok rule) :
    rule.demands.length = count := by
  rcases methodRule_eq_ok_iff.mp ruled with ⟨_, _, signature, _, _, _, same, rfl⟩
  simp [same]

end Scopes

/-! ## Work that changes the state -/

namespace Checked

/-- The work has succeeded and has left the given state. -/
def EndsIn (checked : Checked α) (checker : Checker) : Prop :=
  checked.outcome = .ok () ∧ checked.checker = checker

theorem endsIn_of_outcome {checked : Checked α} (succeeded : checked.outcome = .ok ()) :
    checked.EndsIn checked.checker :=
  ⟨succeeded, rfl⟩

theorem endsIn_done_iff {checker after : Checker} {tree : α} :
    (done checker tree).EndsIn after ↔ checker = after := by
  simp [EndsIn, done]

theorem endsIn_ofAnnotated_iff {checker after : Checker} {annotated : Annotated α Unit} :
    (ofAnnotated checker annotated).EndsIn after ↔
      annotated.result = .ok () ∧ checker = after := by
  simp [EndsIn, ofAnnotated, mapError_eq_ok_iff]

theorem endsIn_map_iff {rebuild : α → β} {checked : Checked α} {after : Checker} :
    (checked.map rebuild).EndsIn after ↔ checked.EndsIn after :=
  Iff.rfl

theorem endsIn_andThen_iff {first : Checked α} {untouched : β}
    {next : Checker → Checked β} {after : Checker} :
    (first.andThen untouched next).EndsIn after ↔
      ∃ between, first.EndsIn between ∧ (next between).EndsIn after := by
  cases outcome : first.outcome with
  | error => simp [andThen_of_error outcome, EndsIn, outcome]
  | ok => simp [andThen_of_ok outcome, EndsIn, outcome]

theorem endsIn_followedBy_iff {first : Checked Unit} {untouched : β}
    {next : Checker → Checked β} {after : Checker} :
    (first.followedBy untouched next).EndsIn after ↔
      ∃ between, first.EndsIn between ∧ (next between).EndsIn after :=
  endsIn_andThen_iff

end Checked

namespace Checker

theorem endsIn_define_iff {frame : Frame} {outer : Scopes} {returnTypes : List Ty}
    {name : String} {symbol : Symbol} {position : Position} {after : Checker} :
    (Checker.define name symbol position ⟨frame :: outer, returnTypes⟩).EndsIn after ↔
      frame.get? name = none ∧
        ⟨frame.insert name symbol :: outer, returnTypes⟩ = after := by
  cases found : frame.get? name with
  | none => simp [define, Scopes.define, Table.contains, found, Checked.EndsIn]
  | some => simp [define, Scopes.define, Table.contains, found, Checked.EndsIn]

/-- Work in a scope of its own succeeds when the work does, and the scope is gone
afterwards. -/
theorem endsIn_withScope_iff {scopes : Scopes} {returnTypes : List Ty}
    {work : Checker → Checked α} {after : Checker} :
    (withScope ⟨scopes, returnTypes⟩ work).EndsIn after ↔
      ∃ frame outer, ∃ inside : Checker, (work ⟨∅ :: scopes, returnTypes⟩).EndsIn inside ∧
        inside.scopes = frame :: outer ∧ after = { inside with scopes := outer } := by
  change _ ∧ _ ↔ _
  simp only [withScope, enter, Scopes.enter, leave, Checked.EndsIn]
  generalize work ⟨∅ :: scopes, returnTypes⟩ = worked
  rcases worked with ⟨tree, ⟨inner, types⟩, outcome, events⟩
  cases inner with
  | nil =>
      simp only [Scopes.leave, Except.bind, reduceCtorEq, false_and, false_iff]
      rintro ⟨frame, outer, inside, ⟨-, rfl⟩, nonempty, -⟩
      simp at nonempty
  | cons frame outer =>
      simp only [Scopes.leave, Except.bind]
      constructor
      · rintro ⟨succeeded, rfl⟩
        exact ⟨frame, outer, _, ⟨succeeded, rfl⟩, rfl, rfl⟩
      · rintro ⟨_, _, _, ⟨succeeded, rfl⟩, same, rfl⟩
        exact ⟨succeeded, by simp_all⟩

theorem endsIn_expecting_iff {returnType : Ty} {scopes : Scopes} {returnTypes : List Ty}
    {work : Checker → Checked α} {after : Checker} :
    (expecting returnType ⟨scopes, returnTypes⟩ work).EndsIn after ↔
      ∃ inside : Checker, (work ⟨scopes, returnType :: returnTypes⟩).EndsIn inside ∧
        after = { inside with returnTypes := inside.returnTypes.tail } := by
  simp only [Checked.EndsIn, expecting]
  constructor
  · rintro ⟨succeeded, rfl⟩
    exact ⟨_, ⟨succeeded, rfl⟩, rfl⟩
  · rintro ⟨_, ⟨succeeded, rfl⟩, rfl⟩
    exact ⟨succeeded, rfl⟩

end Checker

end SlotLang
