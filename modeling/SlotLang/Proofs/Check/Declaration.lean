import Mathlib.Tactic.Tauto
import SlotLang.Proofs.Check.Success
import SlotLang.Proofs.Typing.Stmt

/-!
# Binding the declarations of a block

The checker binds the declarations of a block one after the other and stops at the
first clash.  It gets through exactly when the frame can be extended by all of
them at once, and the frame that it leaves is that extension.
-/

namespace SlotLang

/-! ## Types -/

namespace Scopes

variable {scopes : Scopes} {position : Position} {value : Unit}

theorem resolve_eq_ok_iff {type : Ty} :
    scopes.resolve position type = .ok value ↔ scopes.Resolves type := by
  cases type with
  | object className =>
      simp [resolve, Resolves, map_eq_ok_iff, classMembers_eq_ok_iff]
  | _ => simp [resolve, Resolves]

theorem resolveAll_eq_ok_iff {types : List Ty} :
    scopes.resolveAll position types = .ok value ↔
      ∀ type ∈ types, scopes.Resolves type := by
  induction types with
  | nil => simp [resolveAll]
  | cons type later inductionHypothesis =>
      simp [resolveAll, bind_eq_ok_iff, resolve_eq_ok_iff, inductionHypothesis]

end Scopes

/-! ## Order -/

theorem lateDeclaration?_eq_none_iff {body : List Stmt} :
    lateDeclaration? body = none ↔ Stmt.DeclarationsFirst body := by
  unfold lateDeclaration? Stmt.DeclarationsFirst
  rw [List.find?_eq_none]
  constructor
  · intro noneLate
    refine ⟨body.takeWhile Stmt.isDeclaration, body.dropWhile Stmt.isDeclaration,
      List.takeWhile_append_dropWhile.symm, ?_, ?_⟩
    · exact List.all_eq_true.mp List.all_takeWhile
    · intro stmt member
      exact Bool.eq_false_iff.mpr (noneLate stmt member)
  · rintro ⟨declarations, statements, rfl, front, back⟩ stmt member
    rw [List.dropWhile_append_of_pos front] at member
    have listed := (List.dropWhile_suffix _).subset member
    simp [back stmt listed]

theorem expectDeclarationsFirst_eq_ok_iff {body : List Stmt} {value : Unit} :
    expectDeclarationsFirst body = .ok value ↔ Stmt.DeclarationsFirst body := by
  rw [← lateDeclaration?_eq_none_iff]
  unfold expectDeclarationsFirst
  split <;> simp_all

/-! ## Members of a class -/

namespace Members

/-- The names of all members. -/
def names (members : Members) : List String :=
  members.fields.map Prod.fst ++ members.methods.map Prod.fst

theorem contains_iff {members : Members} {name : String} :
    members.contains name = true ↔ name ∈ members.names := by
  simp only [contains, field?, method?, names, Bool.or_eq_true, List.lookup_isSome_iff,
    List.mem_append, List.mem_map, beq_iff_eq]
  grind

/-- Entries are added exactly when their names are new and distinct. -/
theorem addAll_eq_ok_iff {α : Type} {name : α → String} {position : α → Position}
    {extend : Members → List α → Members} (nothing : ∀ members, extend members [] = members)
    (inTurn : ∀ members first later,
      extend (extend members first) later = extend members (first ++ later))
    (named : ∀ members entry other,
      other ∈ (extend members [entry]).names ↔ other ∈ members.names ∨ other = name entry)
    {entries : List α} {members result : Members} :
    addAll name position extend members entries = .ok result ↔
      (entries.map name).Nodup ∧ (∀ entry ∈ entries, name entry ∉ members.names) ∧
        extend members entries = result := by
  induction entries generalizing members with
  | nil => simp [addAll, nothing]
  | cons entry later inductionHypothesis =>
      by_cases clash : members.contains (name entry) = true
      · have listed := contains_iff.mp clash
        simp [addAll, clash, listed]
      · have new := mt contains_iff.mpr clash
        simp only [addAll, clash, Bool.false_eq_true, if_false, inductionHypothesis, inTurn,
          named, List.singleton_append, List.map_cons, List.nodup_cons, List.mem_map,
          List.mem_cons]
        grind

theorem addFields_eq_ok_iff {fields : List VarDecl} {members result : Members} :
    members.addFields fields = .ok result ↔
      (fields.map VarDecl.name).Nodup ∧ (∀ field ∈ fields, field.name ∉ members.names) ∧
        members.withFields fields = result := by
  apply addAll_eq_ok_iff
  · intro members
    simp [withFields]
  · intro members first later
    simp [withFields]
  · intro members field other
    simp only [withFields, names, List.map_append, List.mem_append, List.map_cons,
      List.map_nil, List.mem_singleton]
    tauto

theorem addMethods_eq_ok_iff {methods : List FunctionDef} {members result : Members} :
    members.addMethods methods = .ok result ↔
      (methods.map FunctionDef.name).Nodup ∧
        (∀ method ∈ methods, method.name ∉ members.names) ∧
          members.withMethods methods = result := by
  apply addAll_eq_ok_iff
  · intro members
    simp [withMethods]
  · intro members first later
    simp [withMethods]
  · intro members method other
    simp only [withMethods, names, List.map_append, List.mem_append, List.map_cons,
      List.map_nil, List.mem_singleton, or_assoc]

end Members

/-- A class has members exactly when their names are distinct. -/
theorem ClassDef.members_eq_ok_iff {definition : ClassDef} {members : Members} :
    definition.members = .ok members ↔
      definition.memberNames.Nodup ∧
        { fields := definition.fields.map fun field => (field.name, field.type)
          methods := definition.methods.map fun method =>
            (method.name, method.signature) } = members := by
  have fieldNames : (definition.fields.map fun field => (field.name, field.type)).map
      Prod.fst = definition.fields.map VarDecl.name := by
    rw [List.map_map]
    rfl
  simp only [ClassDef.members, bind_eq_ok_iff, Members.addFields_eq_ok_iff,
    Members.addMethods_eq_ok_iff, Members.withFields, Members.withMethods, Members.names,
    List.map_nil, List.nil_append,
    List.append_nil, List.not_mem_nil, not_false_eq_true, implies_true, true_and]
  constructor
  · rintro ⟨_, ⟨fieldsDistinct, rfl⟩, methodsDistinct, apart, rfl⟩
    refine ⟨List.nodup_append.mpr ⟨fieldsDistinct, methodsDistinct, ?_⟩, rfl⟩
    rintro _ fieldMember _ methodMember rfl
    rcases List.mem_map.mp methodMember with ⟨method, member, same⟩
    apply apart method member
    rwa [List.map_nil, List.append_nil, fieldNames, same]
  · rintro ⟨distinct, rfl⟩
    rcases List.nodup_append.mp distinct with ⟨fieldsDistinct, methodsDistinct, apart⟩
    refine ⟨_, ⟨fieldsDistinct, rfl⟩, methodsDistinct, ?_, rfl⟩
    intro method member listed
    rw [List.map_nil, List.append_nil, fieldNames] at listed
    exact apart _ listed _ (List.mem_map_of_mem member) rfl

/-! ## Binding -/

namespace Checker

variable {outer : Scopes} {returnTypes : List Ty} {frame : Frame} {after : Checker}

/-- A declaration is bound if its name is new and, for a class, its members are
distinct. -/
theorem endsIn_declare_iff {stmt : Stmt} {name : String} {symbol : Symbol}
    (binds : stmt.binding? = some (name, symbol)) :
    (Checker.declare ⟨frame :: outer, returnTypes⟩ stmt).EndsIn after ↔
      (∀ definition, stmt = .classDef definition → definition.memberNames.Nodup) ∧
        frame.get? name = none ∧
          ⟨frame.insert name symbol :: outer, returnTypes⟩ = after := by
  cases stmt with
  | varDecl declaration =>
      cases binds
      simp [declare, endsIn_define_iff]
  | functionDef definition =>
      cases binds
      simp [declare, endsIn_define_iff]
  | classDef definition =>
      cases binds
      cases found : definition.members with
      | error =>
          have clash : ¬ definition.memberNames.Nodup := by
            intro distinct
            rw [ClassDef.members_eq_ok_iff.mpr ⟨distinct, rfl⟩] at found
            contradiction
          simp [declare, found, Checked.EndsIn, clash]
      | ok members =>
          rcases ClassDef.members_eq_ok_iff.mp found with ⟨distinct, rfl⟩
          simp [declare, found, endsIn_define_iff, distinct]
  | _ => simp [Stmt.binding?] at binds

/-- What executes binds nothing. -/
theorem declare_of_binding?_eq_none {checker : Checker} {stmt : Stmt}
    (binds : stmt.binding? = none) : checker.declare stmt = .done checker () := by
  cases stmt with
  | varDecl => cases binds
  | functionDef => cases binds
  | classDef => cases binds
  | _ => rfl

/-- The declarations of a block are bound exactly if they extend the frame. -/
theorem endsIn_declareAll_iff {body : List Stmt} :
    (Checker.declareAll ⟨frame :: outer, returnTypes⟩ body).EndsIn after ↔
      (∀ definition, .classDef definition ∈ body → definition.memberNames.Nodup) ∧
        ∃ bound, frame.Extends (body.filterMap Stmt.binding?) bound ∧
          after = ⟨bound :: outer, returnTypes⟩ := by
  induction body generalizing frame with
  | nil => simp [declareAll, Checked.endsIn_done_iff, Frame.extends_nil_iff, eq_comm]
  | cons stmt later inductionHypothesis =>
      rw [declareAll, Checked.endsIn_followedBy_iff]
      cases binds : stmt.binding? with
      | none =>
          have notClass : ∀ definition, stmt ≠ .classDef definition := by
            rintro definition rfl
            simp [Stmt.binding?] at binds
          simp [declare_of_binding?_eq_none binds, Checked.endsIn_done_iff,
            inductionHypothesis, List.filterMap_cons_none binds, notClass, eq_comm]
      | some binding =>
          rcases binding with ⟨name, symbol⟩
          simp only [endsIn_declare_iff binds, List.filterMap_cons_some binds,
            Frame.extends_cons_iff, List.mem_cons]
          constructor
          · rintro ⟨_, ⟨distinct, new, rfl⟩, laterBound⟩
            rcases inductionHypothesis.mp laterBound with
              ⟨laterDistinct, bound, extending, rfl⟩
            refine ⟨?_, bound, ⟨new, extending⟩, rfl⟩
            rintro definition (same | member)
            · exact distinct definition same.symm
            · exact laterDistinct definition member
          · rintro ⟨distinct, bound, ⟨new, extending⟩, rfl⟩
            refine ⟨_, ⟨fun definition same => distinct definition (.inl same.symm),
              new, rfl⟩, inductionHypothesis.mpr ⟨?_, bound, extending, rfl⟩⟩
            exact fun definition member => distinct definition (.inr member)

/-- The parameters of a function are bound exactly if they extend the frame. -/
theorem endsIn_declareParams_iff {position : Position} {params : List Param} :
    (Checker.declareParams position ⟨frame :: outer, returnTypes⟩ params).EndsIn after ↔
      ∃ bound, frame.Extends (params.map Param.binding) bound ∧
        after = ⟨bound :: outer, returnTypes⟩ := by
  induction params generalizing frame with
  | nil => simp [declareParams, Checked.endsIn_done_iff, Frame.extends_nil_iff, eq_comm]
  | cons param later inductionHypothesis =>
      rw [declareParams, Checked.endsIn_followedBy_iff]
      simp only [endsIn_define_iff, List.map_cons, Param.binding, Frame.extends_cons_iff]
      constructor
      · rintro ⟨_, ⟨new, rfl⟩, laterBound⟩
        rcases inductionHypothesis.mp laterBound with ⟨bound, extending, rfl⟩
        exact ⟨bound, ⟨new, extending⟩, rfl⟩
      · rintro ⟨bound, ⟨new, extending⟩, rfl⟩
        exact ⟨_, ⟨new, rfl⟩, inductionHypothesis.mpr ⟨bound, extending, rfl⟩⟩

theorem endsIn_openBlock_iff {body : List Stmt} :
    (Checker.openBlock ⟨frame :: outer, returnTypes⟩ body).EndsIn after ↔
      Stmt.DeclarationsFirst body ∧
        (∀ definition, .classDef definition ∈ body → definition.memberNames.Nodup) ∧
          ∃ bound, frame.Extends (body.filterMap Stmt.binding?) bound ∧
            after = ⟨bound :: outer, returnTypes⟩ := by
  cases ordered : expectDeclarationsFirst body with
  | error =>
      have late : ¬ Stmt.DeclarationsFirst body := by
        intro first
        have passed : expectDeclarationsFirst body = .ok () :=
          expectDeclarationsFirst_eq_ok_iff.mpr first
        rw [passed] at ordered
        contradiction
      simp [openBlock, ordered, Checked.EndsIn, late]
  | ok =>
      have first := expectDeclarationsFirst_eq_ok_iff.mp ordered
      simp only [openBlock, ordered, endsIn_declareAll_iff, first, true_and]

/-- Work inside a block starts from the frame that its declarations extend. -/
theorem endsIn_inBlock_iff {body : List Stmt} {work : Checker → Checked (List Stmt)} :
    (Checker.inBlock ⟨frame :: outer, returnTypes⟩ body work).EndsIn after ↔
      Stmt.DeclarationsFirst body ∧
        (∀ definition, .classDef definition ∈ body → definition.memberNames.Nodup) ∧
          ∃ bound, frame.Extends (body.filterMap Stmt.binding?) bound ∧
            (work ⟨bound :: outer, returnTypes⟩).EndsIn after := by
  rw [inBlock, Checked.endsIn_followedBy_iff]
  simp only [endsIn_openBlock_iff]
  constructor
  · rintro ⟨_, ⟨ordered, distinct, bound, extending, rfl⟩, worked⟩
    exact ⟨ordered, distinct, bound, extending, worked⟩
  · rintro ⟨ordered, distinct, bound, extending, worked⟩
    exact ⟨_, ⟨ordered, distinct, bound, extending, rfl⟩, worked⟩

end Checker

/-! ## Functions -/

theorem FunctionDef.expectHeader_eq_ok_iff {scopes : Scopes} {definition : FunctionDef}
    {value : Unit} :
    definition.expectHeader scopes = .ok value ↔
      (∀ param ∈ definition.params, scopes.Resolves param.type) ∧
        scopes.Resolves definition.returnType ∧
          (definition.returnType = .none ∨ ∃ stmt ∈ definition.body, stmt.Returns) := by
  have returns : definition.expectReturns = .ok value ↔
      (definition.returnType = .none ∨ ∃ stmt ∈ definition.body, stmt.Returns) := by
    rw [← Stmt.blockReturns_iff]
    unfold expectReturns
    split <;> simp_all
  simp only [expectHeader, bind_eq_ok_iff, Scopes.resolveAll_eq_ok_iff, returns,
    List.mem_append, List.mem_map, List.mem_singleton]
  grind

/-- Work on the body of a function starts from a frame of its own that holds the
parameters, and that frame is gone afterwards. -/
theorem Checker.endsIn_inFunction_iff {scopes : Scopes} {returnTypes : List Ty}
    {definition : FunctionDef} {work : Checker → Checked (List Stmt)} {after : Checker} :
    (Checker.inFunction ⟨scopes, returnTypes⟩ definition work).EndsIn after ↔
      (∀ param ∈ definition.params, scopes.Resolves param.type) ∧
        scopes.Resolves definition.returnType ∧
          (definition.returnType = .none ∨ ∃ stmt ∈ definition.body, stmt.Returns) ∧
            ∃ params, Frame.Extends ∅ (definition.params.map Param.binding) params ∧
              ∃ frame outer, ∃ inside : Checker,
                (Checker.inBlock ⟨params :: scopes, definition.returnType :: returnTypes⟩
                  definition.body work).EndsIn inside ∧
                inside.scopes = frame :: outer ∧
                  after = ⟨outer, inside.returnTypes.tail⟩ := by
  cases header : definition.expectHeader scopes with
  | error =>
      have refused : ¬ (definition.expectHeader scopes = .ok ()) := by simp [header]
      rw [FunctionDef.expectHeader_eq_ok_iff] at refused
      simp only [inFunction, header, Checked.EndsIn, reduceCtorEq, false_and, false_iff]
      rintro ⟨paramsResolved, returnResolved, returns, -⟩
      exact refused ⟨paramsResolved, returnResolved, returns⟩
  | ok =>
      rcases FunctionDef.expectHeader_eq_ok_iff.mp header with
        ⟨paramsResolved, returnResolved, returns⟩
      simp only [inFunction, header, Checked.endsIn_map_iff, endsIn_expecting_iff,
        endsIn_withScope_iff, Checked.endsIn_followedBy_iff, endsIn_declareParams_iff]
      constructor
      · rintro ⟨_, ⟨frame, outer, inside, ⟨_, ⟨params, extending, rfl⟩, worked⟩, same,
          rfl⟩, rfl⟩
        exact ⟨paramsResolved, returnResolved, returns, params, extending, frame, outer,
          inside, worked, same, rfl⟩
      · rintro ⟨-, -, -, params, extending, frame, outer, inside, worked, same, rfl⟩
        exact ⟨_, ⟨frame, outer, inside, ⟨_, ⟨params, extending, rfl⟩, worked⟩, same,
          rfl⟩, rfl⟩

end SlotLang
