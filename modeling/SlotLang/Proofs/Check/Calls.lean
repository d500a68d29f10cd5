import Mathlib.Data.List.Forall2
import Mathlib.Data.List.Pairwise
import SlotLang.Proofs.Check.Coherence
import SlotLang.Proofs.Check.Flat
import SlotLang.Proofs.Check.Idempotence

/-!
# Calls meet the declarations

In an accepted program every call of a function and every call of a method can be traced
to the definition that it resolves to, and its arguments carry the types of the declared
parameters.  The first parameter of a method stands for the object of the call.  A call
needs it to be there, but asks nothing of its type.
-/

namespace SlotLang

/-! ## Definitions that names resolve to -/

/-- The statement declares what the name stands for in the scopes: the frame of the name
belongs to a block of the program, the statement is in the flat body of that block, and no
other statement there declares the name. -/
def Stmt.DeclaresIn (program : List Stmt) (scopes : Scopes) (name : String) (stmt : Stmt) :
    Prop :=
  ∃ home body, scopes.home? name = some home ∧ Frame.OpenedFor program body home ∧
    stmt ∈ Stmt.flattenAll body ∧
      ∀ other ∈ Stmt.flattenAll body, other.declaredName? = some name → other = stmt

/-- A function that the program defines somewhere, and that its name stands for in the
scopes. -/
structure FunctionDef.Resolved (program : List Stmt) (scopes : Scopes)
    (definition : FunctionDef) : Prop where
  inside : (Stmt.functionDef definition).Inside program
  bound : scopes.lookup? definition.name = some (.ofFunction definition.signature)
  declared : (Stmt.functionDef definition).DeclaresIn program scopes definition.name

/-- A class that the program defines somewhere, and that its name stands for in the
scopes. -/
structure ClassDef.Resolved (program : List Stmt) (scopes : Scopes) (members : Members)
    (definition : ClassDef) : Prop where
  inside : (Stmt.classDef definition).Inside program
  declares : definition.members = .ok members
  bound : scopes.lookup? definition.name = some (.ofClass members)
  declared : (Stmt.classDef definition).DeclaresIn program scopes definition.name

/-! ## Well-typed programs -/

/-- A typed program is well typed, since it checks to itself. -/
theorem Program.wellTyped_typed {program typed : Program}
    (accepted : program.typed = .ok typed) : typed.WellTyped := by
  rcases Program.typed_eq_ok_iff.mp accepted with ⟨after, ended, rfl⟩
  have again : Checker.checkBlock ⟨[∅], []⟩ (Checker.checkBlock ⟨[∅], []⟩ program).tree =
      Checker.checkBlock ⟨[∅], []⟩ program :=
    Checker.repeats_checkBlock _ program
  rw [← again] at ended
  rcases Stmt.blockWellTyped_of_inBlock
    (fun checked => Stmt.allWellTyped_of_checkAll _ checked) ended with ⟨left, -, blockTyped⟩
  exact ⟨left, blockTyped⟩

/-- The names that share a frame are distinct. -/
theorem Program.WellTyped.flatNames_nodup {program : Program}
    (wellTyped : program.WellTyped) {body : List Stmt}
    (opens : Stmt.OpensFrame program body) : (Stmt.flatNames body).Nodup := by
  rcases wellTyped with ⟨after, blockTyped⟩
  rcases opens with rfl | ⟨definition, within, rfl⟩
  · have distinct := blockTyped.extends_flatBindings.distinct
    rwa [Stmt.map_fst_flatBindings] at distinct
  · rcases blockTyped.function within with ⟨scopes, definitionTyped⟩
    exact (List.nodup_append.mp definitionTyped.names_nodup).2.1

/-- A name is declared once in a flat body. -/
theorem Stmt.eq_of_declaredName?_eq {body : List Stmt}
    (distinct : (Stmt.flatNames body).Nodup) {stmt other : Stmt}
    (member : stmt ∈ Stmt.flattenAll body) (otherMember : other ∈ Stmt.flattenAll body)
    {name : String} (declares : stmt.declaredName? = some name)
    (otherDeclares : other.declaredName? = some name) : other = stmt := by
  have symmetric : Std.Symm fun first second : Stmt =>
      ∀ name, first.declaredName? = some name →
        ∀ other, second.declaredName? = some other → name ≠ other :=
    ⟨fun _ _ apart _ found _ alsoFound => (apart _ alsoFound _ found).symm⟩
  by_contra different
  have apart := (List.pairwise_filterMap.mp distinct).forall otherMember member different
  exact apart name otherDeclares name declares rfl

section

variable {program typed : Program} {scopes : Scopes} {node : Expr}

/-- A function or class that a name stands for at a node of an accepted program is declared
by one statement in the block that the frame of the name belongs to. -/
theorem Program.exists_declaresIn (accepted : program.typed = .ok typed)
    (listed : .node scopes node ∈ Program.sites typed) {name : String} {symbol : Symbol}
    (bound : scopes.lookup? name = some symbol)
    (declared : ∀ type, symbol ≠ .ofVariable type) :
    ∃ stmt : Stmt, stmt.Inside typed ∧ stmt.binding? = some (name, symbol) ∧
      stmt.DeclaresIn typed scopes name := by
  have drawn : scopes.DrawnFrom typed := (Program.rooted_sites typed).drawn _ _ listed
  rcases drawn.exists_home bound declared with
    ⟨home, body, found, opened, stmt, member, binds⟩
  have named : stmt.declaredName? = some name := by
    rw [← Stmt.fst_binding?, binds, Option.map_some]
  have distinct := (Program.wellTyped_typed accepted).flatNames_nodup opened.opens
  refine ⟨stmt, opened.opens.inside (Stmt.inside_of_mem_flattenAll body member), binds,
    home, body, found, opened, member, ?_⟩
  intro other otherMember otherNamed
  exact Stmt.eq_of_declaredName?_eq distinct member otherMember named otherNamed

/-- A function that a name stands for at a node of an accepted program is one that the
program defines. -/
theorem Program.exists_function_resolved (accepted : program.typed = .ok typed)
    (listed : .node scopes node ∈ Program.sites typed) {name : String}
    {signature : Signature} (bound : scopes.lookup? name = some (.ofFunction signature)) :
    ∃ definition : FunctionDef, definition.Resolved typed scopes ∧
      definition.name = name ∧ definition.signature = signature := by
  rcases Program.exists_declaresIn accepted listed bound (fun _ => nofun) with
    ⟨stmt, inside, binds, declared⟩
  cases stmt with
  | functionDef definition =>
      cases Option.some.inj binds
      exact ⟨definition, ⟨inside, bound, declared⟩, rfl, rfl⟩
  | _ => cases binds

/-- A class that a name stands for at a node of an accepted program is one that the
program defines, and it declares the members that the name is bound to. -/
theorem Program.exists_class_resolved (accepted : program.typed = .ok typed)
    (listed : .node scopes node ∈ Program.sites typed) {name : String} {members : Members}
    (bound : scopes.lookup? name = some (.ofClass members)) :
    ∃ definition : ClassDef, definition.Resolved typed scopes members ∧
      definition.name = name := by
  rcases Program.exists_declaresIn accepted listed bound (fun _ => nofun) with
    ⟨stmt, inside, binds, declared⟩
  cases stmt with
  | classDef definition =>
      rcases Program.wellTyped_typed accepted with ⟨_, blockTyped⟩
      cases Option.some.inj binds
      have declares := ClassDef.members_eq_ok_iff.mpr ⟨blockTyped.members_nodup inside, rfl⟩
      exact ⟨definition, ⟨inside, declares, bound, declared⟩, rfl⟩
  | _ => cases binds

end

/-! ## Members of a class -/

theorem mem_of_lookup_eq_some {α : Type} {entries : List (String × α)} {name : String}
    {value : α} (found : entries.lookup name = some value) : (name, value) ∈ entries := by
  rcases List.lookup_eq_some_iff.mp found with ⟨before, after, rfl, -⟩
  exact List.mem_append_right before List.mem_cons_self

/-- The signature of a member is that of a method of the class. -/
theorem ClassDef.exists_method {definition : ClassDef} {members : Members}
    (declares : definition.members = .ok members) {member : String} {signature : Signature}
    (declared : members.method? member = some signature) :
    ∃ method ∈ definition.methods, method.name = member ∧ method.signature = signature := by
  rcases ClassDef.members_eq_ok_iff.mp declares with ⟨-, rfl⟩
  rcases List.mem_map.mp (mem_of_lookup_eq_some declared) with
    ⟨method, isMethod, same⟩
  cases same
  exact ⟨method, isMethod, rfl, rfl⟩

/-! ## Arguments and parameters -/

/-- The arguments carry the types of the parameters, in number and in order. -/
def Expr.AllCarry (arguments : List Expr) (params : List Param) : Prop :=
  arguments.map Expr.type? = params.map fun param => some param.type

theorem Expr.allCarry_of_forall₂ {arguments : List Expr} {params : List Param}
    (known : List.Forall₂ Expr.Carries arguments (params.map Param.type)) :
    Expr.AllCarry arguments params := by
  induction params generalizing arguments with
  | nil =>
      cases known
      rfl
  | cons param later inductionHypothesis =>
      cases known with
      | cons carries laterKnown =>
          exact List.cons_eq_cons.mpr ⟨carries, inductionHypothesis laterKnown⟩

/-! ## Calls -/

/-- In an accepted program the arguments of a call of a declared function carry the types
of the parameters of the function that the call resolves to, in number and in order.  The
object of a call of a method carries the type of a class that declares the method; with
the object in the first place, the call has as many arguments as the method has
parameters, and the arguments carry the types of the parameters after the first.  Nothing
is asked of the type of the first parameter. -/
theorem Program.calls_match_declarations {program typed : Program}
    (accepted : program.typed = .ok typed) :
    (Program.sites typed).filterMap Site.node? = Stmt.preorderAll typed ∧
    (∀ scopes mark callee arguments,
      .node scopes (.call mark callee arguments) ∈ Program.sites typed →
      Builtin.find? callee = none →
      ∃ definition : FunctionDef, definition.Resolved typed scopes ∧
        definition.name = callee ∧ Expr.AllCarry arguments definition.params) ∧
    ∀ scopes mark object member arguments,
      .node scopes (.method mark object member arguments) ∈ Program.sites typed →
      ∃ (definition : ClassDef) (members : Members) (method : FunctionDef)
          (receiver : Param) (others : List Param),
        definition.Resolved typed scopes members ∧ method ∈ definition.methods ∧
          method.name = member ∧ method.params = receiver :: others ∧
          object.Carries (.object definition.name) ∧ Expr.AllCarry arguments others := by
  have fits := Program.fits_typed accepted
  constructor
  · exact Stmt.nodes_sitesAll _ _ typed
  constructor
  · intro scopes mark callee arguments listed unlisted
    rcases fits _ listed with ⟨type, -, follows⟩
    cases follows with
    | builtin isBuiltin => cases isBuiltin.symm.trans unlisted
    | call _ bound argumentsKnown =>
        rcases Program.exists_function_resolved accepted listed bound with
          ⟨definition, resolved, named, signature⟩
        cases signature
        exact ⟨definition, resolved, named, Expr.allCarry_of_forall₂ argumentsKnown⟩
  · intro scopes mark object member arguments listed
    rcases fits _ listed with ⟨type, -, follows⟩
    cases follows with
    | method objectKnown bound declared argumentsKnown =>
        rcases Program.exists_class_resolved accepted listed bound with
          ⟨definition, resolved, rfl⟩
        rcases definition.exists_method resolved.declares declared with
          ⟨method, isMethod, named, signature⟩
        -- The rule leaves out the first parameter, so there is one.
        rcases List.map_eq_cons_iff.mp (congrArg Signature.params signature) with
          ⟨receiver, others, params, -, rfl⟩
        exact ⟨definition, _, method, receiver, others, resolved, isMethod, named, params,
          objectKnown, Expr.allCarry_of_forall₂ argumentsKnown⟩

/-- The two kinds of calls in a function that holds the function it calls. -/
theorem tallyProgram_calls_match :
    ∃ typed, tallyProgram.typed = .ok typed ∧
      (∃ scopes mark arguments,
        .node scopes (.call mark "isZero" arguments) ∈ Program.sites typed ∧
          ∃ definition : FunctionDef, definition.Resolved typed scopes ∧
            definition.name = "isZero" ∧ Expr.AllCarry arguments definition.params) ∧
      ∃ scopes mark object arguments,
        .node scopes (.method mark object "add" arguments) ∈ Program.sites typed ∧
          ∃ (definition : ClassDef) (members : Members) (method : FunctionDef)
              (receiver : Param) (others : List Param),
            definition.Resolved typed scopes members ∧ method ∈ definition.methods ∧
              method.name = "add" ∧ method.params = receiver :: others ∧
              object.Carries (.object definition.name) ∧
              Expr.AllCarry arguments others := by
  have accepted : tallyProgram.typed =
    .ok (Checker.checkBlock ⟨[∅], []⟩ tallyProgram).tree := rfl
  rcases Program.calls_match_declarations accepted with ⟨-, functions, methods⟩
  refine ⟨_, accepted, ⟨_, _, _, List.mem_of_getElem? (i := 24) rfl, ?_⟩,
    _, _, _, _, List.mem_of_getElem? (i := 12) rfl, ?_⟩
  · exact functions _ _ _ _ (List.mem_of_getElem? (i := 24) rfl) rfl
  · exact methods _ _ _ _ _ (List.mem_of_getElem? (i := 12) rfl)

/-- A program that calls a method whose first parameter is a number. -/
def numberedBoxProgram : Program :=
  let mark : Mark := { span := .null }
  let size : FunctionDef :=
    { span := .null, name := "size", params := [⟨"self", .int⟩], returnType := .int
      body := [.returnValue .null (.name mark "self")] }
  [.classDef ⟨.null, "Box", [], [size]⟩,
  .varDecl ⟨.null, "box", .object "Box", .literal mark .none⟩,
  .evaluate .null (.method mark (.name mark "box") "size" [])]

/-- The object of a call need not have the type of the first parameter. -/
theorem numberedBoxProgram_receiver_unmatched :
    ¬ ∀ program typed : Program, program.typed = .ok typed →
      ∀ scopes mark object member arguments,
        .node scopes (.method mark object member arguments) ∈ Program.sites typed →
        ∀ (definition : ClassDef) (members : Members) (method : FunctionDef),
          definition.Resolved typed scopes members → method ∈ definition.methods →
          method.name = member → object.Carries (.object definition.name) →
          Expr.AllCarry (object :: arguments) method.params := by
  intro matched
  have accepted : numberedBoxProgram.typed =
    .ok (Checker.checkBlock ⟨[∅], []⟩ numberedBoxProgram).tree := rfl
  have bound := @Program.exists_class_resolved numberedBoxProgram _ _ _ accepted
    (List.mem_of_getElem? (i := 4) rfl) "Box" { methods := [("size", ⟨[.int], .int⟩)] } rfl
  rcases bound with ⟨definition, resolved, named⟩
  rcases @ClassDef.exists_method definition _ resolved.declares "size" ⟨[.int], .int⟩ rfl with
    ⟨method, isMethod, methodNamed, signature⟩
  have carried := matched _ _ accepted _ _ _ _ _ (List.mem_of_getElem? (i := 4) rfl)
    definition _ method resolved isMethod methodNamed (by rw [named]; rfl)
  have params : method.params.map Param.type = [.int] := congrArg Signature.params signature
  have types : [some (Ty.object "Box")] = (method.params.map Param.type).map some := by
    rw [List.map_map]
    exact carried
  rw [params] at types
  cases types

end SlotLang
