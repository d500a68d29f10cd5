import SlotLang.Proofs.Check.Calls

/-!
# Which class an access consults

A class type holds only the name of a class, and the name is looked up where a member is
accessed.  The frame of the variable that holds the object parts the scopes around an
access in two.  If no frame inside it binds the name of the class again, the access
consults the class that the name stands for where the variable lives.  If one does, the
access consults the innermost of those classes instead.
-/

namespace SlotLang

/-- The object whose member an expression accesses. -/
def Expr.object? : Expr → Option Expr
  | .field _ object _ => some object
  | .method _ object _ _ => some object
  | _ => none

/-- The members have the field or the method that an expression accesses. -/
def Members.Grant (members : Members) : Expr → Prop
  | .field _ _ member => ∃ type, members.field? member = some type
  | .method _ _ member _ => ∃ signature, members.method? member = some signature
  | _ => False

theorem Expr.object_mem_children {access object : Expr}
    (accesses : access.object? = some object) : object ∈ access.children := by
  cases access with
  | field =>
      cases accesses
      exact List.mem_cons_self
  | method =>
      cases accesses
      exact List.mem_cons_self
  | _ => cases accesses

/-- The rule of an access looks up the class of the object, which must have the member. -/
theorem Expr.Follows.grant {known : Expr → Ty → Prop} {scopes : Scopes}
    {access object : Expr} {type : Ty} (follows : access.Follows known scopes type)
    (accesses : access.object? = some object) :
    ∃ className members, known object (.object className) ∧
      scopes.lookup? className = some (.ofClass members) ∧ members.Grant access := by
  cases follows with
  | field objectKnown bound declared =>
      cases accesses
      exact ⟨_, _, objectKnown, bound, _, declared⟩
  | method objectKnown bound declared =>
      cases accesses
      exact ⟨_, _, objectKnown, bound, _, declared⟩
  | _ => cases accesses

/-- Inner frames are searched first. -/
theorem Scopes.lookup?_append (inner outer : Scopes) (name : String) :
    Scopes.lookup? (inner ++ outer) name = (inner.lookup? name).or (outer.lookup? name) :=
  List.findSome?_append

theorem Scopes.home?_append (inner outer : Scopes) (name : String) :
    Scopes.home? (inner ++ outer) name = (inner.home? name).or (outer.home? name) :=
  List.find?_append

theorem Scopes.home?_eq_none_iff {scopes : Scopes} {name : String} :
    scopes.home? name = none ↔ scopes.lookup? name = none := by
  rw [lookup?_eq_home?]
  cases found : scopes.home? name with
  | none => simp
  | some home =>
      unfold home? at found
      have bound := List.find?_some found
      rcases Option.isSome_iff_exists.mp bound with ⟨symbol, inFrame⟩
      simp [inFrame]

theorem Scopes.lookup?_cons_of_bound {frame : Frame} {name : String} {symbol : Symbol}
    (bound : frame.get? name = some symbol) (outer : Scopes) :
    Scopes.lookup? (frame :: outer) name = some symbol := by
  rw [Scopes.lookup?, List.findSome?_cons, bound]

section

variable {program typed : Program} {scopes : Scopes}

/-- The slot of a variable holds the type that its name is bound to. -/
theorem Program.carries_name (accepted : program.typed = .ok typed) {mark : Mark}
    {named : String} (listed : .node scopes (.name mark named) ∈ Program.sites typed)
    {type : Ty} (bound : scopes.lookup? named = some (.ofVariable type)) :
    (Expr.name mark named).Carries type := by
  rcases Program.fits_typed accepted _ listed with ⟨other, carries, follows⟩
  cases follows with
  | name alsoBound =>
      cases bound.symm.trans alsoBound
      exact carries

/-- An access is granted by the class that the type of the variable names, looked up in
all scopes around the access. -/
theorem Program.exists_members_of_access (accepted : program.typed = .ok typed)
    {access : Expr} (listed : .node scopes access ∈ Program.sites typed) {mark : Mark}
    {named className : String} (accesses : access.object? = some (.name mark named))
    (bound : scopes.lookup? named = some (.ofVariable (.object className))) :
    ∃ members, scopes.lookup? className = some (.ofClass members) ∧
      members.Grant access := by
  rcases Program.fits_typed accepted _ listed with ⟨type, -, follows⟩
  rcases follows.grant accesses with ⟨consulted, members, objectKnown, classBound, granted⟩
  have objectListed := (Program.rooted_sites typed).closed scopes access listed _
    (Expr.object_mem_children accesses)
  have carries := Program.carries_name accepted objectListed bound
  cases objectKnown.symm.trans carries
  exact ⟨members, classBound, granted⟩

end

/-- Let a variable of a class type be bound in `frame`, and let its name be bound in no
frame inside it.  An access of a member of the variable consults a class of that name that
the program defines and that has the member.  If no frame inside `frame` binds the name
of the class, this is the class that the name stands for in `frame` and the frames around
it; otherwise it is the innermost of those that are bound inside. -/
theorem Program.accesses_consult_innermost_class {program typed : Program}
    (accepted : program.typed = .ok typed) (inner outer : Scopes) {frame : Frame}
    {access : Expr} {mark : Mark} {named className : String}
    (listed : .node (inner ++ frame :: outer) access ∈ Program.sites typed)
    (accesses : access.object? = some (.name mark named))
    (unhidden : inner.lookup? named = none)
    (bound : frame.get? named = some (.ofVariable (.object className))) :
    ∃ (definition : ClassDef) (members : Members), definition.name = className ∧
      definition.Resolved typed (inner ++ frame :: outer) members ∧ members.Grant access ∧
        (inner.lookup? className = none →
          definition.Resolved typed (frame :: outer) members) ∧
        (inner.lookup? className ≠ none → definition.Resolved typed inner members) := by
  have found : Scopes.lookup? (inner ++ frame :: outer) named =
      some (.ofVariable (.object className)) := by
    rw [Scopes.lookup?_append, unhidden, Option.none_or]
    exact Scopes.lookup?_cons_of_bound bound outer
  rcases Program.exists_members_of_access accepted listed accesses found with
    ⟨members, classBound, granted⟩
  rcases Program.exists_class_resolved accepted listed classBound with
    ⟨definition, resolved, rfl⟩
  have whereBound : inner.lookup? definition.name = none →
      definition.Resolved typed (frame :: outer) members := by
    intro unbound
    rcases resolved with ⟨inside, declares, bound, home, body, found, declared⟩
    rw [Scopes.lookup?_append, unbound, Option.none_or] at bound
    rw [Scopes.home?_append, Scopes.home?_eq_none_iff.mpr unbound, Option.none_or] at found
    exact ⟨inside, declares, bound, home, body, found, declared⟩
  have whereShadowed : inner.lookup? definition.name ≠ none →
      definition.Resolved typed inner members := by
    intro rebound
    rcases resolved with ⟨inside, declares, bound, home, body, found, declared⟩
    rcases Option.ne_none_iff_exists'.mp rebound with ⟨symbol, innerBound⟩
    rcases Option.ne_none_iff_exists'.mp (mt Scopes.home?_eq_none_iff.mp rebound) with
      ⟨innerHome, innerFound⟩
    rw [Scopes.lookup?_append, innerBound, Option.some_or] at bound
    rw [Scopes.home?_append, innerFound, Option.some_or] at found
    exact ⟨inside, declares, innerBound.trans bound, home, body, innerFound.trans found,
      declared⟩
  exact ⟨definition, members, rfl, resolved, granted, whereBound, whereShadowed⟩

/-- A program whose two functions read a variable at the top.  The second one declares a
class of its own, with the name of the class at the top. -/
def twoNodesProgram : Program :=
  let mark : Mark := { span := .null }
  let node : Expr := .name mark "node"
  let size : FunctionDef :=
    { span := .null, name := "size", params := [], returnType := .int
      body := [.returnValue .null (.field mark node "size")] }
  let done : FunctionDef :=
    { span := .null, name := "done", params := [], returnType := .bool
      body :=
        [.classDef
          ⟨.null, "Node", [⟨.null, "done", .bool, .literal mark (.boolean false)⟩], []⟩,
        .returnValue .null (.field mark node "done")] }
  [.classDef ⟨.null, "Node", [⟨.null, "size", .int, .literal mark (.number 0)⟩], []⟩,
  .varDecl ⟨.null, "node", .object "Node", .literal mark .none⟩,
  .functionDef size,
  .functionDef done]

/-- The first function consults the class at the top, the second one its own. -/
theorem twoNodesProgram_consults :
    ∃ typed, twoNodesProgram.typed = .ok typed ∧
      (∃ inner frame outer mark object,
        .node (inner ++ frame :: outer) (.field mark object "size") ∈ Program.sites typed ∧
          inner.lookup? "Node" = none ∧
          ∃ (definition : ClassDef) (members : Members),
            definition.Resolved typed (frame :: outer) members ∧
              members.Grant (.field mark object "size")) ∧
      ∃ inner frame outer mark object,
        .node (inner ++ frame :: outer) (.field mark object "done") ∈ Program.sites typed ∧
          inner.lookup? "Node" ≠ none ∧
          ∃ (definition : ClassDef) (members : Members),
            definition.Resolved typed inner members ∧
              members.Grant (.field mark object "done") := by
  have accepted : twoNodesProgram.typed =
    .ok (Checker.checkBlock ⟨[∅], []⟩ twoNodesProgram).tree := rfl
  refine ⟨_, accepted, ⟨[_], _, [], _, _, List.mem_of_getElem? (i := 5) rfl, rfl, ?_⟩,
    [_], _, [], _, _, List.mem_of_getElem? (i := 10) rfl, Option.some_ne_none _, ?_⟩
  · rcases Program.accesses_consult_innermost_class accepted [_] []
      (List.mem_of_getElem? (i := 5) rfl) rfl rfl rfl with
      ⟨definition, members, -, -, granted, atTop, -⟩
    exact ⟨definition, members, atTop rfl, granted⟩
  · rcases Program.accesses_consult_innermost_class accepted [_] []
      (List.mem_of_getElem? (i := 10) rfl) rfl rfl rfl with
      ⟨definition, members, -, -, granted, -, inside⟩
    exact ⟨definition, members, inside (Option.some_ne_none _), granted⟩

/-- An access can consult another class than the one that the name of the class stands
for where the variable lives. -/
theorem twoNodesProgram_class_shadowed :
    ¬ ∀ (program typed : Program), program.typed = .ok typed →
      ∀ (inner outer : Scopes) (frame : Frame) (access : Expr) (mark : Mark)
          (named className : String),
        .node (inner ++ frame :: outer) access ∈ Program.sites typed →
        access.object? = some (.name mark named) → inner.lookup? named = none →
        frame.get? named = some (.ofVariable (.object className)) →
        Scopes.lookup? (inner ++ frame :: outer) className =
          Scopes.lookup? (frame :: outer) className := by
  intro same
  have accepted : twoNodesProgram.typed =
    .ok (Checker.checkBlock ⟨[∅], []⟩ twoNodesProgram).tree := rfl
  have lookups := same _ _ accepted [_] [] _ _ _ _ _ (List.mem_of_getElem? (i := 10) rfl)
    rfl rfl rfl
  exact absurd lookups (by decide)

end SlotLang
