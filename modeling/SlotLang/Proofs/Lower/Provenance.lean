import SlotLang.Proofs.Check.Flat
import SlotLang.Proofs.Lower.Support

/-!
# Definitions are refused before their uses

A call of a function and an access to a member have no instructions, but no checked program
is ever refused for one.  Whatever they refer to was introduced by a statement in front of
them: the definition of a function or a class, or a branch or a loop with such a definition
inside.  Those statements have no instructions either, and lowering meets them first.
-/

namespace SlotLang

/-! ## What nodes refer to -/

/-- Whether a node is a call of something else than a built-in, or an access to a member. -/
def Expr.isReference : Expr → Bool
  | .call _ callee _ => (Builtin.find? callee).isNone
  | .field _ _ _ => true
  | .method _ _ _ _ => true
  | _ => false

/-- `node.RefersTo scopes binding`: the binding is that of the function that the node
calls, or of the class of the object whose member it wants. -/
inductive Expr.RefersTo (scopes : Scopes) : Expr → String × Symbol → Prop where
  | call {mark : Mark} {callee : String} {arguments : List Expr} {signature : Signature}
      (unlisted : Builtin.find? callee = none)
      (bound : scopes.lookup? callee = some (.ofFunction signature)) :
      RefersTo scopes (.call mark callee arguments) (callee, .ofFunction signature)
  | field {mark : Mark} {object : Expr} {member className : String} {members : Members}
      (objectTyped : object.HasType scopes (.object className))
      (bound : scopes.lookup? className = some (.ofClass members)) :
      RefersTo scopes (.field mark object member) (className, .ofClass members)
  | method {mark : Mark} {object : Expr} {member className : String}
      {arguments : List Expr} {members : Members}
      (objectTyped : object.HasType scopes (.object className))
      (bound : scopes.lookup? className = some (.ofClass members)) :
      RefersTo scopes (.method mark object member arguments) (className, .ofClass members)

theorem Expr.HasType.exists_refersTo {scopes : Scopes} {node : Expr} {type : Ty}
    (typed : node.HasType scopes type) (reference : node.isReference = true) :
    ∃ binding, node.RefersTo scopes binding := by
  cases typed with
  | builtin listed => simp [Expr.isReference, listed] at reference
  | call unlisted bound => exact ⟨_, .call unlisted bound⟩
  | field objectTyped bound => exact ⟨_, .field objectTyped bound⟩
  | method objectTyped bound => exact ⟨_, .method objectTyped bound⟩
  | _ => cases reference

namespace Expr.RefersTo

variable {scopes : Scopes} {node : Expr} {binding : String × Symbol}

theorem bound (refers : node.RefersTo scopes binding) :
    scopes.lookup? binding.1 = some binding.2 := by
  cases refers with
  | call _ bound => exact bound
  | field _ bound => exact bound
  | method _ bound => exact bound

/-- Nodes refer to functions and classes, which have no instructions. -/
theorem isSupported_eq_false (refers : node.RefersTo scopes binding) {stmt : Stmt}
    (binds : stmt.binding? = some binding) : stmt.isSupported = false := by
  cases stmt with
  | varDecl declaration =>
      cases Option.some.inj binds
      cases refers
  | functionDef => rfl
  | classDef => rfl
  | _ => cases binds

end Expr.RefersTo

/-- A statement introduces a binding into the frame around it: it declares the name, or a
statement in one of its blocks that share the frame does. -/
def Stmt.Introduces (stmt : Stmt) (binding : String × Symbol) : Prop :=
  ∃ inner ∈ stmt.flatten, inner.binding? = some binding

theorem Stmt.introduces_iff {stmt : Stmt} {binding : String × Symbol} :
    stmt.Introduces binding ↔ stmt.binding? = some binding ∨ binding ∈ stmt.bindings := by
  rw [Stmt.Introduces, ← List.mem_filterMap, (Stmt.flatten_perm stmt).mem_iff,
    List.mem_append, Option.mem_toList]

/-- Only branches and loops have blocks that share the frame. -/
theorem Stmt.isSupported_eq_false_of_mem_bindings {stmt : Stmt} {binding : String × Symbol}
    (member : binding ∈ stmt.bindings) : stmt.isSupported = false := by
  cases stmt with
  | branch => rfl
  | loop => rfl
  | _ => cases member

theorem Stmt.exists_of_mem_bindingsAll {body : List Stmt} {binding : String × Symbol}
    (member : binding ∈ Stmt.bindingsAll body) : ∃ stmt ∈ body, binding ∈ stmt.bindings := by
  induction body with
  | nil => cases member
  | cons stmt later inductionHypothesis =>
      rcases List.mem_append.mp member with here | there
      · exact ⟨stmt, List.mem_cons_self, here⟩
      · rcases inductionHypothesis there with ⟨other, listed, inside⟩
        exact ⟨other, List.mem_cons_of_mem _ listed, inside⟩

/-! ## The scopes of a program -/

/-- The scopes in which a statement of a program is checked, if the given ones stand
before it: they hold the declarations of the program, and the names of the blocks in the
statements before it. -/
def Program.scopesAfter (program before : List Stmt) : Scopes :=
  [Frame.extend (Frame.extend ∅ (program.filterMap Stmt.binding?)) (Stmt.bindingsAll before)]

/-- Statements behind others are well typed in the frame with the names of inner blocks. -/
theorem Stmt.AllWellTyped.behind {outer : Scopes} {expected : Ty} {frame final : Frame}
    {before after : List Stmt}
    (typed : Stmt.AllWellTyped outer expected frame (before ++ after) final) :
    Stmt.AllWellTyped outer expected (frame.extend (Stmt.bindingsAll before)) after final := by
  induction before generalizing frame with
  | nil => exact typed
  | cons stmt later inductionHypothesis =>
      cases typed with
      | cons stmtTyped laterTyped =>
          rw [Stmt.bindingsAll, Frame.extend_append,
            ← (Stmt.extends_bindings stmt stmtTyped).eq_extend]
          exact inductionHypothesis laterTyped

/-- A statement of a well-typed program is well typed in the scopes after those before
it. -/
theorem Program.WellTyped.stmt {before after : List Stmt} {stmt : Stmt}
    (typed : Program.WellTyped (before ++ stmt :: after)) :
    ∃ frame left, Stmt.WellTyped [] .none frame stmt left ∧
      [frame] = Program.scopesAfter (before ++ stmt :: after) before := by
  rcases typed with ⟨final, ⟨_, _, extending, statementsTyped⟩⟩
  cases statementsTyped.behind with
  | cons stmtTyped _ =>
      rw [extending.eq_extend] at stmtTyped
      exact ⟨_, _, stmtTyped, rfl⟩

/-- All declarations stand before a statement that is none. -/
theorem Stmt.DeclarationsFirst.mem_before {before after : List Stmt} {stmt other : Stmt}
    (ordered : Stmt.DeclarationsFirst (before ++ stmt :: after))
    (executing : stmt.isDeclaration = false) (member : other ∈ before ++ stmt :: after)
    (declaring : other.isDeclaration = true) : other ∈ before := by
  rw [List.append_cons] at ordered member
  rcases ordered.append_cases.2 with front | back
  · have declared := front stmt (List.mem_append_right before List.mem_cons_self)
    rw [executing] at declared
    cases declared
  · rcases List.mem_append.mp member with inFront | behind
    · rcases List.mem_append.mp inFront with inside | last
      · exact inside
      · rw [List.mem_singleton.mp last, executing] at declaring
        cases declaring
    · rw [back other behind] at declaring
      cases declaring

theorem Stmt.isDeclaration_of_binding? {stmt : Stmt} {binding : String × Symbol}
    (binds : stmt.binding? = some binding) : stmt.isDeclaration = true := by
  rw [Stmt.isDeclaration, ← stmt.fst_binding?, binds]
  rfl

/-- What a node in a statement other than a declaration refers to was introduced before
the statement, by a statement without instructions. -/
theorem Expr.RefersTo.exists_introducer {before after : List Stmt} {stmt : Stmt}
    {node : Expr} {binding : String × Symbol}
    (ordered : Stmt.DeclarationsFirst (before ++ stmt :: after))
    (executing : stmt.isDeclaration = false)
    (refers : node.RefersTo (Program.scopesAfter (before ++ stmt :: after) before) binding) :
    ∃ earlier ∈ before, earlier.isSupported = false ∧ earlier.Introduces binding := by
  have found := refers.bound
  rw [Program.scopesAfter, Scopes.lookup?_singleton] at found
  rcases Frame.mem_or_get?_of_get?_extend found with inner | found
  · rcases Stmt.exists_of_mem_bindingsAll inner with ⟨earlier, listed, member⟩
    exact ⟨earlier, listed, Stmt.isSupported_eq_false_of_mem_bindings member,
      Stmt.introduces_iff.mpr (.inr member)⟩
  · rcases Frame.mem_or_get?_of_get?_extend found with own | absent
    · rcases List.mem_filterMap.mp own with ⟨earlier, listed, binds⟩
      have inFront := ordered.mem_before executing listed (Stmt.isDeclaration_of_binding? binds)
      exact ⟨earlier, inFront, refers.isSupported_eq_false binds,
        Stmt.introduces_iff.mpr (.inl binds)⟩
    · rw [Table.get?_empty] at absent
      cases absent

/-- The references in a statement without inner blocks are typed, and the statement is no
declaration, since declarations start with literals. -/
theorem Stmt.WellTyped.reference {outer : Scopes} {expected : Ty} {frame left : Frame}
    {stmt : Stmt} {node : Expr} (typed : Stmt.WellTyped outer expected frame stmt left)
    (closed : stmt.blocks = []) (member : node ∈ stmt.preorder)
    (reference : node.isReference = true) :
    stmt.isDeclaration = false ∧ ∃ type, node.HasType (frame :: outer) type := by
  have notLiteral : ∀ value : Expr, value.isLiteral = true → node ∉ value.preorder := by
    intro value literal inside
    cases value with
    | literal =>
        rw [List.mem_singleton.mp inside] at reference
        cases reference
    | _ => cases literal
  cases typed with
  | varDecl declarationTyped => exact absurd member (notLiteral _ declarationTyped.literal)
  | functionDef => cases closed
  | @classDef _ _ _ definition fieldsTyped =>
      rcases definition with ⟨span, name, fields, methods⟩
      obtain rfl : methods = [] := List.map_eq_nil_iff.mp closed
      rw [Stmt.preorder, ClassDef.preorder, FunctionDef.preorderAll, List.append_nil] at member
      rcases List.mem_flatMap.mp member with ⟨field, listed, inside⟩
      exact absurd inside (notLiteral _ (fieldsTyped field listed).literal)
  | assign _ targetTyped valueTyped =>
      rcases List.mem_append.mp member with inside | inside
      · exact ⟨rfl, Expr.exists_hasType_of_mem _ targetTyped inside⟩
      · exact ⟨rfl, Expr.exists_hasType_of_mem _ valueTyped inside⟩
  | branch => cases closed
  | loop => cases closed
  | pass => cases member
  | returnValue valueTyped => exact ⟨rfl, Expr.exists_hasType_of_mem _ valueTyped member⟩
  | evaluate valueTyped => exact ⟨rfl, Expr.exists_hasType_of_mem _ valueTyped member⟩

/-- A reference in a statement of a well-typed program comes after what it refers to. -/
theorem Program.WellTyped.exists_introducer {before after : List Stmt} {stmt : Stmt}
    {node : Expr} (typed : Program.WellTyped (before ++ stmt :: after))
    (closed : stmt.blocks = []) (member : node ∈ stmt.preorder)
    (reference : node.isReference = true) :
    ∃ binding,
      node.RefersTo (Program.scopesAfter (before ++ stmt :: after) before) binding ∧
        ∃ earlier ∈ before, earlier.isSupported = false ∧ earlier.Introduces binding := by
  rcases typed.stmt with ⟨frame, left, stmtTyped, scopes⟩
  rcases stmtTyped.reference closed member reference with ⟨executing, type, nodeTyped⟩
  rw [scopes] at nodeTyped
  rcases nodeTyped.exists_refersTo reference with ⟨binding, refers⟩
  rcases typed with ⟨final, ⟨ordered, _⟩⟩
  exact ⟨binding, refers, refers.exists_introducer ordered executing⟩

/-! ## What programs are refused for -/

/-- The constructs for which checked programs are refused, with the diagnostics. -/
inductive Stmt.RefusedFor : Stmt → Diagnostic → Prop where
  | functionDef {definition : FunctionDef} :
      RefusedFor (.functionDef definition)
        { cause := .unsupported ("function definition `" ++ definition.name ++ "`")
          position := definition.span.start }
  | classDef {definition : ClassDef} :
      RefusedFor (.classDef definition)
        { cause := .unsupported ("class definition `" ++ definition.name ++ "`")
          position := definition.span.start }
  | branch {span : Span} {condition : Expr} {body : List Stmt} {rest : Alternatives} :
      RefusedFor (.branch span condition body rest)
        { cause := .unsupported "if statement", position := span.start }
  | loop {span : Span} {condition : Expr} {body : List Stmt} :
      RefusedFor (.loop span condition body)
        { cause := .unsupported "while loop", position := span.start }
  | returnValue {span : Span} {value : Expr} :
      RefusedFor (.returnValue span value)
        { cause := .unsupported "return statement", position := span.start }
  | not {stmt : Stmt} {mark : Mark} {operand : Expr}
      (inside : .unary mark .not operand ∈ stmt.preorder) :
      RefusedFor stmt { cause := .unsupported "unary `not`", position := mark.start }
  | operator {stmt : Stmt} {mark : Mark} {op : BinaryOp} {left right : Expr}
      (inside : .binary mark op left right ∈ stmt.preorder)
      (other : op ∉ [BinaryOp.add, .sub, .mul]) :
      RefusedFor stmt
        { cause := .unsupported ("binary `" ++ op.symbol ++ "`"), position := mark.start }

/-- A node that is refused is a negation, an operator without an instruction, or a
reference. -/
theorem Stmt.refusedFor_or_isReference {stmt : Stmt} {node : Expr} {diagnostic : Diagnostic}
    (inside : node ∈ stmt.preorder) (refused : node.fault? = some diagnostic) :
    stmt.RefusedFor diagnostic ∨ node.isReference = true := by
  cases supported : node.isSupported with
  | true =>
      rw [Expr.fault?_eq_none_iff.mpr supported] at refused
      cases refused
  | false =>
      rw [Expr.fault?, supported] at refused
      cases refused
      cases node with
      | literal => cases supported
      | name => cases supported
      | unary mark op operand =>
          cases op with
          | not => exact .inl (.not inside)
          | neg => cases supported
      | binary mark op left right =>
          exact .inl (.operator inside (of_decide_eq_false supported))
      | call mark callee arguments => exact .inr (Option.isSome_eq_false_iff.mp supported)
      | field => exact .inr rfl
      | method => exact .inr rfl

/-- A statement that is refused is refused for one of these constructs, or has a reference
outside of its blocks. -/
theorem Stmt.WellTyped.refusedFor_or_reference {outer : Scopes} {expected : Ty}
    {frame left : Frame} {stmt : Stmt} {diagnostic : Diagnostic}
    (typed : Stmt.WellTyped outer expected frame stmt left)
    (refused : stmt.fault? = some diagnostic) :
    stmt.RefusedFor diagnostic ∨
      stmt.blocks = [] ∧ ∃ node ∈ stmt.preorder, node.isReference = true := by
  cases refusal : stmt.refusal? with
  | some construct =>
      rw [Stmt.fault?, refusal] at refused
      cases refused
      cases typed with
      | functionDef =>
          cases refusal
          exact .inl .functionDef
      | classDef =>
          cases refusal
          exact .inl .classDef
      | @assign _ _ _ span target value _ assignable =>
          -- The checker lets through names and fields, and lowering refuses the fields.
          cases target with
          | name => cases refusal
          | field mark object member =>
              exact .inr ⟨rfl, _, List.mem_append_left _ (Expr.mem_preorder_self _), rfl⟩
          | _ => cases assignable
      | branch =>
          cases refusal
          exact .inl .branch
      | loop =>
          cases refusal
          exact .inl .loop
      | returnValue =>
          cases refusal
          exact .inl .returnValue
      | _ => cases refusal
  | none =>
      rw [Stmt.fault?, refusal] at refused
      rcases List.exists_of_findSome?_eq_some refused with ⟨node, inside, nodeRefused⟩
      rcases Stmt.refusedFor_or_isReference inside nodeRefused with construct | reference
      · exact .inl construct
      · have closed : stmt.blocks = [] := by
          cases typed with
          | functionDef => cases refusal
          | classDef => cases refusal
          | branch => cases refusal
          | loop => cases refusal
          | _ => rfl
        exact .inr ⟨closed, node, inside, reference⟩

/-- The first statement of a well-typed program that is refused is refused for one of these
constructs: a reference in it would come after a statement that is refused too. -/
theorem Program.WellTyped.refusedFor {before after : List Stmt} {stmt : Stmt}
    {diagnostic : Diagnostic} (typed : Program.WellTyped (before ++ stmt :: after))
    (supported : ∀ earlier ∈ before, earlier.Supported)
    (refused : stmt.fault? = some diagnostic) : stmt.RefusedFor diagnostic := by
  rcases typed.stmt with ⟨frame, left, stmtTyped, -⟩
  rcases stmtTyped.refusedFor_or_reference refused with
    construct | ⟨closed, node, inside, reference⟩
  · exact construct
  · rcases typed.exists_introducer closed inside reference with
      ⟨_, _, earlier, listed, unsupported, _⟩
    rw [(supported earlier listed).1] at unsupported
    cases unsupported

/-! ## Texts -/

/-- The first two letters of what a diagnostic would say of a call, a field, a method and
an assignment to a field. -/
def referenceLetters : List (List Char) :=
  [['c', 'a'], ['f', 'i'], ['m', 'e'], ['a', 's']]

theorem Stmt.RefusedFor.letters {stmt : Stmt} {diagnostic : Diagnostic}
    (refused : stmt.RefusedFor diagnostic) :
    ∃ operation, diagnostic.cause = .unsupported operation ∧
      operation.toList.take 2 ∉ referenceLetters := by
  cases refused with
  | functionDef => exact ⟨_, rfl, by simp [referenceLetters]⟩
  | classDef => exact ⟨_, rfl, by simp [referenceLetters]⟩
  | branch => exact ⟨_, rfl, by simp [referenceLetters]⟩
  | loop => exact ⟨_, rfl, by simp [referenceLetters]⟩
  | returnValue => exact ⟨_, rfl, by simp [referenceLetters]⟩
  | not => exact ⟨_, rfl, by simp [referenceLetters]⟩
  | operator => exact ⟨_, rfl, by simp [referenceLetters]⟩

theorem Stmt.RefusedFor.cause_ne {stmt : Stmt} {diagnostic : Diagnostic}
    (refused : stmt.RefusedFor diagnostic) {operation : String}
    (starts : operation.toList.take 2 ∈ referenceLetters) :
    diagnostic.cause ≠ .unsupported operation := by
  intro same
  rcases refused.letters with ⟨construct, cause, other⟩
  rw [same] at cause
  cases cause
  exact other starts

/-- Definitions are refused before their uses.  If a checked program does not compile, the
statements before some statement are supported, and that one is a definition of a function
or a class, a branch, a loop or a `return`, or has a negation or an operator without an
instruction; the diagnostic names that construct.  So it never names a call, an access to a
member or an assignment to anything but a name.  For whatever a call or an access outside
of inner blocks refers to was introduced before, by a statement without instructions. -/
theorem Program.definitions_refused_before_uses {program typed : Program}
    (accepted : program.typed = .ok typed) :
    (∀ (scratch : String) (diagnostic : Diagnostic),
      ({ scratch := scratch } : Compiler).compile typed = .error diagnostic →
        (∃ before stmt after, program = before ++ stmt :: after ∧
          (∀ earlier ∈ before, earlier.Supported) ∧ stmt.RefusedFor diagnostic) ∧
        (∀ callee, diagnostic.cause ≠ .unsupported ("call to `" ++ callee ++ "`")) ∧
        (∀ member, diagnostic.cause ≠ .unsupported ("field access `." ++ member ++ "`")) ∧
        (∀ member, diagnostic.cause ≠ .unsupported ("method call `." ++ member ++ "()`")) ∧
        ∀ target, diagnostic.cause ≠ .unsupported ("assignment to " ++ target)) ∧
    ∀ before stmt after, program = before ++ stmt :: after → stmt.blocks = [] →
      ∀ node ∈ stmt.preorder, node.isReference = true →
        ∃ binding, node.RefersTo (Program.scopesAfter program before) binding ∧
          ∃ earlier ∈ before, earlier.isSupported = false ∧ earlier.Introduces binding := by
  have wellTyped := Program.wellTyped_of_typed accepted
  constructor
  · intro scratch diagnostic refused
    have first : program.fault? = some diagnostic := by
      rw [Program.compile_typed accepted] at refused
      cases faults : program.fault? with
      | none =>
          rw [faults] at refused
          cases refused
      | some fault =>
          rw [faults] at refused
          cases refused
          rfl
    rcases List.findSome?_eq_some_iff.mp first with
      ⟨before, stmt, after, rfl, stmtRefused, earlierPassed⟩
    have supported : ∀ earlier ∈ before, earlier.Supported :=
      fun earlier listed => Stmt.fault?_eq_none_iff.mp (earlierPassed earlier listed)
    have construct := wellTyped.refusedFor supported stmtRefused
    constructor
    · exact ⟨before, stmt, after, rfl, supported, construct⟩
    constructor
    · exact fun callee => construct.cause_ne (by simp [referenceLetters])
    constructor
    · exact fun member => construct.cause_ne (by simp [referenceLetters])
    constructor
    · exact fun member => construct.cause_ne (by simp [referenceLetters])
    · exact fun target => construct.cause_ne (by simp [referenceLetters])
  · rintro before stmt after rfl closed node inside reference
    exact wellTyped.exists_introducer closed inside reference

/-- A loop with the declarations of a class, an object and a function in its body. -/
def shelfFront : List Stmt :=
  let mark : Mark := { span := .null }
  let number (value : Int32) : Expr := .literal mark (.number value)
  let twice : FunctionDef :=
    { span := .null, name := "twice", params := [⟨"n", .int⟩], returnType := .int
      body := [.returnValue .null (.binary mark .mul (.name mark "n") (number 2))] }
  [.varDecl ⟨.null, "size", .int, number 3⟩,
  .loop (.ofOffsets "shelf" 14 90) (.literal mark (.boolean false))
    [.classDef ⟨.null, "Shelf", [⟨.null, "load", .int, number 0⟩], []⟩,
    .varDecl ⟨.null, "shelf", .object "Shelf", .literal mark .none⟩,
    .functionDef twice]]

/-- A field of the object in the loop. -/
def shelfLoad : Expr :=
  .field { span := .null } (.name { span := .null } "shelf") "load"

/-- A call of the function in the loop. -/
def twiceSize : Expr :=
  .call { span := .null } "twice" [.name { span := .null } "size"]

/-- The loop, and a use of both behind it. -/
def shelfProgram : Program :=
  shelfFront ++ [.assign .null shelfLoad twiceSize]

/-- The program is refused for the loop, which introduces the class and the function. -/
theorem shelfProgram_refused_for_loop :
    ∃ typed, shelfProgram.typed = .ok typed ∧
      ∃ diagnostic, ({ scratch := "size" } : Compiler).compile typed = .error diagnostic ∧
        diagnostic = { cause := .unsupported "while loop", position := ⟨14, "shelf"⟩ } ∧
        (∃ before stmt after, shelfProgram = before ++ stmt :: after ∧
          (∀ earlier ∈ before, earlier.Supported) ∧ stmt.RefusedFor diagnostic) ∧
        diagnostic.cause ≠ .unsupported ("call to `" ++ "twice" ++ "`") ∧
        diagnostic.cause ≠ .unsupported ("field access `." ++ "load" ++ "`") ∧
        (∃ binding, shelfLoad.RefersTo (Program.scopesAfter shelfProgram shelfFront) binding ∧
          ∃ earlier ∈ shelfFront, earlier.isSupported = false ∧ earlier.Introduces binding) ∧
        ∃ binding, twiceSize.RefersTo (Program.scopesAfter shelfProgram shelfFront) binding ∧
          ∃ earlier ∈ shelfFront, earlier.isSupported = false ∧ earlier.Introduces binding := by
  have accepted : shelfProgram.typed = .ok _ := rfl
  have refused : ({ scratch := "size" } : Compiler).compile _ = .error _ :=
    Program.compile_typed accepted "size"
  rcases Program.definitions_refused_before_uses accepted with ⟨refusals, introducers⟩
  rcases refusals "size" _ refused with ⟨construct, call, field, -⟩
  have introduced := introducers shelfFront _ [] rfl rfl
  exact ⟨_, accepted, _, refused, rfl, construct, call "twice", field "load",
    introduced shelfLoad (List.mem_append_left _ (Expr.mem_preorder_self _)) rfl,
    introduced twiceSize (List.mem_append_right _ (Expr.mem_preorder_self _)) rfl⟩

end SlotLang
