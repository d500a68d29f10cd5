import SlotLang.Proofs.Check.Coherence
import SlotLang.Proofs.Check.Erasure

/-!
# Sessions

A session works on one tree for as long as it likes.  It opens and closes scopes, binds
names, and checks parts of the tree in whatever state that leads to, so a node may be
checked many times under different scopes.  Through all of it the shape of the tree stays
the same, and each type slot is written at most once.
-/

namespace SlotLang

/-! ## Trees and their parts -/

/-- The trees that a session may work on. -/
inductive Subtree where
  | expr (expr : Expr)
  | stmt (stmt : Stmt)
  | functionDef (definition : FunctionDef)
  | alternatives (rest : Alternatives)
  | block (body : List Stmt)

namespace Subtree

/-- A tree with all its type slots emptied. -/
def erase : Subtree → Subtree
  | .expr tree => .expr tree.erase
  | .stmt tree => .stmt tree.erase
  | .functionDef tree => .functionDef tree.erase
  | .alternatives tree => .alternatives tree.erase
  | .block body => .block (Stmt.eraseAll body)

/-- The expressions of a tree with all their parts, in source order. -/
def preorder : Subtree → List Expr
  | .expr tree => tree.preorder
  | .stmt tree => tree.preorder
  | .functionDef tree => tree.preorder
  | .alternatives tree => tree.preorder
  | .block body => Stmt.preorderAll body

/-- `Within part new whole newWhole`: the part stands in the whole, and the new whole has
the new part in its place. -/
inductive Within : Subtree → Subtree → Subtree → Subtree → Prop where
  | operand {mark : Mark} {op : UnaryOp} {old new : Expr} :
      Within (.expr old) (.expr new) (.expr (.unary mark op old)) (.expr (.unary mark op new))
  | left {mark : Mark} {op : BinaryOp} {old new right : Expr} :
      Within (.expr old) (.expr new) (.expr (.binary mark op old right))
        (.expr (.binary mark op new right))
  | right {mark : Mark} {op : BinaryOp} {left old new : Expr} :
      Within (.expr old) (.expr new) (.expr (.binary mark op left old))
        (.expr (.binary mark op left new))
  | argument {mark : Mark} {callee : String} {before after : List Expr} {old new : Expr} :
      Within (.expr old) (.expr new) (.expr (.call mark callee (before ++ old :: after)))
        (.expr (.call mark callee (before ++ new :: after)))
  | fieldObject {mark : Mark} {member : String} {old new : Expr} :
      Within (.expr old) (.expr new) (.expr (.field mark old member))
        (.expr (.field mark new member))
  | methodObject {mark : Mark} {member : String} {arguments : List Expr} {old new : Expr} :
      Within (.expr old) (.expr new) (.expr (.method mark old member arguments))
        (.expr (.method mark new member arguments))
  | methodArgument {mark : Mark} {object : Expr} {member : String}
      {before after : List Expr} {old new : Expr} :
      Within (.expr old) (.expr new)
        (.expr (.method mark object member (before ++ old :: after)))
        (.expr (.method mark object member (before ++ new :: after)))
  | variableValue {span : Span} {name : String} {type : Ty} {old new : Expr} :
      Within (.expr old) (.expr new) (.stmt (.varDecl ⟨span, name, type, old⟩))
        (.stmt (.varDecl ⟨span, name, type, new⟩))
  | function {old new : FunctionDef} :
      Within (.functionDef old) (.functionDef new) (.stmt (.functionDef old))
        (.stmt (.functionDef new))
  | fieldValue {span fieldSpan : Span} {name fieldName : String} {type : Ty}
      {before after : List VarDecl} {methods : List FunctionDef} {old new : Expr} :
      Within (.expr old) (.expr new)
        (.stmt (.classDef
          ⟨span, name, before ++ ⟨fieldSpan, fieldName, type, old⟩ :: after, methods⟩))
        (.stmt (.classDef
          ⟨span, name, before ++ ⟨fieldSpan, fieldName, type, new⟩ :: after, methods⟩))
  | method {span : Span} {name : String} {fields : List VarDecl}
      {before after : List FunctionDef} {old new : FunctionDef} :
      Within (.functionDef old) (.functionDef new)
        (.stmt (.classDef ⟨span, name, fields, before ++ old :: after⟩))
        (.stmt (.classDef ⟨span, name, fields, before ++ new :: after⟩))
  | target {span : Span} {value old new : Expr} :
      Within (.expr old) (.expr new) (.stmt (.assign span old value))
        (.stmt (.assign span new value))
  | assigned {span : Span} {target old new : Expr} :
      Within (.expr old) (.expr new) (.stmt (.assign span target old))
        (.stmt (.assign span target new))
  | branchCondition {span : Span} {body : List Stmt} {rest : Alternatives} {old new : Expr} :
      Within (.expr old) (.expr new) (.stmt (.branch span old body rest))
        (.stmt (.branch span new body rest))
  | branchBody {span : Span} {condition : Expr} {rest : Alternatives}
      {old new : List Stmt} :
      Within (.block old) (.block new) (.stmt (.branch span condition old rest))
        (.stmt (.branch span condition new rest))
  | branchRest {span : Span} {condition : Expr} {body : List Stmt}
      {old new : Alternatives} :
      Within (.alternatives old) (.alternatives new) (.stmt (.branch span condition body old))
        (.stmt (.branch span condition body new))
  | loopCondition {span : Span} {body : List Stmt} {old new : Expr} :
      Within (.expr old) (.expr new) (.stmt (.loop span old body))
        (.stmt (.loop span new body))
  | loopBody {span : Span} {condition : Expr} {old new : List Stmt} :
      Within (.block old) (.block new) (.stmt (.loop span condition old))
        (.stmt (.loop span condition new))
  | returned {span : Span} {old new : Expr} :
      Within (.expr old) (.expr new) (.stmt (.returnValue span old))
        (.stmt (.returnValue span new))
  | evaluated {span : Span} {old new : Expr} :
      Within (.expr old) (.expr new) (.stmt (.evaluate span old)) (.stmt (.evaluate span new))
  | functionBody {span : Span} {name : String} {params : List Param} {returnType : Ty}
      {old new : List Stmt} :
      Within (.block old) (.block new)
        (.functionDef ⟨span, name, params, returnType, old⟩)
        (.functionDef ⟨span, name, params, returnType, new⟩)
  | elifCondition {body : List Stmt} {rest : Alternatives} {old new : Expr} :
      Within (.expr old) (.expr new) (.alternatives (.elif old body rest))
        (.alternatives (.elif new body rest))
  | elifBody {condition : Expr} {rest : Alternatives} {old new : List Stmt} :
      Within (.block old) (.block new) (.alternatives (.elif condition old rest))
        (.alternatives (.elif condition new rest))
  | elifRest {condition : Expr} {body : List Stmt} {old new : Alternatives} :
      Within (.alternatives old) (.alternatives new)
        (.alternatives (.elif condition body old)) (.alternatives (.elif condition body new))
  | otherwiseBody {old new : List Stmt} :
      Within (.block old) (.block new) (.alternatives (.otherwise old))
        (.alternatives (.otherwise new))
  | statement {before after : List Stmt} {old new : Stmt} :
      Within (.stmt old) (.stmt new) (.block (before ++ old :: after))
        (.block (before ++ new :: after))
  | slice {before after old new : List Stmt} :
      Within (.block old) (.block new) (.block (before ++ old ++ after))
        (.block (before ++ new ++ after))

end Subtree

/-! ## Replacing a part -/

theorem Expr.preorderAll_append (front back : List Expr) :
    Expr.preorderAll (front ++ back) = Expr.preorderAll front ++ Expr.preorderAll back := by
  induction front with
  | nil => rfl
  | cons expr later inductionHypothesis =>
      simp only [List.cons_append, Expr.preorderAll, inductionHypothesis, List.append_assoc]

theorem FunctionDef.preorderAll_append (front back : List FunctionDef) :
    FunctionDef.preorderAll (front ++ back) =
      FunctionDef.preorderAll front ++ FunctionDef.preorderAll back := by
  induction front with
  | nil => rfl
  | cons definition later inductionHypothesis =>
      simp only [List.cons_append, FunctionDef.preorderAll, inductionHypothesis,
        List.append_assoc]

theorem Stmt.preorderAll_append (front back : List Stmt) :
    Stmt.preorderAll (front ++ back) = Stmt.preorderAll front ++ Stmt.preorderAll back := by
  induction front with
  | nil => rfl
  | cons stmt later inductionHypothesis =>
      simp only [List.cons_append, Stmt.preorderAll, inductionHypothesis, List.append_assoc]

namespace Subtree

variable {old new whole newWhole : Subtree}

/-- A part with the same shape leaves the whole with the same shape. -/
theorem Within.erase_eq (within : Within old new whole newWhole)
    (erased : new.erase = old.erase) : newWhole.erase = whole.erase := by
  cases within
  all_goals
    injection erased with erased
    simp only [erase, Expr.erase, Expr.eraseAll_eq_map, VarDecl.erase, Stmt.erase,
      Stmt.eraseAll_eq_map, FunctionDef.erase, FunctionDef.eraseAll_eq_map, ClassDef.erase,
      Alternatives.erase, List.map_append, List.map_cons] at erased ⊢
    rw [erased]

/-- The nodes around a part keep their marks. -/
theorem Within.kept (within : Within old new whole newWhole)
    (kept : Kept preorder old new) : Kept preorder whole newWhole := by
  have same (nodes : List Expr) : List.Forall₂ Expr.Respected nodes nodes := Kept.refl id nodes
  unfold Kept at kept ⊢
  cases within with
  | operand => exact .cons (fun _ carried => carried) kept
  | left => exact .cons (fun _ carried => carried) (List.rel_append kept (same _))
  | right => exact .cons (fun _ carried => carried) (List.rel_append (same _) kept)
  | argument =>
      simp only [preorder, Expr.preorder, Expr.preorderAll_append, Expr.preorderAll]
      exact .cons (fun _ carried => carried)
        (List.rel_append (same _) (List.rel_append kept (same _)))
  | fieldObject => exact .cons (fun _ carried => carried) kept
  | methodObject => exact .cons (fun _ carried => carried) (List.rel_append kept (same _))
  | methodArgument =>
      simp only [preorder, Expr.preorder, Expr.preorderAll_append, Expr.preorderAll]
      exact .cons (fun _ carried => carried)
        (List.rel_append (same _) (List.rel_append (same _) (List.rel_append kept (same _))))
  | variableValue => exact kept
  | function => exact kept
  | fieldValue =>
      simp only [preorder, Stmt.preorder, ClassDef.preorder, List.flatMap_append,
        List.flatMap_cons]
      exact List.rel_append
        (List.rel_append (same _) (List.rel_append kept (same _))) (same _)
  | method =>
      simp only [preorder, Stmt.preorder, ClassDef.preorder, FunctionDef.preorderAll_append,
        FunctionDef.preorderAll]
      exact List.rel_append (same _)
        (List.rel_append (same _) (List.rel_append kept (same _)))
  | target => exact List.rel_append kept (same _)
  | assigned => exact List.rel_append (same _) kept
  | branchCondition => exact List.rel_append kept (same _)
  | branchBody => exact List.rel_append (same _) (List.rel_append kept (same _))
  | branchRest => exact List.rel_append (same _) (List.rel_append (same _) kept)
  | loopCondition => exact List.rel_append kept (same _)
  | loopBody => exact List.rel_append (same _) kept
  | returned => exact kept
  | evaluated => exact kept
  | functionBody => exact kept
  | elifCondition => exact List.rel_append kept (same _)
  | elifBody => exact List.rel_append (same _) (List.rel_append kept (same _))
  | elifRest => exact List.rel_append (same _) (List.rel_append (same _) kept)
  | otherwiseBody => exact kept
  | statement =>
      simp only [preorder, Stmt.preorderAll_append, Stmt.preorderAll]
      exact List.rel_append (same _) (List.rel_append kept (same _))
  | slice =>
      simp only [preorder, Stmt.preorderAll_append]
      exact List.rel_append (List.rel_append (same _) kept) (same _)

/-! ## Calls -/

/-- `Called checker tree ending`: the checker is called on an expression, a statement, a
block or a function in the tree, and `ending` is the whole tree afterwards, with the state
and the outcome of the call. -/
inductive Called (checker : Checker) : Subtree → Checked Subtree → Prop where
  | expr (tree : Expr) :
      Called checker (.expr tree)
        ((Checked.ofAnnotated checker
          ((tree.check checker.scopes).require fun _ => .ok ())).map .expr)
  | stmt (tree : Stmt) : Called checker (.stmt tree) ((tree.check checker).map .stmt)
  | functionDef (tree : FunctionDef) :
      Called checker (.functionDef tree) ((tree.check checker).map .functionDef)
  | block (body : List Stmt) :
      Called checker (.block body) ((checker.checkBlock body).map .block)
  | inside {part whole newWhole : Subtree} {ending : Checked Subtree}
      (called : Called checker part ending)
      (within : Within part ending.tree whole newWhole) :
      Called checker whole (ending.map fun _ => newWhole)

/-- A call changes no shape. -/
theorem Called.erase_eq {checker : Checker} {tree : Subtree} {ending : Checked Subtree}
    (called : Called checker tree ending) : ending.tree.erase = tree.erase := by
  induction called with
  | expr tree => exact congrArg Subtree.expr (tree.erase_check checker.scopes)
  | stmt tree => exact congrArg Subtree.stmt (tree.erase_check checker)
  | functionDef tree => exact congrArg Subtree.functionDef (tree.erase_check checker)
  | block body => exact congrArg Subtree.block (checker.eraseAll_checkBlock body)
  | inside _ within inductionHypothesis => exact within.erase_eq inductionHypothesis

/-- A call keeps the annotations that it finds, however it ends. -/
theorem Called.kept {checker : Checker} {tree : Subtree} {ending : Checked Subtree}
    (called : Called checker tree ending) : Kept preorder tree ending.tree := by
  induction called with
  | expr tree => exact (tree.grows_check checker.scopes).keeps
  | stmt tree => exact (tree.grows_check checker).keeps
  | functionDef tree => exact (tree.grows_check checker).keeps
  | block body => exact (checker.grows_checkBlock body).keeps
  | inside _ within inductionHypothesis => exact within.kept inductionHypothesis

end Subtree

/-! ## Runs -/

/-- The state of a checker, and the tree that it works on. -/
structure Session where
  checker : Checker
  tree : Subtree

namespace Session

/-- The steps of a session, with their outcomes.  Beside calls of the checker on parts of
the tree there are those that only change the state: a scope is opened or closed, a name is
bound, or another checker takes over. -/
inductive Step : Session → Except Failure Unit → Session → Prop where
  | enter {checker : Checker} {tree : Subtree} :
      Step ⟨checker, tree⟩ checker.enter.outcome ⟨checker.enter.checker, tree⟩
  | leave {checker : Checker} {tree : Subtree} :
      Step ⟨checker, tree⟩ checker.leave.outcome ⟨checker.leave.checker, tree⟩
  | define {checker : Checker} {tree : Subtree} (name : String) (symbol : Symbol)
      (position : Position) :
      Step ⟨checker, tree⟩ (checker.define name symbol position).outcome
        ⟨(checker.define name symbol position).checker, tree⟩
  | switch {checker : Checker} {tree : Subtree} (other : Checker) :
      Step ⟨checker, tree⟩ (.ok ()) ⟨other, tree⟩
  | call {checker : Checker} {tree : Subtree} {ending : Checked Subtree}
      (called : tree.Called checker ending) :
      Step ⟨checker, tree⟩ ending.outcome ⟨ending.checker, ending.tree⟩

/-- A session goes on after every step, whatever its outcome. -/
inductive Run : Session → List (Except Failure Unit) → Session → Prop where
  | done {session : Session} : Run session [] session
  | step {first next last : Session} {outcome : Except Failure Unit}
      {outcomes : List (Except Failure Unit)} (taken : Step first outcome next)
      (later : Run next outcomes last) : Run first (outcome :: outcomes) last

theorem Step.erase_eq {session next : Session} {outcome : Except Failure Unit}
    (taken : Step session outcome next) : next.tree.erase = session.tree.erase := by
  cases taken with
  | call called => exact called.erase_eq
  | _ => rfl

theorem Step.kept {session next : Session} {outcome : Except Failure Unit}
    (taken : Step session outcome next) : Kept Subtree.preorder session.tree next.tree := by
  cases taken with
  | call called => exact called.kept
  | _ => exact .refl _ _

theorem Run.erase_eq {first last : Session} {outcomes : List (Except Failure Unit)}
    (run : Run first outcomes last) : last.tree.erase = first.tree.erase := by
  induction run with
  | done => rfl
  | step taken _ inductionHypothesis => exact inductionHypothesis.trans taken.erase_eq

theorem Run.kept {first last : Session} {outcomes : List (Except Failure Unit)}
    (run : Run first outcomes last) : Kept Subtree.preorder first.tree last.tree := by
  induction run with
  | done => exact .refl _ _
  | step taken _ inductionHypothesis => exact taken.kept.trans inductionHypothesis

/-- Annotations are written once.  Through a session of any length, whatever the outcomes
of its steps, the tree keeps its shape and its spans, and each node that carries a type at
some point carries it ever after.  In particular, a call that fails keeps every annotation
that it has found, in whatever state it is made. -/
theorem annotations_written_once {first last : Session}
    {outcomes : List (Except Failure Unit)} (run : Run first outcomes last) :
    last.tree.erase = first.tree.erase ∧
      List.Forall₂ Expr.Respected first.tree.preorder last.tree.preorder ∧
      ∀ (checker : Checker) (ending : Checked Subtree) (failure : Failure),
        last.tree.Called checker ending → ending.outcome = .error failure →
          ending.tree.erase = last.tree.erase ∧
            List.Forall₂ Expr.Respected last.tree.preorder ending.tree.preorder :=
  ⟨run.erase_eq, run.kept, fun _ _ _ called _ => ⟨called.erase_eq, called.kept⟩⟩

end Session

/-- A block with the sum of a literal and a variable, and what their type slots hold. -/
def sumBlock (literalType? nameType? : Option Ty) : Subtree :=
  .block [.evaluate .null
    (.binary ⟨.null, none⟩ .add (.literal ⟨.null, literalType?⟩ (.number 1))
      (.name ⟨.null, nameType?⟩ "size"))]

/-- A state in which the variable has a given type. -/
def sizeChecker (type : Ty) : Checker :=
  ⟨[Table.insert ∅ "size" (.ofVariable type)], []⟩

/-- The name is checked where it is a number.  Then the scope is closed, and the block is
checked in one where the name is a truth value.  That call fails at the name, which keeps
its type, after it has filled the slot of the literal. -/
theorem sumBlock_checked_in_two_scopes :
    Session.Run ⟨{}, sumBlock none none⟩ [.ok (), .ok (), .ok ()]
        ⟨sizeChecker .int, sumBlock none (some .int)⟩ ∧
      Session.Run ⟨sizeChecker .int, sumBlock none (some .int)⟩
        [.ok (), .ok (), .ok (),
          .error (.rejected { cause := .typeMismatch "int" "bool", position := .null })]
        ⟨sizeChecker .bool, sumBlock (some .int) (some .int)⟩ ∧
      (sumBlock (some .int) (some .int)).erase = (sumBlock none (some .int)).erase ∧
      List.Forall₂ Expr.Respected (sumBlock none (some .int)).preorder
        (sumBlock (some .int) (some .int)).preorder ∧
      ∃ ending failure, (sumBlock none (some .int)).Called (sizeChecker .bool) ending ∧
        ending.outcome = .error failure ∧
          List.Forall₂ Expr.Respected (sumBlock none (some .int)).preorder
            ending.tree.preorder := by
  have nameCalled : (sumBlock none none).Called (sizeChecker .int) _ :=
    .inside (.inside (.inside (.expr (.name ⟨.null, none⟩ "size")) .right) .evaluated)
      (@Subtree.Within.statement [] [] _ _)
  have annotated : Session.Run ⟨{}, sumBlock none none⟩ [.ok (), .ok (), .ok ()]
      ⟨sizeChecker .int, sumBlock none (some .int)⟩ :=
    .step .enter (.step (.define "size" (.ofVariable .int) .null)
      (.step (.call nameCalled) .done))
  have blockCalled : (sumBlock none (some .int)).Called (sizeChecker .bool) _ := .block _
  have refused : Session.Run ⟨sizeChecker .int, sumBlock none (some .int)⟩
      [.ok (), .ok (), .ok (), .error _]
      ⟨sizeChecker .bool, sumBlock (some .int) (some .int)⟩ :=
    .step .leave (.step .enter (.step (.define "size" (.ofVariable .bool) .null)
      (.step (.call blockCalled) .done)))
  rcases Session.annotations_written_once annotated with ⟨_, _, failing⟩
  rcases Session.annotations_written_once refused with ⟨erased, kept, _⟩
  exact ⟨annotated, refused, erased, kept, _, _, blockCalled, rfl,
    (failing _ _ _ blockCalled rfl).2⟩

end SlotLang
