import SlotLang.Proofs.Check.Erasure
import SlotLang.Proofs.Check.Sound

/-!
# Checking twice

A check leaves its findings in the type slots, where a second check meets them as
input.  A check repeats on a tree if the second one, from the same state, gives
nothing new: the same tree, outcome, state and events.  Every check repeats on every
tree, whether it succeeds or not and whatever the type slots hold beforehand.
-/

namespace SlotLang

variable {α β γ δ : Type}

/-! ## Checks that leave the state alone -/

/-- A second check of the tree that the first one leaves gives nothing new. -/
def Annotated.Repeats (check : α → Annotated α β) (tree : α) : Prop :=
  check (check tree).tree = check tree

namespace Annotated.Repeats

theorem map {parts : α → Annotated α γ} {check : β → Annotated β γ} {tree : α}
    {rebuild : α → β} (repeats : Repeats parts tree)
    (unfolds : ∀ tree, check (rebuild tree) = (parts tree).map rebuild) :
    Repeats check (rebuild tree) := by
  rw [Repeats, unfolds tree, map_tree, unfolds, repeats]

theorem require {check : α → Annotated α β} {tree : α} (rule : β → Except Diagnostic γ)
    (repeats : Repeats check tree) : Repeats (fun tree => (check tree).require rule) tree :=
  congrArg (fun checked : Annotated α β => checked.require rule) repeats

/-- Both parts are left as the checks in the first round have left them, and the second
part is reached in both rounds or in none. -/
theorem andThen {first : α → Annotated α β} {next : β → γ → Annotated γ δ} {tree : α}
    {later : γ} (repeats : Repeats first tree)
    (laterRepeats : ∀ value, (first tree).result = .ok value → Repeats (next value) later) :
    Repeats (fun parts : α × γ => (first parts.1).andThen parts.2 fun value =>
      next value parts.2) (tree, later) := by
  have again : first (first tree).tree = first tree := repeats
  cases result : (first tree).result with
  | error => simp only [Repeats, andThen_of_error result, again]
  | ok value =>
      have laterAgain : next value (next value later).tree = next value later :=
        laterRepeats value result
      simp only [Repeats, andThen_of_ok result, again, laterAgain]

/-- The type that a node gets into its slot is the one that a second check finds. -/
theorem settle {parts : α → Annotated α Ty} {check : Expr → Annotated Expr Ty} {mark : Mark}
    {tree : α} {rebuild : Mark → α → Expr} (repeats : Repeats parts tree)
    (unfolds : ∀ filled : Mark, filled.start = mark.start → ∀ tree,
      check (rebuild filled tree) = (parts tree).settle filled rebuild) :
    Repeats check (rebuild mark tree) := by
  have again : parts (parts tree).tree = parts tree := repeats
  rw [Repeats, unfolds mark rfl]
  cases result : (parts tree).result with
  | error => simp only [Annotated.settle, result, unfolds mark rfl, again]
  | ok type =>
      cases slot : mark.type? with
      | none =>
          simp only [Annotated.settle, Mark.annotate, result, slot]
          rw [unfolds { mark with type? := some type } rfl, again]
          simp only [Annotated.settle, Mark.annotate, result, if_true]
      | some existing =>
          by_cases agrees : existing = type
          · simp only [Annotated.settle, Mark.annotate, result, slot, agrees, if_true,
              unfolds mark rfl, again]
          · simp only [Annotated.settle, Mark.annotate, result, slot, agrees, if_false,
              unfolds mark rfl, again]

end Annotated.Repeats

/-! ## Work that changes the state -/

/-- Work on the tree that the first round leaves, from the same state, gives nothing
new. -/
def Checked.Repeats (work : α → Checked α) (tree : α) : Prop :=
  work (work tree).tree = work tree

namespace Checked.Repeats

theorem ofAnnotated {check : α → Annotated α Unit} {tree : α} (checker : Checker)
    (repeats : Annotated.Repeats check tree) :
    Repeats (fun tree => .ofAnnotated checker (check tree)) tree :=
  congrArg (Checked.ofAnnotated checker) repeats

theorem map {parts : α → Checked α} {work : β → Checked β} {tree : α} {rebuild : α → β}
    (repeats : Repeats parts tree)
    (unfolds : ∀ tree, work (rebuild tree) = (parts tree).map rebuild) :
    Repeats work (rebuild tree) := by
  rw [Repeats, unfolds tree, map_tree, unfolds, repeats]

theorem andThen {first : α → Checked α} {next : Checker → β → Checked β} {tree : α}
    {later : β} (repeats : Repeats first tree)
    (laterRepeats : ∀ checker, Repeats (next checker) later) :
    Repeats (fun parts : α × β => (first parts.1).andThen parts.2 fun checker =>
      next checker parts.2) (tree, later) := by
  have again : first (first tree).tree = first tree := repeats
  cases outcome : (first tree).outcome with
  | error => simp only [Repeats, andThen_of_error outcome, again]
  | ok =>
      have laterAgain : next (first tree).checker (next (first tree).checker later).tree =
        next (first tree).checker later := laterRepeats (first tree).checker
      simp only [Repeats, andThen_of_ok outcome, again, laterAgain]

theorem followedBy {next : Checker → α → Checked α} {tree : α} (first : Checked Unit)
    (repeats : ∀ checker, Repeats (next checker) tree) :
    Repeats (fun tree => first.followedBy tree fun checker => next checker tree) tree := by
  have prepared : Repeats (fun _ : Unit => first) () := rfl
  exact congrArg (Checked.map Prod.snd) (prepared.andThen repeats)

theorem provided {work : α → Checked α} {tree : α} (condition : Except Diagnostic Unit)
    (checker : Checker) (repeats : Repeats work tree) :
    Repeats (fun tree => .provided condition checker tree (work tree)) tree := by
  cases condition with
  | error => rfl
  | ok => exact repeats

theorem withScope {work : Checker → α → Checked α} {tree : α} (checker : Checker)
    (repeats : ∀ checker, Repeats (work checker) tree) :
    Repeats (fun tree => checker.withScope fun checker => work checker tree) tree := by
  have again : work checker.enter.checker (work checker.enter.checker tree).tree =
    work checker.enter.checker tree := repeats checker.enter.checker
  simp only [Repeats, Checker.withScope, again]

theorem expecting {work : Checker → α → Checked α} {tree : α} (returnType : Ty)
    (checker : Checker) (repeats : ∀ checker, Repeats (work checker) tree) :
    Repeats (fun tree => checker.expecting returnType fun checker => work checker tree)
      tree := by
  have again : work _ (work _ tree).tree = work _ tree :=
    repeats { checker with returnTypes := returnType :: checker.returnTypes }
  simp only [Repeats, Checker.expecting, again]

end Checked.Repeats

/-! ## All checks -/

/-- Checks repeat.  The second round is on a tree that has grown from the first one, so
it meets the same shape. -/
def repetition : CheckProperty where
  Check check tree := growth.Check check tree ∧ Annotated.Repeats check tree
  Work work tree := growth.Work work tree ∧ ∀ checker, Checked.Repeats (work checker) tree

theorem repetition_congruence : repetition.Congruence where
  check_congr holds agree := by
    constructor
    · exact growth_congruence.check_congr holds.1 agree
    · rw [Annotated.Repeats, agree _ rfl, agree _ holds.1.erase_eq]
      exact holds.2
  plain result := ⟨growth_congruence.plain result, rfl⟩
  map rebuild holds rebuilds unfolds :=
    ⟨growth_congruence.map rebuild holds.1 rebuilds unfolds, holds.2.map unfolds⟩
  require rule holds := ⟨growth_congruence.require rule holds.1, holds.2.require rule⟩
  after condition holds := by
    constructor
    · exact growth_congruence.after condition fun value met => (holds value met).1
    · cases condition with
      | error => rfl
      | ok value => exact (holds value rfl).2
  andThen holds laterHolds :=
    ⟨growth_congruence.andThen holds.1 fun alike value passed =>
      (laterHolds alike value passed).1,
    holds.2.andThen fun value passed => (laterHolds _ value passed).2⟩
  settle rebuild holds rebuilds unfolds :=
    ⟨growth_congruence.settle rebuild holds.1 rebuilds unfolds, holds.2.settle unfolds⟩
  work_congr holds agree := by
    constructor
    · exact growth_congruence.work_congr holds.1 agree
    · intro checker
      rw [Checked.Repeats, agree _ _ rfl, agree _ _ (holds.1 checker).erase_eq]
      exact holds.2 checker
  done := ⟨growth_congruence.done, fun _ => rfl⟩
  ofAnnotated holds :=
    ⟨growth_congruence.ofAnnotated fun checker => (holds checker).1,
    fun checker => .ofAnnotated checker (holds checker).2⟩
  work_map rebuild holds rebuilds unfolds :=
    ⟨growth_congruence.work_map rebuild holds.1 rebuilds unfolds,
    fun checker => (holds.2 checker).map (unfolds checker)⟩
  work_andThen holds laterHolds :=
    ⟨growth_congruence.work_andThen holds.1 laterHolds.1,
    fun checker => (holds.2 checker).andThen laterHolds.2⟩
  followedBy prepared holds :=
    ⟨growth_congruence.followedBy prepared holds.1, fun _ => .followedBy _ holds.2⟩
  provided condition holds :=
    ⟨growth_congruence.provided condition holds.1,
    fun checker => .provided (condition checker) checker (holds.2 checker)⟩
  withScope holds :=
    ⟨growth_congruence.withScope holds.1, fun checker => .withScope checker holds.2⟩
  expecting returnType holds :=
    ⟨growth_congruence.expecting returnType holds.1,
    fun checker => .expecting returnType checker holds.2⟩

theorem Checker.repeats_checkBlock (checker : Checker) (body : List Stmt) :
    Checked.Repeats checker.checkBlock body :=
  (repetition_congruence.work_checkBlock (repetition_congruence.work_block body)).2 checker

/-! ## Blocks and programs -/

/-- Checking is idempotent, on success and on failure: a second check of the block that
a first one leaves, from the same state, ends in the same outcome and the same state,
reports the same events and leaves the tree as it is.  So a typed program checks to
itself. -/
theorem Checker.checkBlock_idempotent :
    (∀ (checker : Checker) (body : List Stmt),
      checker.checkBlock (checker.checkBlock body).tree = checker.checkBlock body) ∧
    ∀ program typed : Program, program.typed = .ok typed → typed.typed = .ok typed := by
  have again : ∀ (checker : Checker) (body : List Stmt),
      checker.checkBlock (checker.checkBlock body).tree = checker.checkBlock body := by
    intro checker body
    exact checker.repeats_checkBlock body
  constructor
  · exact again
  · intro program typed accepted
    rcases Program.typed_eq_ok_iff.mp accepted with ⟨after, passed, rfl⟩
    apply Program.typed_eq_ok_iff.mpr
    rw [again]
    exact ⟨after, passed, rfl⟩

/-- A block that fails in the middle of its second statement, where the left operand has
its type already and the sum has none. -/
def haltedBlock : List Stmt :=
  let mark : Mark := { span := .null }
  [.varDecl ⟨.null, "total", .int, .literal mark (.number 1)⟩,
  .assign .null (.name mark "total")
    (.binary mark .add (.name mark "total") (.literal mark (.boolean true))),
  .evaluate .null (.call mark "print" [.name mark "total"])]

/-- A program that shows the square of a number. -/
def squareProgram : Program :=
  let mark : Mark := { span := .null }
  [.varDecl ⟨.null, "side", .int, .literal mark (.number 3)⟩,
  .evaluate .null
    (.call mark "print" [.binary mark .mul (.name mark "side") (.name mark "side")])]

/-- The failing block fails again in the same way, and the program that passes checks to
itself. -/
theorem haltedBlock_checked_twice :
    ((Checker.checkBlock ⟨[∅], []⟩ haltedBlock).outcome = .error (.rejected
        { cause := .typeMismatch "int" "bool", position := .null }) ∧
      (Stmt.preorderAll (Checker.checkBlock ⟨[∅], []⟩ haltedBlock).tree).map Expr.type? =
        [some .int, none, none, some .int, some .bool, none, none] ∧
      Checker.checkBlock ⟨[∅], []⟩ (Checker.checkBlock ⟨[∅], []⟩ haltedBlock).tree =
        Checker.checkBlock ⟨[∅], []⟩ haltedBlock) ∧
    ∃ typed, squareProgram.typed = .ok typed ∧ Program.typed typed = .ok typed := by
  rcases Checker.checkBlock_idempotent with ⟨again, fixed⟩
  exact ⟨⟨rfl, rfl, again _ haltedBlock⟩, _, rfl, fixed squareProgram _ rfl⟩

end SlotLang
