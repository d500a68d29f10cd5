import SlotLang.Proofs.Check.Veto

/-!
# Old annotations only veto

A program and its erasure are checked in step: as long as the types found agree with the
annotations of the program, both checks do the same, and at the first annotation that
disagrees the check of the annotated program stops.  So old annotations have no say in
what is found, and can only refuse it.
-/

namespace SlotLang

/-- A program and its erasure are checked in step. -/
theorem Program.vetoed_check (program : Program) :
    Checked.Vetoed program program.check (Program.check (Stmt.eraseAll program)) := by
  have block := (lockstep_congruence.work_checkBlock
    (lockstep_congruence.work_block program)).vetoed ⟨[∅], []⟩
  exact ⟨block.vetoed, block.accepted⟩

/-- If the erasure of a program passes, the program passes up to the first veto. -/
theorem Program.typed_eq_vetoAll {program typed : Program}
    (bare : Program.typed (Stmt.eraseAll program) = .ok typed) :
    Expr.Filled (Stmt.postorderAll program) (Stmt.postorderAll typed) ∧
      program.typed =
        ((vetoAll (Stmt.postorderAll program) (Stmt.postorderAll typed)).map
          fun _ => typed).mapError .rejected := by
  rcases map_eq_ok_iff.mp bare with ⟨_, passed, rfl⟩
  have inStep := program.vetoed_check
  rcases inStep.vetoed _ (Checked.endsIn_of_outcome passed) with ⟨filled, outcome⟩
  change _ = (vetoAll (Stmt.postorderAll program) (Stmt.postorderAll _)).mapError _ at outcome
  constructor
  · exact filled
  · unfold Program.typed
    cases veto : vetoAll (Stmt.postorderAll program)
        (Stmt.postorderAll (Program.check (Stmt.eraseAll program)).tree) with
    | error diagnostic =>
        rw [veto] at outcome
        simp only [outcome]
        rfl
    | ok =>
        rw [veto] at outcome
        have sameTree := (inStep.accepted _ (Checked.endsIn_of_outcome outcome)).2
        simp only [outcome, sameTree]
        rfl

/-- A program passes only with the tree that its erasure passes with. -/
theorem Program.typed_eraseAll {program typed : Program} (accepted : program.typed = .ok typed) :
    Program.typed (Stmt.eraseAll program) = .ok typed := by
  rcases map_eq_ok_iff.mp accepted with ⟨_, passed, rfl⟩
  rcases program.vetoed_check.accepted _ (Checked.endsIn_of_outcome passed) with ⟨ended, tree⟩
  rw [tree]
  exact map_eq_ok_iff.mpr ⟨(), ended.1, rfl⟩

/-- Old annotations can only veto a check.  A program passes exactly if its erasure does
and all of its annotations are respected, and then with the same tree.  If the erasure
passes, but not all annotations are respected, the program is refused at the first
conflict in the order of checking.  If the erasure is refused, so is the program. -/
theorem Program.annotations_only_veto (program : Program) :
    (Stmt.postorderAll program).Perm (Stmt.preorderAll program) ∧
    (∀ typed, program.typed = .ok typed ↔
      Program.typed (Stmt.eraseAll program) = .ok typed ∧
        List.Forall₂ Expr.Respected (Stmt.postorderAll program) (Stmt.postorderAll typed)) ∧
    (∀ typed, Program.typed (Stmt.eraseAll program) = .ok typed →
      List.Forall₂ (fun old new => old.erase = new.erase) (Stmt.postorderAll program)
          (Stmt.postorderAll typed) ∧
        (¬ List.Forall₂ Expr.Respected (Stmt.postorderAll program)
            (Stmt.postorderAll typed) →
          ∃ old existing found,
            Expr.FirstConflict (Stmt.postorderAll program) (Stmt.postorderAll typed) old
                existing found ∧
              program.typed = .error (.rejected
                { cause := .typeMismatch existing.text found.text
                  position := old.start }))) ∧
    ∀ failure, Program.typed (Stmt.eraseAll program) = .error failure →
      ∃ diagnostic, program.typed = .error (.rejected diagnostic) := by
  constructor
  · exact Stmt.postorderAll_perm program
  constructor
  · intro typed
    constructor
    · intro accepted
      have bare := Program.typed_eraseAll accepted
      rcases Program.typed_eq_vetoAll bare with ⟨filled, result⟩
      rcases vetoAll_cases filled with ⟨respected, -⟩ | ⟨_, _, _, -, spoken⟩
      · exact ⟨bare, respected⟩
      · rw [accepted, spoken] at result
        cases result
    · rintro ⟨bare, respected⟩
      rw [(Program.typed_eq_vetoAll bare).2, vetoAll_of_respected respected]
      rfl
  constructor
  · intro typed bare
    constructor
    · have matching := Stmt.forall₂_postorderAll_of_eraseAll_eq
        (Program.eraseAll_typed bare).symm
      rw [Stmt.postorderAll_eraseAll, List.forall₂_map_left_iff] at matching
      simpa only [Expr.erase_erase] using matching
    · intro conflict
      rcases Program.typed_eq_vetoAll bare with ⟨filled, result⟩
      rcases vetoAll_cases filled with ⟨respected, -⟩ | ⟨old, existing, found, first, spoken⟩
      · exact absurd respected conflict
      · rw [spoken] at result
        exact ⟨old, existing, found, first, result⟩
  · intro failure failed
    cases outcome : program.typed with
    | error other =>
        rcases Program.rejected_of_typed_error outcome with ⟨diagnostic, rfl⟩
        exact ⟨diagnostic, rfl⟩
    | ok typed =>
        rw [Program.typed_eraseAll outcome] at failed
        cases failed

/-- A program with a right annotation and two wrong ones: the first part of the sum is
an integer, but the sum is no truth value, and neither is the target. -/
def disputedProgram : Program :=
  let mark (offset : UInt32) (type? : Option Ty) : Mark :=
    { span := .ofOffsets "disputed" offset (offset + 1), type? := type? }
  [.varDecl ⟨.null, "sum", .int, .literal (mark 0 none) (.number 0)⟩,
  .assign .null (.name (mark 10 (some .bool)) "sum")
    (.binary (mark 16 (some .bool)) .add (.literal (mark 16 (some .int)) (.number 1))
      (.literal (mark 20 none) (.number 2)))]

/-- A program whose annotation cannot make up for a missing variable. -/
def lostProgram : Program :=
  [.evaluate .null (.name { span := .null, type? := some .int } "lost")]

/-- The wrong annotation of the sum is met before that of the target; and a missing
variable is missing with and without an annotation. -/
theorem disputedProgram_refused :
    (∃ typed, Program.typed (Stmt.eraseAll disputedProgram) = .ok typed ∧
      disputedProgram.typed = .error (.rejected
        { cause := .typeMismatch "bool" "int", position := ⟨16, "disputed"⟩ }) ∧
      ∃ old existing found,
        Expr.FirstConflict (Stmt.postorderAll disputedProgram) (Stmt.postorderAll typed) old
            existing found ∧
          disputedProgram.typed = .error (.rejected
            { cause := .typeMismatch existing.text found.text, position := old.start })) ∧
    Program.typed (Stmt.eraseAll lostProgram) = .error (.rejected
        { cause := .badName "lost" .notDefined, position := .null }) ∧
      ∃ diagnostic, lostProgram.typed = .error (.rejected diagnostic) := by
  have refused : disputedProgram.typed = .error (.rejected
      { cause := .typeMismatch "bool" "int", position := ⟨16, "disputed"⟩ }) := by rfl
  constructor
  · rcases Program.annotations_only_veto disputedProgram with ⟨-, passes, conflicts, -⟩
    refine ⟨_, rfl, refused, (conflicts _ rfl).2 ?_⟩
    intro respected
    have accepted := (passes _).mpr ⟨rfl, respected⟩
    rw [refused] at accepted
    cases accepted
  · rcases Program.annotations_only_veto lostProgram with ⟨-, -, -, fails⟩
    exact ⟨rfl, fails _ rfl⟩

end SlotLang
