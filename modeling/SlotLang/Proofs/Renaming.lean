import Mathlib.Logic.Equiv.Basic
import SlotLang.Proofs.Lower.Relabel

/-!
# Programs under new names

What a program is called by matters to nobody but its reader.  With its identifiers
renamed one by one it is checked and compiled as before, up to the names; only `print` is
known by name.
-/

namespace SlotLang

/-- Two failures are refusals of one kind at one position. -/
inductive Failure.SameKind : Failure → Failure → Prop where
  | rejected {cause other : Cause} {position : Position} (kind : other.label = cause.label) :
      SameKind (.rejected ⟨cause, position⟩) (.rejected ⟨other, position⟩)

/-- A relabelling that moves nothing keeps a fault where it is. -/
theorem Relabelling.Rejects.sameKind {labels : Relabelling} {failure other : Failure}
    (unmoved : labels.start = id) (rejects : labels.Rejects failure other) :
    failure.SameKind other := by
  cases rejects with
  | @rejected diagnostic otherDiagnostic blamed =>
      rcases diagnostic with ⟨cause, position⟩
      rcases otherDiagnostic with ⟨otherCause, otherPosition⟩
      have same : otherPosition = labels.start position := blamed.position
      rw [unmoved, id_eq] at same
      subst same
      exact .rejected blamed.kind

/-- A renamed program passes exactly if the program does, and then with the renamed tree,
types included; otherwise both are refused for the same kind of fault at the same position.
If the name of the scratch slot stays, the renamed program compiles to the renamed code, or
both fail in the same way. -/
theorem Program.renaming_equivariant (rename : String → String)
    (injective : Function.Injective rename) (fixesPrint : rename "print" = "print")
    (program : Program) :
    let labels := Relabelling.ofNames rename injective fixesPrint
    let renamed : Program := Stmt.relabelAll labels program
    ((∃ typed, renamed.typed = .ok typed) ↔ ∃ typed, program.typed = .ok typed) ∧
    (∀ typed, program.typed = .ok typed →
      renamed.typed = .ok (Stmt.relabelAll labels typed)) ∧
    (∀ failure, program.typed = .error failure →
      ∃ other, renamed.typed = .error other ∧ failure.SameKind other) ∧
    ∀ scratch, rename scratch = scratch →
      (∀ code, program.compile scratch = .ok code →
        renamed.compile scratch = .ok (code.map (Instr.relabel labels))) ∧
      ∀ failure, program.compile scratch = .error failure →
        ∃ other, renamed.compile scratch = .error other ∧ failure.SameKind other := by
  intro labels renamed
  have checked := program.mirrored_typed labels
  constructor
  · exact checked.exists_ok_iff
  constructor
  · intro typed accepted
    rw [accepted] at checked
    exact checked.of_ok
  constructor
  · intro failure refused
    rw [refused] at checked
    rcases checked.of_error with ⟨other, otherRefused, rejects⟩
    exact ⟨other, otherRefused, rejects.sameKind rfl⟩
  · intro scratch fixesScratch
    have compiled := program.mirrored_compile labels scratch
    change Mirrored labels.Rejects (List.map (Instr.relabel labels))
      (program.compile scratch) (Program.compile (rename scratch) renamed) at compiled
    rw [fixesScratch] at compiled
    constructor
    · intro code succeeded
      rw [succeeded] at compiled
      exact compiled.of_ok
    · intro failure failed
      rw [failed] at compiled
      rcases compiled.of_error with ⟨other, otherFailed, rejects⟩
      exact ⟨other, otherFailed, rejects.sameKind rfl⟩

/-- The class name `Box` and the text of a primitive type change places. -/
def boxAsInt : Relabelling :=
  .ofNames (Equiv.swap "Box" "int") (Equiv.injective _)
    (Equiv.swap_apply_of_ne_of_ne (by decide) (by decide))

/-- A program with a class, which has no code. -/
def boxProgram : Program :=
  let mark (offset : UInt32) : Mark := { span := .ofOffsets "box" offset (offset + 1) }
  [.varDecl ⟨.ofOffsets "box" 0 9, "box", .object "Box", .literal (mark 8) .none⟩,
  .classDef ⟨.ofOffsets "box" 10 20, "Box",
    [⟨.ofOffsets "box" 12 19, "content", .int, .literal (mark 18) (.number 0)⟩], []⟩,
  .assign (.ofOffsets "box" 21 36) (.field (mark 21) (.name (mark 21) "box") "content")
    (.literal (mark 35) (.number 1))]

/-- A program whose variable has the name of the class. -/
def showBoxProgram : Program :=
  let mark : Mark := { span := .null }
  [.varDecl ⟨.null, "Box", .int, .literal mark (.number 7)⟩,
  .evaluate .null (.call mark "print" [.name mark "Box"])]

/-- The first program passes under both names and is refused its code at its class; the
code of the second one uses another slot. -/
theorem boxPrograms_renamed :
    (∃ typed, boxProgram.typed = .ok typed ∧
      Program.typed (Stmt.relabelAll boxAsInt boxProgram) =
        .ok (Stmt.relabelAll boxAsInt typed)) ∧
    (∃ failure other, boxProgram.compile "$last" = .error failure ∧
      Program.compile "$last" (Stmt.relabelAll boxAsInt boxProgram) = .error other ∧
        failure.SameKind other) ∧
    ∃ code, showBoxProgram.compile "$last" = .ok code ∧
      Program.compile "$last" (Stmt.relabelAll boxAsInt showBoxProgram) =
        .ok (code.map (Instr.relabel boxAsInt)) := by
  have scratch : Equiv.swap "Box" "int" "$last" = "$last" :=
    Equiv.swap_apply_of_ne_of_ne (by decide) (by decide)
  rcases Program.renaming_equivariant (Equiv.swap "Box" "int") (Equiv.injective _)
    (Equiv.swap_apply_of_ne_of_ne (by decide) (by decide)) boxProgram with
    ⟨-, passes, -, compiles⟩
  rcases Program.renaming_equivariant (Equiv.swap "Box" "int") (Equiv.injective _)
    (Equiv.swap_apply_of_ne_of_ne (by decide) (by decide)) showBoxProgram with
    ⟨-, -, -, showCompiles⟩
  constructor
  · exact ⟨_, rfl, passes _ rfl⟩
  constructor
  · rcases (compiles "$last" scratch).2 _ rfl with ⟨other, failed, sameKind⟩
    exact ⟨_, other, rfl, failed, sameKind⟩
  · exact ⟨_, rfl, (showCompiles "$last" scratch).1 _ rfl⟩

end SlotLang
