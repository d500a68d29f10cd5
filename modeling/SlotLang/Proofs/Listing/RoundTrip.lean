import SlotLang.Listing
import SlotLang.Proofs.Listing.Spelling
import SlotLang.Proofs.Text.Line

/-!
# Listings that are read back

What is read from a listing can be written as a listing again, and is read back as it
was.  Code that did not come from a listing has this property exactly if its names can
stand between parentheses: they are not empty, and hold neither parentheses nor blanks.
-/

namespace SlotLang

/-! ## Names -/

namespace Instr

/-- The name that an instruction holds. -/
def name? : Instr → Option String
  | localDeclare name => some name
  | loadLocal name => some name
  | storeLocal name => some name
  | call name => some name
  | _ => none

/-- The name in an instruction, if there is one, is not empty and holds neither
parentheses nor blanks. -/
def WellNamed (instr : Instr) : Prop :=
  ∀ name, instr.name? = some name →
    name ≠ "" ∧
      ∀ char ∈ name.toList, char ≠ '(' ∧ char ≠ ')' ∧ Text.isBlank char = false

theorem isName_toList_iff {name : String} :
    isName name.toList = true ↔
      name ≠ "" ∧
        ∀ char ∈ name.toList, char ≠ '(' ∧ char ≠ ')' ∧ Text.isBlank char = false := by
  rw [isName_iff, ne_eq, String.toList_eq_nil_iff]

/-- An instruction whose name can be written spells itself. -/
theorem WellNamed.spells_text {instr : Instr} (wellNamed : instr.WellNamed) :
    instr.Spells instr.text.toList := by
  cases instr with
  | localDeclare name =>
      exact ⟨isName_toList_iff.mpr (wellNamed name rfl), toList_withOperand _ _⟩
  | pushConstant value => exact ⟨_, numeral_repr value.toInt, toList_withOperand _ _⟩
  | loadLocal name =>
      exact ⟨isName_toList_iff.mpr (wellNamed name rfl), toList_withOperand _ _⟩
  | storeLocal name =>
      exact ⟨isName_toList_iff.mpr (wellNamed name rfl), toList_withOperand _ _⟩
  | add => rfl
  | sub => rfl
  | mul => rfl
  | call name =>
      exact ⟨isName_toList_iff.mpr (wellNamed name rfl), toList_withOperand _ _⟩

/-- Only names that can be written are ever spelled. -/
theorem Spells.wellNamed {instr : Instr} {line : List Char} (spells : instr.Spells line) :
    instr.WellNamed := by
  intro name named
  cases instr with
  | localDeclare =>
      cases named
      exact isName_toList_iff.mp spells.1
  | loadLocal =>
      cases named
      exact isName_toList_iff.mp spells.1
  | storeLocal =>
      cases named
      exact isName_toList_iff.mp spells.1
  | call =>
      cases named
      exact isName_toList_iff.mp spells.1
  | _ => cases named

end Instr

/-! ## Pieces of a listing -/

namespace Listing

/-- `Holds pieces code`: each piece is blank or spells an instruction between blanks, and
the instructions make up the code. -/
inductive Holds : List (List Char) → List Instr → Prop where
  | nil : Holds [] []
  | blank {piece : List Char} {later : List (List Char)} {code : List Instr}
      (empty : Text.trim piece = []) (laterHolds : Holds later code) :
      Holds (piece :: later) code
  | instr {piece : List Char} {later : List (List Char)} {code : List Instr}
      {instr : Instr} (spells : instr.Spells (Text.trim piece))
      (laterHolds : Holds later code) :
      Holds (piece :: later) (instr :: code)

section

variable {piece : List Char} (offset : Nat) (later : List (List Char))

theorem readPieces_of_blank (empty : Text.trim piece = []) :
    readPieces offset (piece :: later) =
      readPieces (offset + Text.byteSize piece + 1) later := by
  simp [readPieces, empty]

theorem readPieces_of_some {instr : Instr} (nonempty : Text.trim piece ≠ [])
    (found : Instr.ofChars? (Text.trim piece) = some instr) :
    readPieces offset (piece :: later) =
      (readPieces (offset + Text.byteSize piece + 1) later).map (instr :: ·) := by
  simp [readPieces, nonempty, found]

theorem readPieces_of_none (nonempty : Text.trim piece ≠ [])
    (malformed : Instr.ofChars? (Text.trim piece) = none) :
    readPieces offset (piece :: later) =
      .error
        { cause := .malformedInstruction (String.ofList (Text.trim piece))
          position := .inListing offset } := by
  simp [readPieces, nonempty, malformed]

end

theorem holds_of_readPieces {pieces : List (List Char)} {offset : Nat} {code : List Instr}
    (read : readPieces offset pieces = .ok code) : Holds pieces code := by
  induction pieces generalizing offset code with
  | nil =>
      cases read
      exact .nil
  | cons piece later inductionHypothesis =>
      by_cases empty : Text.trim piece = []
      · rw [readPieces_of_blank offset later empty] at read
        exact .blank empty (inductionHypothesis read)
      · cases found : Instr.ofChars? (Text.trim piece) with
        | none =>
            rw [readPieces_of_none offset later empty found] at read
            contradiction
        | some instr =>
            rw [readPieces_of_some offset later empty found] at read
            cases laterRead : readPieces (offset + Text.byteSize piece + 1) later with
            | error =>
                rw [laterRead] at read
                contradiction
            | ok laterCode =>
                rw [laterRead] at read
                cases read
                exact .instr (Instr.ofChars?_eq_some_iff.mp found) (inductionHypothesis laterRead)

theorem Holds.readPieces_eq {pieces : List (List Char)} {code : List Instr}
    (holds : Holds pieces code) (offset : Nat) : readPieces offset pieces = .ok code := by
  induction holds generalizing offset with
  | nil => rfl
  | @blank piece later code empty _ inductionHypothesis =>
      rw [readPieces_of_blank offset later empty]
      exact inductionHypothesis _
  | @instr piece later code instr spells _ inductionHypothesis =>
      have found := Instr.ofChars?_eq_some_iff.mpr spells
      rw [readPieces_of_some offset later spells.ne_nil found, inductionHypothesis]
      rfl

/-- A listing is read as some code exactly if its pieces hold that code. -/
theorem read_eq_ok_iff {listing : String} {code : List Instr} :
    read listing = .ok code ↔ Holds (Text.pieces listing.toList) code :=
  ⟨holds_of_readPieces, fun holds => holds.readPieces_eq 0⟩

theorem Holds.wellNamed {pieces : List (List Char)} {code : List Instr}
    (holds : Holds pieces code) : ∀ instr ∈ code, instr.WellNamed := by
  induction holds with
  | nil => exact fun instr member => absurd member List.not_mem_nil
  | blank _ _ inductionHypothesis => exact inductionHypothesis
  | instr spells _ inductionHypothesis =>
      exact List.forall_mem_cons.mpr ⟨spells.wellNamed, inductionHypothesis⟩

/-! ## Writing and reading -/

theorem toList_render_cons (instr : Instr) (code : List Instr) :
    (render (instr :: code)).toList =
      instr.text.toList ++ '\n' :: (render code).toList := by
  simp [render, String.toList_join, String.toList_append]

/-- The listing of code whose names can be written holds that code. -/
theorem holds_render {code : List Instr} (wellNamed : ∀ instr ∈ code, instr.WellNamed) :
    Holds (Text.pieces (render code).toList) code := by
  induction code with
  | nil => exact .blank rfl .nil
  | cons instr code inductionHypothesis =>
      rcases List.forall_mem_cons.mp wellNamed with ⟨instrNamed, codeNamed⟩
      have spells := instrNamed.spells_text
      have solid : ∀ char ∈ instr.text.toList, char ≠ '\n' := by
        rintro char member rfl
        have blank := spells.not_isBlank '\n' member
        contradiction
      rw [toList_render_cons, Text.pieces_append_newline solid]
      rw [← Text.trim_eq_self spells.not_isBlank] at spells
      exact .instr spells (inductionHypothesis codeNamed)

/-- Code is read back from its listing exactly if all its names can be written.  This is
so for all code that was read from any listing, which can therefore be written and read
again and again. -/
theorem read_render_eq_ok_iff :
    (∀ code : List Instr,
      read (render code) = .ok code ↔ ∀ instr ∈ code, instr.WellNamed) ∧
    ∀ (listing : String) (code : List Instr), read listing = .ok code →
      (∀ instr ∈ code, instr.WellNamed) ∧ read (render code) = .ok code := by
  have back : ∀ {code : List Instr}, (∀ instr ∈ code, instr.WellNamed) →
      read (render code) = .ok code :=
    fun wellNamed => read_eq_ok_iff.mpr (holds_render wellNamed)
  constructor
  · intro code
    constructor
    · intro same
      exact (read_eq_ok_iff.mp same).wellNamed
    · exact back
  · intro listing code found
    have wellNamed := (read_eq_ok_iff.mp found).wellNamed
    exact ⟨wellNamed, back wellNamed⟩

-- A name that closes its parenthesis and starts new lines is read back as other code.
example :
    read (render [.localDeclare "a)\nadd\ncall(b"]) =
      .ok [.localDeclare "a", .add, .call "b"] := by
  rfl

/-- A listing with blank lines, blanks around an instruction, a number with leading zeros
and both ends of the range of words is read; and written and read again, it gives the same
code. -/
theorem read_render_untidy :
    read "\n  local-declare(é)\t\n\npush-constant(-002147483648)\npush-constant(2147483647)" =
        .ok [.localDeclare "é", .pushConstant (-2147483648), .pushConstant 2147483647] ∧
      read (render
          [.localDeclare "é", .pushConstant (-2147483648), .pushConstant 2147483647]) =
        .ok [.localDeclare "é", .pushConstant (-2147483648), .pushConstant 2147483647] := by
  have found : read
      "\n  local-declare(é)\t\n\npush-constant(-002147483648)\npush-constant(2147483647)" =
        .ok [.localDeclare "é", .pushConstant (-2147483648), .pushConstant 2147483647] := by
    rfl
  exact ⟨found, (read_render_eq_ok_iff.2 _ _ found).2⟩

end Listing

end SlotLang
