import SlotLang.Proofs.Check.Annotation
import SlotLang.Proofs.Evaluation
import SlotLang.Proofs.Machine.Typing
import SlotLang.Proofs.Typing.Rule

/-!
# The code of a program is typed

The types that a check finds carry over to the machine: the code of an expression
pushes a word of its type, and the code of a statement stores a word that fits the
slot.  So at every point of a run a slot holds a word of the type of its variable,
and every printed word is of the type that the check has written into the argument
it comes from.
-/

namespace SlotLang

/-! ## What a program prints -/

/-- The type slots of the arguments that an expression prints, in the order in which
they are printed. -/
def Expr.printTypes : Expr → List (Option Ty)
  | .unary _ _ operand => operand.printTypes
  | .binary _ _ left right => left.printTypes ++ right.printTypes
  | .call _ callee [argument] =>
      argument.printTypes ++ if callee = Builtin.print.name then [argument.type?] else []
  | _ => []

/-- The type slots of the arguments that a statement prints, if it can be lowered. -/
def Stmt.printTypes : Stmt → List (Option Ty)
  | .varDecl declaration => declaration.value.printTypes
  | .assign _ _ value => value.printTypes
  | .evaluate _ value => value.printTypes
  | _ => []

/-- The type slots of the arguments that a program prints, in the order in which
they are printed. -/
def Program.printTypes (program : Program) : List (Option Ty) :=
  program.flatMap Stmt.printTypes

/-! ## Expressions -/

theorem Literal.admits_word (literal : Literal) : literal.type.Admits literal.word := by
  cases literal with
  | number => trivial
  | boolean value =>
      cases value with
      | false => exact .inl rfl
      | true => exact .inr rfl
  | none => rfl

/-- The type of the words in the slot of a name.  A slot that is no variable's may
hold any word. -/
def Frame.slotType (frame : Frame) (name : String) : Ty :=
  match frame.get? name with
  | some (.ofVariable type) => type
  | _ => .int

theorem Frame.slotType_of_variable {frame : Frame} {name : String} {type : Ty}
    (found : Scopes.lookup? [frame] name = some (.ofVariable type)) :
    frame.slotType name = type := by
  rw [Scopes.lookup?_singleton] at found
  rw [slotType, found]

/-- An operator that has an instruction works on integers. -/
theorem Expr.HasType.int_operands {scopes : Scopes} {mark : Mark} {op : BinaryOp}
    {left right : Expr} {type : Ty} {instr : Instr}
    (typed : (Expr.binary mark op left right).HasType scopes type)
    (lowered : op.instr? = some instr) :
    instr ∈ [Instr.add, .sub, .mul] ∧ left.HasType scopes .int ∧
      right.HasType scopes .int ∧ .int = type := by
  have listed : instr ∈ [Instr.add, .sub, .mul] := by
    cases op <;> cases lowered <;> simp
  cases typed with
  | arithmetic _ leftTyped rightTyped => exact ⟨listed, leftTyped, rightTyped, rfl⟩
  | ordering ordered =>
      cases op <;> simp at ordered <;> cases lowered
  | comparison compared =>
      cases op <;> simp at compared <;> cases lowered

/-- The code of a labelled expression pushes a word of its type, and prints words of
the types in the arguments. -/
theorem Expr.lower_typed {bound : Frame} {slots : List String} (shape : Shape)
    (declared : ∀ name ∈ slots, name ∈ shape.declared) (expr : Expr) {type : Ty}
    (typed : expr.HasType [bound] type)
    (labelled : ∀ part ∈ expr.preorder, part.Labelled [bound])
    (lowered : (expr.lower slots).outcome = .ok ()) :
    ∃ types, expr.printTypes = types.map some ∧
      Instr.AllTyped bound.slotType shape (expr.lower slots).code
        ((shape.record types).push type) := by
  cases expr with
  | literal mark literal =>
      refine ⟨[], rfl, ?_⟩
      rw [Shape.record_nil]
      cases typed with
      | @number _ value => exact .single (.pushConstant (Literal.number value).admits_word)
      | @boolean _ value =>
          exact .single (.pushConstant (Literal.boolean value).admits_word)
      | null => exact .single (.pushConstant Literal.none.admits_word)
  | name mark named =>
      cases typed with
      | name found =>
          rw [Expr.lower] at lowered ⊢
          have slotted := Lowered.onSlot_outcome_eq_ok_iff.mp lowered
          refine ⟨[], rfl, ?_⟩
          rw [Lowered.onSlot_of_mem _ _ slotted, Shape.record_nil,
            ← Frame.slotType_of_variable found]
          exact .single (.loadLocal (declared named slotted))
  | unary mark op operand =>
      rw [Expr.preorder, List.forall_mem_cons] at labelled
      cases typed with
      | not => cases lowered
      | neg operandTyped =>
          rw [Expr.lower] at lowered ⊢
          simp only [Lowered.append_outcome_eq_ok_iff] at lowered
          rcases lowered with ⟨constantLowered, operandLowered, _⟩
          rw [Lowered.append_code constantLowered, Lowered.append_code operandLowered]
          obtain ⟨types, prints, operandCode⟩ := Expr.lower_typed (shape.push .int)
            declared operand operandTyped labelled.2 operandLowered
          have zeroCode : Instr.AllTyped bound.slotType shape [.pushConstant 0]
              (shape.push .int) := .single (.pushConstant trivial)
          rw [Shape.record_push] at operandCode
          exact ⟨types, prints, zeroCode.append
            (operandCode.append (.single (.arithmetic (by simp))))⟩
  | binary mark op left right =>
      rw [Expr.preorder, List.forall_mem_cons, List.forall_mem_append] at labelled
      rw [Expr.lower] at lowered ⊢
      cases instruction : op.instr? with
      | none =>
          rw [instruction] at lowered
          cases lowered
      | some instr =>
          rcases typed.int_operands instruction with
            ⟨listed, leftTyped, rightTyped, rfl⟩
          simp only [instruction, Lowered.append_outcome_eq_ok_iff] at lowered ⊢
          rcases lowered with ⟨leftLowered, rightLowered, _⟩
          rw [Lowered.append_code leftLowered, Lowered.append_code rightLowered]
          obtain ⟨leftTypes, leftPrints, leftCode⟩ := Expr.lower_typed shape
            declared left leftTyped labelled.2.1 leftLowered
          obtain ⟨rightTypes, rightPrints, rightCode⟩ := Expr.lower_typed
            ((shape.record leftTypes).push .int) declared right rightTyped labelled.2.2
            rightLowered
          refine ⟨leftTypes ++ rightTypes, ?_, ?_⟩
          · rw [Expr.printTypes, leftPrints, rightPrints, List.map_append]
          · rw [Shape.record_push] at rightCode
            rw [Shape.record_append]
            exact leftCode.append (rightCode.append (.single (.arithmetic listed)))
  | call mark callee arguments =>
      rw [Expr.preorder, List.forall_mem_cons] at labelled
      cases typed with
      | call unlisted =>
          rw [Expr.lower, unlisted] at lowered
          cases lowered
      | builtin listed arity argumentsTyped =>
          rcases Builtin.find?_eq_some_iff.mp listed with ⟨rfl, rfl⟩
          have single : arguments.length = 1 := argumentsTyped.length_eq.trans arity
          cases arguments with
          | nil => cases single
          | cons argument later =>
              cases later with
              | cons => cases single
              | nil =>
                  rw [Expr.preorderAll, List.forall_mem_append] at labelled
                  obtain ⟨type, label, argumentTyped⟩ := labelled.2.1 argument
                    (Expr.mem_preorder_self argument)
                  rw [Expr.lower_print] at lowered ⊢
                  have argumentLowered :=
                    (Lowered.append_outcome_eq_ok_iff.mp lowered).1
                  obtain ⟨types, prints, argumentCode⟩ := Expr.lower_typed shape declared
                    argument argumentTyped labelled.2.1 argumentLowered
                  refine ⟨types ++ [type], ?_, ?_⟩
                  · rw [Expr.printTypes, if_pos rfl, prints, label, List.map_append]
                    rfl
                  · rw [Lowered.append_code argumentLowered, Shape.record_append]
                    exact argumentCode.append (.single .print)
  | field => cases lowered
  | method => cases lowered
termination_by structural expr

/-! ## The slots of a program -/

/-- The frame of a program whose statements are all supported and whose scratch slot
is none of its variables'. -/
structure Program.Framed (scratch : String) (program : Program) (bound : Frame) :
    Prop where
  extending : Frame.Extends ∅ (program.filterMap Stmt.binding?) bound
  supported : ∀ stmt ∈ program, stmt.Supported
  typed : ∀ stmt ∈ program, Stmt.WellTyped [] .none bound stmt bound
  fresh : ∀ declaration : VarDecl, .varDecl declaration ∈ program →
    declaration.name ≠ scratch

namespace Program.Framed

variable {scratch : String} {program : Program} {bound : Frame}

/-- A class type needs a class, and classes are not supported. -/
theorem type_ne_object (framed : Program.Framed scratch program bound) {declaration : VarDecl}
    (member : .varDecl declaration ∈ program) (className : String) :
    declaration.type ≠ .object className := by
  intro object
  cases framed.typed _ member with
  | varDecl declarationTyped =>
      rcases declarationTyped.resolved className object with ⟨members, found⟩
      rw [Scopes.lookup?_singleton] at found
      exact framed.extending.get?_ne_class framed.supported className members found

theorem slotType_eq (framed : Program.Framed scratch program bound) {declaration : VarDecl}
    (member : .varDecl declaration ∈ program) :
    bound.slotType declaration.name = declaration.type := by
  have entry := framed.extending.bound (declaration.name, .ofVariable declaration.type)
    (List.mem_filterMap.mpr ⟨_, member, rfl⟩)
  rw [Frame.slotType, entry]

/-- The slots of a program's variables have the types of the variables, and all other
slots are of integers. -/
theorem slotType_cases (framed : Program.Framed scratch program bound) (name : String) :
    bound.slotType name = .int ∨
      ∃ declaration : VarDecl, .varDecl declaration ∈ program ∧ declaration.name = name ∧
        bound.slotType name = declaration.type := by
  rw [Frame.slotType]
  split
  · next type entry =>
    have found : Scopes.lookup? [bound] name = some (.ofVariable type) :=
      (Scopes.lookup?_singleton bound name).trans entry
    rcases framed.extending.declared_of_variable found with
      ⟨declaration, member, named, rfl⟩
    exact .inr ⟨declaration, member, named, rfl⟩
  · exact .inl rfl

theorem slotType_scratch (framed : Program.Framed scratch program bound) :
    bound.slotType scratch = .int := by
  rcases framed.slotType_cases scratch with isInt | ⟨declaration, member, named, _⟩
  · exact isInt
  · exact absurd named (framed.fresh declaration member)

/-- A slot that has just been declared holds a word of its type. -/
theorem admits_zero (framed : Program.Framed scratch program bound) (name : String) :
    (bound.slotType name).Admits 0 := by
  rcases framed.slotType_cases name with isInt | ⟨declaration, member, _, same⟩
  · rw [isInt]
    trivial
  · rw [same]
    cases found : declaration.type with
    | int => trivial
    | bool => exact .inl rfl
    | none => rfl
    | object className => exact absurd found (framed.type_ne_object member className)

end Program.Framed

/-! ## Statements -/

namespace Stmt.Sets

variable {scratch name : String} {stmt : Stmt} {value : Expr}

/-- A checked statement sets the same variable, to the checked value. -/
theorem check_tree (sets : stmt.Sets scratch name value) {checker after : Checker}
    (passed : (stmt.check checker).EndsIn after) :
    ∃ type, (value.check checker.scopes).result = .ok type ∧
      (stmt.check checker).tree.Sets scratch name (value.check checker.scopes).tree := by
  cases sets with
  | @varDecl declaration =>
      rcases Checked.endsIn_ofAnnotated_iff.mp passed with ⟨declarationPassed, _⟩
      rw [VarDecl.check, Annotated.map_result] at declarationPassed
      rcases Annotated.after_eq_ok_iff.mp declarationPassed with ⟨_, condition, valuePassed⟩
      rcases Annotated.require_eq_ok_iff.mp valuePassed with ⟨type, valuePassed, _⟩
      refine ⟨type, valuePassed, ?_⟩
      rw [Stmt.check, Checked.map_tree, Checked.ofAnnotated_tree, VarDecl.check,
        Annotated.map_tree, Annotated.after_tree condition, Annotated.require_tree]
      exact .varDecl
  | @assign span mark _ value =>
      rcases Checked.endsIn_ofAnnotated_iff.mp passed with ⟨assignmentPassed, _⟩
      rcases Annotated.after_eq_ok_iff.mp assignmentPassed with ⟨_, condition, bothPassed⟩
      rcases Annotated.andThen_eq_ok_iff.mp bothPassed with
        ⟨type, valuePassed, targetPassed⟩
      rcases Annotated.require_eq_ok_iff.mp targetPassed with ⟨_, targetPassed, _⟩
      rcases Annotated.settle_tree targetPassed with ⟨filled, _, target⟩
      refine ⟨type, valuePassed, ?_⟩
      rw [Stmt.check, Checked.map_tree, Checked.ofAnnotated_tree, Expr.checkAssignment,
        Annotated.after_tree condition, Annotated.map_tree, Annotated.andThen_tree_fst,
        Annotated.andThen_tree_snd valuePassed, Annotated.require_tree, Expr.check, target]
      exact .assign
  | evaluate =>
      rcases Checked.endsIn_ofAnnotated_iff.mp passed with ⟨valuePassed, _⟩
      rcases Annotated.require_eq_ok_iff.mp valuePassed with ⟨type, valuePassed, _⟩
      exact ⟨type, valuePassed, .evaluate⟩

theorem printTypes_eq (sets : stmt.Sets scratch name value) :
    stmt.printTypes = value.printTypes := by
  cases sets <;> rfl

/-- What a statement sets a variable to fits the slot of the variable. -/
theorem fits {program : Program} {bound : Frame} (sets : stmt.Sets scratch name value)
    (framed : Program.Framed scratch program bound) (member : stmt ∈ program) :
    ∃ type, value.HasType [bound] type ∧
      ∀ word, type.Admits word → (bound.slotType name).Admits word := by
  have typed := framed.typed stmt member
  cases sets with
  | varDecl =>
      cases typed with
      | varDecl declarationTyped =>
          rcases declarationTyped.accepted with
            ⟨type, valueTyped, same | ⟨⟨className, object⟩, _⟩⟩
          · refine ⟨type, valueTyped, fun word admitted => ?_⟩
            rwa [framed.slotType_eq member, same]
          · exact absurd object (framed.type_ne_object member className)
  | assign =>
      cases typed with
      | assign _ targetTyped valueTyped =>
          cases targetTyped with
          | name found =>
              refine ⟨_, valueTyped, fun word admitted => ?_⟩
              rwa [Frame.slotType_of_variable found]
  | evaluate =>
      cases typed with
      | evaluate valueTyped =>
          refine ⟨_, valueTyped, fun word _ => ?_⟩
          rw [framed.slotType_scratch]
          trivial

end Stmt.Sets

/-- The code of a supported statement that passes its check is typed, and prints words
of the types that the check writes into the arguments. -/
theorem Stmt.lower_typed {program : Program} {bound : Frame} {scratch : String}
    {slots : List String} {after : Checker} {stmt : Stmt} (shape : Shape)
    (declared : ∀ name ∈ slots, name ∈ shape.declared)
    (framed : Program.Framed scratch program bound) (member : stmt ∈ program)
    (passed : (stmt.check ⟨[bound], []⟩).EndsIn after)
    (lowered : (stmt.lower scratch slots).outcome = .ok ()) :
    ∃ types, (stmt.check ⟨[bound], []⟩).tree.printTypes = types.map some ∧
      Instr.AllTyped bound.slotType shape (stmt.lower scratch slots).code
        (shape.record types) := by
  have supported := (framed.supported stmt member).1
  rcases Stmt.pass_or_sets scratch supported with ⟨span, rfl⟩ | ⟨name, value, sets⟩
  · refine ⟨[], rfl, ?_⟩
    rw [Shape.record_nil]
    exact .nil
  · rcases sets.fits framed member with ⟨type, valueTyped, fits⟩
    rcases sets.check_tree passed with ⟨_, valuePassed, treeSets⟩
    rcases sets.lower_eq slots with ⟨position, split⟩
    have erased := Expr.erase_check [bound] value
    have valueLower : (value.check [bound]).tree.lower slots = value.lower slots := by
      rw [← Expr.lower_erase, erased, Expr.lower_erase]
    rw [split, ← valueLower] at lowered ⊢
    rcases Lowered.append_outcome_eq_ok_iff.mp lowered with ⟨valueLowered, stored⟩
    have slotted := Lowered.onSlot_outcome_eq_ok_iff.mp stored
    obtain ⟨types, prints, valueCode⟩ := Expr.lower_typed shape declared _
      (valueTyped.of_erase_eq erased) (Expr.forall_labelled_check value valuePassed)
      valueLowered
    refine ⟨types, treeSets.printTypes_eq.trans prints, ?_⟩
    rw [Lowered.append_code valueLowered, Lowered.onSlot_of_mem _ _ slotted]
    exact valueCode.append (.single (.storeLocal (declared name slotted) fits))

/-- The code of supported statements that pass their checks is typed. -/
theorem Stmt.lowerAll_typed {program : Program} {bound : Frame} {scratch : String}
    {slots : List String} {after : Checker} {body : List Stmt} (shape : Shape)
    (declared : ∀ name ∈ slots, name ∈ shape.declared)
    (framed : Program.Framed scratch program bound)
    (members : ∀ stmt ∈ body, stmt ∈ program)
    (passed : (Stmt.checkAll ⟨[bound], []⟩ body).EndsIn after)
    (lowered : (Stmt.lowerAll scratch slots body).outcome = .ok ()) :
    ∃ types, Program.printTypes (Stmt.checkAll ⟨[bound], []⟩ body).tree = types.map some ∧
      Instr.AllTyped bound.slotType shape (Stmt.lowerAll scratch slots body).code
        (shape.record types) := by
  induction body generalizing shape with
  | nil =>
      refine ⟨[], rfl, ?_⟩
      rw [Shape.record_nil]
      exact .nil
  | cons stmt later inductionHypothesis =>
      rcases List.forall_mem_cons.mp members with ⟨stmtMember, laterMembers⟩
      rw [Stmt.checkAll] at passed ⊢
      rcases Checked.endsIn_andThen_iff.mp passed with ⟨_, stmtPassed, laterPassed⟩
      rw [Checked.map_tree, Checked.andThen_tree_fst, Checked.andThen_tree_snd stmtPassed]
      -- A supported statement leaves the scopes as they are.
      rcases Stmt.wellTyped_of_check stmt stmtPassed with ⟨_, rfl, stmtTyped⟩
      obtain rfl := stmtTyped.after_eq (framed.supported stmt stmtMember).1
      rw [Stmt.lowerAll] at lowered ⊢
      rcases Lowered.append_outcome_eq_ok_iff.mp lowered with ⟨stmtLowered, laterLowered⟩
      rcases Stmt.lower_typed shape declared framed stmtMember stmtPassed stmtLowered with
        ⟨types, prints, stmtCode⟩
      obtain ⟨laterTypes, laterPrint, laterCode⟩ := inductionHypothesis
        (shape.record types) declared laterMembers laterPassed laterLowered
      refine ⟨types ++ laterTypes, ?_, ?_⟩
      · rw [Program.printTypes, List.flatMap_cons, prints, List.map_append, ← laterPrint,
          Program.printTypes]
      · rw [Lowered.append_code stmtLowered, Shape.record_append]
        exact stmtCode.append laterCode

/-! ## Programs -/

/-- Supported statements are all judged in the same frame. -/
theorem Stmt.AllWellTyped.of_mem {outer : Scopes} {expected : Ty} {frame after : Frame}
    {body : List Stmt} {stmt : Stmt} (typed : Stmt.AllWellTyped outer expected frame body after)
    (supported : ∀ stmt ∈ body, stmt.Supported) (member : stmt ∈ body) :
    Stmt.WellTyped outer expected frame stmt frame := by
  induction body with
  | nil => cases member
  | cons first later inductionHypothesis =>
      rcases List.forall_mem_cons.mp supported with ⟨firstSupported, laterSupported⟩
      cases typed with
      | cons firstTyped laterTyped =>
          obtain rfl := firstTyped.after_eq firstSupported.1
          rcases List.mem_cons.mp member with rfl | member
          · exact firstTyped
          · exact inductionHypothesis laterTyped laterSupported member

theorem Instr.AllTyped.declarations {slotType : String → Ty} (slots : List String)
    (admitsZero : ∀ name, (slotType name).Admits 0) (shape : Shape) :
    Instr.AllTyped slotType shape (slots.map .localDeclare)
      { shape with declared := slots.reverse ++ shape.declared } := by
  induction slots generalizing shape with
  | nil => exact .nil
  | cons slot later inductionHypothesis =>
      rw [List.reverse_cons, List.append_assoc]
      exact .cons (.localDeclare (admitsZero slot))
        (inductionHypothesis { shape with declared := slot :: shape.declared })

/-- The whole code of a program is typed, from an empty machine on. -/
theorem Program.compile_allTyped {program typed : Program} {scratch : String}
    {code : List Instr} (accepted : program.typed = .ok typed)
    (compiled : ({ scratch := scratch } : Compiler).compile typed = .ok code)
    (fresh : ∀ declaration : VarDecl, .varDecl declaration ∈ program →
      declaration.name ≠ scratch) :
    ∃ bound after, Program.Framed scratch program bound ∧
      Instr.AllTyped bound.slotType {} code after ∧
        after.shown.map some = Program.printTypes typed := by
  rcases (Program.compile_eq_ok_iff accepted).mp compiled with ⟨supported, rfl⟩
  rcases Program.checkAll_of_typed accepted with ⟨bound, _, extending, checked, rfl⟩
  rcases Stmt.allWellTyped_of_checkAll program checked with ⟨_, _, allTyped⟩
  have framed : Program.Framed scratch program bound :=
    ⟨extending, supported, fun _ member => allTyped.of_mem supported member, fresh⟩
  have declarations := Instr.AllTyped.declarations (allocateBlock scratch [] program)
    framed.admits_zero {}
  obtain ⟨types, prints, statements⟩ := Stmt.lowerAll_typed
    { declared := (allocateBlock scratch [] program).reverse ++ [] }
    (fun name slotted => List.mem_append_left _ (List.mem_reverse.mpr slotted))
    framed (fun _ member => member) checked
    ((Program.wellTyped_of_typed accepted).lower_succeeds supported scratch)
  exact ⟨bound, _, framed, declarations.append statements, prints.symm⟩

theorem Machine.hasShape_of_started {σ : Type} {start : Machine σ} {host : σ}
    (started : start = .capturing host ∨ start = .writing host) (slotType : String → Ty) :
    start.HasShape slotType {} := by
  rcases started with rfl | rfl
  · exact ⟨.inl ⟨rfl, rfl⟩, by simp, by simp [Machine.capturing, Machine.link], .nil, .nil⟩
  · exact ⟨.inr ⟨rfl, rfl⟩, by simp, by simp [Machine.writing, Machine.link], .nil, .nil⟩

/-- Types bound what a program computes.  Run any part of its code that starts at the
beginning, on a fresh machine: the run gets through, no variable is of a class type,
the slot of a variable holds a word of the type of the variable as soon as it exists,
and the words that have been printed are, in order, of the types that the check has
written into the arguments of `print`. -/
theorem Program.run_compiled_respects_types {σ : Type} {program typed : Program}
    {scratch : String} {code done : List Instr} {start : Machine σ} (host : σ)
    (accepted : program.typed = .ok typed)
    (compiled : ({ scratch := scratch } : Compiler).compile typed = .ok code)
    (fresh : ∀ declaration : VarDecl, .varDecl declaration ∈ program →
      declaration.name ≠ scratch)
    (started : start = .capturing host ∨ start = .writing host)
    (begins : done <+: code) :
    ∃ after, start.run done = (after, .ok ()) ∧
      (∀ declaration : VarDecl, .varDecl declaration ∈ program →
        (∀ className, declaration.type ≠ .object className) ∧
          ∀ word, after.locals.get? declaration.name = some word →
            declaration.type.Admits word) ∧
      ∃ shown : List Ty, shown.map some <+: Program.printTypes typed ∧
        List.Forall₂ Ty.Admits shown (after.printed ++ after.written) := by
  rcases Program.compile_allTyped accepted compiled fresh with
    ⟨bound, last, framed, codeTyped, prints⟩
  rcases begins with ⟨rest, rfl⟩
  rcases codeTyped.split with ⟨shape, doneTyped, restTyped⟩
  rcases (Machine.hasShape_of_started started bound.slotType).executes doneTyped with
    ⟨after, executed, hasShape⟩
  refine ⟨after, Machine.run_eq_ok_iff.mpr executed, ?_, shape.shown, ?_, hasShape.shown⟩
  · intro declaration member
    refine ⟨framed.type_ne_object member, fun word found => ?_⟩
    rw [← framed.slotType_eq member]
    exact hasShape.locals declaration.name word found
  · rw [← prints]
    exact restTyped.shown_isPrefix.map some

/-- A program with a variable of each type that compiled programs have, which prints a
truth value, the null that this yields, and a number. -/
def signalProgram : Program :=
  let mark : Mark := { span := .null }
  let name (named : String) : Expr := .name mark named
  let print (argument : Expr) : Expr := .call mark "print" [argument]
  [.varDecl ⟨.null, "ready", .bool, .literal mark (.boolean false)⟩,
  .varDecl ⟨.null, "done", .none, .literal mark .none⟩,
  .varDecl ⟨.null, "count", .int, .literal mark (.number 7)⟩,
  .assign .null (name "ready") (.literal mark (.boolean true)),
  .assign .null (name "done") (print (print (name "ready"))),
  .evaluate .null (.unary mark .neg (name "count")),
  .evaluate .null (print (name "count"))]

/-- Halfway through, the machine has printed a truth value and nothing else. -/
theorem signalProgram_halfway :
    ∃ typed code done after,
      signalProgram.typed = .ok typed ∧
      ({ scratch := "$last" } : Compiler).compile typed = .ok code ∧
      done <+: code ∧ done ≠ code ∧
      (Machine.writing ()).run done = (after, .ok ()) ∧
      (∀ word, after.locals.get? "ready" = some word → word = 0 ∨ word = 1) ∧
      (∀ word, after.locals.get? "done" = some word → word = 0) ∧
      List.Forall₂ Ty.Admits [.bool] (after.printed ++ after.written) := by
  obtain ⟨typed, accepted, types⟩ : ∃ typed, signalProgram.typed = .ok typed ∧
      Program.printTypes typed = [some .bool, some .none, some .int] := ⟨_, rfl, rfl⟩
  have supported : ∀ stmt ∈ signalProgram, stmt.Supported :=
    Program.fault?_eq_none_iff.mp rfl
  obtain ⟨code, compiled, proper, prints⟩ : ∃ code,
      ({ scratch := "$last" } : Compiler).compile typed = .ok code ∧ code.take 14 ≠ code ∧
        (((Machine.writing ()).run (code.take 14)).1.printed ++
          ((Machine.writing ()).run (code.take 14)).1.written).length = 1 :=
    ⟨_, (Program.compile_eq_ok_iff accepted).mpr ⟨supported, rfl⟩, by decide, rfl⟩
  have names : ∀ stmt ∈ signalProgram, stmt.declaredName? ≠ some "$last" := by decide
  have fresh : ∀ declaration : VarDecl, .varDecl declaration ∈ signalProgram →
      declaration.name ≠ "$last" :=
    fun declaration member same => names _ member (congrArg some same)
  obtain ⟨after, ran, held, shown, begins, admitted⟩ :=
    Program.run_compiled_respects_types () accepted compiled fresh (.inr rfl)
      (List.take_prefix 14 code)
  refine ⟨typed, code, code.take 14, after, accepted, compiled, List.take_prefix 14 code,
    proper, ran, (held _ List.mem_cons_self).2,
    (held _ (List.mem_cons_of_mem _ List.mem_cons_self)).2, ?_⟩
  rw [ran] at prints
  rcases List.length_eq_one_iff.mp (admitted.length_eq.trans prints) with ⟨type, rfl⟩
  rw [types] at begins
  rcases begins with ⟨_, same⟩
  obtain rfl : type = .bool := Option.some.inj (List.cons.inj same).1
  exact admitted

end SlotLang
