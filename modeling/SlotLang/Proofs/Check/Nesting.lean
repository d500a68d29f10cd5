import SlotLang.Proofs.Check.Shadowing

/-!
# Nested operations on scopes

Scopes are opened and closed, and names are bound in the innermost one.  A sequence of such
operations is balanced if it closes the scopes that it opens and no others.  In a scope of
its own it leaves no trace, however often it binds a name that is taken.

What a name denotes on the way is settled by the operations so far.  Of the definitions of
the name in one scope the first one counts, and of the scopes that are still open the last
one that was opened.  The frames record exactly this: the frame with so many scopes inside
it holds the first definitions that have so many open scopes behind them.
-/

namespace SlotLang

/-! ## Sequences of operations -/

/-- The operations on the scopes of a checker. -/
inductive ScopeOp where
  | enter
  | leave
  | define (name : String) (symbol : Symbol) (position : Position)

namespace Checker

/-- Perform one operation. -/
def perform (checker : Checker) : ScopeOp → Checked Unit
  | .enter => checker.enter
  | .leave => checker.leave
  | .define name symbol position => checker.define name symbol position

/-- The state to go on from after an operation.  A name that is taken is no reason to stop,
but a misuse is. -/
def advance (checker : Checker) (op : ScopeOp) : Except Misuse Checker :=
  match (checker.perform op).outcome with
  | .error (.misused misuse) => .error misuse
  | _ => .ok (checker.perform op).checker

/-- The state after several operations, if none of them is a misuse. -/
def performAll (checker : Checker) (ops : List ScopeOp) : Except Misuse Checker :=
  ops.foldlM advance checker

theorem performAll_cons {checker next : Checker} {op : ScopeOp}
    (advanced : checker.advance op = .ok next) (later : List ScopeOp) :
    checker.performAll (op :: later) = next.performAll later := by
  rw [performAll, List.foldlM_cons, advanced]
  rfl

theorem performAll_append {checker between : Checker} {first : List ScopeOp}
    (performed : checker.performAll first = .ok between) (second : List ScopeOp) :
    checker.performAll (first ++ second) = between.performAll second := by
  rw [performAll] at performed
  rw [performAll, List.foldlM_append, performed]
  rfl

end Checker

namespace ScopeOp

/-- The number of scopes that are open inside some scope, after an operation there.  There
is none if the operation closes the scope itself. -/
def nest : Nat → ScopeOp → Option Nat
  | inside, enter => some (inside + 1)
  | 0, leave => none
  | inside + 1, leave => some inside
  | inside, define _ _ _ => some inside

/-- The number of scopes that a sequence opens and leaves open, if it closes none that it
has not opened. -/
def nesting (ops : List ScopeOp) : Option Nat :=
  ops.foldlM nest 0

/-- Every scope that is closed has been opened by the sequence, and every scope that has
been opened is closed. -/
def Balanced (ops : List ScopeOp) : Prop :=
  nesting ops = some 0

theorem nesting_append (first second : List ScopeOp) :
    nesting (first ++ second) =
      (nesting first).bind fun inside => second.foldlM nest inside :=
  List.foldlM_append

theorem nesting_concat (ops : List ScopeOp) (op : ScopeOp) :
    nesting (ops ++ [op]) = (nesting ops).bind fun inside => nest inside op := by
  rw [nesting_append]
  simp

/-- The front of a sequence closes no scopes of others if the whole does not. -/
theorem exists_nesting_of_append {first second : List ScopeOp} {inside : Nat}
    (nested : nesting (first ++ second) = some inside) :
    ∃ between, nesting first = some between := by
  rw [nesting_append] at nested
  rcases Option.bind_eq_some_iff.mp nested with ⟨between, front, -⟩
  exact ⟨between, front⟩

/-- Definitions between two balanced sequences leave the whole balanced. -/
theorem Balanced.append_define {first second : List ScopeOp} (balanced : Balanced first)
    (laterBalanced : Balanced second) (name : String) (symbol : Symbol)
    (position : Position) : Balanced (first ++ define name symbol position :: second) := by
  rw [Balanced, nesting_append, balanced]
  exact laterBalanced

/-! ## What the operations bind -/

/-- A name has been defined before in the scope that is now the innermost one: all scopes
that were opened since then are closed. -/
def Taken (done : List ScopeOp) (name : String) : Prop :=
  ∃ early symbol position late,
    done = early ++ define name symbol position :: late ∧ Balanced late

/-- `Binds done inside name symbol`: the first definition of the name in a scope gives it
the symbol, and the scope is still open, with so many scopes inside. -/
def Binds (done : List ScopeOp) (inside : Nat) (name : String) (symbol : Symbol) : Prop :=
  ∃ early position late,
    done = early ++ define name symbol position :: late ∧ ¬ Taken early name ∧
      nesting late = some inside

/-- The answer to a lookup: the symbol that a name is bound to in the innermost scope that
binds it, or else what it denotes in the scopes around. -/
inductive Answers (scopes : Scopes) (done : List ScopeOp) (name : String) :
    Option Symbol → Prop where
  | bound {inside : Nat} {symbol : Symbol} (binds : Binds done inside name symbol)
      (innermost : ∀ closer < inside, ∀ other, ¬ Binds done closer name other) :
      Answers scopes done name (some symbol)
  | unbound (free : ∀ inside symbol, ¬ Binds done inside name symbol) :
      Answers scopes done name (scopes.lookup? name)

/-- If a name is taken, then by a first definition. -/
theorem Taken.exists_binds {done : List ScopeOp} {name : String} (taken : Taken done name) :
    ∃ symbol, Binds done 0 name symbol := by
  rcases taken with ⟨early, symbol, position, late, split, balanced⟩
  by_cases before : Taken early name
  · -- An earlier definition in the same scope has nothing open behind it here either.
    have shorter : early.length < done.length := by
      rw [split, List.length_append, List.length_cons]
      omega
    rcases before.exists_binds with ⟨other, first, firstPosition, between, rfl, isFirst, nested⟩
    refine ⟨other, first, firstPosition, between ++ define name symbol position :: late, ?_,
      isFirst, Balanced.append_define nested balanced name symbol position⟩
    rw [split, List.append_assoc]
    rfl
  · exact ⟨symbol, early, position, late, split, before, balanced⟩
termination_by done.length

section

variable {done : List ScopeOp} {op : ScopeOp} {inside : Nat} {name : String} {symbol : Symbol}

/-- A further operation may be a first definition itself, and takes the earlier ones along
as long as their scopes stay open. -/
theorem binds_concat_iff :
    Binds (done ++ [op]) inside name symbol ↔
      (∃ position, op = define name symbol position ∧ ¬ Taken done name ∧ inside = 0) ∨
        ∃ before, Binds done before name symbol ∧ nest before op = some inside := by
  constructor
  · rintro ⟨early, position, late, split, first, nested⟩
    rcases List.eq_nil_or_concat late with rfl | ⟨late, last, rfl⟩
    · rcases List.append_inj' split rfl with ⟨rfl, same⟩
      cases same
      cases nested
      exact .inl ⟨position, rfl, first, rfl⟩
    · rw [List.concat_eq_append, ← List.cons_append, ← List.append_assoc] at split
      rcases List.append_inj' split rfl with ⟨rfl, same⟩
      cases same
      rw [List.concat_eq_append, nesting_concat] at nested
      rcases Option.bind_eq_some_iff.mp nested with ⟨before, lateNested, stepped⟩
      exact .inr ⟨before, ⟨early, position, late, rfl, first, lateNested⟩, stepped⟩
  · rintro (⟨position, rfl, first, rfl⟩ | ⟨before, ⟨early, position, late, rfl, first,
      nested⟩, stepped⟩)
    · exact ⟨done, position, [], rfl, first, rfl⟩
    · refine ⟨early, position, late ++ [op], List.append_assoc _ _ _, first, ?_⟩
      rw [nesting_concat, nested]
      exact stepped

/-- A definition leaves all scopes open, and counts if its name is new in the innermost. -/
theorem binds_concat_define_iff {position : Position} {other : String}
    {otherSymbol : Symbol} :
    Binds (done ++ [define name symbol position]) inside other otherSymbol ↔
      (other = name ∧ otherSymbol = symbol ∧ ¬ Taken done name ∧ inside = 0) ∨
        Binds done inside other otherSymbol := by
  rw [binds_concat_iff]
  constructor
  · rintro (⟨_, same, new, innermost⟩ | ⟨before, binds, stepped⟩)
    · cases same
      exact .inl ⟨rfl, rfl, new, innermost⟩
    · cases stepped
      exact .inr binds
  · rintro (⟨rfl, rfl, new, innermost⟩ | binds)
    · exact .inl ⟨position, rfl, new, innermost⟩
    · exact .inr ⟨inside, binds, rfl⟩

theorem taken_iff_exists_binds : Taken done name ↔ ∃ symbol, Binds done 0 name symbol := by
  constructor
  · exact Taken.exists_binds
  · rintro ⟨symbol, early, position, late, split, -, nested⟩
    exact ⟨early, symbol, position, late, split, nested⟩

end

end ScopeOp

/-! ## What the frames record -/

/-- The binding of a name in the frame with so many scopes inside it. -/
def Scopes.bindingAt? (scopes : Scopes) (inside : Nat) (name : String) : Option Symbol :=
  scopes[inside]?.bind fun frame => frame.get? name

/-- What a lookup finds is bound in some frame, and in none inside it. -/
theorem Scopes.bindingAt?_of_lookup? {scopes : Scopes} {name : String} {symbol : Symbol}
    (found : scopes.lookup? name = some symbol) :
    ∃ inside, scopes.bindingAt? inside name = some symbol ∧
      ∀ closer < inside, scopes.bindingAt? closer name = none := by
  rcases List.findSome?_eq_some_iff.mp found with ⟨inner, frame, outer, rfl, bound, unbound⟩
  refine ⟨inner.length, ?_, ?_⟩
  · simpa [bindingAt?] using bound
  · intro closer isCloser
    rw [bindingAt?, List.getElem?_append_left isCloser, List.getElem?_eq_getElem isCloser]
    exact unbound _ (List.getElem_mem isCloser)

theorem Scopes.bindingAt?_eq_none {scopes : Scopes} {name : String}
    (missing : scopes.lookup? name = none) (inside : Nat) :
    scopes.bindingAt? inside name = none := by
  rw [bindingAt?, Option.bind_eq_none_iff]
  intro frame listed
  exact List.findSome?_eq_none_iff.mp missing frame (List.mem_of_getElem? listed)

namespace ScopeOp

/-- The frames of the scopes that some operations leave open, the innermost one first, and
at the end that of the scope around them.  They hold what the operations bind. -/
structure Recorded (done : List ScopeOp) (frame : Frame) (outer : List Frame) : Prop where
  nested : nesting done = some outer.length
  binds : ∀ inside name symbol,
    Scopes.bindingAt? (frame :: outer) inside name = some symbol ↔
      Binds done inside name symbol

namespace Recorded

variable {done : List ScopeOp} {frame : Frame} {outer : List Frame}

theorem nil : Recorded [] ∅ [] where
  nested := rfl
  binds := by
    intro inside name symbol
    constructor
    · intro bound
      cases inside <;> cases bound
    · rintro ⟨early, position, late, split, -⟩
      simp at split

theorem nesting_after (recorded : Recorded done frame outer) (op : ScopeOp) :
    nesting (done ++ [op]) = nest outer.length op := by
  rw [nesting_concat, recorded.nested]
  rfl

theorem taken_iff (recorded : Recorded done frame outer) (name : String) :
    Taken done name ↔ frame.contains name = true := by
  rw [taken_iff_exists_binds]
  simp only [← recorded.binds]
  exact Option.isSome_iff_exists.symm

theorem contains_of_new (recorded : Recorded done frame outer) {name : String}
    (new : ¬ Taken done name) : frame.contains name = false :=
  Bool.eq_false_iff.mpr (mt (recorded.taken_iff name).mpr new)

theorem enter (recorded : Recorded done frame outer) :
    Recorded (done ++ [.enter]) ∅ (frame :: outer) where
  nested := recorded.nesting_after _
  binds := by
    intro inside name symbol
    rw [binds_concat_iff]
    cases inside with
    | zero => simp [Scopes.bindingAt?, nest]
    | succ inside =>
        change Scopes.bindingAt? (frame :: outer) inside name = some symbol ↔ _
        rw [recorded.binds]
        simp [nest]

theorem leave {next : Frame} (recorded : Recorded done frame (next :: outer)) :
    Recorded (done ++ [.leave]) next outer where
  nested := recorded.nesting_after _
  binds := by
    intro inside name symbol
    have bound := recorded.binds (inside + 1) name symbol
    change Scopes.bindingAt? (next :: outer) inside name = some symbol ↔ _ at bound
    rw [bound, binds_concat_iff]
    constructor
    · intro binds
      exact .inr ⟨inside + 1, binds, rfl⟩
    · rintro (⟨_, isDefine, _⟩ | ⟨before, binds, stepped⟩)
      · cases isDefine
      · cases before with
        | zero => cases stepped
        | succ before =>
            cases stepped
            exact binds

theorem define_of_taken (recorded : Recorded done frame outer) {name : String}
    (taken : Taken done name) (symbol : Symbol) (position : Position) :
    Recorded (done ++ [.define name symbol position]) frame outer where
  nested := recorded.nesting_after _
  binds := by
    intro inside other otherSymbol
    rw [recorded.binds, binds_concat_define_iff]
    constructor
    · exact .inr
    · rintro (⟨_, _, new, _⟩ | binds)
      · exact absurd taken new
      · exact binds

theorem define_of_new (recorded : Recorded done frame outer) {name : String}
    (new : ¬ Taken done name) (symbol : Symbol) (position : Position) :
    Recorded (done ++ [.define name symbol position]) (Table.insert frame name symbol)
      outer where
  nested := recorded.nesting_after _
  binds := by
    intro inside other otherSymbol
    have before := recorded.binds inside other otherSymbol
    rw [binds_concat_define_iff, ← before]
    cases inside with
    | succ inside => simp [Scopes.bindingAt?]
    | zero =>
        have unbound : frame.get? name = none := by
          simpa [Table.contains] using recorded.contains_of_new new
        simp only [Scopes.bindingAt?, List.getElem?_cons_zero, Option.bind_some,
          Table.get?_insert]
        by_cases same : other = name
        · subst same
          simp [unbound, new, eq_comm]
        · simp [same]

end Recorded

end ScopeOp

/-! ## Runs -/

namespace Checker

open ScopeOp

variable {done : List ScopeOp} {frame : Frame} {outer : List Frame} {scopes : Scopes}
  {returnTypes : List Ty}

/-- A name that is taken is refused, and nothing changes. -/
theorem define_of_taken {name : String} (taken : frame.contains name = true)
    (symbol : Symbol) (position : Position) :
    define name symbol position ⟨frame :: scopes, returnTypes⟩ =
      { tree := ()
        checker := ⟨frame :: scopes, returnTypes⟩
        outcome := .error (.rejected
          { cause := .duplicateDefinition name, position := position })
        events := [] } := by
  simp only [define, Scopes.define, taken, if_true]

/-- A new name is bound in the innermost frame. -/
theorem define_of_new {name : String} (new : frame.contains name = false)
    (symbol : Symbol) (position : Position) :
    define name symbol position ⟨frame :: scopes, returnTypes⟩ =
      { tree := ()
        checker := ⟨Table.insert frame name symbol :: scopes, returnTypes⟩
        outcome := .ok ()
        events := [.defined symbol name scopes.length] } := by
  simp only [define, Scopes.define, new, Bool.false_eq_true, if_false]
  rfl

/-- An operation that closes no scope of others is no misuse, and the frames record it. -/
theorem advance_recorded (recorded : Recorded done frame outer) {op : ScopeOp} {inside : Nat}
    (nested : nesting (done ++ [op]) = some inside) :
    ∃ newFrame newOuter,
      advance ⟨frame :: (outer ++ scopes), returnTypes⟩ op =
          .ok ⟨newFrame :: (newOuter ++ scopes), returnTypes⟩ ∧
        Recorded (done ++ [op]) newFrame newOuter := by
  cases op with
  | enter => exact ⟨∅, frame :: outer, rfl, recorded.enter⟩
  | leave =>
      cases outer with
      | nil =>
          rw [recorded.nesting_after] at nested
          cases nested
      | cons next outer => exact ⟨next, outer, rfl, recorded.leave⟩
  | define name symbol position =>
      by_cases taken : Taken done name
      · refine ⟨frame, outer, ?_, recorded.define_of_taken taken symbol position⟩
        rw [advance, perform, define_of_taken ((recorded.taken_iff name).mp taken)]
      · refine ⟨Table.insert frame name symbol, outer, ?_,
          recorded.define_of_new taken symbol position⟩
        rw [advance, perform, define_of_new (recorded.contains_of_new taken)]

/-- What holds of one operation holds of a sequence. -/
theorem performAll_recorded (recorded : Recorded done frame outer) {later : List ScopeOp}
    {inside : Nat} (nested : nesting (done ++ later) = some inside) :
    ∃ newFrame newOuter,
      performAll ⟨frame :: (outer ++ scopes), returnTypes⟩ later =
          .ok ⟨newFrame :: (newOuter ++ scopes), returnTypes⟩ ∧
        Recorded (done ++ later) newFrame newOuter := by
  induction later generalizing done frame outer with
  | nil =>
      rw [List.append_nil]
      exact ⟨frame, outer, rfl, recorded⟩
  | cons op later inductionHypothesis =>
      rw [List.append_cons] at nested
      rcases exists_nesting_of_append nested with ⟨between, opNested⟩
      rcases advance_recorded recorded opNested with ⟨_, _, advanced, opRecorded⟩
      rw [performAll_cons advanced, List.append_cons]
      exact inductionHypothesis opRecorded nested

/-- In a scope of their own, operations that close no scope of others are performed without
a misuse, and the frames record them. -/
theorem performAll_inside (checker : Checker) {inside : Nat}
    (nested : nesting done = some inside) :
    ∃ frame outer,
      checker.performAll (.enter :: done) =
          .ok ⟨frame :: (outer ++ checker.scopes), checker.returnTypes⟩ ∧
        Recorded done frame outer := by
  have entered : checker.advance .enter =
    .ok ⟨∅ :: ([] ++ checker.scopes), checker.returnTypes⟩ := rfl
  rw [performAll_cons entered]
  exact performAll_recorded .nil nested

end Checker

/-- A lookup finds what the operations have bound, or else what was bound before. -/
theorem ScopeOp.Recorded.answers {done : List ScopeOp} {frame : Frame} {outer : List Frame}
    (recorded : Recorded done frame outer) (scopes : Scopes) (name : String) :
    Answers scopes done name (Scopes.lookup? (frame :: (outer ++ scopes)) name) := by
  rw [← List.cons_append, Scopes.lookup?_append]
  cases found : Scopes.lookup? (frame :: outer) name with
  | none =>
      rw [Option.none_or]
      apply Answers.unbound
      intro inside symbol binds
      have bound := (recorded.binds inside name symbol).mpr binds
      rw [Scopes.bindingAt?_eq_none found] at bound
      cases bound
  | some symbol =>
      rw [Option.some_or]
      rcases Scopes.bindingAt?_of_lookup? found with ⟨inside, bound, hidden⟩
      apply Answers.bound ((recorded.binds inside name symbol).mp bound)
      intro closer isCloser other binds
      have closerBound := (recorded.binds closer name other).mpr binds
      rw [hidden closer isCloser] at closerBound
      cases closerBound

/-- Balanced operations in a scope of their own restore the state exactly, without a
misuse.  At any point on the way, a name denotes the symbol of its first definition in the
innermost scope that is still open and defines it, and otherwise what it denoted before; and
a definition succeeds if its name is new in its scope, or else is refused as a duplicate and
changes nothing. -/
theorem Checker.balanced_operations_cancel (checker : Checker) {ops : List ScopeOp}
    (balanced : ScopeOp.Balanced ops) :
    checker.performAll (.enter :: ops ++ [.leave]) = .ok checker ∧
      ∀ done, done <+: ops → ∃ inside, checker.performAll (.enter :: done) = .ok inside ∧
        (∀ name, ScopeOp.Answers checker.scopes done name (inside.scopes.lookup? name)) ∧
        ∀ name symbol position,
          (¬ ScopeOp.Taken done name →
            (inside.define name symbol position).outcome = .ok ()) ∧
          (ScopeOp.Taken done name →
            (inside.define name symbol position).outcome = .error (.rejected
                { cause := .duplicateDefinition name, position := position }) ∧
              (inside.define name symbol position).checker = inside) := by
  constructor
  · rcases checker.performAll_inside balanced with ⟨frame, outer, performed, recorded⟩
    have noneOpen : outer.length = 0 :=
      Option.some.inj (recorded.nested.symm.trans balanced)
    obtain rfl := List.eq_nil_of_length_eq_zero noneOpen
    rw [performAll_append performed]
    rfl
  · rintro done ⟨later, rfl⟩
    rcases ScopeOp.exists_nesting_of_append balanced with ⟨count, nested⟩
    rcases checker.performAll_inside nested with ⟨frame, outer, performed, recorded⟩
    refine ⟨_, performed, recorded.answers checker.scopes, ?_⟩
    intro name symbol position
    constructor
    · intro new
      rw [define_of_new (recorded.contains_of_new new)]
    · intro taken
      rw [define_of_taken ((recorded.taken_iff name).mp taken)]
      exact ⟨rfl, rfl⟩

/-- A name is defined twice in one scope, and again in a scope inside, which stays open. -/
def openLayers : List ScopeOp :=
  [.define "size" (.ofVariable .int) .null, .define "size" (.ofVariable .none) .null,
    .enter, .define "size" (.ofVariable .bool) .null]

/-- A further scope comes and goes before the open one is closed. -/
def closeLayers : List ScopeOp :=
  [.enter, .define "size" (.ofVariable .int) .null, .leave, .leave]

/-- Where the inner scope is open, the name denotes what it was defined as there.  It cannot
be defined there again, but another name can. -/
theorem layers_cancel :
    let checker : Checker := ⟨[Table.insert ∅ "size" (.ofVariable (.object "Size"))], []⟩
    ScopeOp.Balanced (openLayers ++ closeLayers) ∧
      checker.performAll (.enter :: (openLayers ++ closeLayers) ++ [.leave]) = .ok checker ∧
      ∃ inside, checker.performAll (.enter :: openLayers) = .ok inside ∧
        ScopeOp.Answers checker.scopes openLayers "size" (inside.scopes.lookup? "size") ∧
        inside.scopes.lookup? "size" = some (.ofVariable .bool) ∧
        (ScopeOp.Taken openLayers "size" ∧
          (inside.define "size" (.ofVariable .int) .null).outcome = .error (.rejected
            { cause := .duplicateDefinition "size", position := .null }) ∧
          (inside.define "size" (.ofVariable .int) .null).checker = inside) ∧
        ¬ ScopeOp.Taken openLayers "kind" ∧
          (inside.define "kind" (.ofVariable .int) .null).outcome = .ok () := by
  intro checker
  have balanced : ScopeOp.Balanced (openLayers ++ closeLayers) := rfl
  have taken : ScopeOp.Taken openLayers "size" :=
    ⟨openLayers.take 3, .ofVariable .bool, .null, [], rfl, rfl⟩
  have new : ¬ ScopeOp.Taken openLayers "kind" := by
    rintro ⟨early, symbol, position, late, split, -⟩
    have defined : .define "kind" symbol position ∈ openLayers := by
      rw [split]
      exact List.mem_append_right early List.mem_cons_self
    simp [openLayers] at defined
  rcases checker.balanced_operations_cancel balanced with ⟨restored, onTheWay⟩
  rcases onTheWay openLayers (List.prefix_append _ _) with
    ⟨inside, performed, answers, definitions⟩
  have found : inside.scopes.lookup? "size" = some (.ofVariable .bool) := by
    cases performed
    rfl
  exact ⟨balanced, restored, inside, performed, answers "size", found,
    ⟨taken, (definitions _ _ _).2 taken⟩, new, (definitions _ _ _).1 new⟩

end SlotLang
