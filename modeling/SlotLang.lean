import SlotLang.Compiler
import SlotLang.Diagnostic.Report
import SlotLang.Listing
import SlotLang.Machine
import SlotLang.Tree.Equality
import SlotLang.Proofs.Tree.Slotted
import SlotLang.Proofs.Check.Scoping
import SlotLang.Proofs.Check.Congruence
import SlotLang.Proofs.Check.Erasure
import SlotLang.Proofs.Check.Success
import SlotLang.Proofs.Typing.Expr
import SlotLang.Proofs.Typing.Stmt
import SlotLang.Proofs.Check.Declaration
import SlotLang.Proofs.Check.Sound
import SlotLang.Proofs.Check.Complete
import SlotLang.Proofs.Lower.Slots
import SlotLang.Proofs.Machine.Execution
import SlotLang.Proofs.Lower.Support
import SlotLang.Proofs.Evaluation
import SlotLang.Proofs.Lower.Simulation
import SlotLang.Proofs.Check.Annotation
import SlotLang.Proofs.Machine.Typing
import SlotLang.Proofs.Lower.Typing
import SlotLang.Proofs.Check.Discipline
import SlotLang.Proofs.Check.Outline
import SlotLang.Proofs.Check.Idempotence
import SlotLang.Proofs.Check.Veto
import SlotLang.Proofs.Typing.Rule
import SlotLang.Proofs.Typing.Sites
import SlotLang.Proofs.Check.Coherence
import SlotLang.Proofs.Check.InStep
import SlotLang.Proofs.Listing.RoundTrip
import SlotLang.Proofs.Check.Calls
import SlotLang.Proofs.Check.Shadowing
import SlotLang.Proofs.Check.Order
import SlotLang.Proofs.Check.Modular
import SlotLang.Proofs.Tree.Relabel
import SlotLang.Proofs.Check.Mirror
import SlotLang.Proofs.Check.Relabel.Stmt
import SlotLang.Proofs.Lower.Relabel
import SlotLang.Proofs.Renaming
import SlotLang.Proofs.Location
import SlotLang.Proofs.Lower.Continuation
import SlotLang.Proofs.Tree.Paths
import SlotLang.Proofs.Check.Flat
import SlotLang.Proofs.Lower.Provenance
import SlotLang.Proofs.Check.Session
import SlotLang.Proofs.Listing.Grammar
import SlotLang.Proofs.Listing.Reading
import SlotLang.Proofs.Machine.Outline
import SlotLang.Proofs.Lower.Layout
import SlotLang.Proofs.Diagnostic.Caret
import SlotLang.Proofs.Machine.Fault
import SlotLang.Proofs.Machine.Frame
import SlotLang.Proofs.Check.Visibility
import SlotLang.Proofs.Lower.Reuse
import SlotLang.Proofs.Check.Nesting
import SlotLang.Proofs.Lower.Emission
