import SlotLang.Diagnostic
import SlotLang.Text.Align
import SlotLang.Text.Blank
import SlotLang.Text.Line

/-!
# Reports

A report shows a diagnostic to the author of a program: a heading, the file, and,
if the position lies inside the source, the line with a caret beneath it.

```text
Error: NameError (`y` is not defined)
-> main
   |
20 | x = y + 1
   | ----^
```

The line is shown without its indentation, and the caret moves left with it.
Columns count bytes.
-/

namespace SlotLang.Diagnostic

/-- The heading of a report: the label, and the tip if there is one. -/
def heading (diagnostic : Diagnostic) : String :=
  match diagnostic.cause.tip? with
  | none => "Error: " ++ diagnostic.cause.label ++ "\n"
  | some tip => "Error: " ++ diagnostic.cause.label ++ " (" ++ tip ++ ")\n"

/-- The number of dashes before the caret: the column less the indentation that
is not shown. -/
def caretOffset (line : Text.Line) : Nat :=
  line.column - Text.byteSize (Text.leadingBlanks line.text.toList)

/-- A line of the source with its number, between a rule and the caret. -/
def excerpt (line : Text.Line) : String :=
  let number := line.number.repr
  let rule := Text.alignRight ' ' (number.length + 2) "|"
  let shown := String.ofList (Text.trim (Text.trimStart line.text.toList))
  rule ++ "\n" ++ number ++ " | " ++ shown ++ "\n" ++
    rule ++ " " ++ Text.alignRight '-' (caretOffset line + 1) "^" ++ "\n"

/-- The whole report of a diagnostic about a source kept in a file. -/
def report (diagnostic : Diagnostic) (source file : String) : String :=
  diagnostic.heading ++ "-> " ++ file ++ "\n" ++
    match Text.lineAt? source diagnostic.position.offset with
    | none => ""
    | some line => excerpt line

end SlotLang.Diagnostic
