import CommitGate.Outcome.Basic
import CommitGate.Text.Utf8

/-! # Export of outcomes

An outcome is handed to the later steps of a workflow through a file that gets one line for each. A line is
a name and a value with `=` between them, and JSON on one line is such a value.

* `Export.line` is the line of a value, `Export.append` adds it to what a file holds.
* `Export.appendOutcome` adds the line of an outcome, if that can be written.
-/

namespace CommitGate

namespace Export

/-- The name that later steps know outcomes by. -/
def key : String := "outcome"

/-- The line of a value. -/
def line (value : String) : String := key ++ "=" ++ value ++ "\n"

/-- What a file holds after the line of a value is added. A file that is not there holds nothing. -/
def append (content : Option Bytes) (value : String) : Bytes :=
  content.getD [] ++ Utf8.ofString (line value)

/-- The text of the fault when a file cannot be opened. -/
def openFault (path : String) : String := "failed to open output file " ++ path

/-- What a file holds after an outcome is exported. What cannot be written leaves the file as it is. -/
def appendOutcome (content : Option Bytes) (o : Outcome) : Option Bytes :=
  match o.written? with
  | some value => some (append content value)
  | none => content

end Export

end CommitGate
