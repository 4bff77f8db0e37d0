import TextTable.Options.Basic
import TextTable.Options.Value
import TextTable.Text.Sorted

/-!
# Reading options

Options are read from a plain value (`Options.ofValue`). A field that is missing keeps its default,
and a field that the options do not know is ignored (`readField`). Numbers and truth values are read
generously, from texts too (`toInteger`, `toTruth`). Reading does not stop at the first mistake: all
of them are reported, field by field in the order in which the options list their fields, and each
with the path to its place.
-/

namespace TextTable

open Unicode (isBlank)

/-! ## Issues -/

/-- One step into a value. -/
inductive PathStep
  | key (name : Text)
  | index (i : Nat)
deriving DecidableEq

/-- What is wrong with a value. -/
inductive IssueKind
  | objectExpected
  | setExpected
  | textExpected
  /-- none of the names to choose from -/
  | choiceExpected
  | integerExpected
  /-- a text that is no integer -/
  | integerText
  /-- a number with a fraction -/
  | fraction
  /-- an integer below the least one allowed -/
  | tooSmall
  | truthExpected
  /-- a text or a number that is no truth value -/
  | truthText
deriving DecidableEq

/-- A mistake and its place. -/
structure Issue where
  path : List PathStep
  kind : IssueKind
deriving DecidableEq

/-- The same issue, seen from one step further out. -/
def Issue.under (step : PathStep) (issue : Issue) : Issue :=
  { issue with path := step :: issue.path }

/-! ## Checked values -/

/-- A value, or all that is wrong with its source. -/
abbrev Checked (α : Type) := Except (List Issue) α

namespace Checked

variable {α β : Type}

/-- A single issue, at the value itself. -/
def issue (kind : IssueKind) : Checked α := .error [⟨[], kind⟩]

/-- The value, with its issues placed under a step. -/
def under (step : PathStep) : Checked α → Checked α
  | .ok a => .ok a
  | .error issues => .error (issues.map (Issue.under step))

/-- Two values, or the issues of both. -/
def both : Checked α → Checked β → Checked (α × β)
  | .ok a, .ok b => .ok (a, b)
  | .ok _, .error issues => .error issues
  | .error issues, .ok _ => .error issues
  | .error issues, .error more => .error (issues ++ more)

end Checked

/-! ## Readers of single values -/

namespace Value

variable {α : Type}

/-- A text. -/
def toText : Value → Checked Text
  | .text t => .ok t
  | _ => Checked.issue .textExpected

/-- The texts of a list whose first item has index `i`. -/
def toTexts (i : Nat) : List Value → Checked (List Text)
  | [] => .ok []
  | v :: rest =>
    ((toText v).under (.index i)).both (toTexts (i + 1) rest) |>.map fun (t, ts) => t :: ts

/-- A set of texts, from a list. -/
def toTextSet : Value → Checked (List Text)
  | .list items => (toTexts 0 items).map Text.sortedSet
  | _ => Checked.issue .setExpected

/-- One of several named choices. -/
def toChoice (ofName? : Text → Option α) : Value → Checked α
  | .text t =>
    match ofName? t with
    | some a => .ok a
    | none => Checked.issue .choiceExpected
  | _ => Checked.issue .choiceExpected

/-- The number that decimal digits, white space around them aside, are read as. Nothing else is read
here: a sign, underscores between digits and a fraction of zeros (`+2`, `1_0`, `2.0`), all of which
a lenient reader of numbers takes, are refused. -/
def decimal? (t : Text) : Option Nat :=
  let digits := Text.trim t
  if digits ≠ [] ∧ digits.all Char.isDigit then
    some (digits.foldl (fun n c => 10 * n + (c.toNat - '0'.toNat)) 0)
  else none

/-- An integer: a number without a fraction, a truth value as 0 or 1, or decimal digits. -/
def toInteger : Value → Checked Int
  | .number digits places =>
    if digits % powerOfTen places = 0 then .ok (digits / powerOfTen places)
    else Checked.issue .fraction
  | .bool b => .ok (if b then 1 else 0)
  | .text t =>
    match decimal? t with
    | some n => .ok n
    | none => Checked.issue .integerText
  | _ => Checked.issue .integerExpected

/-- An integer that is at least 1. -/
def toPositive (v : Value) : Checked { n : Nat // 0 < n } :=
  match toInteger v with
  | .error issues => .error issues
  | .ok n => if h : 0 < n.toNat then .ok ⟨n.toNat, h⟩ else Checked.issue .tooSmall

/-- The texts that are read as "true", in small letters. -/
def trueTexts : List Text :=
  ["1".toList, "on".toList, "t".toList, "true".toList, "y".toList, "yes".toList]

/-- The texts that are read as "false", in small letters. -/
def falseTexts : List Text :=
  ["0".toList, "off".toList, "f".toList, "false".toList, "n".toList, "no".toList]

/-- A truth value: itself, the numbers 0 and 1, or one of some texts in letters of any size. -/
def toTruth : Value → Checked Bool
  | .bool b => .ok b
  | .number digits places =>
    if digits = 0 then .ok false
    else if digits = powerOfTen places then .ok true
    else Checked.issue .truthText
  | .text t =>
    if trueTexts.any (· = t.map Char.toLower) then .ok true
    else if falseTexts.any (· = t.map Char.toLower) then .ok false
    else Checked.issue .truthText
  | _ => Checked.issue .truthExpected

/-- The field with a name, or its default when it is missing. -/
def readField (fields : List (Text × Value)) (name : String) (default : α)
    (read : Value → Checked α) : Checked α :=
  match field? fields name.toList with
  | none => .ok default
  | some (key, v) => (read v).under (.key key)

end Value

/-! ## Readers of the options -/

open Value

/-- Reads how widths are measured. -/
def WidthOptions.ofValue : Value → Checked WidthOptions
  | .object fields =>
    (readField fields "normalize" true toTruth).both
      ((readField fields "wideOverrides" [] toTextSet).both
        ((readField fields "narrowOverrides" [] toTextSet).both
          (readField fields "treatAmbiguousAsWide" false toTruth)))
    |>.map fun (normalize, wide, narrow, ambiguous) =>
      { normalize, wideOverrides := wide, narrowOverrides := narrow, ambiguousIsWide := ambiguous }
  | _ => Checked.issue .objectExpected

/-- Reads all options. -/
def Options.ofValue : Value → Checked Options
  | .object fields =>
    (readField fields "leftMarginChars" [] toTextSet).both
      ((readField fields "formatType" .normal (toChoice FormatType.ofName?)).both
        ((readField fields "minDelimiterWidth" ⟨3, by decide⟩ toPositive).both
          ((readField fields "defaultAlignment" .left (toChoice Side.ofName?)).both
            ((readField fields "headerAlignment" .follow (toChoice HeaderAlignment.ofName?)).both
              ((readField fields "textWidthOptions" {} WidthOptions.ofValue).both
                (readField fields "smartCursor" false toTruth))))))
    |>.map fun (margin, format, dashes, side, header, widths, smart) =>
      { leftMarginChars := margin, formatType := format, minDelimiterWidth := dashes.1
        defaultAlignment := side, headerAlignment := header, widthOptions := widths
        smartCursor := smart, minDelimiterWidth_pos := dashes.2 }
  | _ => Checked.issue .objectExpected

end TextTable
