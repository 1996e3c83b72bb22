import ClassCensus.Text.Blank
import ClassCensus.Text.Pieces

/-!
# Line specifications

A source file and a line with a colon between them. The last colon counts, so that a file name
may contain others.
-/

namespace ClassCensus.Cli

/-- Why a text is no line number. -/
inductive NumberFault where
  | empty
  | invalidDigit
  | tooLarge
deriving DecidableEq, Repr

/-- The wording of a fault. -/
def NumberFault.message : NumberFault → String
  | .empty => "cannot parse integer from empty string"
  | .invalidDigit => "invalid digit found in string"
  | .tooLarge => "number too large to fit in target type"

/-- Why a text is no line specification. -/
inductive LineSpecFault where
  | noColon
  | noFile
  | number (f : NumberFault)
deriving DecidableEq, Repr

/-- The wording of a fault of a specification, and of its cause. -/
def LineSpecFault.chain (spec : String) : LineSpecFault → List String
  | .noColon => ["Expected FILE:LINE, got: " ++ spec]
  | .noFile => ["Missing source file in: " ++ spec]
  | .number f => ["Invalid line number in: " ++ spec, f.message]

/-- The number that digits write after a number that has been read; all numbers stay below
2^32. -/
def readDigits (n : Nat) : List Char → Except NumberFault Nat
  | [] => .ok n
  | c :: rest =>
    if c.isDigit then
      let n := n * 10 + (c.toNat - 48)
      if 0x100000000 ≤ n then .error .tooLarge else readDigits n rest
    else .error .invalidDigit

/-- A line number, which may begin with a plus sign. -/
def readLineNumber : List Char → Except NumberFault Nat
  | [] => .error .empty
  | ['+'] => .error .invalidDigit
  | '+' :: digits => readDigits 0 digits
  | digits => readDigits 0 digits

/-- The file and the line of a specification. -/
def readLineSpec (spec : String) : Except LineSpecFault (String × UInt32) :=
  match Text.cutLast ':' spec.toList with
  | none => .error .noColon
  | some ([], _) => .error .noFile
  | some (file, line) =>
    match readLineNumber (Text.trim line) with
    | .ok n => .ok (String.ofList file, UInt32.ofNat n)
    | .error f => .error (.number f)

end ClassCensus.Cli
