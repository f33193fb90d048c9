import WebviewHost.Files.Disk

/-!
# Failure reports

A failure says what did not work and why, from the outside in.
-/

set_option autoImplicit false

namespace WebviewHost.Cli

open WebviewHost.Files (splitAt)

/-- What did not work, and the causes of that, the nearest first. -/
structure Failure where
  summary : String
  causes : List String
  deriving DecidableEq, Repr

namespace Failure

def plain (summary : String) : Failure := ⟨summary, []⟩

/-- A failure seen from further outside. -/
def within (summary : String) (failure : Failure) : Failure :=
  ⟨summary, failure.summary :: failure.causes⟩

/-- Put a text in front of the first line of another one, and blanks of a given width in front of
every further line. -/
def hang (lead : String) (width : Nat) (text : String) : String :=
  let blanks := String.ofList (List.replicate width ' ')
  lead ++ ("\n" ++ blanks).intercalate ((splitAt '\n' text.toList).map String.ofList)

def numberText (n : Nat) : String :=
  let digits := Nat.toDigits 10 n
  String.ofList (List.replicate (5 - digits.length) ' ' ++ digits)

/-- The causes, one below the other, numbered unless there is just one. -/
def causeTexts : List String → List String
  | [] => []
  | [cause] => [hang "    " 4 cause]
  | causes => causes.zipIdx.map fun (cause, n) => hang (numberText n ++ ": ") 7 cause

def text (failure : Failure) : String :=
  let below :=
    if failure.causes.isEmpty then ""
    else "\n\nCaused by:\n" ++ "\n".intercalate (causeTexts failure.causes)
  "Error: " ++ failure.summary ++ below ++ "\n"

end Failure

end WebviewHost.Cli
