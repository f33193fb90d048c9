import WebviewHost.Json.Printer
import WebviewHost.Json.Reader

/-!
# Values on the command line

Values are given as JSON text and printed as such. Where a plain string will do, a text that is not
JSON stands for itself.
-/

set_option autoImplicit false

namespace WebviewHost.Cli

def parseValue (text : String) : Json := (Json.read? text).getD (.string text)

def renderValue (value : Json) : String := value.pretty

/-- Arguments that have to be JSON. The first that is not is reported with its position, counted from
one. -/
def parseArguments (arguments : List String) : Except (Nat × String) (List Json) :=
  go 1 arguments
where
  /-- Read arguments of which the first has a given position. -/
  go : Nat → List String → Except (Nat × String) (List Json)
    | _, [] => .ok []
    | position, text :: rest =>
        match Json.read? text with
        | none => .error (position, text)
        | some value => (go (position + 1) rest).map (value :: ·)

end WebviewHost.Cli
