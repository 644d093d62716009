/-!
# What a program writes

An `Emission` is a piece of text for one of the two output channels, and a `Report` is what a run of
the program comes to: its emissions in order, the exit code, and whether the history is to be kept.
-/

namespace CrudByName

/-- A piece of output. -/
inductive Emission where
  /-- Text for the standard output, as it is. -/
  | out (text : String)
  /-- A line for the standard error. -/
  | err (line : String)
  deriving DecidableEq, Repr

namespace Emission

/-- What an emission adds to the standard output. -/
def outText : Emission → String
  | out text => text
  | err _ => ""

/-- What an emission adds to the standard error. -/
def errText : Emission → String
  | out _ => ""
  | err line => line ++ "\n"

/-- The line that reports a failure. -/
def failure (message : String) : Emission :=
  err s!"Error: {message}"

/-- What is written for a reply: its text, or the message of its error. -/
def ofReply : Except String String → Emission
  | .ok text => out text
  | .error message => failure message

end Emission

/-- What a run of the program comes to. -/
structure Report where
  emissions : List Emission
  code : Nat
  keepsHistory : Bool := false
  deriving DecidableEq, Repr

namespace Report

/-- All that is written to the standard output. -/
def stdout (r : Report) : String :=
  String.join (r.emissions.map Emission.outText)

/-- All that is written to the standard error. -/
def stderr (r : Report) : String :=
  String.join (r.emissions.map Emission.errText)

/-- The report with something written before it. -/
def after (earlier : List Emission) (r : Report) : Report :=
  { r with emissions := earlier ++ r.emissions }

end Report

end CrudByName
