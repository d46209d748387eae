import Concordance.Json.Settings
import Concordance.Query.Compile

/-!
Options of the compiler from text.
-/

namespace Concordance

open Json

namespace Threshold

def ofName? : String → Option Threshold
  | "required_terminals" => some requiredTerminals
  | "terminal_count" => some terminalCount
  | _ => none

end Threshold

namespace CompilerOptions

def thresholdSetting : Setting Threshold where
  name := "minimum_should_match"
  read? chars := do
    let (name, rest) ← Setting.choice? chars
    return (← Threshold.ofName? name, rest)

def termLimitSetting : Setting Nat where
  name := "dnf_term_limit"
  read? := Setting.natural?

/-- What a text leaves out has its default. -/
def ofText (text : String) : Except Error CompilerOptions :=
  match Setting.parse? thresholdSetting termLimitSetting text with
  | some (threshold, termLimit) =>
    .ok ⟨threshold.getD .requiredTerminals, termLimit.getD 256⟩
  | none => .error .badOptions

end CompilerOptions

end Concordance
