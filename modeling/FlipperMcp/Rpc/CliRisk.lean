import FlipperMcp.Python.Text

/-! # Risk classification of CLI commands

`cli_risk.classify` matches the words of a command line against an ordered
denylist. What is not listed is benign.
-/

namespace FlipperMcp

namespace CliRisk

/-- `Category`. -/
inductive Category
  | benign
  | transmit
  | destructive
  deriving DecidableEq

/-- The name of a category. -/
def Category.name : Category → String
  | benign => "benign"
  | transmit => "transmit"
  | destructive => "destructive"

/-- `DENYLIST`. -/
def denylist : List (String × Category) :=
  [("subghz tx", .transmit), ("ir tx", .transmit), ("rfid write", .transmit),
    ("ikey write", .transmit), ("factory reset", .destructive), ("storage format", .destructive),
    ("update install", .destructive), ("power off", .destructive), ("power reboot", .destructive)]

/-- `_WARNINGS`. -/
def warnings : Category → Option String
  | .transmit => some <|
      "This command makes the Flipper TRANSMIT on a radio/RF interface. " ++
      "Transmitting outside permitted frequencies/power is illegal in most " ++
      "regions and is your responsibility. Re-call with " ++
      "i_accept_responsibility=true (and FLIPPER_ENABLE_TX_TOOLS=true on the " ++
      "server) to proceed."
  | .destructive => some <|
      "This command is destructive (data loss, reset, or reboot). Re-call with " ++
      "i_accept_responsibility=true (and FLIPPER_ENABLE_TX_TOOLS=true on the " ++
      "server) to proceed."
  | .benign => none

/-- `Risk`. -/
structure Risk where
  category : Category
  gated : Bool
  warning : Option String
  deriving DecidableEq

/-- `_normalize(command)`. -/
def normalize (command : String) : String :=
  " ".intercalate (Python.split (Python.lower (Python.strip command)))

/-- A rule matches the whole line or the line up to a space. -/
def matchesRule (normalized : String) (rule : String × Category) : Bool :=
  normalized = rule.1 || Python.startsWith (rule.1 ++ " ") normalized

/-- `classify(command)`: the first rule that matches. -/
def classify (command : String) : Risk :=
  match denylist.find? (matchesRule (normalize command)) with
  | some (_, category) => { category, gated := true, warning := warnings category }
  | none => { category := .benign, gated := false, warning := none }

end CliRisk

end FlipperMcp
