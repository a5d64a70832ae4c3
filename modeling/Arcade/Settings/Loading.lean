import Arcade.Json.Display
import Arcade.Json.Reader
import Arcade.Settings.EnvironmentFile
import Arcade.Settings.Standard
import Arcade.Text.Uppercase

/-!
# Loading settings

The standard settings are overridden by a settings file and the result by variables of the
environment. A file that is not JSON is passed over, unless its values lie too deep. Some settings
tell how much is logged.
-/

namespace Arcade.Settings

/-- The variables of the environment that override a setting: the variable, the section and the
name of the setting in it. -/
def overrides : List (String × String × String) :=
  [("GAMEVERSE_LOG_LEVEL", "system", "log_level"),
    ("GAMEVERSE_STORAGE_BACKEND", "storage", "backend"),
    ("GAMEVERSE_DB_PATH", "storage", "db_path"),
    ("GAMEVERSE_VOICE_LANG", "voice", "lang")]

/-- The standard settings with those of a file merged over them. -/
def withFile (file : Option String) : Except Fault Settings :=
  match file with
  | none => .ok standard
  | some text =>
    match Json.read text with
    | .error .tooDeep => .error .tooDeep
    | .error _ => .ok standard
    | .ok (.obj members) => .ok (standard.merge members)
    | .ok _ => .error .noOperation

/-- The settings with those that variables of the environment override. An empty variable overrides
nothing. -/
def withVariables (s : Settings) (environment : Dict String) : Except Fault Settings :=
  overrides.foldlM (fun s row =>
    match environment.get? row.1 with
    | none | some "" => .ok s
    | some value => s.put row.2.1 row.2.2 (.str value)) s

/-- The settings of a file and an environment, where an environment file adds variables. -/
def load (file environmentFile : Option String) (environment : Dict String) :
    Except Fault Settings := do
  if [file, environmentFile].any fun text => Text.hasSurrogate (text.getD "") then
    throw .notEncodable
  let s ← withFile file
  let environment ← EnvironmentFile.extend environment (environmentFile.getD "")
  s.withVariables environment

/-! ## Logging -/

/-- The levels of logging by name. -/
def levels : List (String × Nat) :=
  [("CRITICAL", 50), ("FATAL", 50), ("ERROR", 40), ("WARNING", 30), ("WARN", 30), ("INFO", 20),
    ("DEBUG", 10), ("NOTSET", 0)]

def infoLevel : Nat := 20

def debugLevel : Nat := 10

/-- The level from which on messages are logged. -/
def logLevel (s : Settings) : Nat :=
  if (s.get "system.debug_mode" (.bool false)).truthy then debugLevel
  else (valueAt? (Text.upper (s.get "system.log_level" (.str "INFO")).text) levels).getD infoLevel

/-- How a logged message is laid out. -/
def logLayout : String := "%(asctime)s - %(levelname)s - %(name)s - %(message)s"

end Arcade.Settings
