import Arcade.Settings.Basic

/-!
# Standard settings

The settings of an arcade that nobody has configured, and what a player can set for the time being:
the theme, the volume of speech and whether speech is muted.
-/

namespace Arcade

namespace Settings

def seconds (x : Float) : Json := .num (.float x)

/-- What the buddy says to open a conversation. -/
def greeting : String := "Hi! I'm your GameVerse Buddy. How can I help you today?"

/-- The settings of an arcade that nobody has configured. -/
def standard : Settings :=
  ⟨.obj [
    ("system", .obj [
      ("log_level", .str "INFO"),
      ("debug_mode", .bool false)]),
    ("storage", .obj [
      ("backend", .str "sqlite"),
      ("db_path", .str "data/gameverse.db"),
      ("data_key", .str "gameverse-data"),
      ("permission_key", .str "micPermissionStatus"),
      ("legacy_streak_key", .str "rps-streak")]),
    ("voice", .obj [
      ("lang", .str "en-US"),
      ("wake_prompt", .str "How can I help you?"),
      ("max_consecutive_errors", .int 3),
      ("backoff_base_seconds", seconds 3),
      ("backoff_cap_seconds", seconds 30),
      ("restart_after_end_seconds", seconds 1),
      ("manual_restart_delay_seconds", seconds 0.5),
      ("command_prompt_delay_seconds", seconds 1),
      ("wake_cooldown_seconds", seconds 5)]),
    ("speech", .obj [
      ("rate", seconds 1),
      ("pitch", seconds 1),
      ("volume", seconds 1)]),
    ("dispatcher", .obj [
      ("navigation_delay_seconds", seconds 1),
      ("close_delay_seconds", seconds 1.5)]),
    ("chat", .obj [
      ("history_limit", .int 50),
      ("greeting", .str greeting)])]⟩

end Settings

/-- What a player has set for the time being, by name. -/
abbrev Preferences := Dict Json

/-- The preferences of a player who has set nothing. -/
def Preferences.standard : Preferences :=
  Dict.ofList [("theme", .str "light"), ("speech_volume", .num (.float 1)),
    ("speech_muted", .bool false)]

end Arcade
