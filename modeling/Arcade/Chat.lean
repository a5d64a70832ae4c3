import Arcade.Calendar.Instant
import Arcade.Json.Display
import Arcade.Settings.Standard

/-!
# Chat

A chat keeps the last messages between a player and the buddy, never more than its limit. It starts
with a greeting of the buddy, and after it was cleared it holds just the message that says so.
-/

namespace Arcade

/-- Who wrote a message. -/
inductive Author where
  | user
  | assistant
deriving DecidableEq, Repr

namespace Author

def name : Author → String
  | .user => "user"
  | .assistant => "assistant"

/-- The author with a name. -/
def ofJson (v : Json) : Except Fault Author :=
  match [user, assistant].find? fun s => v = .str s.name with
  | some s => .ok s
  | none => .error (.unknownRole v.shown)

end Author

/-- A message of a chat. -/
structure Message where
  author : Author
  content : Json
  timestamp : String
deriving DecidableEq, Repr

/-- The last messages, at most as many as the limit. -/
structure Chat where
  limit : Nat
  messages : List Message
  limit_pos : 0 < limit
  length_le : messages.length ≤ limit
deriving DecidableEq, Repr

namespace Chat

/-- What the buddy says in a chat that was cleared. -/
def clearedText : String := "Chat history cleared. How can I help you?"

/-- The greatest limit that a chat can have. -/
def greatestLimit : Nat := Nat.pow 2 63 - 1

/-- A chat without messages, which holds at least one. -/
def empty (limit : Int) : Chat where
  limit := (max 1 limit).toNat
  messages := []
  limit_pos := by omega
  length_le := Nat.zero_le _

/-- The last `n` items of a list. -/
def lastOf (n : Nat) (messages : List Message) : List Message :=
  messages.drop (messages.length - n)

/-- Appends a message and drops the oldest one if there is no room for it. -/
def add (c : Chat) (author : Author) (content : Json) (now : Instant) : Chat where
  limit := c.limit
  messages := lastOf c.limit (c.messages ++ [⟨author, content, now.timestamp⟩])
  limit_pos := c.limit_pos
  length_le := by
    rw [lastOf, List.length_drop]
    omega

/-- A chat that starts with a greeting. -/
def start (limit : Json) (greeting : Json) (now : Instant) : Except Fault Chat := do
  let n ← limit.toInt
  if greatestLimit < n then throw .outOfRange
  return (empty n).add .assistant greeting now

/-- Removes all messages and says so. -/
def clear (c : Chat) (now : Instant) : Chat :=
  (empty c.limit).add .assistant (.str clearedText) now

/-- The newest message. -/
def last? (c : Chat) : Option Message := c.messages.getLast?

@[simp] theorem add_limit (c : Chat) (author : Author) (content : Json) (now : Instant) :
    (c.add author content now).limit = c.limit := rfl

/-- A message that was added is the newest one, whatever the limit. -/
theorem last?_add (c : Chat) (author : Author) (content : Json) (now : Instant) :
    (c.add author content now).last? = some ⟨author, content, now.timestamp⟩ := by
  have h := c.limit_pos
  have hd : (c.messages ++ [(⟨author, content, now.timestamp⟩ : Message)]).length - c.limit ≤
      c.messages.length := by
    rw [List.length_append, List.length_singleton]
    omega
  change ((c.messages ++ [(⟨author, content, now.timestamp⟩ : Message)]).drop _).getLast? = _
  rw [List.drop_append_of_le_length hd, List.getLast?_append]
  rfl

end Chat

end Arcade
