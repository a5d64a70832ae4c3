import Arcade.Settings.Basic
import Arcade.Storage.Basic

/-!
# Permission to listen

A player may be asked for permission to use the microphone. The answer is kept in the storage under
a key and remembered once it was looked up, so that later changes of the storage from elsewhere and
failing calls are not noticed. A stored text that is no answer counts as no answer.
-/

namespace Arcade

/-- What a player said when asked for the microphone. -/
inductive Answer where
  | granted
  | denied
deriving DecidableEq, Repr

namespace Answer

def text : Answer → String
  | .granted => "granted"
  | .denied => "denied"

def ofText? (s : String) : Option Answer :=
  [granted, denied].find? (·.text = s)

theorem ofText?_text (a : Answer) : ofText? a.text = some a := by
  cases a <;> rfl

end Answer

/-- The answer of a player, once it was looked up. -/
structure Permission where
  key : Json
  answer : Option Answer := none
  /-- Whether the answer was looked up or given. -/
  known : Bool := false
deriving DecidableEq, Repr

namespace Permission

/-- No answer yet, under the key that the settings name. -/
def ofSettings (s : Settings) : Except Fault Permission := do
  let key := s.get "storage.permission_key" (.str "micPermissionStatus")
  Storage.checkKey key
  return { key }

/-- The answer, looked up if need be. -/
def lookUp (p : Permission) (s : Storage) : Permission × Storage :=
  if p.known then (p, s)
  else
    let found := s.get p.key
    let answer := match found.1 with
      | .ok (some (.str text)) => Answer.ofText? text
      | _ => none
    ({ p with answer := answer, known := true }, found.2)

/-- Asks for the answer, which cannot be looked up under a value that is no key. -/
def ask (p : Permission) (s : Storage) : Except Fault (Option Answer) × Permission × Storage :=
  if p.known || p.key.isKey then
    let (p, s) := p.lookUp s
    (.ok p.answer, p, s)
  else (.error .wrongKind, p, s)

/-- Remembers an answer and tries to keep it. -/
def give (p : Permission) (s : Storage) (answer : Answer) :
    Except Fault Unit × Permission × Storage :=
  let written := s.set p.key (.str answer.text)
  (Storage.passOver written.1, { p with answer := some answer, known := true }, written.2)

/-- Forgets the answer and tries to remove it from the storage. -/
def reset (p : Permission) (s : Storage) : Except Fault Unit × Permission × Storage :=
  let removed := s.remove p.key
  (Storage.passOver removed.1, { p with answer := none, known := true }, removed.2)

theorem lookUp_known (p : Permission) (s : Storage) : (p.lookUp s).1.known = true := by
  unfold lookUp
  split
  · assumption
  · rfl

theorem lookUp_of_known {p : Permission} {s : Storage} (h : p.known = true) :
    p.lookUp s = (p, s) := by
  rw [lookUp, if_pos h]

end Permission

end Arcade
