import Arcade.Proofs.Hub.Silence
import Arcade.Proofs.Text.Lowercase

/-!
# Typed and spoken commands

A text that is typed loses one wake phrase before it is understood. What the background recognizer
hears loses one when the phrase is noticed, and the command that is left loses another one, if it
has any, when it is understood. So the two ways agree on every command without a phrase of its own,
and on no other one but by chance.
-/

namespace Arcade

/-- A result that is there at once is what an act goes on with. -/
theorem Act.lift_ok_bind {σ α β : Type} (x : α) (f : α → Act σ β) :
    (Act.lift (.ok x) >>= f) = f x := rfl

namespace WakePhrase

variable {text command : String}

/-- A command is in lower case and has no blanks at its ends. -/
theorem lower_trim_of_detect (h : detect text = some command) :
    Text.lower (Text.trim command) = command := by
  obtain ⟨cs, -, rfl⟩ := Option.map_eq_some_iff.1 h
  exact Text.lower_trim_lower (Text.trimmed_trimChars Text.isBlank _)

/-- What is left of a text without its first phrase. -/
theorem strip_of_detect (h : detect text = some command) : strip text = command := by
  rw [strip, h]

/-- A command without a phrase of its own is left as it is. -/
theorem strip_command (h : detect text = some command) (hone : detect command = none) :
    strip command = command := by
  rw [strip, hone]
  exact lower_trim_of_detect h

/-- A text with the phrase is not blank. -/
theorem trim_ne_empty_of_detect (h : detect text = some command) : Text.trim text ≠ "" := by
  intro hblank
  have hnil : Text.trimChars Text.isBlank text.toList = [] := by
    simpa [Text.trim, Text.trimWhere] using congrArg String.toList hblank
  rw [detect, hnil] at h
  cases h

end WakePhrase

namespace Intent

/-- Two intents have the same kind, action, target and response. -/
def Alike (i j : Intent) : Prop :=
  i.kind = j.kind ∧ i.action = j.action ∧ i.target = j.target ∧ i.response = j.response

instance (i j : Intent) : Decidable (i.Alike j) := inferInstanceAs (Decidable (_ ∧ _ ∧ _ ∧ _))

theorem Alike.refl (i : Intent) : i.Alike i := ⟨rfl, rfl, rfl, rfl⟩

/-- What a text and its command mean is alike if and only if the command has no phrase of its own or
means the same without it. -/
theorem resolve_command_alike_iff {text command : String}
    (h : WakePhrase.detect text = some command) :
    (resolve command).Alike (resolve text) ↔
      ∀ rest, WakePhrase.detect command = some rest →
        (classify rest).Alike (classify command) := by
  rw [resolve, resolve, WakePhrase.strip_of_detect h]
  cases hc : WakePhrase.detect command with
  | none =>
    rw [WakePhrase.strip_command h hc]
    exact ⟨fun _ _ h => (nomatch h), fun _ => .refl _⟩
  | some rest =>
    rw [WakePhrase.strip_of_detect hc]
    exact ⟨fun h _ hr => Option.some.inj hr ▸ h, fun h => h rest rfl⟩

end Intent

namespace Hub

open Scene

variable {h : Hub} {text command : String} {now : Instant}

/-- What the background recognizer hears is carried out as what the command means. -/
theorem outcome_hear_command (hmode : h.session.mode = .background)
    (hd : WakePhrase.detect text = some command) (hc : command ≠ "") :
    (hear (wiring now) .background (.words text)).outcome h = Act.outcome (do
      change fun s => { s with errors := 0 }
      setMode .idle
      stop .background
      inRoom (do
        addToChat .user (.str (Intent.resolve command).rawText) now
        discard (carryOut now (Intent.resolve command)))
      scheduleResume (← get).session.pace.cooldown) h := by
  have hw : (Heard.words text).wake = .ok (some command) := congrArg Except.ok hd
  have hon : handOn (wiring now) (.words command) = inRoom (do
      addToChat .user (.str (Intent.resolve command).rawText) now
      discard (carryOut now (Intent.resolve command))) := rfl
  unfold hear heardInBackground
  dsimp only
  rw [Act.outcome_bind, Act.outcome_get]
  dsimp only
  rw [if_pos hmode, hw]
  simp only [Act.lift_ok_bind, if_neg hc, hon]

/-- What is typed is carried out as what the text means. -/
theorem outcome_submit_command (hd : WakePhrase.detect text = some command) (hc : command ≠ "") :
    (submit (.words text) now).outcome h = Act.outcome (do
      inRoom (addToChat .user (.str (Text.trim text)) now)
      return some (← inRoom (carryOut now (Intent.resolve text)))) h := by
  have hbare : WakePhrase.detect text ≠ some "" := by
    rw [hd]
    exact fun he => hc (Option.some.inj he)
  unfold submit submitText
  dsimp only
  rw [if_neg (WakePhrase.trim_ne_empty_of_detect hd), if_neg hbare]

/-- A text with the phrase and a command leads to the same kind, action, target and response,
whether it is heard in the background or typed, if and only if the command has no phrase of its own
or means the same without it. What is carried out is what the command means if the text is heard, and what
the text means if it is typed. -/
theorem typed_and_spoken (hmode : h.session.mode = .background)
    (hd : WakePhrase.detect text = some command) (hc : command ≠ "") (now : Instant) :
    (hear (wiring now) .background (.words text)).outcome h = Act.outcome (do
        change fun s => { s with errors := 0 }
        setMode .idle
        stop .background
        inRoom (do
          addToChat .user (.str (Intent.resolve command).rawText) now
          discard (carryOut now (Intent.resolve command)))
        scheduleResume (← get).session.pace.cooldown) h ∧
      (submit (.words text) now).outcome h = Act.outcome (do
        inRoom (addToChat .user (.str (Text.trim text)) now)
        return some (← inRoom (carryOut now (Intent.resolve text)))) h ∧
      ((Intent.resolve command).Alike (Intent.resolve text) ↔
        ∀ rest, WakePhrase.detect command = some rest →
          (Intent.classify rest).Alike (Intent.classify command)) :=
  ⟨outcome_hear_command hmode hd hc, outcome_submit_command hd hc,
    Intent.resolve_command_alike_iff hd⟩

/-- A hub that listens in the background hears the phrase again at the end of a command. It does not
understand the command any more, while the same text opens the badges if it is typed. -/
theorem typed_and_spoken_twice : ∃ h : Hub, h.session.mode = .background ∧
    (submit (.words "hey buddy open badges hey buddy") Shelf.noon).outcome h = Act.outcome (do
      inRoom (addToChat .user (.str (Text.trim "hey buddy open badges hey buddy")) Shelf.noon)
      return some (← inRoom (carryOut Shelf.noon
        (Intent.resolve "hey buddy open badges hey buddy")))) h ∧
    ¬ (Intent.resolve "open badges hey buddy").Alike
      (Intent.resolve "hey buddy open badges hey buddy") := by
  obtain ⟨h, -, hlistens⟩ := exists_welcome
    (p := fun h => ((Use.listen.act Shelf.noon).outcome h).2.session.mode = .background)
    (by decide)
  have hd : WakePhrase.detect "hey buddy open badges hey buddy" =
      some "open badges hey buddy" := by decide
  have hmode := of_decide_eq_true hlistens
  obtain ⟨-, htyped, halike⟩ := typed_and_spoken hmode hd (by decide) Shelf.noon
  refine ⟨_, hmode, htyped, fun h => ?_⟩
  have hagain : (Intent.classify "").Alike (Intent.classify "open badges hey buddy") :=
    halike.1 h "" (by decide)
  revert hagain
  decide

end Hub

end Arcade
