import Arcade.Host.Room
import Arcade.Proofs.Act.Yielding

/-!
# Speaking

Speaking calls the synthesizer and notes whether the voice speaks, and does nothing else. It fails
only over a volume that is not a number: whatever the synthesizer does is passed over.
-/

namespace Arcade.Room

open Act

variable {δ : Type} {P : Room δ → Prop}

theorem keeps_speak (hcancel : Keeps P (call .cancelSpeech))
    (hspeak : ∀ text rate pitch volume, Keeps P (call (.speak text rate pitch volume)))
    (hvoice : ∀ b, Keeps P (setSpeaking b)) (text : Json) : Keeps P (speak text) := by
  unfold speak
  refine keeps_get.bind fun room => (keeps_pure _).ite ((keeps_pure _).ite ?_)
  refine (keeps_lift _).bind fun volume => Keeps.bind (Keeps.succeeds ?_) fun said =>
    Keeps.ite (keeps_pure _) ((hvoice _).bind fun _ => keeps_pure _)
  exact keeps_get.bind fun room => hcancel.bind fun _ => (hspeak _ _ _ _).bind fun _ =>
    keeps_get.bind fun _ => (keeps_pure _).ite (hvoice _)

theorem keeps_stopSpeaking (hcancel : Keeps P (call .cancelSpeech))
    (hvoice : ∀ b, Keeps P (setSpeaking b)) : Keeps P stopSpeaking :=
  Keeps.bind (Keeps.forgive (keeps_get.bind fun _ => hcancel.ite (keeps_pure _))) fun _ => hvoice _

/-- Speaking succeeds if the volume is a number. -/
theorem speak_ok {r : Room δ} (hvolume : ∃ x, r.volumeOr r.voice.volume = .ok x) (text : Json) :
    ∃ said, ((speak text).outcome r).1 = .ok said := by
  obtain ⟨x, hx⟩ := hvolume
  have hyields : Yields (speak text) r fun _ _ => True := by
    refine yields_get_bind ?_
    split
    · exact yields_pure trivial
    · split
      · exact yields_pure trivial
      · refine (yields_lift (Q := fun _ _ => True) hx trivial).bind fun volume t _ => ?_
        refine Yields.bind (P := fun _ _ => True) ⟨_, _, outcome_succeeds _ t, trivial⟩
          fun said u _ => ?_
        split
        · exact yields_pure trivial
        · exact yields_pure trivial
  obtain ⟨said, t, hout, -⟩ := hyields
  exact ⟨said, by rw [hout]⟩

end Arcade.Room
