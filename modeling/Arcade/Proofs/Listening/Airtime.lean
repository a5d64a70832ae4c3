import Arcade.Proofs.Listening.Transition

/-!
# Recognizers on the air

The reports of recognizers and the deeds of a session, in the order in which they happen, tell which
recognizer is on the air. A start that succeeds opens a session of the recognizer and puts it on the
air. It is on the air until it is told to stop, at once or not, or reports that it has ended or
failed; the foreground recognizer hears one thing only and is then off the air too.

The past of a scene is extended occasion by occasion. Inside an occasion, the tale of a stance is
the past with what the session did since.
-/

namespace Arcade

/-- The other recognizer. -/
def Recognizer.other : Recognizer → Recognizer
  | .background => .foreground
  | .foreground => .background

/-- Something that others can notice. -/
inductive Happening where
  | told (which : Recognizer) (session : Nat) (report : Report)
  | did (deed : Deed)

/-- The deed behind a happening. -/
def Happening.deed? : Happening → Option Deed
  | .did d => some d
  | .told .. => none

/-- What others tell the session on an occasion. -/
def Occasion.told : Occasion → List Happening
  | .report which session what => [.told which session what]
  | _ => []

/-- Whether a recognizer is off the air after a report. -/
def Report.IsLast (which : Recognizer) : Report → Prop
  | .heard _ => which = .foreground
  | .failed _ | .ended => True

instance (which : Recognizer) (r : Report) : Decidable (r.IsLast which) := by
  unfold Report.IsLast
  cases r <;> infer_instance

/-- What became of the latest session of a recognizer. -/
inductive Fate where
  | live
  /-- The recognizer has told its end. -/
  | over
  /-- The recognizer was told to stop. -/
  | dropped
deriving DecidableEq, Repr

/-- The sessions of a recognizer. -/
structure Airtime where
  sessions : Nat := 0
  fate : Fate := .over
deriving DecidableEq, Repr

/-- The sessions of a recognizer after something happened. -/
def Airtime.note (which : Recognizer) (x : Airtime) : Happening → Airtime
  | .told w _ report =>
    if w = which ∧ report.IsLast which ∧ x.fate = .live then { x with fate := .over } else x
  | .did (.recognizer w .start failed) =>
    if w = which ∧ failed = false then ⟨x.sessions + 1, .live⟩ else x
  | .did (.recognizer w .stop _) | .did (.recognizer w .abort _) =>
    if w = which then { x with fate := .dropped } else x
  | .did (.intent ..) => x

/-- The sessions of a recognizer in the course of events. -/
def airtime (which : Recognizer) (hs : List Happening) : Airtime :=
  hs.foldl (Airtime.note which) {}

/-- Whether a recognizer is on the air. -/
def OnAir (which : Recognizer) (hs : List Happening) : Prop := (airtime which hs).fate = .live

instance (which : Recognizer) (hs : List Happening) : Decidable (OnAir which hs) := by
  unfold OnAir
  infer_instance

section

variable {which w : Recognizer} {hs : List Happening}

theorem airtime_concat (which : Recognizer) (hs : List Happening) (h : Happening) :
    airtime which (hs ++ [h]) = (airtime which hs).note which h := by
  unfold airtime
  rw [List.foldl_append, List.foldl_cons, List.foldl_nil]

@[simp] theorem not_onAir_nil (which : Recognizer) : ¬OnAir which [] := Fate.noConfusion

theorem onAir_told {n : Nat} {report : Report} :
    OnAir which (hs ++ [.told w n report]) ↔
      OnAir which hs ∧ ¬(w = which ∧ report.IsLast which) := by
  unfold OnAir
  rw [airtime_concat, Airtime.note]
  split
  · rename_i h
    simp [h.1, h.2.1]
  · grind

theorem onAir_started {failed : Bool} :
    OnAir which (hs ++ [.did (.recognizer w .start failed)]) ↔
      w = which ∧ failed = false ∨ OnAir which hs := by
  unfold OnAir
  rw [airtime_concat, Airtime.note]
  split
  · rename_i h
    simp [h]
  · grind

theorem onAir_halted {c : RecognizerCall} (hc : c ≠ .start) {failed : Bool} :
    OnAir which (hs ++ [.did (.recognizer w c failed)]) ↔ OnAir which hs ∧ w ≠ which := by
  unfold OnAir
  rw [airtime_concat]
  cases c with
  | start => contradiction
  | stop | abort =>
    rw [Airtime.note]
    split
    · rename_i h
      simp [h]
    · grind

/-- Handing intents on does not change what is on the air. -/
theorem airtime_intents {ds : List Deed} (hds : ∀ d ∈ ds, d.IsIntent) :
    airtime which (hs ++ ds.map .did) = airtime which hs := by
  induction ds generalizing hs with
  | nil => rw [List.map_nil, List.append_nil]
  | cons d ds ih =>
    obtain ⟨hd, hds⟩ := List.forall_mem_cons.mp hds
    rw [List.map_cons, List.append_cons, ih hds, airtime_concat]
    cases d with
    | intent => rfl
    | recognizer => exact hd.elim

end

/-! ## One recognizer at a time -/

/-- Whether no two recognizers are ever on the air together, and none is started while the other is
on the air. -/
structure Alone (hs : List Happening) : Prop where
  never_both : ∀ before, before <+: hs → ¬(OnAir .background before ∧ OnAir .foreground before)
  starts : ∀ before which failed, before ++ [.did (.recognizer which .start failed)] <+: hs →
    ¬OnAir which.other before

theorem alone_nil : Alone [] := by
  constructor
  · intro before h
    rw [List.prefix_nil.mp h]
    exact fun h => not_onAir_nil _ h.1
  · intro before which failed h
    exact absurd (List.prefix_nil.mp h)
      (List.append_ne_nil_of_right_ne_nil _ (List.cons_ne_nil _ _))

theorem alone_concat {hs : List Happening} {h : Happening} :
    Alone (hs ++ [h]) ↔ Alone hs ∧
      ¬(OnAir .background (hs ++ [h]) ∧ OnAir .foreground (hs ++ [h])) ∧
        ∀ which failed, h = .did (.recognizer which .start failed) → ¬OnAir which.other hs := by
  constructor
  · intro ha
    refine ⟨⟨fun before hb => ha.never_both before (hb.trans (List.prefix_append _ _)),
      fun before which failed hb => ha.starts before which failed
        (hb.trans (List.prefix_append _ _))⟩, ha.never_both _ List.prefix_rfl, ?_⟩
    rintro which failed rfl
    exact ha.starts hs which failed List.prefix_rfl
  · rintro ⟨ha, hboth, hstart⟩
    constructor
    · intro before hb
      rcases List.prefix_concat_iff.mp hb with rfl | hb
      · exact hboth
      · exact ha.never_both before hb
    · intro before which failed hb
      rcases List.prefix_concat_iff.mp hb with hb | hb
      · obtain ⟨rfl, hh⟩ := List.append_inj' hb rfl
        exact hstart which failed (List.singleton_inj.mp hh).symm
      · exact ha.starts before which failed hb

theorem alone_intents {hs : List Happening} {ds : List Deed} (h : Alone hs)
    (hds : ∀ d ∈ ds, d.IsIntent) : Alone (hs ++ ds.map .did) := by
  induction ds generalizing hs with
  | nil => rwa [List.map_nil, List.append_nil]
  | cons d ds ih =>
    obtain ⟨hd, hds⟩ := List.forall_mem_cons.mp hds
    rw [List.map_cons, List.append_cons]
    refine ih (alone_concat.mpr ⟨h, ?_, ?_⟩) hds
    · unfold OnAir
      rw [show hs ++ [Happening.did d] = hs ++ [d].map .did from rfl,
        airtime_intents (by simpa using hd), airtime_intents (by simpa using hd)]
      exact h.never_both hs List.prefix_rfl
    · rintro which failed heq
      cases heq
      exact hd.elim

/-! ## Tales -/

namespace Stance

variable {past : List Happening} {n : Nat} {st : Stance}

/-- What has happened up to a stance: the past, and what was done after `n` deeds. -/
def tale (past : List Happening) (n : Nat) (st : Stance) : List Happening :=
  past ++ (st.deeds.drop n).map .did

theorem tale_did (hn : n ≤ st.deeds.length) (ds : List Deed) :
    (st.did ds).tale past n = st.tale past n ++ ds.map .did := by
  unfold tale did
  rw [List.drop_append_of_le_length hn, List.map_append, List.append_assoc]

theorem tale_tried (hn : n ≤ st.deeds.length) (which : Recognizer) (c : RecognizerCall)
    (failed : Bool) : (st.tried which c failed).tale past n = st.tale past n ++
      if st.equipment.has which then [.did (.recognizer which c failed)] else [] := by
  unfold tried
  rw [tale_did hn]
  split <;> rfl

theorem tale_length : st.tale past st.deeds.length = past := by
  unfold tale
  rw [List.drop_length, List.map_nil, List.append_nil]

/-- Whether a recognizer is on the air at a stance. -/
def On (past : List Happening) (n : Nat) (st : Stance) (which : Recognizer) : Prop :=
  OnAir which (st.tale past n)

/-- A tale can serve as the past of what follows. -/
theorem on_tale (which : Recognizer) :
    st.On (st.tale past n) st.deeds.length which ↔ st.On past n which := by
  unfold On
  rw [tale_length]

theorem on_congr {st' : Stance} (hd : st'.deeds = st.deeds) (which : Recognizer) :
    st'.On past n which ↔ st.On past n which := by
  unfold On tale
  rw [hd]

theorem on_halted (hn : n ≤ st.deeds.length) {which w : Recognizer} {c : RecognizerCall}
    (hc : c ≠ .start) {failed : Bool} : (st.tried w c failed).On past n which ↔
      st.On past n which ∧ ¬(w = which ∧ st.equipment.has w = true) := by
  unfold On
  rw [tale_tried hn]
  split
  · rename_i h
    rw [onAir_halted hc]
    simp [h]
  · rename_i h
    simp [h]

theorem on_started (hn : n ≤ st.deeds.length) {which w : Recognizer} {failed : Bool} :
    (st.tried w .start failed).On past n which ↔
      w = which ∧ failed = false ∧ st.equipment.has w = true ∨ st.On past n which := by
  unfold On
  rw [tale_tried hn]
  split
  · rename_i h
    rw [onAir_started]
    simp [h]
  · rename_i h
    simp [h]

theorem on_intents (hn : n ≤ st.deeds.length) {which : Recognizer} {ds : List Deed}
    (hds : ∀ d ∈ ds, d.IsIntent) : (st.did ds).On past n which ↔ st.On past n which := by
  unfold On OnAir
  rw [tale_did hn, airtime_intents hds]

end Stance

namespace Scene

variable {δ : Type}

/-- What happens on an occasion. -/
def news (s : Scene δ) (o : Occasion) : List Happening :=
  (s.after o).stance.tale o.told s.stance.deeds.length

/-- What happens on some occasions. -/
def happenings (s : Scene δ) : List Occasion → List Happening
  | [] => []
  | o :: os => s.news o ++ (s.after o).happenings os

/-- Whether something holds at every occasion of a run. -/
def Throughout (Q : Scene δ → Occasion → Prop) (s : Scene δ) : List Occasion → Prop
  | [] => True
  | o :: os => Q s o ∧ Throughout Q (s.after o) os

theorem throughout_of_forall {Q : Scene δ → Occasion → Prop} {os : List Occasion}
    (h : ∀ o ∈ os, ∀ s, Q s o) (s : Scene δ) : s.Throughout Q os := by
  induction os generalizing s with
  | nil => trivial
  | cons o os ih =>
    obtain ⟨ho, hos⟩ := List.forall_mem_cons.mp h
    exact ⟨ho s, ih hos _⟩

theorem happenings_append (s : Scene δ) (xs ys : List Occasion) :
    s.happenings (xs ++ ys) = s.happenings xs ++ (s.run xs).happenings ys := by
  induction xs generalizing s with
  | nil => rfl
  | cons x xs ih => rw [List.cons_append, happenings, happenings, ih, List.append_assoc, run_cons]

theorem happenings_concat (s : Scene δ) (os : List Occasion) (o : Occasion) :
    s.happenings (os ++ [o]) = s.happenings os ++ (s.run os).news o := by
  rw [happenings_append, happenings, happenings, List.append_nil]

/-- What happens on an occasion is what is told and then what is done about it. -/
theorem news_eq {s : Scene δ} {o : Occasion} {ds : List Deed}
    (h : (s.after o).stance.deeds = s.stance.deeds ++ ds) : s.news o = o.told ++ ds.map .did := by
  unfold news Stance.tale
  rw [h, List.drop_left]

theorem append_news (past : List Happening) (s : Scene δ) (o : Occasion) :
    past ++ s.news o = (s.after o).stance.tale (past ++ o.told) s.stance.deeds.length :=
  (List.append_assoc _ _ _).symm

/-- What every occasion keeps of a scene and its past is kept by a run. -/
theorem run_keeps {P : Scene δ → List Happening → Prop} {Q : Scene δ → Occasion → Prop}
    (hstep : ∀ s past o, P s past → Q s o → P (s.after o) (past ++ s.news o)) {s : Scene δ}
    (past : List Happening) (h : P s past) {os : List Occasion} (hQ : Throughout Q s os) :
    P (s.run os) (past ++ s.happenings os) := by
  induction os generalizing s past with
  | nil => rwa [happenings, List.append_nil]
  | cons o os ih =>
    rw [happenings, ← List.append_assoc]
    exact ih _ (hstep s past o h hQ.1) hQ.2

theorem deeds_after (s : Scene δ) (o : Occasion) :
    (s.after o).stance.deeds = s.stance.deeds ++ (s.news o).filterMap Happening.deed? := by
  obtain ⟨ds, hds⟩ := ((tended_continues s).after (.refl s) o).2.2.2
  have htold : o.told.filterMap Happening.deed? = [] := by cases o <;> rfl
  have hmap : (ds.map Happening.did).filterMap Happening.deed? = ds := by
    rw [List.filterMap_map]
    exact List.filterMap_some
  rw [news_eq hds.symm, ← hds, List.filterMap_append, htold, hmap, List.nil_append]

/-- All deeds of a run are among what happens. -/
theorem deeds_run (s : Scene δ) (os : List Occasion) :
    (s.run os).stance.deeds = s.stance.deeds ++ (s.happenings os).filterMap Happening.deed? := by
  induction os generalizing s with
  | nil => exact (List.append_nil _).symm
  | cons o os ih =>
    rw [run_cons, ih, deeds_after, happenings, List.filterMap_append, List.append_assoc]

/-! ## Fresh sessions -/

/-- Whether a session was just opened in a room where no timer waits. -/
def Fresh (s : Scene δ) : Prop :=
  ∃ pace permission room, room.queue.waiting = [] ∧ opened pace permission room = .ok s

theorem Fresh.exists_stance {s : Scene δ} (h : s.Fresh) : ∃ pace permission room,
    room.queue.waiting = [] ∧
      s.stance = (⟨{ pace := pace, permission := permission }, room⟩ : Scene δ).stance := by
  obtain ⟨pace, permission, room, hwaiting, hopened⟩ := h
  refine ⟨pace, permission, room, hwaiting, ?_⟩
  have hquiet := (quiet_refreshStatus (δ := δ)).stance_eq
    ⟨{ pace := pace, permission := permission }, room⟩
  rwa [outcome_of_opened hopened] at hquiet

theorem Fresh.timely {s : Scene δ} (h : s.Fresh) : s.stance.Timely := by
  obtain ⟨pace, permission, room, hwaiting, hst⟩ := h.exists_stance
  rw [hst]
  exact Slot.fits_of_waiting_eq_nil hwaiting rfl

/-- A session that was just opened with both recognizers, and allowed to listen. -/
def welcomed : Scene Unit where
  session := {
    pace := {
      maxErrors := 3
      backoffBase := 3
      backoffCap := 30
      restartAfterEnd := 1
      manualRestart := 0.5
      promptDelay := 1
      cooldown := 5
      prompt := .str "How can I help you?"
      language := .str "en-US"
    }
    permission := { key := .str "micPermissionStatus", answer := some .granted, known := true }
    statuses := [.ready]
  }
  room := {
    host := { equipment := { background := true, foreground := true, onIntent := true } }
    storage := {}
    voice := { rate := 1, pitch := 1, volume := 1 }
    rest := ()
  }

theorem fresh_welcomed : welcomed.Fresh :=
  ⟨welcomed.session.pace, welcomed.session.permission, welcomed.room, rfl, rfl⟩

theorem calm_welcomed : welcomed.stance.conduct.Calm := ⟨fun _ _ _ => rfl, fun _ _ => rfl⟩

end Scene

end Arcade
