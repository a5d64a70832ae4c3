import Arcade.Ledger.Export
import Arcade.Proofs.Ledger.Chronicle
import Arcade.Proofs.Ledger.Operation

/-!
# Errands

A ledger at work is sent on errands: operations other than loading, exports, and subscriptions that
begin and end. Each gets an answer, unless it ends with a fault, which does not end the run. What an
errand does, what it answers and whom it tells what depends on the document and the listeners alone.
-/

namespace Arcade

open Stroke

/-- What a ledger answers. -/
inductive Operation.Answer where
  | done
  | streak (n : Number)
  | award (event : Option Event)
  | awards (events : List Event)
  /-- Whether the challenges were due. -/
  | renewed (due : Bool)
  | document (d : Document)
  | text (t : String)
deriving DecidableEq

/-! ## Operations with their answers -/

namespace Operation

variable {now : Instant}

/-- The act of an operation at an instant, with what it answers. -/
def answer (now : Instant) : Operation → Act Shelf Answer
  | load => .document <$> Shelf.load now
  | importText text => .document <$> Shelf.importText text now
  | update game values => (fun _ => .done) <$> Shelf.update game values
  | countPlay game => (fun _ => .done) <$> Shelf.countPlay game now
  | addTime game seconds => (fun _ => .done) <$> Shelf.addTime game seconds now
  | addRound game won => .streak <$> Shelf.addRound game won
  | unlock id => .award <$> Shelf.unlock id now
  | complete id => .award <$> Shelf.complete id now
  | reset => (fun _ => .done) <$> Shelf.reset now
  | refreshChallenges => (fun _ => .done) <$> Shelf.refreshChallenges now
  | ensureFresh => .renewed <$> Shelf.ensureFresh now
  | checkBadges => .awards <$> Shelf.checkBadges now
  | checkChallenges => .awards <$> Shelf.checkChallenges now
  | settle => .awards <$> Shelf.settle now

/-- Answering is all that an operation does besides. -/
theorem outcome_act (o : Operation) (now : Instant) (s : Shelf) :
    (o.act now).outcome s =
      (((o.answer now).outcome s).1.map fun _ => (), ((o.answer now).outcome s).2) := by
  have hmap {α : Type} (f : α → Answer) (r : Except Fault α) :
      (r.map f).map (fun _ => ()) = r.map fun _ => () := by cases r <;> rfl
  have hunit (r : Except Fault Unit) : r.map (fun _ => ()) = r := by cases r <;> rfl
  cases o <;> simp only [act, answer, Act.outcome_discard, Act.outcome_map, hmap, hunit]

/-- Which events an operation tells, given how it ends. -/
def Tells (told : List Event) (r : Except Fault Answer) : Operation → Prop
  | importText _ => Shelf.Signalled .dataImported told r
  | reset => Shelf.Signalled .dataReset told r
  | refreshChallenges => Shelf.Signalled .challengesRefreshed told r
  | ensureFresh => ∃ r', r = r'.map .renewed ∧ Shelf.SignalledDue told r'
  | unlock _ => ∃ r', r = r'.map .award ∧ Shelf.Awarded .badgeUnlocked told r'
  | complete _ => ∃ r', r = r'.map .award ∧ Shelf.Awarded .challengeCompleted told r'
  | checkBadges => ∃ r', r = r'.map .awards ∧ Shelf.Checks [.badgeUnlocked] told r'
  | checkChallenges => ∃ r', r = r'.map .awards ∧
      Shelf.Checks [.challengeCompleted, .challengesRefreshed] told r'
  | settle => ∃ r', r = r'.map .awards ∧
      Shelf.Checks [.badgeUnlocked, .challengeCompleted, .challengesRefreshed] told r'
  | _ => told = []

/-- Every operation but loading chronicles. -/
theorem chronicles_answer {o : Operation} (h : o ≠ .load) :
    Shelf.Chronicles (fun told r => o.Tells told r) (o.answer now) := by
  cases o with
  | load => exact absurd rfl h
  | importText text => exact ((Shelf.chronicles_importText text).mono fun _ _ h => h.map _).map _
  | update game values => exact (Shelf.chronicles_update game values).map _
  | countPlay game => exact (Shelf.chronicles_countPlay game).map _
  | addTime game seconds => exact (Shelf.chronicles_addTime game seconds).map _
  | addRound game won => exact (Shelf.chronicles_addRound game won).map _
  | unlock id => exact ((Shelf.chronicles_unlock id).mono fun _ r h => ⟨r, rfl, h⟩).map _
  | complete id => exact ((Shelf.chronicles_complete id).mono fun _ r h => ⟨r, rfl, h⟩).map _
  | reset => exact (Shelf.chronicles_reset.mono fun _ _ h => h.map _).map _
  | refreshChallenges =>
    exact (Shelf.chronicles_refreshChallenges.mono fun _ _ h => h.map _).map _
  | ensureFresh => exact (Shelf.chronicles_ensureFresh.mono fun _ r h => ⟨r, rfl, h⟩).map _
  | checkBadges => exact (Shelf.chronicles_checkBadges.mono fun _ r h => ⟨r, rfl, h⟩).map _
  | checkChallenges =>
    exact (Shelf.chronicles_checkChallenges.mono fun _ r h => ⟨r, rfl, h⟩).map _
  | settle => exact (Shelf.chronicles_settle.mono fun _ r h => ⟨r, rfl, h⟩).map _

end Operation

/-! ## Listeners -/

namespace Listener

/-- What a listener was told. -/
def heard (l : Listener) (told : List (Listener × Event)) : List Event :=
  (told.filter (·.1 = l)).map Prod.snd

theorem heard_append (l : Listener) (told rest : List (Listener × Event)) :
    l.heard (told ++ rest) = l.heard told ++ l.heard rest := by
  rw [heard, List.filter_append, List.map_append]
  rfl

/-- Who is subscribed once hears every event once. -/
theorem heard_flatMap {l : Listener} {ls : List Listener} (h : ls.count l = 1)
    (events : List Event) : l.heard (events.flatMap fun e => ls.map fun l => (l, e)) = events := by
  induction events with
  | nil => rfl
  | cons e rest ih =>
    have hone : l.heard (ls.map fun l => (l, e)) = [e] := by
      have hfilter : ls.filter (· = l) = [l] := by
        rw [List.filter_eq, h]
        rfl
      rw [heard, List.filter_map]
      change ((ls.filter (· = l)).map fun l => (l, e)).map Prod.snd = [e]
      rw [hfilter]
      rfl
    rw [List.flatMap_cons, heard_append, hone, ih]
    rfl

end Listener

/-! ## Errands -/

/-- What a ledger at work can be sent for. -/
inductive Errand where
  | operate (o : Operation) (working : o ≠ .load)
  | exportText
  | subscribe (l : Listener)
  | unsubscribe (l : Listener)

namespace Errand

variable {now : Instant} {s t : Shelf}

/-- The act of an errand at an instant. -/
def act (now : Instant) : Errand → Act Shelf Operation.Answer
  | operate o _ => o.answer now
  | exportText => do return .text (← get).ledger.document.exported
  | subscribe l => do
    modify fun s => s.subscribe l
    return .done
  | unsubscribe l => do
    modify fun s => s.unsubscribe l
    return .done

/-- Who listens after an errand. -/
def heeded (ls : List Listener) : Errand → List Listener
  | subscribe l => ls ++ [l]
  | unsubscribe l => ls.erase l
  | operate _ _ | exportText => ls

/-- Which events an errand tells, given how it ends. -/
def Tells (told : List Event) (r : Except Fault Operation.Answer) : Errand → Prop
  | operate o _ => o.Tells told r
  | exportText | subscribe _ | unsubscribe _ => told = []

/-- Whether an errand is about someone else's subscription, if it is about one at all. -/
def Spares (l : Listener) : Errand → Prop
  | subscribe l' | unsubscribe l' => l' ≠ l
  | operate _ _ | exportText => True

/-- An errand that spares a listener leaves its subscriptions alone. -/
theorem Spares.count_heeded {l : Listener} {e : Errand} (h : e.Spares l)
    (ls : List Listener) : (e.heeded ls).count l = ls.count l := by
  cases e with
  | operate o working => rfl
  | exportText => rfl
  | subscribe l' =>
    have hne : l' ≠ l := h
    rw [heeded, List.count_append, List.count_singleton, if_neg (by simpa using hne),
      Nat.add_zero]
  | unsubscribe l' => exact List.count_erase_of_ne (Ne.symm h)

end Errand

namespace Shelf

variable {s t : Shelf} {now : Instant}

/-- The shelf with other listeners. -/
def heeding (s : Shelf) (ls : List Listener) : Shelf :=
  { s with ledger := { s.ledger with listeners := ls } }

theorem heeding_play (s : Shelf) (script : List Stroke) :
    (s.play script).heeding s.ledger.listeners = s.play script := by
  have h := s.play_listeners script
  rw [heeding, ← h]

/-- On writable shelves with the same document, an errand does the same strokes and ends alike,
whatever becomes of the writes; the strokes are a chronicle. -/
theorem outcome_errand (e : Errand) (now : Instant) (hs : s.Writable) (ht : t.Writable)
    (hd : t.ledger.document = s.ledger.document) :
    ∃ script r,
      (e.act now).outcome s = (r, (s.play script).heeding (e.heeded s.ledger.listeners)) ∧
      (e.act now).outcome t = (r, (t.play script).heeding (e.heeded t.ledger.listeners)) ∧
      Chronicle s.ledger.document script ∧ e.Tells (tells script) r := by
  cases e with
  | operate o working =>
    obtain ⟨script, r, hos, hot, hc, htold⟩ :=
      Operation.chronicles_answer working s.ledger.document s t hs ht rfl hd
    refine ⟨script, r, ?_, ?_, hc, htold⟩
    · rw [Errand.act, hos, Errand.heeded, heeding_play]
    · rw [Errand.act, hot, Errand.heeded, heeding_play]
  | exportText =>
    refine ⟨[], .ok (.text s.ledger.document.exported), rfl, ?_, .nil _, rfl⟩
    rw [← hd]
    rfl
  | subscribe l => exact ⟨[], .ok .done, rfl, rfl, .nil _, rfl⟩
  | unsubscribe l => exact ⟨[], .ok .done, rfl, rfl, .nil _, rfl⟩

/-! ## Runs of errands -/

/-- The shelf after errands at their instants. -/
def after (s : Shelf) (errands : List (Errand × Instant)) : Shelf :=
  errands.foldl (fun s x => ((x.1.act x.2).outcome s).2) s

/-- The answers to errands at their instants. -/
def answers (s : Shelf) : List (Errand × Instant) → List (Except Fault Operation.Answer)
  | [] => []
  | x :: rest =>
    let r := (x.1.act x.2).outcome s
    r.1 :: answers r.2 rest

/-- The way from a shelf to another: strokes were done, and listeners told. -/
structure Course (script : List Stroke) (told : List (Listener × Event)) (s u : Shelf) :
    Prop where
  document : u.ledger.document = leave s.ledger.document script
  deliveries : u.ledger.deliveries = s.ledger.deliveries ++ told
  dataKey : u.ledger.dataKey = s.ledger.dataKey
  streakKey : u.ledger.streakKey = s.ledger.streakKey
  loaded : u.ledger.loaded = s.ledger.loaded
  storage : u.storage = s.storage.attempted s.ledger.dataKey (texts script)
  persisted : u.ledger.persisted =
    (s.storage.attempts s.ledger.dataKey (texts script)).getLast?.elim s.ledger.persisted Prod.snd

theorem Course.refl (s : Shelf) : Course [] [] s s :=
  ⟨rfl, (List.append_nil _).symm, rfl, rfl, rfl, rfl, rfl⟩

theorem Course.trans {u : Shelf} {script more : List Stroke} {told rest : List (Listener × Event)}
    (h : Course script told s t) (h' : Course more rest t u) :
    Course (script ++ more) (told ++ rest) s u where
  document := by rw [h'.document, h.document, leave_append]
  deliveries := by rw [h'.deliveries, h.deliveries, List.append_assoc]
  dataKey := by rw [h'.dataKey, h.dataKey]
  streakKey := by rw [h'.streakKey, h.streakKey]
  loaded := by rw [h'.loaded, h.loaded]
  storage := by
    rw [h'.storage, h.storage, h.dataKey, texts_append, Storage.attempted_append]
  persisted := by
    rw [h'.persisted, h.persisted, h.storage, h.dataKey, texts_append, Storage.attempts_append,
      List.getLast?_append]
    cases ((s.storage.attempted s.ledger.dataKey (texts script)).attempts s.ledger.dataKey
      (texts more)).getLast? <;> rfl

/-- Strokes are a course, whoever listens afterwards. -/
theorem Writable.course (h : s.Writable) (script : List Stroke) (ls : List Listener) :
    Course script ((tells script).flatMap fun e => s.ledger.listeners.map fun l => (l, e)) s
      ((s.play script).heeding ls) where
  document := s.play_document script
  deliveries := s.play_deliveries script
  dataKey := s.play_dataKey script
  streakKey := s.play_streakKey script
  loaded := s.play_loaded script
  storage := s.play_storage script
  persisted := h.play_persisted script

theorem Course.writable {script : List Stroke} {told : List (Listener × Event)}
    (h : Course script told s t) (hs : s.Writable) : t.Writable := by
  rw [Writable, h.storage, h.dataKey]
  exact hs.attempted _

/-- On writable shelves with the same document and listeners, an errand ends alike, is the same
course, and leaves the same listeners. -/
theorem errand_course (e : Errand) (now : Instant) (hs : s.Writable) (ht : t.Writable)
    (hd : t.ledger.document = s.ledger.document)
    (hl : t.ledger.listeners = s.ledger.listeners) :
    ∃ script told r s' t', (e.act now).outcome s = (r, s') ∧ (e.act now).outcome t = (r, t') ∧
      Course script told s s' ∧ Course script told t t' ∧
      s'.ledger.listeners = e.heeded s.ledger.listeners ∧
      t'.ledger.listeners = s'.ledger.listeners ∧
      Chronicle s.ledger.document script ∧ e.Tells (tells script) r ∧
      ∀ l, s.ledger.listeners.count l = 1 → l.heard told = tells script := by
  obtain ⟨script, r, hos, hot, hc, htold⟩ := outcome_errand e now hs ht hd
  have htx := ht.course script (e.heeded t.ledger.listeners)
  rw [hl] at hot htx
  exact ⟨script, _, r, _, _, hos, hot, hs.course script _, htx, rfl, rfl, hc, htold,
    fun l hcount => Listener.heard_flatMap hcount _⟩

/-- On writable shelves with the same document and listeners, a run of errands gives the same
answers, is the same course, and leaves the same listeners. -/
theorem run_course (hs : s.Writable) (ht : t.Writable)
    (hd : t.ledger.document = s.ledger.document) (hl : t.ledger.listeners = s.ledger.listeners)
    (errands : List (Errand × Instant)) :
    t.answers errands = s.answers errands ∧
    (t.after errands).ledger.listeners = (s.after errands).ledger.listeners ∧
    ∃ script told, Course script told s (s.after errands) ∧ Course script told t (t.after errands) ∧
      Chronicle s.ledger.document script ∧
      ∀ l, s.ledger.listeners.count l = 1 → (∀ x ∈ errands, x.1.Spares l) →
        (s.after errands).ledger.listeners.count l = 1 ∧ l.heard told = tells script := by
  induction errands generalizing s t with
  | nil => exact ⟨rfl, hl, [], [], .refl s, .refl t, .nil _, fun l hcount _ => ⟨hcount, rfl⟩⟩
  | cons x rest ih =>
    obtain ⟨script, told, r, s', t', hos, hot, hs', ht', hls, hlt, hc, -, hheard⟩ :=
      errand_course x.1 x.2 hs ht hd hl
    have hd' : t'.ledger.document = s'.ledger.document := by
      rw [ht'.document, hs'.document, hd]
    obtain ⟨hanswers, hlisteners, more, after, hsm, htm, hcm, hmore⟩ :=
      ih (hs'.writable hs) (ht'.writable ht) hd' hlt
    have hsx : s.after (x :: rest) = s'.after rest := by rw [Shelf.after, List.foldl_cons, hos]; rfl
    have htx : t.after (x :: rest) = t'.after rest := by rw [Shelf.after, List.foldl_cons, hot]; rfl
    rw [hsx, htx, answers, answers, hos, hot]
    rw [hs'.document] at hcm
    refine ⟨congrArg (r :: ·) hanswers, hlisteners, script ++ more, told ++ after, hs'.trans hsm,
      ht'.trans htm, hc.append hcm, fun l hcount hspares => ?_⟩
    have hcount' : s'.ledger.listeners.count l = 1 := by
      rw [hls, (hspares x List.mem_cons_self).count_heeded, hcount]
    obtain ⟨hlast, hafter⟩ := hmore l hcount' fun y hy => hspares y (List.mem_cons_of_mem x hy)
    refine ⟨hlast, ?_⟩
    rw [Listener.heard_append, hheard l hcount, hafter, tells_append]

/-- A ledger without badges, challenges and plays on an empty storage that refuses some calls. -/
def bare (refuses : Nat → StorageCall → Bool) : Shelf where
  ledger := {
    dataKey := .str "gameverse-data"
    streakKey := .str "rps-streak"
    document := ⟨Dict.empty, [], [], {}⟩
    loaded := true
    listeners := [.record]
  }
  storage := { refuses := refuses }

theorem writable_bare (refuses : Nat → StorageCall → Bool) : (bare refuses).Writable :=
  Orderly.writable (k := "gameverse-data") ⟨rfl, fun _ he => absurd he List.not_mem_nil⟩

end Shelf

end Arcade
