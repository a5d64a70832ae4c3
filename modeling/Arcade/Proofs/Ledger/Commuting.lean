import Arcade.Proofs.Ledger.Mutation
import Arcade.Proofs.Ledger.WriteFailures

/-!
# Mutations of different items

Mutations of different items can be carried out in either order. What a mutation decides on is the
same after a mutation of another item, and changes of different items, with what is gained, can be
made in either order. Two games are the exception as long as neither is in the document: their
records are then listed in the order in which they came.
-/

namespace Arcade

/-! ## Entries and items of lists -/

section Lists

variable {α κ : Type} [DecidableEq κ]

/-- Values can be put under two names in either order if one of the names is known. -/
theorem putEntry_right_comm {name other : κ} (h : name ≠ other) {entries : List (κ × α)}
    (known : name ∈ entries.map Prod.fst ∨ other ∈ entries.map Prod.fst) (v w : α) :
    putEntry other w (putEntry name v entries) = putEntry name v (putEntry other w entries) := by
  induction entries with
  | nil => rcases known with hin | hin <;> exact absurd hin List.not_mem_nil
  | cons e rest ih =>
    by_cases hname : e.1 = name
    · have hother : e.1 ≠ other := hname ▸ h
      simp only [putEntry, if_pos hname, if_neg hother, if_neg h]
    · by_cases hother : e.1 = other
      · simp only [putEntry, if_neg hname, if_pos hother, if_neg h.symm]
      · have hrest : name ∈ rest.map Prod.fst ∨ other ∈ rest.map Prod.fst := by
          simpa [Ne.symm hname, Ne.symm hother] using known
        simp only [putEntry, if_neg hname, if_neg hother, ih hrest]

theorem Dict.insert_right_comm {d : Dict α κ} {name other : κ} (h : name ≠ other)
    (known : name ∈ d.names ∨ other ∈ d.names) (v w : α) :
    (d.insert name v).insert other w = (d.insert other w).insert name v :=
  Dict.ext (putEntry_right_comm h known v w)

/-- The first items with different identifiers can be changed in either order. -/
theorem changeFirst_right_comm {f : α → κ} {change : α → α} (hf : ∀ x, f (change x) = f x)
    {k k' : κ} (h : k ≠ k') (l : List α) :
    changeFirst (f · = k') change (changeFirst (f · = k) change l) =
      changeFirst (f · = k) change (changeFirst (f · = k') change l) := by
  induction l with
  | nil => rfl
  | cons x rest ih =>
    by_cases hk : f x = k
    · have hk' : f x ≠ k' := hk ▸ h
      simp [changeFirst, hf, hk, h]
    · by_cases hk' : f x = k'
      · simp [changeFirst, hf, hk', h.symm]
      · simp [changeFirst, hk, hk', ih]

end Lists

namespace Document

variable {d e : Document} {now : Instant} {a b : Alteration} {i : Item}

/-! ## Changes of different items -/

/-- Whether an item is the same in two documents. -/
def Agrees (d e : Document) : Item → Prop
  | .game name => d.record name = e.record name
  | .badge id => d.badge? id = e.badge? id
  | .challenge id => d.challenge? id = e.challenge? id

theorem agrees_refl (d : Document) (i : Item) : d.Agrees d i := by
  cases i <;> rfl

/-- A change of an item leaves every other item as it was. -/
theorem agrees_alter (h : a.item ≠ i) : (d.alter now a).Agrees d i := by
  cases i with
  | game name =>
    cases a with
    | record game stats gain =>
      have hname : name ≠ game := fun hg => h (congrArg Item.game hg.symm)
      rw [Agrees, Document.record, Document.record, alter, Alteration.progress,
        Dict.get?_insert_of_ne hname]
    | unlock id => rfl
    | complete id coins => rfl
  | badge id =>
    cases a with
    | unlock id' =>
      have hid : id ≠ id' := fun hi => h (congrArg Item.badge hi.symm)
      exact (find?_changeFirst (fun b => b.unlockedOn_id now) id' id d.badges).trans
        (by simp [hid, badge?])
    | record game stats gain => rfl
    | complete id coins => rfl
  | challenge id =>
    cases a with
    | complete id' coins =>
      have hid : id ≠ id' := fun hi => h (congrArg Item.challenge hi.symm)
      exact (find?_changeFirst (fun c => c.completedOn_id now) id' id d.challenges).trans
        (by simp [hid, challenge?])
    | record game stats gain => rfl
    | unlock id => rfl

/-- Whether two items are not both games that the document does not know. -/
def Knows (d : Document) (i j : Item) : Prop :=
  ∀ g h, i = .game g → j = .game h → g ∈ d.progress.names ∨ h ∈ d.progress.names

/-- Changes of different items can be made in either order. -/
theorem alter_right_comm (h : a.item ≠ b.item) (known : d.Knows a.item b.item) :
    (d.alter now a).alter now b = (d.alter now b).alter now a := by
  -- Two changes meet in one part of the document only if they are of one kind.
  have hprogress : b.progress (a.progress d.progress) = a.progress (b.progress d.progress) := by
    cases a with
    | record game stats gain =>
      cases b with
      | record other stats' gain' =>
        exact Dict.insert_right_comm (fun hg => h (congrArg Item.game hg))
          (known game other rfl rfl) stats stats'
      | unlock id => rfl
      | complete id coins => rfl
    | unlock id => rfl
    | complete id coins => rfl
  have hbadges : b.badges now (a.badges now d.badges) = a.badges now (b.badges now d.badges) := by
    cases a with
    | unlock id =>
      cases b with
      | unlock id' =>
        exact changeFirst_right_comm (fun b => b.unlockedOn_id now)
          (fun hi => h (congrArg Item.badge hi)) d.badges
      | record game stats gain => rfl
      | complete id coins => rfl
    | record game stats gain => rfl
    | complete id coins => rfl
  have hchallenges : b.challenges now (a.challenges now d.challenges) =
      a.challenges now (b.challenges now d.challenges) := by
    cases a with
    | complete id coins =>
      cases b with
      | complete id' coins' =>
        exact changeFirst_right_comm (fun c => c.completedOn_id now)
          (fun hi => h (congrArg Item.challenge hi)) d.challenges
      | record game stats gain => rfl
      | unlock id => rfl
    | record game stats gain => rfl
    | unlock id => rfl
  simp only [alter, hprogress, hbadges, hchallenges, Tally.gain_right_comm d.tally a.gain b.gain]

end Document

/-! ## Decisions on different items -/

namespace Mutation

variable {d e : Document} {now : Instant} {m : Mutation}

/-- A mutation decides by its item alone. -/
theorem decide_congr (h : d.Agrees e m.item) : m.decide now d = m.decide now e := by
  cases m with
  | unlock id =>
    have hb : d.badge? id = e.badge? id := h
    rw [decide, decide, hb]
  | complete id =>
    have hc : d.challenge? id = e.challenge? id := h
    rw [decide, decide, hc]
  | update game values =>
    have hr : d.record game = e.record game := h
    rw [decide, decide, hr]
  | countPlay game =>
    have hr : d.record game = e.record game := h
    simp only [decide, Document.stat, hr]
  | addTime game seconds =>
    have hr : d.record game = e.record game := h
    simp only [decide, Document.stat, hr]
  | addRound game won =>
    have hr : d.record game = e.record game := h
    simp only [decide, Document.streakAfter, Document.stat, hr]

end Mutation

section Decisions

variable {d : Document} {now : Instant} {m n : Mutation}

/-- A mutation leaves every other item as it was. -/
theorem agrees_result (h : m.item ≠ n.item) :
    ((m.decide now d).result now d).Agrees d n.item := by
  rcases hm : m.decide now d with e | ⟨x, _ | a⟩
  · exact d.agrees_refl n.item
  · exact d.agrees_refl n.item
  · exact Document.agrees_alter (Mutation.item_of_decide hm ▸ h)

/-- A mutation decides alike after a mutation of another item. -/
theorem decide_result (h : m.item ≠ n.item) :
    n.decide now ((m.decide now d).result now d) = n.decide now d :=
  Mutation.decide_congr (agrees_result h)

/-- What mutations of different items decide on can be carried out in either order. -/
theorem result_right_comm (h : m.item ≠ n.item) (known : d.Knows m.item n.item) :
    (n.decide now d).result now ((m.decide now d).result now d) =
      (m.decide now d).result now ((n.decide now d).result now d) := by
  rcases hm : m.decide now d with e | ⟨x, _ | a⟩
  · rfl
  · rfl
  · rcases hn : n.decide now d with e | ⟨y, _ | b⟩
    · rfl
    · rfl
    · rw [← Mutation.item_of_decide hm, ← Mutation.item_of_decide hn] at h known
      exact Document.alter_right_comm h known

end Decisions

namespace Shelf

open Stroke

variable {s : Shelf} {now : Instant} {m n : Mutation}

/-- The answers to two mutations, the first and then the second, and the shelf afterwards. -/
def both (now : Instant) (m n : Mutation) (s : Shelf) :
    (Except Fault Operation.Answer × Except Fault Operation.Answer) × Shelf :=
  let r := (m.operation.answer now).outcome s
  let r' := (n.operation.answer now).outcome r.2
  ((r.1, r'.1), r'.2)

/-- What a ledger writes is always stored. -/
def Working (s : Shelf) : Prop := s.storage.Accepting s.ledger.dataKey

theorem Working.writable (h : s.Working) : s.Writable := h.obliging

theorem blob_play_of_writes_eq_nil {script : List Stroke} (h : writes script = []) :
    (s.play script).blob = s.blob := by
  rw [blob, play_storage, play_dataKey, texts, h]
  rfl

/-- Strokes that write something end with an attempt to write the document that they leave. -/
theorem exists_last_attempt {script : List Stroke} (h : writes script ≠ []) :
    ∃ before written, s.storage.attempts s.ledger.dataKey (texts script) =
      before ++ [((leave s.ledger.document script).toJson.write, written)] := by
  obtain ⟨front, last, hlast⟩ := (List.eq_nil_or_concat (writes script)).resolve_left h
  rw [texts, leave_eq, hlast, List.concat_eq_append, List.map_append, Storage.attempts_append,
    List.getLast?_concat]
  exact ⟨_, _, rfl⟩

/-- If the last write succeeded, the document that was written last is stored. -/
theorem Writable.blob_play (hs : s.Writable) {script : List Stroke} (hne : writes script ≠ [])
    (hp : (s.play script).ledger.persisted = true) :
    (s.play script).blob = some (.str (leave s.ledger.document script).toJson.write) := by
  obtain ⟨before, written, hattempts⟩ := exists_last_attempt (s := s) hne
  rw [hs.play_persisted, hattempts, List.getLast?_concat] at hp
  obtain rfl : written = true := hp
  rw [blob, play_storage, play_dataKey, Storage.peek_attempted, hattempts, List.filter_append,
    List.filter_cons_of_pos rfl, List.filter_nil, List.getLast?_concat]
  rfl

/-- Two scripts that leave the same document, and of which neither or each writes something, leave
the same text in the storage if their last writes succeeded. -/
theorem Writable.blob_play_congr (hs : s.Writable) {script script' : List Stroke}
    (hw : writes script = [] ↔ writes script' = [])
    (hl : leave s.ledger.document script = leave s.ledger.document script')
    (hp : writes script ≠ [] → (s.play script).ledger.persisted = true)
    (hp' : writes script' ≠ [] → (s.play script').ledger.persisted = true) :
    (s.play script).blob = (s.play script').blob := by
  by_cases hnil : writes script = []
  · rw [blob_play_of_writes_eq_nil hnil, blob_play_of_writes_eq_nil (hw.1 hnil)]
  · have hnil' := mt hw.2 hnil
    rw [hs.blob_play hnil (hp hnil), hs.blob_play hnil' (hp' hnil'), hl]

theorem Working.persisted_play (hs : s.Working) {script : List Stroke} (hne : writes script ≠ []) :
    (s.play script).ledger.persisted = true := by
  obtain ⟨before, written, hattempts⟩ := exists_last_attempt (s := s) hne
  rw [hs.writable.play_persisted, hattempts, List.getLast?_concat]
  exact hs.attempts _ _ (hattempts ▸ List.mem_append_right _ List.mem_cons_self)

theorem both_document (now : Instant) (h : m.item ≠ n.item) :
    let d := s.ledger.document
    (s.both now m n).2.ledger.document =
      (n.decide now d).result now ((m.decide now d).result now d) := by
  intro d
  unfold both
  rw [document_mutation, document_mutation, decide_result h]

/-- The strokes of two mutations of different items, the first and then the second. -/
def scriptOfBoth (now : Instant) (m n : Mutation) (d : Document) : List Stroke :=
  (m.decide now d).script now d ++ (n.decide now d).script now ((m.decide now d).result now d)

theorem writes_scriptOfBoth_eq_nil {d : Document} : writes (scriptOfBoth now m n d) = [] ↔
    (m.decide now d).change? = none ∧ (n.decide now d).change? = none := by
  unfold scriptOfBoth
  rw [writes_append, Decision.writes_script, Decision.writes_script]
  cases (m.decide now d).change? <;> cases (n.decide now d).change? <;> simp

/-- On a writable ledger two mutations of different items are answered as what is decided on the
document as it is, and carried out one after the other. -/
theorem Writable.both_eq (hs : s.Writable) (h : m.item ≠ n.item) (now : Instant) :
    let d := s.ledger.document
    s.both now m n = (((m.decide now d).map Prod.fst, (n.decide now d).map Prod.fst),
      s.play (scriptOfBoth now m n d)) := by
  intro d
  have hplayed := hs.play ((m.decide now d).script now d)
  have hdoc : (s.play ((m.decide now d).script now d)).ledger.document =
      (m.decide now d).result now d := by
    rw [play_document]
    exact Decision.leave_script now d _
  have hsecond := hplayed.outcome_carryOut
    (n.decide now (s.play ((m.decide now d).script now d)).ledger.document) now
  rw [← outcome_mutation, hdoc, decide_result h] at hsecond
  unfold both scriptOfBoth
  rw [outcome_mutation m, hs.outcome_carryOut, play_append]
  dsimp only
  rw [hsecond]

/-- A document with two games. -/
def twoGames : Document where
  progress := Dict.ofList [("dice-roller", Dict.ofList [("plays", 1)]),
    ("rock-paper-scissors", Dict.empty)]
  badges := []
  challenges := []
  tally := {}

end Shelf

end Arcade
