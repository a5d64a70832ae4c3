import Arcade.Proofs.Ledger.Orderly
import Arcade.Proofs.Storage.Attempts

/-!
# Strokes

All that an act on a working ledger does is to write documents and to tell events: these are its
strokes. Which strokes an act does, and how it ends, follows from the document in memory alone. So
two ledgers with the same document do the same, whatever their storages do to the writes, and what
holds of the strokes of one holds of those of the other. `Performs` says so of an act, and its rules
follow the way in which acts are composed.
-/

namespace Arcade

/-- What an act does to a ledger, one thing at a time. -/
inductive Stroke where
  /-- A document takes the place of the one in memory and is written. -/
  | write (d : Document)
  /-- The listeners are told an event. -/
  | tell (e : Event)

namespace Stroke

/-- The document in memory after strokes. -/
def leave (d : Document) : List Stroke → Document
  | [] => d
  | .write e :: rest => leave e rest
  | .tell _ :: rest => leave d rest

/-- The documents that are written. -/
def writes : List Stroke → List Document
  | [] => []
  | .write d :: rest => d :: writes rest
  | .tell _ :: rest => writes rest

/-- The texts of the documents that are written. -/
def texts (script : List Stroke) : List String := (writes script).map fun d => d.toJson.write

/-- The events that are told. -/
def tells : List Stroke → List Event
  | [] => []
  | .write _ :: rest => tells rest
  | .tell e :: rest => e :: tells rest

theorem texts_write (d : Document) (rest : List Stroke) :
    texts (.write d :: rest) = d.toJson.write :: texts rest := rfl

@[simp] theorem leave_append (d : Document) (script more : List Stroke) :
    leave d (script ++ more) = leave (leave d script) more := by
  induction script generalizing d with
  | nil => rfl
  | cons x rest ih => cases x <;> exact ih _

@[simp] theorem writes_append (script more : List Stroke) :
    writes (script ++ more) = writes script ++ writes more := by
  induction script with
  | nil => rfl
  | cons x rest ih => cases x <;> simp [writes, ih]

@[simp] theorem texts_append (script more : List Stroke) :
    texts (script ++ more) = texts script ++ texts more := by
  rw [texts, writes_append, List.map_append]
  rfl

@[simp] theorem tells_append (script more : List Stroke) :
    tells (script ++ more) = tells script ++ tells more := by
  induction script with
  | nil => rfl
  | cons x rest ih => cases x <;> simp [tells, ih]

/-- The document in memory is the last one that was written. -/
theorem leave_eq (d : Document) (script : List Stroke) :
    leave d script = (writes script).getLast?.getD d := by
  induction script generalizing d with
  | nil => rfl
  | cons x rest ih =>
    cases x with
    | tell e => exact ih d
    | write e =>
      rw [leave, ih, writes, List.getLast?_cons]
      rfl

end Stroke

namespace Shelf

open Stroke

/-- The shelf after a stroke, whether or not a write succeeds. -/
def stroke (s : Shelf) : Stroke → Shelf
  | .write d => ((keep d).outcome s).2
  | .tell e => s.emit e

/-- The shelf after strokes one after the other. -/
def play (s : Shelf) (script : List Stroke) : Shelf := script.foldl stroke s

/-- What a ledger writes only fails to be stored because the storage refuses it. -/
def Writable (s : Shelf) : Prop := s.storage.Obliging s.ledger.dataKey

variable {s t : Shelf}

@[simp] theorem play_nil (s : Shelf) : s.play [] = s := rfl

theorem play_cons (s : Shelf) (x : Stroke) (rest : List Stroke) :
    s.play (x :: rest) = (s.stroke x).play rest := rfl

theorem play_append (s : Shelf) (script more : List Stroke) :
    s.play (script ++ more) = (s.play script).play more := List.foldl_append

/-- A ledger with a text for its key on a storage of texts is writable. -/
theorem Orderly.writable {k : String} (h : Orderly k s) : s.Writable := by
  rw [Writable, h.dataKey]
  exact h.textual.obliging k

/-! ## What strokes leave -/

@[simp] theorem stroke_write (s : Shelf) (d : Document) :
    s.stroke (.write d) =
      ⟨{ s.ledger with
          document := d
          persisted := persistedAfter s.ledger.persisted
            (s.storage.set s.ledger.dataKey (.str d.toJson.write)).1 },
        (s.storage.set s.ledger.dataKey (.str d.toJson.write)).2⟩ := by
  rw [stroke, outcome_keep]
  rfl

@[simp] theorem stroke_tell (s : Shelf) (e : Event) :
    s.stroke (.tell e) =
      { s with ledger := { s.ledger with
        deliveries := s.ledger.deliveries ++ s.ledger.listeners.map fun l => (l, e) } } :=
  emit_eq s e

/-- Strokes change the ledger by what they write and tell, and by whether the last write
succeeded. -/
theorem play_ledger (s : Shelf) (script : List Stroke) :
    ∃ persisted, (s.play script).ledger = { s.ledger with
      document := leave s.ledger.document script
      persisted := persisted
      deliveries := s.ledger.deliveries ++
        (tells script).flatMap fun e => s.ledger.listeners.map fun l => (l, e) } := by
  induction script generalizing s with
  | nil => exact ⟨s.ledger.persisted, by simp [leave, tells]⟩
  | cons x rest ih =>
    obtain ⟨persisted, h⟩ := ih (s.stroke x)
    refine ⟨persisted, ?_⟩
    rw [play_cons, h]
    cases x with
    | write d => rw [stroke_write]; rfl
    | tell e =>
      rw [stroke_tell, tells, List.flatMap_cons]
      simp only [leave, List.append_assoc]

@[simp] theorem play_document (s : Shelf) (script : List Stroke) :
    (s.play script).ledger.document = leave s.ledger.document script := by
  obtain ⟨_, h⟩ := s.play_ledger script
  rw [h]

@[simp] theorem play_listeners (s : Shelf) (script : List Stroke) :
    (s.play script).ledger.listeners = s.ledger.listeners := by
  obtain ⟨_, h⟩ := s.play_ledger script
  rw [h]

@[simp] theorem play_dataKey (s : Shelf) (script : List Stroke) :
    (s.play script).ledger.dataKey = s.ledger.dataKey := by
  obtain ⟨_, h⟩ := s.play_ledger script
  rw [h]

@[simp] theorem play_streakKey (s : Shelf) (script : List Stroke) :
    (s.play script).ledger.streakKey = s.ledger.streakKey := by
  obtain ⟨_, h⟩ := s.play_ledger script
  rw [h]

@[simp] theorem play_loaded (s : Shelf) (script : List Stroke) :
    (s.play script).ledger.loaded = s.ledger.loaded := by
  obtain ⟨_, h⟩ := s.play_ledger script
  rw [h]

theorem play_deliveries (s : Shelf) (script : List Stroke) :
    (s.play script).ledger.deliveries = s.ledger.deliveries ++
      (tells script).flatMap fun e => s.ledger.listeners.map fun l => (l, e) := by
  obtain ⟨_, h⟩ := s.play_ledger script
  rw [h]


/-- Strokes leave in the storage what attempts to write their documents leave. -/
theorem play_storage (s : Shelf) (script : List Stroke) :
    (s.play script).storage = s.storage.attempted s.ledger.dataKey (texts script) := by
  induction script generalizing s with
  | nil => rfl
  | cons x rest ih =>
    rw [play_cons, ih]
    cases x with
    | write d => rw [stroke_write]; rfl
    | tell e => rw [stroke_tell]; rfl

theorem Writable.play (h : s.Writable) (script : List Stroke) : (s.play script).Writable := by
  rw [Writable, play_storage, play_dataKey]
  exact h.attempted _

theorem Writable.save_result (h : s.Writable) : (save.outcome s).1 = .ok () :=
  h.passOver_set s.ledger.document.toJson.write

/-- On a writable ledger the writing of a document ends without a fault. -/
theorem Writable.outcome_keep (h : s.Writable) (d : Document) :
    (keep d).outcome s = (.ok (), s.stroke (.write d)) := by
  refine Prod.ext ?_ rfl
  rw [Shelf.outcome_keep]
  exact save_result (s := s.withDocument d) h

theorem Writable.persistedAfter (h : s.Writable) (before : Bool) (t : String) :
    Shelf.persistedAfter before (s.storage.set s.ledger.dataKey (.str t)).1 =
      (s.storage.set s.ledger.dataKey (.str t)).1.toOption.isSome := by
  have hset := h.passOver_set t
  cases hr : (s.storage.set s.ledger.dataKey (.str t)).1 with
  | ok => rfl
  | error e =>
    rw [hr] at hset
    cases e with
    | storage f => rfl
    | _ => cases hset

/-- A ledger remembers whether the last write succeeded. -/
theorem Writable.play_persisted (h : s.Writable) (script : List Stroke) :
    (s.play script).ledger.persisted =
      ((s.storage.attempts s.ledger.dataKey (texts script)).getLast?.elim s.ledger.persisted
        Prod.snd) := by
  induction script generalizing s with
  | nil => rfl
  | cons x rest ih =>
    have hx : (s.stroke x).Writable := h.play [x]
    rw [play_cons, ih hx]
    cases x with
    | write d =>
      rw [texts_write, Storage.attempts, List.getLast?_cons, stroke_write, h.persistedAfter]
      cases ((s.storage.set s.ledger.dataKey (.str d.toJson.write)).2.attempts s.ledger.dataKey
        (texts rest)).getLast? <;> rfl
    | tell e => rw [stroke_tell]; rfl

/-! ## Acts that perform strokes -/

variable {α β : Type} {d : Document} {Q Q' : List Stroke → Except Fault α → Prop}
  {R : List Stroke → Except Fault β → Prop}

/-- From any two writable shelves with a document, an act does the same strokes and ends alike, and
it is as required which strokes these are and how it ends. -/
def Performs (d : Document) (Q : List Stroke → Except Fault α → Prop) (a : Act Shelf α) : Prop :=
  ∀ s t : Shelf, s.Writable → t.Writable → s.ledger.document = d → t.ledger.document = d →
    ∃ script r, a.outcome s = (r, s.play script) ∧ a.outcome t = (r, t.play script) ∧ Q script r

theorem Performs.mono {a : Act Shelf α} (h : Performs d Q a)
    (hq : ∀ script r, Q script r → Q' script r) : Performs d Q' a := by
  intro s t hs ht hsd htd
  obtain ⟨script, r, hos, hot, hr⟩ := h s t hs ht hsd htd
  exact ⟨script, r, hos, hot, hq script r hr⟩

theorem performs_lift {r : Except Fault α} (h : Q [] r) : Performs d Q (Act.lift r) :=
  fun _ _ _ _ _ _ => ⟨[], r, rfl, rfl, h⟩

theorem performs_pure {x : α} (h : Q [] (.ok x)) : Performs d Q (pure x) :=
  fun _ _ _ _ _ _ => ⟨[], .ok x, rfl, rfl, h⟩

theorem performs_throw {e : Fault} (h : Q [] (.error e)) : Performs d Q (throw e) :=
  fun _ _ _ _ _ _ => ⟨[], .error e, rfl, rfl, h⟩

theorem performs_keep {e : Document} {Q : List Stroke → Except Fault Unit → Prop}
    (h : Q [.write e] (.ok ())) : Performs d Q (keep e) :=
  fun _ _ hs ht _ _ => ⟨[.write e], .ok (), hs.outcome_keep e, ht.outcome_keep e, h⟩

theorem performs_emit {e : Event} {Q : List Stroke → Except Fault PUnit → Prop}
    (h : Q [.tell e] (.ok ⟨⟩)) : Performs d Q (modify fun s => s.emit e) :=
  fun _ _ _ _ _ _ => ⟨[.tell e], .ok ⟨⟩, rfl, rfl, h⟩

/-- An act followed by another, which starts from the document that the first leaves. -/
theorem Performs.bind {a : Act Shelf β} {f : β → Act Shelf α} (ha : Performs d R a)
    (hf : ∀ script x, R script (.ok x) →
      Performs (leave d script) (fun more r => Q (script ++ more) r) (f x))
    (herror : ∀ script e, R script (.error e) → Q script (.error e)) : Performs d Q (a >>= f) := by
  intro s t hs ht hsd htd
  obtain ⟨script, r, hos, hot, hr⟩ := ha s t hs ht hsd htd
  cases r with
  | error e =>
    exact ⟨script, .error e, Act.outcome_bind_of_error hos, Act.outcome_bind_of_error hot,
      herror script e hr⟩
  | ok x =>
    obtain ⟨more, r', hos', hot', hr'⟩ := hf script x hr (s.play script) (t.play script)
      (hs.play script) (ht.play script) (by rw [play_document, hsd]) (by rw [play_document, htd])
    refine ⟨script ++ more, r', ?_, ?_, hr'⟩
    · rw [Act.outcome_bind_of_ok hos, hos', play_append]
    · rw [Act.outcome_bind_of_ok hot, hot', play_append]

/-- An act that starts by looking at the document. -/
theorem performs_get_bind {f : Shelf → Act Shelf α}
    (hf : ∀ s t : Shelf, s.ledger.document = t.ledger.document → f s = f t)
    (h : ∀ s : Shelf, s.ledger.document = d → Performs d Q (f s)) :
    Performs d Q (get >>= f) := by
  intro s t hs ht hsd htd
  obtain ⟨script, r, hos, hot, hr⟩ := h s hsd s t hs ht hsd htd
  refine ⟨script, r, ?_, ?_, hr⟩
  · rw [Act.outcome_bind_of_ok (Act.outcome_get s), hos]
  · rw [Act.outcome_bind_of_ok (Act.outcome_get t), hf t s (htd.trans hsd.symm), hot]

/-- An act that starts with a result that does not depend on the shelf. -/
theorem performs_lift_bind {r : Except Fault β} {f : β → Act Shelf α}
    (hf : ∀ x, r = .ok x → Performs d Q (f x)) (herror : ∀ e, r = .error e → Q [] (.error e)) :
    Performs d Q (Act.lift r >>= f) := by
  refine (performs_lift (Q := fun script r' => script = [] ∧ r' = r) ⟨rfl, rfl⟩).bind ?_ ?_
  · rintro _ x ⟨rfl, hx⟩
    exact hf x hx.symm
  · rintro _ e ⟨rfl, he⟩
    exact herror e he.symm

/-- An act that starts by writing a document. -/
theorem performs_keep_bind {e : Document} {f : Unit → Act Shelf α}
    (h : Performs e (fun more r => Q (.write e :: more) r) (f ())) :
    Performs d Q (keep e >>= f) := by
  refine (performs_keep (Q := fun script r => script = [.write e] ∧ r = .ok ())
    ⟨rfl, rfl⟩).bind ?_ ?_
  · rintro _ _ ⟨rfl, -⟩
    exact h
  · rintro _ e ⟨-, he⟩
    cases he

/-- An act that starts by telling an event. -/
theorem performs_emit_bind {e : Event} {f : PUnit → Act Shelf α}
    (h : Performs d (fun more r => Q (.tell e :: more) r) (f ⟨⟩)) :
    Performs d Q ((modify fun s => s.emit e) >>= f) := by
  refine (performs_emit (Q := fun script r => script = [.tell e] ∧ r = .ok ⟨⟩)
    ⟨rfl, rfl⟩).bind ?_ ?_
  · rintro _ _ ⟨rfl, -⟩
    exact h
  · rintro _ e ⟨-, he⟩
    cases he

/-- An act with its result turned into another. -/
theorem Performs.map {a : Act Shelf β} (g : β → α)
    (h : Performs d (fun script r => Q script (r.map g)) a) : Performs d Q (g <$> a) := by
  intro s t hs ht hsd htd
  obtain ⟨script, r, hos, hot, hr⟩ := h s t hs ht hsd htd
  refine ⟨script, r.map g, ?_, ?_, hr⟩
  · rw [Act.outcome_map, hos]
  · rw [Act.outcome_map, hot]

end Shelf

end Arcade
