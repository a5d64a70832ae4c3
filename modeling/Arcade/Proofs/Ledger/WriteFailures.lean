import Arcade.Proofs.Ledger.Errand

/-!
# Writes that fail

Nobody notices when the storage refuses what a ledger writes. Two ledgers with the same document and
the same listeners, whose storages refuse different writes, give the same answers to the same
errands, tell the same events and have the same document all the way. What differs is what is in
their storages, and what they remember of the last write.
-/

namespace Arcade.Shelf

open Stroke

/-- What is stored under the key of the document. -/
def blob (s : Shelf) : Option Json := s.storage.peek s.ledger.dataKey

/-- After a course the last document whose write succeeded is stored. -/
theorem Course.blob {script : List Stroke} {told : List (Listener × Event)} {s u : Shelf}
    (h : Course script told s u) : u.blob =
      ((s.storage.attempts s.ledger.dataKey (texts script)).filter Prod.snd).getLast?.elim s.blob
        fun a => some (.str a.1) := by
  rw [Shelf.blob, h.storage, h.dataKey]
  exact s.storage.peek_attempted s.ledger.dataKey (texts script)

/-- Whatever the storages refuse, two ledgers with the same document and the same listeners give the
same answers to the same errands and have the same document and the same listeners afterwards. Both
have attempted to write the same documents, the last of which is the one in memory, and have told
the same events. Each remembers whether its last attempt succeeded, and stored is the document of
its last attempt that succeeded. -/
theorem write_failures_unnoticed {s t : Shelf} (hs : s.Writable) (ht : t.Writable)
    (hd : t.ledger.document = s.ledger.document) (hl : t.ledger.listeners = s.ledger.listeners)
    (errands : List (Errand × Instant)) :
    t.answers errands = s.answers errands ∧
    (t.after errands).ledger.document = (s.after errands).ledger.document ∧
    (t.after errands).ledger.listeners = (s.after errands).ledger.listeners ∧
    ∃ script told,
      (s.after errands).ledger.document = (writes script).getLast?.getD s.ledger.document ∧
      ∀ u ∈ [s, t], Course script told u (u.after errands) ∧
        (u.after errands).blob =
          ((u.storage.attempts u.ledger.dataKey (texts script)).filter Prod.snd).getLast?.elim
            u.blob fun a => some (.str a.1) := by
  obtain ⟨hanswers, hlisteners, script, told, hsc, htc, -⟩ := run_course hs ht hd hl errands
  refine ⟨hanswers, ?_, hlisteners, script, told, ?_, ?_⟩
  · rw [htc.document, hsc.document, hd]
  · rw [hsc.document, leave_eq]
  · intro u hu
    obtain rfl | rfl : u = s ∨ u = t := by simpa using hu
    · exact ⟨hsc, hsc.blob⟩
    · exact ⟨htc, htc.blob⟩

/-- A storage that takes everything and one that refuses every other write. -/
theorem write_failures_unnoticed_reset :
    let now : Instant := ⟨⟨2026, 10, 18, by decide⟩, .midnight⟩
    let errands := [(Errand.operate (.countPlay "dice-roller") (by decide), now),
      (Errand.operate .reset (by decide), now), (Errand.exportText, now)]
    let refusing := bare fun n call => call = .set && n % 2 = 1
    let willing := bare fun _ _ => false
    (refusing.answers errands = willing.answers errands ∧
      (refusing.after errands).ledger.document = (willing.after errands).ledger.document) ∧
    (willing.after errands).ledger.persisted = true ∧
    (refusing.after errands).ledger.persisted = false := by
  intro now errands refusing willing
  obtain ⟨hanswers, hdocument, -⟩ := write_failures_unnoticed (writable_bare _) (writable_bare _)
    (s := willing) (t := refusing) rfl rfl errands
  exact ⟨⟨hanswers, hdocument⟩, by decide, by decide⟩

end Arcade.Shelf
