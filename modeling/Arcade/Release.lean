/-!
# Releases

The releases of the arcade, the oldest first, and what the current one is called.
-/

namespace Arcade

/-- A release. -/
structure Release where
  version : String
  date : String
  notes : String
deriving DecidableEq, Repr

namespace Release

def history : List Release :=
  [
    ⟨"1.0.0", "2026-08-03", "Progress store, badge catalog, daily challenges"⟩,
    ⟨"1.1.0", "2026-09-07", "Voice buddy: wake word, intent resolver, dispatcher"⟩,
    ⟨"1.2.0", "2026-10-12",
      "Win streak folded into game progress; restart backoff cap; export/import"⟩
  ]

/-- The last release. -/
def current : Release := history.getLast (by decide)

/-- What the current release brings. -/
def milestone : String := "voice-buddy+streak-unification"

end Release

end Arcade
