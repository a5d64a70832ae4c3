import Arcade.Ledger.Export
import Arcade.Proofs.Calendar.Timestamps
import Arcade.Proofs.Challenge.Generations
import Arcade.Proofs.Ledger.ChangeFirst
import Arcade.Proofs.Ledger.Loading
import Arcade.Proofs.Ledger.Operation
import Arcade.Proofs.Progress.Echo
import Arcade.Proofs.Progress.Sound
import Arcade.Proofs.Storage.Texts

/-!
# Conservation of counters

The tally counts the same things twice: in total and day by day. The totals are the sums over the
days in every document that a ledger can come to, as long as it started with an empty storage and
only imports what such a ledger exported. The number of badges unlocked is counted a second time in
the badges themselves. Challenges are replaced, so that those completed in the current generation
and their rewards are only a part of what is counted.

A document that is stored or exported and read back may have other texts, but the same counts, and
what is added to it when it is brought up to date counts for nothing.
-/

namespace Arcade

/-! ## Sums over lists -/

theorem total_map_putEntry {α κ : Type} [DecidableEq κ] (f : α → Nat) (name : κ) (value : α)
    (entries : List (κ × α)) :
    total ((putEntry name value entries).map fun e => f e.2) +
      ((valueAt? name entries).map f).getD 0 = total (entries.map fun e => f e.2) + f value := by
  induction entries with
  | nil => simp [putEntry, valueAt?]
  | cons e rest ih =>
    by_cases he : e.1 = name
    · simp only [putEntry, valueAt?, he, if_true, List.map_cons, total_cons, Option.map_some,
        Option.getD_some]
      omega
    · simp only [putEntry, valueAt?, he, if_false, List.map_cons, total_cons]
      omega

theorem total_map_filter {α : Type} (p : α → Bool) (f : α → Nat) (l : List α) :
    total ((l.filter p).map f) = total (l.map fun x => if p x then f x else 0) := by
  induction l with
  | nil => rfl
  | cons x rest ih =>
    cases hx : p x with
    | true => simp only [List.filter_cons, hx, if_true, List.map_cons, total_cons, ih]
    | false =>
      simp only [List.filter_cons, hx, Bool.false_eq_true, if_false, List.map_cons, total_cons,
        ih, Nat.zero_add]

/-! ## Conserved documents -/

/-- The sum of something over the days of a tally. -/
def Tally.sum (t : Tally) (f : DayLog → Nat) : Nat := total (t.days.values.map f)

/-- The coins of all completed challenges. -/
def Challenge.rewards (challenges : List Challenge) : Nat :=
  total ((challenges.filter Challenge.completed).map Challenge.rewardCoins)

/-- The counters of a document agree with the days, the badges and the challenges. -/
structure Document.Conserved (d : Document) : Prop where
  plays : d.tally.totalPlays = d.tally.sum DayLog.gamesPlayed
  time : d.tally.totalTime = d.tally.sum DayLog.timeSpent
  coins : d.tally.totalCoins = d.tally.sum DayLog.coinsEarned
  badges : d.tally.badgesUnlocked = d.badges.countP Badge.unlocked
  challenges : d.challenges.countP Challenge.completed ≤ d.tally.challengesCompleted
  rewards : Challenge.rewards d.challenges ≤ d.tally.totalCoins

theorem Challenge.countP_of_scores {cs cs' : List Challenge}
    (h : cs'.map Challenge.score = cs.map Challenge.score) :
    cs'.countP Challenge.completed = cs.countP Challenge.completed := by
  have hcount : ∀ l : List Challenge,
      l.countP Challenge.completed = (l.map Challenge.score).countP Prod.snd := by
    intro l
    rw [List.countP_map]
    rfl
  rw [hcount, hcount, h]

theorem Challenge.rewards_of_scores {cs cs' : List Challenge}
    (h : cs'.map Challenge.score = cs.map Challenge.score) :
    Challenge.rewards cs' = Challenge.rewards cs := by
  have hrewards : ∀ l : List Challenge, Challenge.rewards l =
      total ((l.map Challenge.score).map fun s => if s.2 then s.1 else 0) := by
    intro l
    rw [Challenge.rewards, total_map_filter, List.map_map]
    rfl
  rw [hrewards, hrewards, h]

/-- The challenges of a generation are open. -/
theorem Challenge.open_of_generation {now : Instant} {challenges : List Challenge}
    (h : Challenge.generation now = .ok challenges) :
    challenges.countP Challenge.completed = 0 ∧ Challenge.rewards challenges = 0 := by
  obtain ⟨m, -, rfl⟩ := Challenge.generation_eq_ok.1 h
  have hopen : ∀ c ∈ Challenge.catalog.map (Challenge.ofDesign · m.timestamp),
      ¬ c.completed = true := by
    intro c hc
    obtain ⟨d, -, rfl⟩ := List.mem_map.1 hc
    exact Bool.false_ne_true
  refine ⟨List.countP_eq_zero.2 hopen, ?_⟩
  rw [Challenge.rewards, List.filter_eq_nil_iff.2 hopen]
  rfl

namespace Document

variable {d d' : Document} {now : Instant}

/-- Only the tally, the badges unlocked and the challenges completed count. -/
theorem Conserved.congr (h : d.Conserved) (ht : d'.tally = d.tally)
    (hb : d'.badges.countP Badge.unlocked = d.badges.countP Badge.unlocked)
    (hc : d'.challenges.countP Challenge.completed ≤ d.challenges.countP Challenge.completed)
    (hr : Challenge.rewards d'.challenges ≤ Challenge.rewards d.challenges) : d'.Conserved where
  plays := ht ▸ h.plays
  time := ht ▸ h.time
  coins := ht ▸ h.coins
  badges := by rw [ht, hb, h.badges]
  challenges := by
    rw [ht]
    exact Nat.le_trans hc h.challenges
  rewards := by
    rw [ht]
    exact Nat.le_trans hr h.rewards

/-- A generation of challenges counts for nothing. -/
theorem Conserved.renew (h : d.Conserved) {challenges : List Challenge}
    (hg : Challenge.generation now = .ok challenges) :
    Conserved { d with challenges := challenges } := by
  obtain ⟨hcount, hrewards⟩ := Challenge.open_of_generation hg
  refine h.congr rfl rfl ?_ ?_
  · rw [hcount]
    exact Nat.zero_le _
  · rw [hrewards]
    exact Nat.zero_le _

theorem countP_unlocked_fresh (p : Badge → Bool) :
    (Badge.fresh.filter p).countP Badge.unlocked = 0 := by
  refine List.countP_eq_zero.2 fun b hb => ?_
  obtain ⟨design, -, rfl⟩ := List.mem_map.1 (List.mem_filter.1 hb).1
  exact Bool.false_ne_true

theorem conserved_freshOn (h : freshOn now = .ok d) : d.Conserved := by
  obtain ⟨challenges, hg, h⟩ := bind_eq_ok.1 h
  obtain rfl := Except.ok.inj h
  obtain ⟨hcount, hrewards⟩ := Challenge.open_of_generation hg
  have hbadges := countP_unlocked_fresh fun _ => true
  rw [List.filter_true] at hbadges
  exact ⟨rfl, rfl, rfl, hbadges.symm, Nat.le_of_eq hcount, Nat.le_of_eq hrewards⟩

/-! ## Days -/

/-- A sum over the days once the log of a day is changed. -/
theorem sum_insert (days : Dict DayLog) (day : String) (log : DayLog) (f : DayLog → Nat)
    (hf : f {} = 0) :
    total ((days.insert day log).values.map f) + f ((days.get? day).getD {}) =
      total (days.values.map f) + f log := by
  have h := total_map_putEntry f day log days.entries
  have hold : ((valueAt? day days.entries).map f).getD 0 = f ((days.get? day).getD {}) := by
    change ((days.get? day).map f).getD 0 = _
    cases days.get? day with
    | none => exact hf.symm
    | some log => rfl
  rw [hold] at h
  simp only [Dict.values, List.map_map]
  exact h

/-- The sums over the days once plays, seconds and coins are added to the log of a day. -/
theorem sums_insert (days : Dict DayLog) (day : String) (plays time coins : Nat) :
    let log := (days.get? day).getD {}
    let days' := days.insert day
      ⟨log.gamesPlayed + plays, log.timeSpent + time, log.coinsEarned + coins⟩
    total (days'.values.map DayLog.gamesPlayed) =
        total (days.values.map DayLog.gamesPlayed) + plays ∧
      total (days'.values.map DayLog.timeSpent) =
        total (days.values.map DayLog.timeSpent) + time ∧
      total (days'.values.map DayLog.coinsEarned) =
        total (days.values.map DayLog.coinsEarned) + coins := by
  intro log days'
  have h (f : DayLog → Nat) := sum_insert days day
    ⟨log.gamesPlayed + plays, log.timeSpent + time, log.coinsEarned + coins⟩ f
  have hplays : total (days'.values.map DayLog.gamesPlayed) + log.gamesPlayed =
      total (days.values.map DayLog.gamesPlayed) + (log.gamesPlayed + plays) := h _ rfl
  have htime : total (days'.values.map DayLog.timeSpent) + log.timeSpent =
      total (days.values.map DayLog.timeSpent) + (log.timeSpent + time) := h _ rfl
  have hcoins : total (days'.values.map DayLog.coinsEarned) + log.coinsEarned =
      total (days.values.map DayLog.coinsEarned) + (log.coinsEarned + coins) := h _ rfl
  exact ⟨by omega, by omega, by omega⟩

theorem sum_withDay (d : Document) (now : Instant) (f : DayLog → Nat) (hf : f {} = 0) :
    (d.withDay now).tally.sum f = d.tally.sum f := by
  unfold withDay Dict.insertNew
  by_cases hc : d.tally.days.contains now.dayKey = true
  · rw [if_pos hc]
  · have hnone : d.tally.days.get? now.dayKey = none := by
      rwa [Dict.contains, Option.not_isSome_iff_eq_none] at hc
    have h := sum_insert d.tally.days now.dayKey {} f hf
    rw [hnone, Option.getD_none] at h
    rw [if_neg hc]
    exact Nat.add_right_cancel h

theorem Conserved.withDay (h : d.Conserved) (now : Instant) : (d.withDay now).Conserved where
  plays := h.plays.trans (sum_withDay d now _ rfl).symm
  time := h.time.trans (sum_withDay d now _ rfl).symm
  coins := h.coins.trans (sum_withDay d now _ rfl).symm
  badges := h.badges
  challenges := h.challenges
  rewards := h.rewards

/-! ## Changes -/

theorem Conserved.countPlay (h : d.Conserved) (game : String) (now : Instant) :
    (d.countPlay game now).Conserved := by
  obtain ⟨hplays, htime, hcoins⟩ := sums_insert d.tally.days now.dayKey 1 0 0
  exact {
    plays := (congrArg (· + 1) h.plays).trans hplays.symm
    time := h.time.trans htime.symm
    coins := h.coins.trans hcoins.symm
    badges := h.badges
    challenges := h.challenges
    rewards := h.rewards }

theorem Conserved.addTime (h : d.Conserved) {game : String} {seconds : Nat}
    (h' : d.addTime game seconds now = .ok d') : d'.Conserved := by
  obtain ⟨n, -, h'⟩ := bind_eq_ok.1 h'
  obtain rfl := Except.ok.inj h'
  obtain ⟨hplays, htime, hcoins⟩ := sums_insert d.tally.days now.dayKey 0 seconds 0
  exact {
    plays := h.plays.trans hplays.symm
    time := (congrArg (· + seconds) h.time).trans htime.symm
    coins := h.coins.trans hcoins.symm
    badges := h.badges
    challenges := h.challenges
    rewards := h.rewards }

theorem Conserved.unlock (h : d.Conserved) {id : String} {b : Badge}
    (found : d.badge? id = some b) (locked : b.unlocked = false) (now : Instant) :
    (d.unlock id now).Conserved := by
  have hcount : (d.unlock id now).badges.countP Badge.unlocked =
      d.badges.countP Badge.unlocked + 1 := by
    have hsum := countP_changeFirst
      (fun b : Badge => { b with unlocked := true, unlockedAt := .str now.timestamp })
      Badge.unlocked found
    rw [locked] at hsum
    exact hsum
  exact {
    plays := h.plays
    time := h.time
    coins := h.coins
    badges := by rw [hcount, ← h.badges]; rfl
    challenges := h.challenges
    rewards := h.rewards }

theorem Conserved.complete (h : d.Conserved) {id : String} {c : Challenge}
    (found : d.challenge? id = some c) (isOpen : c.completed = false) (now : Instant) :
    (d.complete id c.rewardCoins now).Conserved := by
  let close (c : Challenge) : Challenge :=
    { c with completed := true, completedAt := .str now.timestamp }
  have hcount : (d.complete id c.rewardCoins now).challenges.countP Challenge.completed =
      d.challenges.countP Challenge.completed + 1 := by
    have hsum := countP_changeFirst close Challenge.completed found
    rw [isOpen] at hsum
    exact hsum
  have hrewards : Challenge.rewards (d.complete id c.rewardCoins now).challenges =
      Challenge.rewards d.challenges + c.rewardCoins := by
    have hsum := total_map_changeFirst close
      (fun c => if c.completed then c.rewardCoins else 0) found
    rw [Challenge.rewards, Challenge.rewards, total_map_filter, total_map_filter]
    rw [isOpen] at hsum
    exact hsum
  obtain ⟨hplays, htime, hcoins⟩ := sums_insert d.tally.days now.dayKey 0 0 c.rewardCoins
  exact {
    plays := h.plays.trans hplays.symm
    time := h.time.trans htime.symm
    coins := (congrArg (· + c.rewardCoins) h.coins).trans hcoins.symm
    badges := h.badges
    challenges := by
      rw [hcount]
      exact Nat.add_le_add_right h.challenges 1
    rewards := by
      rw [hrewards]
      exact Nat.add_le_add_right h.rewards c.rewardCoins }

/-- Every change keeps a document conserved. -/
theorem Change.conserved (hc : Change now d d') (h : d.Conserved) : d'.Conserved := by
  cases hc with
  | update game values => exact h.congr rfl rfl (Nat.le_refl _) (Nat.le_refl _)
  | countPlay game => exact h.countPlay game now
  | addTime ht => exact h.addTime ht
  | addRound game won => exact h.congr rfl rfl (Nat.le_refl _) (Nat.le_refl _)
  | unlock found locked => exact h.unlock found locked now
  | complete found isOpen current => exact h.complete found isOpen now
  | renew hg => exact h.renew hg
  | reset hf => exact (conserved_freshOn hf).withDay now

/-! ## Documents that are read back -/

/-- The name of a day is read back as it is. -/
theorem rejoined_dayKey (now : Instant) : Text.rejoined now.dayKey = now.dayKey :=
  Text.rejoined_of_ascii fun _ hc => Timestamp.toNat_lt_of_mem_dateText hc

theorem plainDays_withDay (h : d.tally.PlainDays) (now : Instant) :
    (d.withDay now).tally.PlainDays := by
  intro day hday
  rcases mem_days_withDay.1 hday with rfl | hday
  · exact rejoined_dayKey now
  · exact h day hday

theorem plainDays_freshOn (h : freshOn now = .ok d) : d.tally.PlainDays := by
  rw [Tally.PlainDays, days_freshOn h]
  exact List.forall_mem_nil _

theorem Change.plainDays (hc : Change now d d') (h : d.tally.PlainDays) :
    d'.tally.PlainDays := by
  intro day hday
  rcases hc.mem_days hday with rfl | hday
  · exact rejoined_dayKey now
  · exact h day hday

/-- A conserved document of which the counts survive being stored. -/
structure Accounted (d : Document) : Prop extends Conserved d where
  plain : d.tally.PlainDays

theorem accounted_freshOn (h : freshOn now = .ok d) : d.Accounted :=
  ⟨conserved_freshOn h, plainDays_freshOn h⟩

theorem Accounted.withDay (h : d.Accounted) (now : Instant) : (d.withDay now).Accounted :=
  ⟨h.toConserved.withDay now, plainDays_withDay h.plain now⟩

theorem Accounted.withStreak (h : d.Accounted) (n : Nat) : (d.withStreak n).Accounted :=
  ⟨h.toConserved.congr rfl rfl (Nat.le_refl _) (Nat.le_refl _), h.plain⟩

theorem Change.accounted (hc : Change now d d') (h : d.Accounted) : d'.Accounted :=
  ⟨hc.conserved h.toConserved, hc.plainDays h.plain⟩

/-- What is read from the echo of an accounted document is accounted. -/
theorem Accounted.of_echo (h : d.Accounted) {w : Json}
    (hw : Json.echo Json.depthLimit d.toJson = .ok w) (hd : ofJson w = .ok d') : d'.Accounted := by
  obtain ⟨e, he, htally, hbadges, hscores⟩ := exists_ofJson_of_echo h.plain hw
  obtain rfl : e = d' := Except.ok.inj (he.symm.trans hd)
  refine ⟨h.toConserved.congr htally ?_ ?_ ?_, htally ▸ h.plain⟩
  · have hcount : ∀ l : List Badge, l.countP Badge.unlocked = (l.map Badge.unlocked).countP id := by
      intro l
      rw [List.countP_map]
      rfl
    rw [hcount, hcount, hbadges]
  · exact Nat.le_of_eq (Challenge.countP_of_scores hscores)
  · exact Nat.le_of_eq (Challenge.rewards_of_scores hscores)

theorem Accounted.of_read_write (h : d.Accounted)
    (hd : Document.read (.str d.toJson.write) = .ok d') : d'.Accounted := by
  obtain ⟨w, hw, hd⟩ := bind_eq_ok.1 hd
  exact h.of_echo (Json.read_write.1 hw) hd

theorem Accounted.of_read_exported (h : d.Accounted)
    (hd : Document.read (.str d.exported) = .ok d') : d'.Accounted := by
  obtain ⟨w, hw, hd⟩ := bind_eq_ok.1 hd
  exact h.of_echo (Json.read_writeIndented.1 hw) hd

/-- What a document lacks counts for nothing, and neither does a new generation of challenges. -/
theorem Accounted.broughtUp (h : d.Accounted) (hd : d.broughtUp now = .ok d') :
    d'.Accounted := by
  have hcatalog : d.withCatalog.Conserved := by
    rw [withCatalog_eq]
    refine h.toConserved.congr rfl ?_ (Nat.le_refl _) (Nat.le_refl _)
    rw [List.countP_append, lackedBadges, countP_unlocked_fresh, Nat.add_zero]
  have hplain : d.withCatalog.tally.PlainDays := by
    rw [withCatalog_eq]
    exact h.plain
  obtain ⟨challenges, hc, hd⟩ := bind_eq_ok.1 hd
  obtain rfl := Except.ok.inj hd
  generalize d.withCatalog = e at hcatalog hplain hc
  rcases Challenge.refreshed_eq_ok.1 hc with ⟨-, rfl⟩ | ⟨-, hg⟩
  · exact ⟨hcatalog, hplain⟩
  · exact ⟨hcatalog.renew hg, hplain⟩

end Document

/-! ## Shelves -/

namespace Shelf

variable {s t : Shelf} {now : Instant}

/-- The document is accounted, and all that is stored are texts of accounted documents. -/
structure Accounted (s : Shelf) : Prop where
  document : s.ledger.document.Accounted
  stored : ∀ e ∈ s.storage.entries.entries,
    ∃ d : Document, d.Accounted ∧ e.2 = .str d.toJson.write

theorem Accounted.withDocument (h : s.Accounted) {d : Document} (hd : d.Accounted) :
    (s.withDocument d).Accounted :=
  ⟨hd, h.stored⟩

theorem Accounted.lookedUp (h : s.Accounted) (key : Json) : (s.lookedUp key).Accounted := by
  refine ⟨h.document, fun e he => h.stored e ?_⟩
  rwa [Shelf.lookedUp, Storage.get_entries] at he

theorem Accounted.folded (h : s.Accounted) (n : Nat) : (s.folded n).Accounted := by
  refine ⟨h.document.withStreak n, fun e he => h.stored e ?_⟩
  change e ∈ (s.storage.remove s.ledger.streakKey).2.entries.entries at he
  rw [Storage.remove_entries] at he
  split at he
  · exact (List.mem_filter.1 he).1
  · exact he

theorem Accounted.opened (h : s.Accounted) (now : Instant) : (s.opened now).Accounted :=
  ⟨h.document.withDay now, h.stored⟩

theorem Accounted.emit (h : s.Accounted) (e : Event) : (s.emit e).Accounted := by
  rw [emit_eq]
  exact ⟨h.document, h.stored⟩

/-- Whether a write succeeds or not, only the text of the document is ever put into the storage. -/
theorem Accounted.save (h : s.Accounted) : (save.outcome s).2.Accounted := by
  refine ⟨h.document, fun e he => ?_⟩
  change e ∈ (s.storage.set s.ledger.dataKey
    (.str s.ledger.document.toJson.write)).2.entries.entries at he
  rw [Storage.set_entries] at he
  split at he
  · rcases Dict.mem_entries_insert he with rfl | he
    · exact ⟨s.ledger.document, h.document, rfl⟩
    · exact h.stored e he
  · exact h.stored e he

theorem Accounted.keep (h : s.Accounted) {d : Document} (hd : d.Accounted) :
    ((keep d).outcome s).2.Accounted := by
  rw [outcome_keep]
  exact (h.withDocument hd).save

theorem Accounted.moves {change : Document → Document → Prop} (h : s.Accounted)
    (hchange : ∀ d e, change d e → d.Accounted → e.Accounted) (hm : Moves change s t) :
    t.Accounted :=
  hm.preserve (fun _ d hu hd => hu.keep (hchange _ d hd hu.document)) (fun _ e hu => hu.emit e) h

/-! ### Loading -/

theorem Accounted.of_stored? (h : s.Accounted) {d : Document} (hd : s.stored? = .ok (some d)) :
    d.Accounted := by
  unfold stored? at hd
  split at hd
  · rename_i v hv
    split at hd
    · split at hd
      · rename_i e he
        obtain rfl := Option.some.inj (Except.ok.inj hd)
        obtain ⟨d, hd, rfl⟩ := h.stored _ (Dict.mem_entries_of_get? (Storage.peek_of_get hv))
        exact hd.of_read_write he
      · split at hd <;> cases hd
    · cases hd
  · cases hd

theorem Accounted.of_taken (h : s.Accounted) {d : Document} (hd : s.taken now = .ok d) :
    d.Accounted := by
  obtain ⟨found, hf, hd⟩ := bind_eq_ok.1 hd
  cases found with
  | none => exact Document.accounted_freshOn hd
  | some e => exact (h.of_stored? hf).broughtUp hd

theorem Accounted.foldStreak (h : s.Accounted) : (foldStreak.outcome s).2.Accounted := by
  have hlooked := h.lookedUp s.ledger.streakKey
  rw [outcome_foldStreak]
  cases s.oldStreak? with
  | error e => exact hlooked
  | ok found =>
    cases found with
    | none => exact hlooked
    | some n => exact hlooked.folded n

theorem Accounted.take (h : s.Accounted) {d : Document} (hd : d.Accounted) :
    ((take d now).outcome s).2.Accounted := by
  have hfold := (h.withDocument hd).foldStreak
  rw [outcome_take]
  cases hf : Shelf.foldStreak.outcome (s.withDocument d) with
  | mk r t =>
    rw [hf] at hfold
    cases r with
    | error e => exact hfold
    | ok x => exact (hfold.opened now).save

theorem Accounted.load (h : s.Accounted) : ((load now).outcome s).2.Accounted := by
  rw [outcome_load]
  cases ht : s.taken now with
  | error e => exact h.lookedUp _
  | ok d => exact (h.lookedUp _).take (h.of_taken ht)

/-! ### Operations -/

/-- Every operation keeps a shelf accounted, whatever its instant and whichever writes fail. What
is imported has to be the exported text of an accounted document. -/
theorem Accounted.act (h : s.Accounted) (o : Operation) (now : Instant)
    (ho : ∀ text, o = .importText text → ∃ d : Document, d.Accounted ∧ text = .str d.exported) :
    ((o.act now).outcome s).2.Accounted := by
  by_cases hl : o = .load
  · subst hl
    rw [Operation.act, Act.outcome_discard]
    exact h.load
  · refine h.moves (fun d e hc hd => ?_) (o.steady_act hl now s)
    cases o with
    | importText text =>
      obtain ⟨f, g, hf, hg, rfl⟩ := hc
      obtain ⟨x, hx, rfl⟩ := ho text rfl
      exact ((hx.of_read_exported hf).broughtUp hg).withDay now
    | _ => exact Document.Change.accounted hc hd

/-- The shelves that a ledger comes to which starts with an empty storage, under any settings, with
any limit of the storage and any calls refused. It may do anything at any time and be started anew,
but only imports what such a ledger exports. -/
inductive Reachable : Shelf → Prop
  | start {settings : Settings} {now : Instant} {ledger : Ledger} {storage : Storage}
      (h : Ledger.start settings now = .ok ledger) (he : storage.entries = Dict.empty) :
      Reachable ⟨ledger, storage⟩
  | operate {s : Shelf} (h : Reachable s) (o : Operation) (now : Instant)
      (ho : ∀ text, o ≠ .importText text) : Reachable ((o.act now).outcome s).2
  | importExported {s t : Shelf} (h : Reachable s) (h' : Reachable t) (now : Instant) :
      Reachable
        (((Operation.importText (.str t.ledger.document.exported)).act now).outcome s).2
  | reopen {s : Shelf} (h : Reachable s) {settings : Settings} {now : Instant} {ledger : Ledger}
      (h' : Ledger.start settings now = .ok ledger) : Reachable ⟨ledger, s.storage⟩
  | subscribe {s : Shelf} (h : Reachable s) (l : Listener) : Reachable (s.subscribe l)
  | unsubscribe {s : Shelf} (h : Reachable s) (l : Listener) : Reachable (s.unsubscribe l)

theorem accounted_start {settings : Settings} {ledger : Ledger}
    (h : Ledger.start settings now = .ok ledger) : ledger.document.Accounted := by
  obtain ⟨x, -, h⟩ := bind_eq_ok.1 h
  obtain ⟨d, hd, h⟩ := bind_eq_ok.1 h
  obtain rfl := Except.ok.inj h
  exact Document.accounted_freshOn hd

theorem Reachable.accounted (h : Reachable s) : s.Accounted := by
  induction h with
  | start h he =>
    refine ⟨accounted_start h, fun e hmem => ?_⟩
    rw [he] at hmem
    exact nomatch hmem
  | operate _ o now ho ih => exact ih.act o now fun text htext => absurd htext (ho text)
  | importExported _ _ now ih ih' =>
    refine ih.act _ now fun text htext => ⟨_, ih'.document, ?_⟩
    exact (Operation.importText.inj htext).symm
  | reopen _ h' ih => exact ⟨accounted_start h', ih.stored⟩
  | subscribe _ l ih => exact ⟨ih.document, ih.stored⟩
  | unsubscribe _ l ih => exact ⟨ih.document, ih.stored⟩

end Shelf

end Arcade
