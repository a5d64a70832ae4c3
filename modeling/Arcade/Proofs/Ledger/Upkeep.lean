import Arcade.Proofs.Ledger.Change
import Arcade.Proofs.Ledger.ChangeFirst
import Arcade.Proofs.Progress.Sound

/-!
# Documents stay sound

A ledger starts with a sound document, and a stored or imported one is sound once it is brought up
to date. From there on every change keeps the document sound: stats are set under known names and
never below zero, and no badge and no game is ever removed.
-/

namespace Arcade

/-! ## Stats -/

namespace StatRecord

variable {name : String} {m n : Number}

/-- For a counter it is enough that no integer is negative. -/
theorem soundStat_of_counter (hn : name ∈ fields) (hc : name ∉ fractional)
    (h : ∀ k, n = .int k → 0 ≤ k) : SoundStat name n :=
  ⟨hn, h, fun hf => absurd hf hc⟩

theorem soundStat_int (hn : name ∈ fields) (hc : name ∉ fractional) (k : Nat) :
    SoundStat name (.int k) := by
  refine soundStat_of_counter hn hc fun i hi => ?_
  obtain rfl := Number.int.inj hi
  exact Int.natCast_nonneg k

theorem SoundStat.succ (h : SoundStat name n) (hc : name ∉ fractional) :
    SoundStat name n.succ := by
  refine soundStat_of_counter h.1 hc fun k hk => ?_
  cases n with
  | float x => cases hk
  | int i =>
    obtain rfl := Number.int.inj hk
    exact Int.add_nonneg (h.2.1 i rfl) (by decide)

theorem SoundStat.add (h : SoundStat name n) (hc : name ∉ fractional) {seconds : Nat}
    (hm : n.add (.int seconds) = .ok m) : SoundStat name m := by
  refine soundStat_of_counter h.1 hc fun k hk => ?_
  subst hk
  cases n with
  | float x =>
    obtain ⟨y, -, hm⟩ := bind_eq_ok.1 hm
    obtain ⟨z, -, hm⟩ := bind_eq_ok.1 hm
    cases hm
  | int i =>
    obtain rfl := Number.int.inj (Except.ok.inj hm)
    exact Int.add_nonneg (h.2.1 i rfl) (Int.natCast_nonneg seconds)

theorem SoundStat.max (h : SoundStat name m) (h' : SoundStat name n) :
    SoundStat name (m.max n) := by
  unfold Number.max
  split
  · exact h'
  · exact h

/-- A counter that is sound under one name is sound under the name of another counter. -/
theorem SoundStat.rename (h : SoundStat name n) {other : String} (ho : other ∈ fields)
    (hc : other ∉ fractional) : SoundStat other n :=
  soundStat_of_counter ho hc h.2.1

end StatRecord

namespace Document

variable {d : Document} {now : Instant}

/-! ## Records of games -/

theorem Sound.record (h : d.Sound) (game : String) : StatRecord.Sound (d.record game) := by
  unfold Document.record
  cases hg : d.progress.get? game with
  | none => exact fun e he => nomatch he
  | some r => exact h.records (game, r) (Dict.mem_entries_of_get? hg)

/-- Only the records and the identifiers of the badges count. -/
theorem Sound.congr (h : d.Sound) {d' : Document} (hp : d'.progress = d.progress)
    (hb : d'.badges.map Badge.id = d.badges.map Badge.id) : d'.Sound :=
  ⟨hp ▸ h.records, hb ▸ h.badges, hp ▸ h.games⟩

theorem Sound.withChallenges (h : d.Sound) (challenges : List Challenge) :
    Sound { d with challenges := challenges } :=
  h.congr rfl rfl

theorem Sound.withRecord (h : d.Sound) (game : String) {r : StatRecord} (hr : r.Sound) :
    (d.withRecord game r).Sound := by
  refine ⟨fun e he => ?_, h.badges, fun g hg => ?_⟩
  · rcases Dict.mem_entries_insert he with rfl | he
    · exact hr
    · exact h.records e he
  · exact Dict.mem_names_insert.2 (.inr (h.games g hg))

theorem Sound.stat (h : d.Sound) (game : String) {field : String}
    (hf : field ∈ StatRecord.fields) : StatRecord.SoundStat field (d.stat game field) :=
  StatRecord.Sound.stat (h.record game) hf

theorem Sound.setStat (h : d.Sound) (game : String) {field : String} {n : Number}
    (hn : StatRecord.SoundStat field n) : (d.setStat game field n).Sound :=
  h.withRecord game ((h.record game).insert hn)

theorem Sound.withStreak (h : d.Sound) (n : Nat) : (d.withStreak n).Sound := by
  have hr := h.record streakGame
  have raised {field : String} (hf : field ∈ StatRecord.fields)
      (hc : field ∉ StatRecord.fractional) :=
    (StatRecord.Sound.stat hr hf).max (StatRecord.soundStat_int hf hc n)
  exact h.withRecord streakGame
    ((hr.insert (raised (by decide) (by decide))).insert (raised (by decide) (by decide)))

/-! ## Documents from outside -/

theorem Sound.withDay (h : d.Sound) (now : Instant) : (d.withDay now).Sound :=
  h.congr rfl rfl

theorem sound_freshOn (h : freshOn now = .ok d) : d.Sound := by
  obtain ⟨challenges, -, h⟩ := bind_eq_ok.1 h
  obtain rfl := Except.ok.inj h
  unfold fresh
  refine ⟨fun e he => ?_, fun b hb => List.mem_map_of_mem hb, fun g hg => ?_⟩
  · obtain ⟨g, hg, rfl⟩ := List.mem_map.1 (Dict.mem_entries_ofList he)
    exact StatRecord.sound_startRecord hg
  · have hall : ∀ g ∈ Game.registry, g.id ∈
        (Dict.ofList (Game.registry.map fun g => (g.id, startRecord g))).names := by
      decide
    exact hall g hg

/-- The records of a document that was read are cleaned. -/
theorem sound_records_of_read {v : Json} (h : Document.read v = .ok d) :
    ∀ e ∈ d.progress.entries, StatRecord.Sound e.2 := by
  obtain ⟨w, -, h⟩ := bind_eq_ok.1 h
  obtain ⟨members, games, badges, -, hp, -⟩ := exists_shape_of_ofJson h
  intro e he
  rw [hp] at he
  obtain ⟨x, -, rfl⟩ := List.mem_map.1 (Dict.mem_entries_ofList he)
  exact StatRecord.sound_ofJson x.2

/-- A document that was read is sound once it is brought up to date. -/
theorem sound_broughtUp {v : Json} {d' : Document} (h : Document.read v = .ok d)
    (h' : d.broughtUp now = .ok d') : d'.Sound := by
  obtain ⟨challenges, -, h'⟩ := bind_eq_ok.1 h'
  obtain rfl := Except.ok.inj h'
  exact (sound_withCatalog (sound_records_of_read h)).withChallenges challenges

/-! ## Changes -/

theorem Sound.countPlay (h : d.Sound) (game : String) (now : Instant) :
    (d.countPlay game now).Sound :=
  (h.setStat game ((h.stat game (by decide)).succ (by decide))).congr rfl rfl

theorem Sound.addTime (h : d.Sound) {game : String} {seconds : Nat} {d' : Document}
    (h' : d.addTime game seconds now = .ok d') : d'.Sound := by
  obtain ⟨n, hn, h'⟩ := bind_eq_ok.1 h'
  obtain rfl := Except.ok.inj h'
  exact (h.setStat game ((h.stat game (by decide)).add (by decide) hn)).congr rfl rfl

theorem Sound.addRound (h : d.Sound) (game : String) (won : Option Bool) :
    (d.addRound game won).Sound := by
  have hstreak : StatRecord.SoundStat "streak" (d.stat game "streak") :=
    h.stat game (by decide)
  have hbest : StatRecord.SoundStat "bestStreak" (d.stat game "bestStreak") :=
    h.stat game (by decide)
  have step {n : Number} (hn : StatRecord.SoundStat "streak" n) :
      ((d.setStat game "streak" n).setStat game "bestStreak"
        ((d.stat game "bestStreak").max n)).Sound :=
    (h.setStat game hn).setStat game (hbest.max (hn.rename (by decide) (by decide)))
  rcases won with _ | _ | _
  · exact step hstreak
  · exact step (StatRecord.soundStat_int (by decide) (by decide) 0)
  · exact step (hstreak.succ (by decide))

theorem Sound.unlock (h : d.Sound) (id : String) (now : Instant) : (d.unlock id now).Sound := by
  refine h.congr rfl ?_
  rw [Document.unlock, map_changeFirst]
  exact fun _ => rfl

/-- Every change keeps a document sound. -/
theorem Change.sound {d' : Document} (h : Change now d d') (hs : d.Sound) : d'.Sound := by
  cases h with
  | update game values =>
    exact hs.withRecord game ((hs.record game).insertAll (StatRecord.sound_ofJson values))
  | countPlay game => exact hs.countPlay game now
  | addTime h => exact hs.addTime h
  | addRound game won => exact hs.addRound game won
  | unlock found locked => exact hs.unlock _ now
  | complete found isOpen current => exact hs.congr rfl rfl
  | renew h => exact hs.withChallenges _
  | reset h => exact (sound_freshOn h).withDay now

end Document

end Arcade
