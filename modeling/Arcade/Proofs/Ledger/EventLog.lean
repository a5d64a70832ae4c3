import Arcade.Proofs.Ledger.Awards
import Arcade.Proofs.Ledger.Errand

/-!
# Events as a log

What a listener is told is a log of what happened to the badges and the challenges. Until everything
is replaced, no badge is told of twice, coins grow by the rewards that are told of, and badges stay
unlocked; until the challenges are replaced, no challenge is told of twice. All of it follows from
the strokes of the ledger being a chronicle.
-/

namespace Arcade

open Stroke

namespace Event

/-- The badge or challenge of an event of a kind. -/
def idOf? (kind : EventKind) (e : Event) : Option String :=
  if e.kind = kind then e.itemId else none

/-- The coins that an event brings: the reward of a challenge that was completed. -/
def coins (e : Event) : Nat :=
  match e.kind, valueAt? "reward_coins" e.details with
  | .challengeCompleted, some (.num (.int n)) => n.toNat
  | _, _ => 0

/-- An event after which everything is another document's. -/
def StartsOver (e : Event) : Prop := e.kind = .dataReset ∨ e.kind = .dataImported

/-- An event after which there are other challenges. -/
def Renews (e : Event) : Prop := e.kind = .challengesRefreshed ∨ e.StartsOver

end Event

namespace Badge

/-- A badge that is the same one and is still unlocked if it was. -/
def Kept (b b' : Badge) : Prop := b'.id = b.id ∧ (b.unlocked = true → b'.unlocked = true)

theorem kept_refl (bs : List Badge) : List.Forall₂ Kept bs bs :=
  List.forall₂_same.2 fun _ _ => ⟨rfl, fun h => h⟩

theorem kept_trans {as bs cs : List Badge} (h : List.Forall₂ Kept as bs)
    (h' : List.Forall₂ Kept bs cs) : List.Forall₂ Kept as cs := by
  induction h generalizing cs with
  | nil => exact h'
  | cons hab _ ih =>
    cases h' with
    | cons hbc hrest =>
      exact .cons ⟨hbc.1.trans hab.1, fun hu => hbc.2 (hab.2 hu)⟩ (ih hrest)

theorem kept_unlockedOn (id : String) (now : Instant) (bs : List Badge) :
    List.Forall₂ Kept bs (changeFirst (·.id = id) (·.unlockedOn now) bs) := by
  induction bs with
  | nil => exact .nil
  | cons b rest ih =>
    rw [changeFirst]
    split
    · exact .cons ⟨rfl, fun _ => rfl⟩ (kept_refl rest)
    · exact .cons ⟨rfl, fun h => h⟩ ih

end Badge

/-! ## What may still be told -/

namespace Document

variable {d d' : Document} {e : Event} {id : String} {now : Instant}

/-- There is a badge with an identifier, and the first one is locked. -/
def Locked (d : Document) (id : String) : Prop := ∃ b, d.badge? id = some b ∧ b.unlocked = false

/-- There is a challenge with an identifier, and the first one is open. -/
def Open (d : Document) (id : String) : Prop :=
  ∃ c, d.challenge? id = some c ∧ c.completed = false

theorem badge?_unlock (d : Document) (k : String) (now : Instant) (id : String) :
    (d.unlock k now).badge? id =
      (d.badge? id).map fun b => if id = k then b.unlockedOn now else b := by
  have hid : ∀ b : Badge, (b.unlockedOn now).id = b.id := fun _ => rfl
  exact find?_changeFirst hid k id d.badges

theorem challenge?_complete (d : Document) (k : String) (coins : Nat) (now : Instant)
    (id : String) : (d.complete k coins now).challenge? id =
      (d.challenge? id).map fun c => if id = k then c.completedOn now else c := by
  have hid : ∀ c : Challenge, (c.completedOn now).id = c.id := fun _ => rfl
  exact find?_changeFirst hid k id d.challenges

/-- Unlocking a badge leaves all others locked that were. -/
theorem locked_of_unlock {k : String} (h : (d.unlock k now).Locked id) :
    d.Locked id ∧ id ≠ k := by
  obtain ⟨b, hb, hl⟩ := h
  rw [badge?_unlock, Option.map_eq_some_iff] at hb
  obtain ⟨b, hb, rfl⟩ := hb
  split at hl
  · cases hl
  · rename_i hne
    exact ⟨⟨b, hb, hl⟩, hne⟩

/-- Completing a challenge leaves all others open that were. -/
theorem open_of_complete {k : String} {coins : Nat} (h : (d.complete k coins now).Open id) :
    d.Open id ∧ id ≠ k := by
  obtain ⟨c, hc, ho⟩ := h
  rw [challenge?_complete, Option.map_eq_some_iff] at hc
  obtain ⟨c, hc, rfl⟩ := hc
  split at ho
  · cases ho
  · rename_i hne
    exact ⟨⟨c, hc, ho⟩, hne⟩

theorem id_of_badge? {b : Badge} (h : d.badge? id = some b) : b.id = id := by
  simpa using List.find?_some h

theorem id_of_challenge? {c : Challenge} (h : d.challenge? id = some c) : c.id = id := by
  simpa using List.find?_some h

/-- A badge that is still locked was locked before and was not told of. -/
theorem Announced.locked (h : d.Announced e d') (he : ¬ e.StartsOver) (hl : d'.Locked id) :
    d.Locked id ∧ e.idOf? .badgeUnlocked ≠ some id := by
  cases h with
  | unlock found locked =>
    obtain ⟨hd, hne⟩ := locked_of_unlock hl
    exact ⟨hd, fun h => hne ((Option.some.inj h).symm.trans (id_of_badge? found))⟩
  | complete found isOpen current => exact ⟨hl, nofun⟩
  | refresh h => exact ⟨hl, nofun⟩
  | reset h => exact absurd (.inl rfl) he
  | takeOver h hf => exact absurd (.inr rfl) he

/-- A badge that is told of was locked. -/
theorem Announced.locked_of_told (h : d.Announced e d') (he : e.idOf? .badgeUnlocked = some id) :
    d.Locked id := by
  cases h with
  | unlock found locked =>
    obtain rfl := (id_of_badge? found).symm.trans (Option.some.inj he)
    exact ⟨_, found, locked⟩
  | _ => cases he

/-- A challenge that is still open was open before and was not told of. -/
theorem Announced.isOpen (h : d.Announced e d') (he : ¬ e.Renews) (ho : d'.Open id) :
    d.Open id ∧ e.idOf? .challengeCompleted ≠ some id := by
  cases h with
  | unlock found locked => exact ⟨ho, nofun⟩
  | complete found isOpen current =>
    obtain ⟨hd, hne⟩ := open_of_complete ho
    exact ⟨hd, fun h => hne ((Option.some.inj h).symm.trans (id_of_challenge? found))⟩
  | refresh h => exact absurd (.inl rfl) he
  | reset h => exact absurd (.inr (.inl rfl)) he
  | takeOver h hf => exact absurd (.inr (.inr rfl)) he

/-- A challenge that is told of was open. -/
theorem Announced.open_of_told (h : d.Announced e d')
    (he : e.idOf? .challengeCompleted = some id) : d.Open id := by
  cases h with
  | complete found isOpen current =>
    obtain rfl := (id_of_challenge? found).symm.trans (Option.some.inj he)
    exact ⟨_, found, isOpen⟩
  | _ => cases he

/-! ## What a change brings -/

theorem Announced.kept (h : d.Announced e d') (he : ¬ e.StartsOver) :
    List.Forall₂ Badge.Kept d.badges d'.badges := by
  cases h with
  | unlock found locked => exact Badge.kept_unlockedOn _ _ d.badges
  | complete found isOpen current => exact Badge.kept_refl _
  | refresh h => exact Badge.kept_refl _
  | reset h => exact absurd (.inl rfl) he
  | takeOver h hf => exact absurd (.inr rfl) he

theorem Announced.coins (h : d.Announced e d') (he : ¬ e.StartsOver) :
    d'.tally.totalCoins = d.tally.totalCoins + e.coins := by
  cases h with
  | unlock found locked => rfl
  | complete found isOpen current => rfl
  | refresh h => rfl
  | reset h => exact absurd (.inl rfl) he
  | takeOver h hf => exact absurd (.inr rfl) he

theorem Announced.countP_unlocked (h : d.Announced e d') (he : ¬ e.StartsOver) :
    d'.badges.countP Badge.unlocked =
      d.badges.countP Badge.unlocked + (decide (e.kind = .badgeUnlocked)).toNat := by
  cases h with
  | @unlock id b now found locked =>
    have hcount := countP_changeFirst (·.unlockedOn now) Badge.unlocked found
    rw [locked] at hcount
    exact hcount
  | complete found isOpen current => rfl
  | refresh h => rfl
  | reset h => exact absurd (.inl rfl) he
  | takeOver h hf => exact absurd (.inr rfl) he

theorem Announced.countP_completed (h : d.Announced e d') (he : ¬ e.Renews) :
    d'.challenges.countP Challenge.completed =
      d.challenges.countP Challenge.completed + (decide (e.kind = .challengeCompleted)).toNat := by
  cases h with
  | unlock found locked => rfl
  | @complete id c now found isOpen current =>
    have hcount := countP_changeFirst (·.completedOn now) Challenge.completed found
    rw [isOpen] at hcount
    exact hcount
  | refresh h => exact absurd (.inl rfl) he
  | reset h => exact absurd (.inr (.inl rfl)) he
  | takeOver h hf => exact absurd (.inr (.inr rfl)) he

end Document

/-! ## Parts of a chronicle -/

namespace Chronicle

variable {d : Document} {script : List Stroke}

/-- What is told last is what another chronicle tells. -/
theorem drop (h : Chronicle d script) {before rest : List Event}
    (ht : tells script = before ++ rest) :
    ∃ d' script', Chronicle d' script' ∧ tells script' = rest := by
  induction h generalizing before with
  | nil d => exact ⟨d, [], .nil d, (List.append_eq_nil_iff.1 ht.symm).2.symm⟩
  | quiet _ _ ih => exact ih ht
  | announced h hrest ih =>
    cases before with
    | nil => exact ⟨_, _, .announced h hrest, ht⟩
    | cons e before => exact ih (List.cons.inj ht).2

/-- What is told first is what another chronicle tells. -/
theorem take (h : Chronicle d script) {first rest : List Event}
    (ht : tells script = first ++ rest) :
    ∃ script', Chronicle d script' ∧ tells script' = first := by
  induction h generalizing first with
  | nil d => exact ⟨[], .nil d, (List.append_eq_nil_iff.1 ht.symm).1.symm⟩
  | quiet h _ ih =>
    obtain ⟨script', hs, ht'⟩ := ih ht
    exact ⟨_, .quiet h hs, ht'⟩
  | announced h _ ih =>
    cases first with
    | nil => exact ⟨[], .nil _, rfl⟩
    | cons e first =>
      obtain ⟨he, ht⟩ := List.cons.inj ht
      obtain ⟨script', hs, ht'⟩ := ih ht
      exact ⟨_, .announced h hs, by rw [tells, tells, he, ht']⟩

theorem part (h : Chronicle d script) {part : List Event} (hp : part <:+: tells script) :
    ∃ d' script', Chronicle d' script' ∧ tells script' = part := by
  obtain ⟨before, rest, ht⟩ := hp
  rw [List.append_assoc] at ht
  obtain ⟨d', script', hs, ht'⟩ := h.drop ht.symm
  exact ⟨d', hs.take ht'⟩

/-- As long as something that was told cannot be told again, nothing is told twice. -/
theorem once {f : Event → Option String} (Left : Document → String → Prop) {Stops : Event → Prop}
    (hquiet : ∀ {d d' id}, d.Quiet d' → Left d' id → Left d id)
    (hkept : ∀ {d e d' id}, d.Announced e d' → ¬ Stops e → Left d' id →
      Left d id ∧ f e ≠ some id)
    (htold : ∀ {d e d' id}, d.Announced e d' → f e = some id → Left d id)
    (h : Chronicle d script) (hs : ∀ e ∈ tells script, ¬ Stops e) :
    ((tells script).filterMap f).Nodup ∧ ∀ id ∈ (tells script).filterMap f, Left d id := by
  induction h with
  | nil d => exact ⟨List.nodup_nil, fun _ h => absurd h List.not_mem_nil⟩
  | quiet hq _ ih =>
    obtain ⟨hnodup, hleft⟩ := ih hs
    exact ⟨hnodup, fun id hid => hquiet hq (hleft id hid)⟩
  | @announced d d' e rest ha _ ih =>
    obtain ⟨hnodup, hleft⟩ := ih fun x hx => hs x (List.mem_cons_of_mem e hx)
    have hkeep : ∀ id ∈ (tells rest).filterMap f, Left d id ∧ f e ≠ some id :=
      fun id hid => hkept ha (hs e List.mem_cons_self) (hleft id hid)
    rw [tells, tells]
    cases hf : f e with
    | none =>
      rw [List.filterMap_cons_none hf]
      exact ⟨hnodup, fun id hid => (hkeep id hid).1⟩
    | some k =>
      rw [List.filterMap_cons_some hf, List.nodup_cons]
      refine ⟨⟨fun hk => (hkeep k hk).2 hf, hnodup⟩, fun id hid => ?_⟩
      rcases List.mem_cons.1 hid with rfl | hid
      · exact htold ha hf
      · exact (hkeep id hid).1

/-! ## What has become of a document -/

/-- What every announced change adds to something is added altogether. -/
theorem adds {measure : Document → Nat} {gain : Event → Nat} {Stops : Event → Prop}
    (hquiet : ∀ {d d'}, d.Quiet d' → measure d' = measure d)
    (hgain : ∀ {d e d'}, d.Announced e d' → ¬ Stops e → measure d' = measure d + gain e)
    (h : Chronicle d script) (hs : ∀ e ∈ tells script, ¬ Stops e) :
    measure (leave d script) = measure d + total ((tells script).map gain) := by
  induction h with
  | nil d => rfl
  | quiet hq _ ih =>
    rw [leave, ih hs, hquiet hq]
    rfl
  | @announced d d' e rest ha _ ih =>
    have hrest := ih fun x hx => hs x (List.mem_cons_of_mem e hx)
    rw [leave, leave, hrest, hgain ha (hs e List.mem_cons_self), tells, tells, List.map_cons,
      total_cons, Nat.add_assoc]

/-- Badges stay where they are, and what is unlocked stays unlocked. -/
theorem kept (h : Chronicle d script) (hs : ∀ e ∈ tells script, ¬ e.StartsOver) :
    List.Forall₂ Badge.Kept d.badges (leave d script).badges := by
  induction h with
  | nil d => exact Badge.kept_refl _
  | quiet hq _ ih =>
    rw [leave, ← hq.badges]
    exact ih hs
  | @announced d d' e rest ha _ ih =>
    have hrest := ih fun x hx => hs x (List.mem_cons_of_mem e hx)
    exact Badge.kept_trans (ha.kept (hs e List.mem_cons_self)) hrest

end Chronicle

/-- What events tell of the way from a document to another. -/
structure Document.Recorded (d : Document) (told : List Event) (d' : Document) : Prop where
  /-- No badge is told of twice unless everything is replaced in between. -/
  badgesOnce : ∀ part, part <:+: told → (∀ e ∈ part, ¬ e.StartsOver) →
    (part.filterMap (Event.idOf? .badgeUnlocked)).Nodup
  /-- No challenge is told of twice unless the challenges are replaced in between. -/
  challengesOnce : ∀ part, part <:+: told → (∀ e ∈ part, ¬ e.Renews) →
    (part.filterMap (Event.idOf? .challengeCompleted)).Nodup
  coins : (∀ e ∈ told, ¬ e.StartsOver) →
    d'.tally.totalCoins = d.tally.totalCoins + total (told.map Event.coins)
  kept : (∀ e ∈ told, ¬ e.StartsOver) → List.Forall₂ Badge.Kept d.badges d'.badges
  unlocked : (∀ e ∈ told, ¬ e.StartsOver) → d'.badges.countP Badge.unlocked =
    d.badges.countP Badge.unlocked + told.countP (·.kind = .badgeUnlocked)
  completed : (∀ e ∈ told, ¬ e.Renews) → d'.challenges.countP Challenge.completed =
    d.challenges.countP Challenge.completed + told.countP (·.kind = .challengeCompleted)

/-- The events of a chronicle record the way from its first document to its last. -/
theorem Chronicle.recorded {d : Document} {script : List Stroke} (h : Chronicle d script) :
    d.Recorded (tells script) (leave d script) where
  badgesOnce part hp hs := by
    obtain ⟨d', script', hc, rfl⟩ := h.part hp
    refine (hc.once Document.Locked ?_ Document.Announced.locked
      Document.Announced.locked_of_told hs).1
    intro d d' id hq hl
    unfold Document.Locked Document.badge? at hl ⊢
    rwa [hq.badges] at hl
  challengesOnce part hp hs := by
    obtain ⟨d', script', hc, rfl⟩ := h.part hp
    refine (hc.once Document.Open ?_ Document.Announced.isOpen
      Document.Announced.open_of_told hs).1
    intro d d' id hq hl
    unfold Document.Open Document.challenge? at hl ⊢
    rwa [hq.challenges] at hl
  coins := h.adds Document.Quiet.coins Document.Announced.coins
  kept := h.kept
  unlocked hs := by
    rw [countP_eq_total _ (tells script)]
    exact h.adds (fun hq => by rw [hq.badges]) Document.Announced.countP_unlocked hs
  completed hs := by
    rw [countP_eq_total _ (tells script)]
    exact h.adds (fun hq => by rw [hq.challenges]) Document.Announced.countP_completed hs

namespace Shelf

end Shelf

end Arcade
