import Arcade.Proofs.Ledger.Settling
import Arcade.Proofs.Ledger.WellTyped

/-!
# Badges that repeat an identifier

Badges are unlocked by their identifier, and the first badge of the document with an identifier is
the one that is unlocked. A stored or imported document may list an identifier twice, and nothing
takes the second badge away. Its rule is evaluated with all others, but no check ever unlocks it.

All identifiers of the catalog are in the document all the time. The identifiers are different all
the time exactly if they are in every document that is taken in, and then a check leaves no badge
locked whose rule holds. Otherwise it leaves the locked badges that repeat an identifier.
-/

namespace Arcade

open Relation

/-! ## Repeated identifiers -/

namespace Badge

/-- The badges whose identifier is among some others or occurs before them. -/
def repeatsAfter (seen : List String) : List Badge → List Badge
  | [] => []
  | b :: rest =>
    if b.id ∈ seen then b :: repeatsAfter seen rest else repeatsAfter (b.id :: seen) rest

variable {seen : List String} {badges : List Badge} {b : Badge}

theorem mem_of_mem_repeatsAfter (h : b ∈ repeatsAfter seen badges) : b ∈ badges := by
  induction badges generalizing seen with
  | nil => exact h
  | cons x rest ih =>
    rw [repeatsAfter] at h
    split at h
    · rcases List.mem_cons.1 h with rfl | h
      · exact List.mem_cons_self
      · exact List.mem_cons_of_mem x (ih h)
    · exact List.mem_cons_of_mem x (ih h)

/-- A badge repeats an identifier unless it is the first with its own. -/
theorem mem_repeatsAfter_or_find? (seen : List String) (hb : b ∈ badges) :
    b ∈ repeatsAfter seen badges ∨
      b.id ∉ seen ∧ badges.find? (·.id = b.id) = some b := by
  induction badges generalizing seen with
  | nil => cases hb
  | cons x rest ih =>
    rw [repeatsAfter, List.find?_cons]
    rcases List.mem_cons.1 hb with rfl | hb
    · by_cases hseen : b.id ∈ seen
      · left
        simp [hseen]
      · right
        simp [hseen]
    · by_cases hseen : x.id ∈ seen
      · rw [if_pos hseen]
        rcases ih seen hb with h | ⟨hnew, h⟩
        · exact .inl (List.mem_cons_of_mem x h)
        · have hne : x.id ≠ b.id := fun he => hnew (he ▸ hseen)
          exact .inr ⟨hnew, by simpa [hne] using h⟩
      · rw [if_neg hseen]
        rcases ih (x.id :: seen) hb with h | ⟨hnew, h⟩
        · exact .inl h
        · rw [List.mem_cons, not_or] at hnew
          exact .inr ⟨hnew.2, by simpa [Ne.symm hnew.1] using h⟩

/-- No badge repeats an identifier exactly if all are new and different. -/
theorem repeatsAfter_eq_nil : repeatsAfter seen badges = [] ↔
    (∀ b ∈ badges, b.id ∉ seen) ∧ (badges.map Badge.id).Nodup := by
  induction badges generalizing seen with
  | nil => simp [repeatsAfter]
  | cons x rest ih =>
    rw [repeatsAfter]
    by_cases hseen : x.id ∈ seen
    · simp [hseen]
    · rw [if_neg hseen, ih, List.map_cons, List.nodup_cons, List.forall_mem_cons, List.mem_map]
      simp only [List.mem_cons, not_or]
      constructor
      · rintro ⟨hrest, hnodup⟩
        refine ⟨⟨hseen, fun b hb => (hrest b hb).2⟩, ?_, hnodup⟩
        exact fun ⟨b, hb, hid⟩ => (hrest b hb).1 hid
      · rintro ⟨⟨-, hrest⟩, hx, hnodup⟩
        exact ⟨fun b hb => ⟨fun hid => hx ⟨b, hb, hid⟩, hrest b hb⟩, hnodup⟩

/-- Changing the first badge with an identifier changes none that repeats one. -/
theorem repeatsAfter_changeFirst {change : Badge → Badge} (hchange : ∀ b, (change b).id = b.id)
    {id : String} (hid : id ∉ seen) (badges : List Badge) :
    repeatsAfter seen (changeFirst (·.id = id) change badges) = repeatsAfter seen badges := by
  induction badges generalizing seen with
  | nil => rfl
  | cons x rest ih =>
    rw [changeFirst]
    by_cases hx : x.id = id
    · have hseen : x.id ∉ seen := hx ▸ hid
      rw [if_pos (decide_eq_true hx), repeatsAfter, repeatsAfter, hchange, if_neg hseen,
        if_neg hseen]
    · rw [if_neg (by simpa using hx), repeatsAfter, repeatsAfter]
      by_cases hseen : x.id ∈ seen
      · rw [if_pos hseen, if_pos hseen, ih hid]
      · have hid : id ∉ x.id :: seen := by simp [hid, Ne.symm hx]
        rw [if_neg hseen, if_neg hseen, ih hid]

theorem nodup_fresh : (fresh.map Badge.id).Nodup := by decide +kernel

end Badge

namespace Document

variable {d d' e : Document} {now : Instant}

/-- The badges of a document whose identifier occurs before them. -/
def repeatedBadges (d : Document) : List Badge := Badge.repeatsAfter [] d.badges

/-- Whether no badge repeats an identifier. -/
def ListsOnce (d : Document) : Prop := (d.badges.map Badge.id).Nodup

theorem repeatedBadges_eq_nil_iff : d.repeatedBadges = [] ↔ d.ListsOnce := by
  simp [repeatedBadges, Badge.repeatsAfter_eq_nil, ListsOnce]

/-! ## Unlocking -/

theorem repeatedBadges_unlock (d : Document) (id : String) (now : Instant) :
    (d.unlock id now).repeatedBadges = d.repeatedBadges :=
  Badge.repeatsAfter_changeFirst (Badge.unlockedOn_id · now) List.not_mem_nil d.badges

theorem repeatedBadges_of_unlocks (h : ReflTransGen (Unlocks now) d d') :
    d'.repeatedBadges = d.repeatedBadges := by
  induction h with
  | refl => rfl
  | tail _ hstep ih =>
    cases hstep with
    | unlock found locked earned => rw [repeatedBadges_unlock, ih]

theorem earns_of_unlocks (h : ReflTransGen (Unlocks now) d d') {id : String} (hd : d.Earns id) :
    d'.Earns id := by
  induction h with
  | refl => exact hd
  | tail _ hstep ih => exact hstep.grown.earns ih

/-- Where no badge can be unlocked, the badges that are earned and still locked repeat an
identifier. -/
theorem mem_earnedBadges_of_final (h : ∀ d', ¬ d.Unlocks now d') {id : String} :
    id ∈ d.snapshot.earnedBadges ↔
      d.Earns id ∧ ∃ b ∈ d.repeatedBadges, b.unlocked = false ∧ b.id = id := by
  rw [Snapshot.mem_earnedBadges, and_comm]
  refine and_congr_right fun hearned => ⟨?_, ?_⟩
  · rintro ⟨b, hb, hlocked, rfl⟩
    rcases Badge.mem_repeatsAfter_or_find? [] hb with hrepeat | ⟨-, hfirst⟩
    · exact ⟨b, hrepeat, hlocked, rfl⟩
    · exact absurd (.unlock hfirst hlocked hearned) (h _)
  · rintro ⟨b, hb, hlocked, hid⟩
    exact ⟨b, Badge.mem_of_mem_repeatsAfter hb, hlocked, hid⟩

/-! ## Documents from outside -/

theorem listsOnce_congr (h : d'.badges.map Badge.id = d.badges.map Badge.id) :
    d'.ListsOnce ↔ d.ListsOnce := by
  unfold ListsOnce
  rw [h]

theorem listsOnce_freshOn (h : freshOn now = .ok d) : d.ListsOnce := by
  obtain ⟨challenges, -, h⟩ := bind_eq_ok.1 h
  obtain rfl := Except.ok.inj h
  exact Badge.nodup_fresh

/-- What is added to bring a document up to date repeats no identifier. -/
theorem listsOnce_broughtUp_iff (h : d.broughtUp now = .ok e) : e.ListsOnce ↔ d.ListsOnce := by
  obtain ⟨challenges, -, h⟩ := bind_eq_ok.1 h
  obtain rfl := Except.ok.inj h
  have hlacked : ((lackedBadges d.badges).map Badge.id).Nodup :=
    (List.filter_sublist.map Badge.id).nodup Badge.nodup_fresh
  have happend : (d.badges ++ lackedBadges d.badges).map Badge.id =
      d.badges.map Badge.id ++ (lackedBadges d.badges).map Badge.id := List.map_append
  rw [withCatalog_eq, ListsOnce, happend, List.nodup_append]
  refine ⟨And.left, fun hd => ⟨hd, hlacked, fun x hx y hy => ?_⟩⟩
  obtain ⟨b, hb, rfl⟩ := List.mem_map.1 hy
  rintro rfl
  exact (mem_lackedBadges.1 hb).2 hx

/-- A change leaves the identifiers of the badges as they are, or starts anew. -/
theorem Change.listsOnce (h : Change now d d') (hd : d.ListsOnce) : d'.ListsOnce := by
  cases h with
  | unlock found locked =>
    exact (listsOnce_congr (map_changeFirst (Badge.unlockedOn_id · now) d.badges)).2 hd
  | addTime h =>
    obtain ⟨n, -, h⟩ := bind_eq_ok.1 h
    obtain rfl := Except.ok.inj h
    exact hd
  | reset h =>
    have hfresh := listsOnce_freshOn h
    exact hfresh
  | _ => exact hd

end Document

namespace Shelf

variable {s : Shelf} {now : Instant}

/-- Loading leaves a document that repeats no identifier exactly if the stored one repeats none. -/
theorem listsOnce_found_iff {f : Document} (h : s.found now = .ok f) : f.ListsOnce ↔
    ∀ d, s.stored? = .ok (some d) → (∃ e, d.broughtUp now = .ok e) → d.ListsOnce := by
  obtain ⟨e, he, h⟩ := bind_eq_ok.1 h
  have hsame : f.badges = e.badges := by
    rw [← Except.ok.inj h]
    split <;> rfl
  rw [Document.listsOnce_congr (congrArg (List.map Badge.id) hsame)]
  obtain ⟨found, hfound, he⟩ := bind_eq_ok.1 he
  cases found with
  | none =>
    refine iff_of_true (Document.listsOnce_freshOn he) fun d hd => ?_
    rw [hfound] at hd
    cases hd
  | some d =>
    rw [Document.listsOnce_broughtUp_iff he]
    constructor
    · intro hd d' hd' _
      rw [hfound] at hd'
      cases hd'
      exact hd
    · exact fun hall => hall d hfound ⟨e, he⟩

end Shelf

namespace Operation

/-- Whether an operation takes in a document from outside and brings it up to date. -/
def Takes (s : Shelf) (now : Instant) : Operation → Document → Prop
  | load, d => s.stored? = .ok (some d) ∧ ∃ e, d.broughtUp now = .ok e
  | importText text, d => Document.read text = .ok d ∧ ∃ e, d.broughtUp now = .ok e
  | _, _ => False

variable {s : Shelf}

/-- An operation that takes in no document leaves no identifier repeated that was not. -/
theorem listsOnce_act (h : s.ledger.document.ListsOnce) {o : Operation} (ho : o ≠ .load)
    (hi : ∀ text, o ≠ .importText text) (now : Instant) :
    ((o.act now).outcome s).2.ledger.document.ListsOnce := by
  have hchange : ∀ d d', o.Change now d d' → Document.Change now d d' := by
    intro d d' hd
    cases o with
    | importText text => exact absurd rfl (hi text)
    | _ => exact hd
  apply Shelf.Moves.preserve (P := fun t => t.ledger.document.ListsOnce) _ _
    (o.steady_act ho now s) h
  · intro t d ht hd
    rw [Shelf.keep_document]
    exact (hchange _ _ hd).listsOnce ht
  · intro t e ht
    rw [Shelf.emit_document]
    exact ht

theorem listsOnce_load_iff (h : s.ledger.document.ListsOnce) (now : Instant) :
    ((load.act now).outcome s).2.ledger.document.ListsOnce ↔
      ∀ d, load.Takes s now d → d.ListsOnce := by
  rw [act, Act.outcome_discard, Shelf.load_document]
  cases hf : s.found now with
  | error f =>
    -- Nothing that is stored can be brought up to date, so that nothing is taken in.
    refine iff_of_true h fun d hd => ?_
    obtain ⟨hstored, e, he⟩ := hd
    have htaken : s.taken now = .ok e := bind_eq_ok.2 ⟨_, hstored, he⟩
    rw [Shelf.found, htaken] at hf
    cases hf
  | ok f =>
    dsimp only
    rw [Shelf.listsOnce_found_iff hf]
    exact forall_congr' fun d => ⟨fun hd hin => hd hin.1 hin.2, fun hd hs he => hd ⟨hs, he⟩⟩

theorem listsOnce_importText_iff (h : s.ledger.document.ListsOnce) (text : Json) (now : Instant) :
    (((importText text).act now).outcome s).2.ledger.document.ListsOnce ↔
      ∀ d, (importText text).Takes s now d → d.ListsOnce := by
  rw [act, Act.outcome_discard, Shelf.importText_document]
  cases hf : Document.read text >>= fun d => d.broughtUp now with
  | error f =>
    refine iff_of_true h fun d hd => ?_
    obtain ⟨hread, e, he⟩ := hd
    rw [bind_eq_ok.2 ⟨d, hread, he⟩] at hf
    cases hf
  | ok f =>
    obtain ⟨d, hread, he⟩ := bind_eq_ok.1 hf
    have hday : (f.withDay now).ListsOnce ↔ f.ListsOnce := Iff.rfl
    dsimp only
    rw [hday, Document.listsOnce_broughtUp_iff he]
    constructor
    · rintro hd d' ⟨hread', -⟩
      rw [hread] at hread'
      cases hread'
      exact hd
    · exact fun hall => hall d ⟨hread, f, he⟩

/-- An operation on a document that repeats no identifier leaves such a document exactly if one is
taken in, if any. -/
theorem listsOnce_act_iff (h : s.ledger.document.ListsOnce) (o : Operation) (now : Instant) :
    ((o.act now).outcome s).2.ledger.document.ListsOnce ↔
      ∀ d, o.Takes s now d → d.ListsOnce := by
  cases o with
  | load => exact listsOnce_load_iff h now
  | importText text => exact listsOnce_importText_iff h text now
  | _ => exact iff_of_true (listsOnce_act h (by simp) (by simp) now) fun _ hd => False.elim hd

end Operation

/-! ## Checks -/

namespace Shelf

variable {k : String} {s : Shelf}

/-- A check leaves exactly the earned badges locked that repeat an identifier. -/
theorem Orderly.checkBadges_leaves (h : Orderly k s) (now : Instant) :
    ∃ events t, (checkBadges now).outcome s = (.ok events, t) ∧
      (∀ id, s.ledger.document.Earns id → t.ledger.document.Earns id) ∧
      ∀ id, id ∈ t.ledger.document.snapshot.earnedBadges ↔ t.ledger.document.Earns id ∧
        ∃ b ∈ s.ledger.document.repeatedBadges, b.unlocked = false ∧ b.id = id := by
  obtain ⟨events, t, hout, ht, hlast⟩ := h.checkBadges_result now
  refine ⟨events, t, hout, fun id => Document.earns_of_unlocks ht.awards, fun id => ?_⟩
  rw [Document.mem_earnedBadges_of_final hlast, Document.repeatedBadges_of_unlocks ht.awards]

/-- The badges of a ledger that was started on any storage, over any run. No badge of the catalog is
ever missing. No identifier is ever listed twice exactly if none is in any document that the run
takes in. Checking, which leaves no fault on a storage of texts, leaves a badge locked whose rule
holds exactly if it repeats an identifier, so that without such badges none is left. -/
theorem badges_of_run {settings : Settings} {start : Instant}
    (hs : Ledger.start settings start = .ok s.ledger) (steps : List (Operation × Instant)) :
    (∀ b ∈ Badge.fresh, b.id ∈ (s.run steps).ledger.document.badges.map Badge.id) ∧
    ((∀ before, before <+: steps → (s.run before).ledger.document.ListsOnce) ↔
      ∀ before x, before ++ [x] <+: steps →
        ∀ d, x.1.Takes (s.run before) x.2 d → d.ListsOnce) ∧
    (Orderly k s → ∀ now, ∃ events t,
      (checkBadges now).outcome (s.run steps) = (.ok events, t) ∧
      (∀ id, (s.run steps).ledger.document.Earns id → t.ledger.document.Earns id) ∧
      (∀ id, id ∈ t.ledger.document.snapshot.earnedBadges ↔ t.ledger.document.Earns id ∧
        ∃ b ∈ (s.run steps).ledger.document.repeatedBadges, b.unlocked = false ∧ b.id = id) ∧
      ((s.run steps).ledger.document.ListsOnce →
        t.ledger.document.snapshot.earnedBadges = [])) := by
  obtain ⟨_, -, hs⟩ := bind_eq_ok.1 hs
  obtain ⟨d, hd, hs⟩ := bind_eq_ok.1 hs
  have hdocument : s.ledger.document = d :=
    (congrArg Ledger.document (Except.ok.inj hs)).symm
  refine ⟨?_, ?_, fun h now => ?_⟩
  · have hsound : (s.run steps).ledger.document.Sound :=
      run_preserve (P := fun t => t.ledger.document.Sound)
        (fun _ o now ht => Operation.sound_act ht o now)
        (hdocument ▸ Document.sound_freshOn hd) steps
    exact hsound.badges
  · exact run_preserve_iff (P := fun t => t.ledger.document.ListsOnce)
      (Q := fun t o now => ∀ d, o.Takes t now d → d.ListsOnce)
      (fun _ o now ht => Operation.listsOnce_act_iff ht o now)
      (hdocument ▸ Document.listsOnce_freshOn hd) steps
  · obtain ⟨events, t, hout, hearns, hleft⟩ := (h.run steps).checkBadges_leaves now
    refine ⟨events, t, hout, hearns, hleft, fun honce => ?_⟩
    rw [List.eq_nil_iff_forall_not_mem]
    intro id hid
    obtain ⟨-, b, hb, -, -⟩ := (hleft id).1 hid
    rw [Document.repeatedBadges_eq_nil_iff.2 honce] at hb
    cases hb

/-- A stored document with three wins that lists a badge twice, unlocked and then locked. -/
def twoNovices : Json :=
  .obj [
    ("gameProgress", .obj [("rock-paper-scissors", .obj [("wins", .int 3)])]),
    ("badges", .arr [.obj [("id", .str "rps_novice"), ("unlocked", .bool true)],
      .obj [("id", .str "rps_novice")]])]

/-- Once that document is imported, an identifier is listed twice, and a badge whose rule holds is
locked after every check. -/
theorem badges_of_run_novices : ∃ t events u,
    Ledger.start ⟨.obj []⟩ noon = .ok (holding newcomer).ledger ∧
    t = (holding newcomer).run [(.importText (.str twoNovices.write), noon)] ∧
    ¬ t.ledger.document.ListsOnce ∧ (checkBadges noon).outcome t = (.ok events, u) ∧
    "rps_novice" ∈ u.ledger.document.snapshot.earnedBadges := by
  have hstart : Ledger.start ⟨.obj []⟩ noon = .ok (holding newcomer).ledger :=
    bind_eq_ok.2 ⟨(), rfl, bind_eq_ok.2 ⟨newcomer, freshOn_noon, rfl⟩⟩
  have horderly : Orderly "gameverse-data" (holding newcomer) := ⟨rfl, nofun⟩
  obtain ⟨events, u, hout, hearns, hleft, hnone⟩ := (badges_of_run hstart
    [(.importText (.str twoNovices.write), noon)]).2.2 horderly noon
  have hearned : ((holding newcomer).run [(.importText (.str twoNovices.write), noon)]
      ).ledger.document.snapshot.satisfies Badge.rule? "rps_novice" = true := by decide +kernel
  have hrepeats : ∃ b ∈ ((holding newcomer).run [(.importText (.str twoNovices.write), noon)]
      ).ledger.document.repeatedBadges, b.unlocked = false ∧ b.id = "rps_novice" := by
    decide +kernel
  have hin := (hleft "rps_novice").2 ⟨hearns _ hearned, hrepeats⟩
  refine ⟨_, events, u, hstart, rfl, fun honce => ?_, hout, hin⟩
  rw [hnone honce] at hin
  cases hin

end Shelf

end Arcade
