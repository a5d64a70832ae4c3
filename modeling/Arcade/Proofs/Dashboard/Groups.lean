import Arcade.Proofs.Dashboard.Orders
import Mathlib.Data.List.Induction

/-!
# Groups and filters

Grouping badges by game and filtering them by game are two views of one list. A group has the badges
of its game, in their order; the groups follow each other as their games first occur, and together
they hold every badge once. A tab for a game shows its group, unless the game is named like one of
the three tabs that are for no game: the badges for all games are. A query keeps those badges of a
tab that it finds.
-/

namespace Arcade

/-- A badge whose texts are texts. -/
structure Badge.HasTexts (b : Badge) : Prop where
  title : ∃ s, b.title = .str s
  description : ∃ s, b.description = .str s
  game : ∃ s, b.game = .str s
  requirement : ∃ s, b.requirement = .str s

namespace Dashboard

variable {badges : List Badge} {b : Badge}

/-! ## First occurrences -/

section FirstOccurrences

variable {α κ : Type} [DecidableEq κ]

theorem eraseDups_concat (xs : List κ) (x : κ) :
    (xs ++ [x]).eraseDups = if x ∈ xs then xs.eraseDups else xs.eraseDups ++ [x] := by
  rw [List.eraseDups_append]
  by_cases h : x ∈ xs <;> simp [List.removeAll, List.eraseDups_cons, h]

theorem nodup_eraseDups (xs : List κ) : xs.eraseDups.Nodup := by
  induction xs using List.reverseRecOn with
  | nil => exact List.nodup_nil
  | append_singleton xs x ih =>
    rw [eraseDups_concat]
    split
    · exact ih
    · rename_i h
      exact List.nodup_append.2 ⟨ih, List.pairwise_singleton _ x, fun y hy z hz => by
        obtain rfl := List.mem_singleton.1 hz
        rintro rfl
        exact h (List.mem_eraseDups.1 hy)⟩

/-- Items sorted into parts by a key are the items in another order. -/
theorem flatMap_filter_perm {keys : List κ} (hkeys : keys.Nodup) (key : α → κ) {xs : List α}
    (hxs : ∀ x ∈ xs, key x ∈ keys) :
    (keys.flatMap fun k => xs.filter fun x => key x = k).Perm xs := by
  induction keys generalizing xs with
  | nil =>
    cases xs with
    | nil => exact .nil
    | cons x xs => exact absurd (hxs x List.mem_cons_self) List.not_mem_nil
  | cons k keys ih =>
    rw [List.nodup_cons] at hkeys
    have hothers : ∀ x ∈ xs.filter fun x => !decide (key x = k), key x ∈ keys := by
      intro x hx
      obtain ⟨hmem, hne⟩ := List.mem_filter.1 hx
      rcases List.mem_cons.1 (hxs x hmem) with h | h
      · simp [h] at hne
      · exact h
    have hrest := ih hkeys.2 hothers
    have hsame : ∀ l ∈ keys, (xs.filter fun x => !decide (key x = k)).filter
        (fun x => decide (key x = l)) = xs.filter fun x => decide (key x = l) := by
      intro l hl
      refine Sorting.filter_of_imp fun x hx => ?_
      have hne : key x ≠ k := fun h => hkeys.1 (h ▸ of_decide_eq_true hx ▸ hl)
      simp [hne]
    rw [List.flatMap_cons, ← List.flatMap_congr hsame]
    exact (hrest.append_left _).trans (List.filter_append_perm _ xs)

end FirstOccurrences

/-! ## Groups -/

/-- The groups of some badges: for each game, where it first occurs, all its badges. -/
def groupsOf (badges : List Badge) : List (Json × List Badge) :=
  (badges.map Badge.game).eraseDups.map fun g => (g, badges.filter fun b => b.game = g)

theorem map_fst_groupsOf (badges : List Badge) :
    (groupsOf badges).map Prod.fst = (badges.map Badge.game).eraseDups := by
  rw [groupsOf, List.map_map]
  exact List.map_id _

/-- A badge joins the one group of its game, or becomes a new group. -/
theorem addToGroup_map {keys : List Json} (hkeys : keys.Nodup)
    (hsame : ∀ g ∈ keys, g.sameKey b.game = true ↔ g = b.game) (f : Json → List Badge) :
    addToGroup b (keys.map fun g => (g, f g)) =
      if b.game ∈ keys then keys.map fun g => (g, if g = b.game then f g ++ [b] else f g)
      else (keys.map fun g => (g, f g)) ++ [(b.game, [b])] := by
  induction keys with
  | nil => rfl
  | cons g keys ih =>
    rw [List.nodup_cons] at hkeys
    have hg := hsame g List.mem_cons_self
    have hrest := ih hkeys.2 fun k hk => hsame k (List.mem_cons_of_mem g hk)
    rw [List.map_cons, addToGroup]
    by_cases h : g = b.game
    · -- no other group has this game
      have hother : keys.map (fun k => (k, f k)) =
          keys.map fun k => (k, if k = b.game then f k ++ [b] else f k) := by
        refine List.map_congr_left fun k hk => ?_
        rw [if_neg]
        rintro rfl
        exact hkeys.1 (h ▸ hk)
      rw [if_pos (hg.2 h), if_pos (h ▸ List.mem_cons_self), List.map_cons, if_pos h, hother]
    · rw [if_neg (fun he => h (hg.1 he)), hrest]
      by_cases hmem : b.game ∈ keys
      · rw [if_pos hmem, if_pos (List.mem_cons_of_mem g hmem), List.map_cons, if_neg h]
      · rw [if_neg hmem, if_neg (by simp [hmem, Ne.symm h]), List.cons_append]

theorem addToGroup_groupsOf (h : ∀ c ∈ badges ++ [b], ∃ s, c.game = .str s) :
    addToGroup b (groupsOf badges) = groupsOf (badges ++ [b]) := by
  have hgame {c : Badge} (hc : c ∈ badges) : ∃ s, c.game = .str s :=
    h c (List.mem_append_left _ hc)
  obtain ⟨t, ht⟩ := h b (List.mem_append_right _ List.mem_cons_self)
  have hsame : ∀ g ∈ (badges.map Badge.game).eraseDups, g.sameKey b.game = true ↔ g = b.game := by
    intro g hg
    obtain ⟨c, hc, rfl⟩ := List.mem_map.1 (List.mem_eraseDups.1 hg)
    obtain ⟨s, hs⟩ := hgame hc
    rw [hs, ht, Json.sameKey_str, Json.str.injEq]
  rw [groupsOf, addToGroup_map (nodup_eraseDups _) hsame, groupsOf, List.map_append, List.map_cons,
    List.map_nil, eraseDups_concat]
  simp only [List.mem_eraseDups, List.filter_append]
  split
  · refine List.map_congr_left fun g _ => ?_
    by_cases hg : b.game = g
    · simp [hg]
    · simp [hg, Ne.symm hg]
  · rename_i hnew
    have hold : ∀ g ∈ (badges.map Badge.game).eraseDups, b.game ≠ g := by
      rintro g hg rfl
      exact hnew (List.mem_eraseDups.1 hg)
    have hnone : badges.filter (fun c => decide (c.game = b.game)) = [] :=
      List.filter_eq_nil_iff.2 fun c hc hcg =>
        hnew (List.mem_map.2 ⟨c, hc, of_decide_eq_true hcg⟩)
    rw [List.map_append, List.map_cons, List.map_nil, hnone]
    congr 1
    · refine List.map_congr_left fun g hg => ?_
      simp [hold g hg]
    · simp

theorem badgesByGame_eq (h : ∀ b ∈ badges, ∃ s, b.game = .str s) :
    badgesByGame badges = .ok (groupsOf badges) := by
  have hkeys : badges.all (·.game.isKey) = true := List.all_eq_true.2 fun b hb => by
    obtain ⟨s, hs⟩ := h b hb
    rw [hs]
    rfl
  rw [badgesByGame, if_pos hkeys]
  congr 1
  induction badges using List.reverseRecOn with
  | nil => rfl
  | append_singleton badges b ih =>
    have hbefore := fun c hc => h c (List.mem_append_left [b] hc)
    rw [List.foldl_append, ih hbefore (List.all_eq_true.2 fun c hc =>
      List.all_eq_true.1 hkeys c (List.mem_append_left [b] hc))]
    exact addToGroup_groupsOf h

/-- Every badge is in the group of its game. -/
theorem groupsOf_perm (badges : List Badge) : ((groupsOf badges).flatMap Prod.snd).Perm badges := by
  rw [groupsOf, List.flatMap_map]
  exact flatMap_filter_perm (nodup_eraseDups _) Badge.game fun b hb =>
    List.mem_eraseDups.2 (List.mem_map_of_mem hb)

/-! ## Filters -/

/-- The names of the tabs that are for no game. -/
def tabNames : List String := ["all", "unlocked", "locked"]

/-- Whether a query finds a badge with texts: one of its texts holds the query in any case and
without the blanks at its ends. An empty query finds all badges. -/
def finds (query : String) (b : Badge) : Bool :=
  Text.lower (Text.trim query) = "" ||
    [b.title, b.description, b.game, b.requirement].any fun v =>
      Text.mentions (Text.lower v.text) (Text.lower (Text.trim query))

theorem filterAuxM_eq_ok {p : Badge → Except Fault Bool} {q : Badge → Bool}
    (h : ∀ b ∈ badges, p b = .ok (q b)) (found : List Badge) :
    List.filterAuxM p badges found = .ok ((badges.filter q).reverse ++ found) := by
  induction badges generalizing found with
  | nil => rfl
  | cons b badges ih =>
    have hrest := ih fun c hc => h c (List.mem_cons_of_mem b hc)
    rw [List.filterAuxM, h b List.mem_cons_self]
    refine (hrest _).trans ?_
    cases hb : q b <;> simp [hb]

theorem filterM_eq_ok {p : Badge → Except Fault Bool} {q : Badge → Bool}
    (h : ∀ b ∈ badges, p b = .ok (q b)) : badges.filterM p = .ok (badges.filter q) := by
  rw [List.filterM, filterAuxM_eq_ok h]
  exact congrArg Except.ok (by rw [List.append_nil, List.reverse_reverse])

theorem anyHolds_texts {words : String} {vs : List Json} (h : ∀ v ∈ vs, ∃ s, v = .str s) :
    anyHolds words vs = .ok (vs.any fun v => Text.mentions (Text.lower v.text) words) := by
  induction vs with
  | nil => rfl
  | cons v vs ih =>
    obtain ⟨s, rfl⟩ := h v List.mem_cons_self
    rw [anyHolds, Json.string, List.any_cons, Json.text,
      ih fun w hw => h w (List.mem_cons_of_mem _ hw)]
    simp only [bind, Except.bind, pure, Except.pure]
    cases Text.mentions (Text.lower s) words <;> rfl

theorem isFound_texts (h : b.HasTexts) (words : String) : isFound words b =
    .ok ([b.title, b.description, b.game, b.requirement].any fun v =>
      Text.mentions (Text.lower v.text) words) := by
  refine anyHolds_texts ?_
  simp only [List.forall_mem_cons, List.not_mem_nil, false_imp_iff, implies_true, and_true]
  exact ⟨h.title, h.description, h.game, h.requirement⟩

/-- A query without anything but blanks finds every badge. -/
theorem filter_finds_blank {query : String} (h : Text.lower (Text.trim query) = "")
    (badges : List Badge) : badges.filter (finds query) = badges :=
  List.filter_eq_self.2 fun b _ => by rw [finds, decide_eq_true h, Bool.true_or]

theorem filterBadges_str (badges : List Badge) (tab : Json) (query : String) :
    filterBadges badges tab (.str query) =
      if Text.lower (Text.trim query) = "" then .ok (badges.filter (isOnTab tab))
      else (badges.filter (isOnTab tab)).filterM (isFound (Text.lower (Text.trim query))) := by
  unfold filterBadges
  rw [Json.string]
  simp only [bind, Except.bind, pure, Except.pure]

theorem filterBadges_texts (h : ∀ b ∈ badges, b.HasTexts) (tab : Json) (query : String) :
    filterBadges badges tab (.str query) =
      .ok ((badges.filter (isOnTab tab)).filter (finds query)) := by
  have htab : ∀ b ∈ badges.filter (isOnTab tab), b.HasTexts := fun b hb =>
    h b (List.mem_of_mem_filter hb)
  rw [filterBadges_str]
  by_cases hwords : Text.lower (Text.trim query) = ""
  · rw [if_pos hwords, filter_finds_blank hwords]
  · rw [if_neg hwords, filterM_eq_ok fun b hb => isFound_texts (htab b hb) _]
    refine congrArg Except.ok (List.filter_congr fun b _ => ?_)
    rw [finds, decide_eq_false hwords, Bool.false_or]

/-- Without a query a filter shows all of a tab. -/
theorem filterBadges_tab (h : ∀ b ∈ badges, b.HasTexts) (tab : Json) :
    filterBadges badges tab (.str "") = .ok (badges.filter (isOnTab tab)) := by
  have hempty : Text.lower (Text.trim "") = "" := rfl
  rw [filterBadges_texts h, filter_finds_blank hempty]

theorem equal_str {s t : String} : Json.equal (.str s) (.str t) = decide (s = t) := by
  change (s == t) = _
  by_cases h : s = t <;> simp [h]

/-- The tab of a game shows the badges of the game. -/
theorem isOnTab_game {g : String} (hg : g ∉ tabNames) (hb : ∃ s, b.game = .str s) :
    isOnTab (.str g) b = decide (b.game = .str g) := by
  obtain ⟨s, hs⟩ := hb
  simp only [tabNames, List.mem_cons, List.not_mem_nil, or_false, not_or] at hg
  simp [isOnTab, hg, hs, equal_str]

/-- The tab of a game shows the group of the game, in full. -/
theorem filterBadges_game (h : ∀ b ∈ badges, b.HasTexts) {g : String} (hg : g ∉ tabNames) :
    filterBadges badges (.str g) (.str "") =
      .ok (badges.filter fun b => decide (b.game = .str g)) := by
  rw [filterBadges_tab h]
  exact congrArg Except.ok (List.filter_congr fun b hb => isOnTab_game hg (h b hb).game)

/-- Grouping gives the games in the order in which they first occur, each with all its badges as
they stand in the list, so that the groups together are the list in another order. For every game
that occurs, unless it is named like one of the tabs that are for no game, filtering by the game
gives its group. On every tab, a query keeps those badges that it finds. -/
theorem groups_agree_with_filters (h : ∀ b ∈ badges, b.HasTexts) :
    ∃ groups, badgesByGame badges = .ok groups ∧
      groups.map Prod.fst = (badges.map Badge.game).eraseDups ∧
      (∀ e ∈ groups, e.2 = badges.filter fun b => b.game = e.1) ∧
      (groups.flatMap Prod.snd).Perm badges ∧
      (∀ g : String, .str g ∈ badges.map Badge.game → g ∉ tabNames →
        ∃ group, (.str g, group) ∈ groups ∧
          filterBadges badges (.str g) (.str "") = .ok group) ∧
      ∀ tab query : String, ∃ onTab, filterBadges badges (.str tab) (.str "") = .ok onTab ∧
        filterBadges badges (.str tab) (.str query) = .ok (onTab.filter (finds query)) := by
  refine ⟨groupsOf badges, badgesByGame_eq fun b hb => (h b hb).game, map_fst_groupsOf badges,
    ?members, groupsOf_perm badges, fun g hg htab => ?group, fun tab query => ?query⟩
  case members =>
    intro e he
    obtain ⟨g, -, rfl⟩ := List.mem_map.1 he
    rfl
  case group =>
    exact ⟨_, List.mem_map.2 ⟨_, List.mem_eraseDups.2 hg, rfl⟩, filterBadges_game h htab⟩
  case query =>
    exact ⟨_, filterBadges_tab h _, filterBadges_texts h _ query⟩

theorem hasTexts_fresh : ∀ b ∈ Badge.fresh, b.HasTexts := by
  intro b hb
  obtain ⟨d, -, rfl⟩ := List.mem_map.1 hb
  exact ⟨⟨_, rfl⟩, ⟨_, rfl⟩, ⟨_, rfl⟩, ⟨_, rfl⟩⟩

theorem groups_agree_with_filters_memory : (∀ b ∈ Badge.fresh, b.HasTexts) ∧
    ∃ groups group, badgesByGame Badge.fresh = .ok groups ∧
      (.str "memory-match", group) ∈ groups ∧
      filterBadges Badge.fresh (.str "memory-match") (.str "") = .ok group ∧
      (groups.flatMap Prod.snd).Perm Badge.fresh := by
  obtain ⟨groups, hgroups, -, -, hperm, hfilter, -⟩ := groups_agree_with_filters hasTexts_fresh
  obtain ⟨group, hmem, hgroup⟩ := hfilter "memory-match" (by decide) (by decide)
  exact ⟨hasTexts_fresh, groups, group, hgroups, hmem, hgroup, hperm⟩

/-- The badges of the catalog for all games have a group, but the tab of that name shows the badges
of every game. -/
theorem all_tab_is_no_group : .str "all" ∈ Badge.fresh.map Badge.game ∧
    ∃ groups, badgesByGame Badge.fresh = .ok groups ∧
      ∀ group, (.str "all", group) ∈ groups →
        filterBadges Badge.fresh (.str "all") (.str "") ≠ .ok group := by
  have hmem : .str "all" ∈ Badge.fresh.map Badge.game := by decide
  refine ⟨hmem, groupsOf Badge.fresh, badgesByGame_eq fun b hb => (hasTexts_fresh b hb).game, ?_⟩
  intro group hgroup hfilter
  obtain ⟨g, -, hg⟩ := List.mem_map.1 hgroup
  obtain ⟨rfl, rfl⟩ := Prod.mk.inj hg
  rw [filterBadges_tab hasTexts_fresh] at hfilter
  have hlength := congrArg List.length (Except.ok.inj hfilter)
  revert hlength
  decide

end Dashboard

end Arcade
