import Arcade.Intent.Resolve
import Arcade.Screen

/-!
# Complete intents

Carrying an intent out takes a target for some actions and an answer for most. Whatever a text is
taken for, its intent has what its action takes, and where the action leads to a screen, the target
names a page or a registered game.
-/

namespace Arcade

/-- A text that starts with words is not empty. -/
theorem Text.append_ne_empty {s : String} (h : s ≠ "") (t : String) : s ++ t ≠ "" :=
  fun he => h (String.append_eq_empty_iff.1 he).1

namespace Screen

/-- The paths of all screens: the home page, the other pages and the registered games. -/
def paths : List String :=
  ["/", "/games", "/daily-challenges", "/dashboard", "/badges", "/about", "/settings"] ++
    Game.registry.map fun g => "/games/" ++ g.id

/-- The names of the pages. -/
def pages : List String := Phrases.destinations.map Prod.fst

theorem pagePath_mem_paths {page : String} (h : page ∈ pages) : pagePath page ∈ paths := by
  revert page
  decide

theorem gamePath_mem_paths {id : String} (h : id ∈ Game.registry.map Game.id) :
    gamePath id ∈ paths := by
  obtain ⟨g, hg, rfl⟩ := List.mem_map.1 h
  exact List.mem_append_right _ (List.mem_map.2 ⟨g, hg, rfl⟩)

end Screen

namespace Phrases

/-- What is found in a table is one of its entries. -/
theorem mem_of_lookUp {isMentioned : String → Bool} {table : List (String × List String)}
    {name : String} (h : lookUp isMentioned table = some name) : name ∈ table.map Prod.fst := by
  obtain ⟨entry, hfind, rfl⟩ := Option.map_eq_some_iff.1 h
  exact List.mem_map_of_mem (List.mem_of_find?_eq_some hfind)

theorem destination?_mem_pages {text page : String} (h : destination? text = some page) :
    page ∈ Screen.pages := mem_of_lookUp h

/-- The games that texts name are the registered ones. -/
theorem game?_mem_registry {text id : String} (h : game? text = some id) :
    id ∈ Game.registry.map Game.id := by
  have hnames : games.map Prod.fst = Game.registry.map Game.id := by decide
  exact hnames ▸ mem_of_lookUp h

end Phrases

/-- There is something to say about every registered game. -/
theorem Game.describe_ne_empty {id : String} (h : id ∈ registry.map Game.id) :
    describe id ≠ "" := by
  revert id
  decide

namespace Intent

/-- Whether an intent has words to answer with. -/
def Speaks (i : Intent) : Prop := ∃ text, i.response = some text ∧ text ≠ ""

/-- Whether an intent has what carrying it out takes. -/
def Complete (i : Intent) : Prop :=
  match i.action with
  | .navigate => (∃ page ∈ Screen.pages, i.target = some page) ∧ i.Speaks
  | .play => (∃ id ∈ Game.registry.map Game.id, i.target = some id) ∧ i.Speaks
  | .coins => i.target = some "dashboard"
  | .time | .clearChat => True
  | .other _ => False
  | _ => i.Speaks

theorem complete_toPage {page : String} (h : page ∈ Screen.pages) (text : String) :
    (toPage text page).Complete :=
  ⟨⟨page, h, rfl⟩, _, rfl, Text.append_ne_empty (Text.append_ne_empty (by decide) _) _⟩

theorem complete_toTheme (text : String) : (toTheme text).Complete := by
  unfold toTheme
  split
  · exact ⟨_, rfl, by decide⟩
  · split
    · exact ⟨_, rfl, by decide⟩
    · exact ⟨_, rfl, by decide⟩

/-! ## Categories -/

/-- Whether a category gives complete intents only. -/
def Category.Complete (c : Category) : Prop :=
  ∀ text i, c.intent? text = some i → i.Complete

variable {phrases : List String}

/-- A category that never declines. -/
theorem complete_always {f : String → Intent} (h : ∀ text, (f text).Complete) :
    Category.Complete ⟨phrases, fun text => some (f text)⟩ :=
  fun text _ hi => Option.some.inj hi ▸ h text

/-- A category that declines if a text names nothing in a table. -/
theorem complete_named {named? : String → Option String} {f : String → String → Intent}
    (h : ∀ text name, named? text = some name → (f text name).Complete) :
    Category.Complete ⟨phrases, fun text => (named? text).map (f text)⟩ := by
  intro text i hi
  obtain ⟨name, hname, rfl⟩ := Option.map_eq_some_iff.1 hi
  exact h text name hname

theorem complete_categories : ∀ c ∈ categories, c.Complete := by
  unfold categories
  simp only [List.forall_mem_cons, List.not_mem_nil, false_imp_iff, implies_true, and_true]
  refine ⟨?navigate, ?play, ?help, ?stats, ?badges, ?challenges, ?close, ?theme, ?time, ?gameInfo,
    ?settings, ?about, ?refresh, ?home, ?games, ?popularGames, ?coins, ?clearChat, ?volumeUp,
    ?volumeDown, ?mute⟩
  case navigate =>
    exact complete_named fun text page h => complete_toPage (Phrases.destination?_mem_pages h) text
  case play =>
    exact complete_named fun text game h => ⟨⟨game, Phrases.game?_mem_registry h, rfl⟩, _, rfl,
      Text.append_ne_empty (Text.append_ne_empty (by decide) _) _⟩
  case gameInfo =>
    exact complete_named fun text game h =>
      ⟨_, rfl, Game.describe_ne_empty (Phrases.game?_mem_registry h)⟩
  case stats | badges | challenges | settings | about | home | games =>
    exact complete_always fun text => complete_toPage (by decide) text
  case theme => exact complete_always complete_toTheme
  case time | clearChat => exact complete_always fun _ => trivial
  case coins => exact complete_always fun _ => rfl
  case help => exact complete_always fun _ => ⟨_, rfl, by decide⟩
  case close | refresh | popularGames | volumeUp | volumeDown | mute =>
    exact complete_always fun _ => ⟨_, rfl, by decide⟩

/-! ## Resolving -/

theorem complete_conversation (text : String) : (conversation text).Complete := by
  unfold conversation
  split
  · rename_i hfind
    have hreplies : ∀ entry ∈ Phrases.smallTalk, entry.2 ≠ "" := by decide
    exact ⟨_, rfl, hreplies _ (List.mem_of_find?_eq_some hfind)⟩
  · exact ⟨_, rfl, by decide⟩

theorem complete_classify (text : String) : (classify text).Complete := by
  unfold classify
  cases h : categories.findSome? (·.take? text) with
  | none => exact complete_conversation text
  | some i =>
    obtain ⟨c, hc, htake⟩ := List.exists_of_findSome?_eq_some h
    unfold Category.take? at htake
    split at htake
    · exact complete_categories c hc text i htake
    · cases htake

/-- Whatever a text is taken for, its intent has what carrying it out takes. -/
theorem complete_resolve (text : String) : (resolve text).Complete := complete_classify _

end Intent

end Arcade
