import Arcade.Proofs.Json.Distinct
import Arcade.Proofs.Progress.Reading
import Arcade.Settings.Basic

/-!
# What merging leaves at a path

Merging goes name by name, so what a path leads to in a merged object is told by what it leads to in
the two objects alone. Where the object on top has something it wins, but two objects are merged.
Where it has nothing the object below shows through, unless the path runs into a value on top that
is no object: such a value hides everything below it.
-/

namespace Arcade

theorem Json.isObject_iff {v : Json} : v.isObject = true ↔ ∃ members, v = .obj members := by
  cases v <;> simp [isObject]

namespace Settings

variable {base upper members : List (String × Json)} {name : String} {path : List String}
  {u v w : Json}

/-! ## Values and members -/

theorem mergeValue_of_not_isObject (h : v.isObject = false) (w : Json) : mergeValue w v = v := by
  cases v with
  | obj members => cases h
  | _ => cases w <;> rfl

theorem mergeValue_over_not_isObject (h : w.isObject = false) (v : Json) : mergeValue w v = v := by
  cases w with
  | obj members => cases h
  | _ => cases v <;> rfl

/-- A value over another one, where there is one. -/
def mergeFound : Option Json → Option Json → Option Json
  | w?, none => w?
  | none, some v => some v
  | some w, some v => some (mergeValue w v)

@[simp] theorem mergeFound_none (w? : Option Json) : mergeFound w? none = w? := by cases w? <;> rfl

@[simp] theorem none_mergeFound (v? : Option Json) : mergeFound none v? = v? := by cases v? <;> rfl

@[simp] theorem mergeMembers_nil (base : List (String × Json)) : mergeMembers base [] = base := by
  rw [mergeMembers]

theorem obj_mergeMembers (base upper : List (String × Json)) :
    Json.obj (mergeMembers base upper) = mergeValue (.obj base) (.obj upper) := by
  rw [mergeValue]

theorem mergeMembers_cons (base : List (String × Json)) (name : String) (v : Json) :
    ∃ merged, mergeFound (valueAt? name base) (some v) = some merged ∧
      ∀ rest, mergeMembers base ((name, v) :: rest) =
        mergeMembers (putEntry name merged base) rest := by
  cases h : valueAt? name base with
  | none => exact ⟨v, rfl, fun rest => by rw [mergeMembers, h]⟩
  | some w => exact ⟨mergeValue w v, rfl, fun rest => by rw [mergeMembers, h]⟩

/-- Each name is merged apart from the others. -/
theorem valueAt?_mergeMembers (hupper : (upper.map Prod.fst).Nodup)
    (base : List (String × Json)) (name : String) :
    valueAt? name (mergeMembers base upper) =
      mergeFound (valueAt? name base) (valueAt? name upper) := by
  induction upper generalizing base with
  | nil => rw [mergeMembers_nil, valueAt?, mergeFound_none]
  | cons e rest ih =>
    obtain ⟨other, v⟩ := e
    rw [List.map_cons, List.nodup_cons] at hupper
    obtain ⟨merged, hmerged, hcons⟩ := mergeMembers_cons base other v
    rw [hcons, ih hupper.2, valueAt?]
    by_cases h : other = name
    · subst h
      have hrest : valueAt? other rest = none :=
        Option.not_isSome_iff_eq_none.1 fun hs => hupper.1 (valueAt?_isSome_iff.1 hs)
      rw [if_pos rfl, valueAt?_putEntry_self, hrest, mergeFound_none, hmerged]
    · rw [if_neg h, valueAt?_putEntry_of_ne (Ne.symm h)]

/-! ## Paths -/

/-- Whether a path leads on from a value that is no object. -/
def Blocked (path : List String) (v : Json) : Prop :=
  ∃ before w, before <+: path ∧ before ≠ path ∧ lookup? before v = some w ∧ w.isObject = false

@[simp] theorem lookup?_nil (v : Json) : lookup? [] v = some v := by
  cases v <;> rfl

theorem lookup?_cons_obj (name : String) (rest : List String) (members : List (String × Json)) :
    lookup? (name :: rest) (.obj members) = (valueAt? name members).bind (lookup? rest) := by
  rw [lookup?]
  cases valueAt? name members <;> rfl

theorem lookup?_cons_of_not_isObject (h : v.isObject = false) (name : String)
    (rest : List String) : lookup? (name :: rest) v = none := by
  cases v with
  | obj members => cases h
  | _ => rfl

/-- A path goes on from where its first name leads. -/
theorem lookup?_cons (name : String) (rest : List String) (v : Json) :
    lookup? (name :: rest) v = (lookup? [name] v).bind (lookup? rest) := by
  cases v with
  | obj members =>
    rw [lookup?_cons_obj, lookup?_cons_obj]
    cases valueAt? name members <;> rfl
  | _ => rfl

/-- The first name of a path leads into the merger of what it leads to. -/
theorem lookup?_cons_mergeValue (hupper : (upper.map Prod.fst).Nodup) (w : Json) (name : String)
    (rest : List String) : lookup? (name :: rest) (mergeValue w (.obj upper)) =
      (mergeFound (lookup? [name] w) (valueAt? name upper)).bind (lookup? rest) := by
  cases w with
  | obj base =>
    have hfirst : lookup? [name] (.obj base) = valueAt? name base := by
      rw [lookup?_cons_obj]
      cases valueAt? name base <;> simp
    rw [← obj_mergeMembers, lookup?_cons_obj, valueAt?_mergeMembers hupper, hfirst]
  | _ =>
    rw [mergeValue_over_not_isObject rfl, lookup?_cons_obj, lookup?_cons_of_not_isObject rfl,
      none_mergeFound]

theorem blocked_cons (rest : List String) :
    Blocked (name :: rest) (.obj members) ↔
      ∃ v, valueAt? name members = some v ∧ Blocked rest v := by
  constructor
  · rintro ⟨before, w, hprefix, hne, hfound, hleaf⟩
    cases before with
    | nil =>
      obtain rfl := Option.some.inj ((lookup?_nil _).symm.trans hfound)
      cases hleaf
    | cons first before =>
      obtain ⟨rfl, hbefore⟩ := List.cons_prefix_cons.1 hprefix
      rw [lookup?_cons_obj] at hfound
      obtain ⟨v, hv, hw⟩ := Option.bind_eq_some_iff.1 hfound
      exact ⟨v, hv, before, w, hbefore, fun h => hne (congrArg _ h), hw, hleaf⟩
  · rintro ⟨v, hv, before, w, hprefix, hne, hfound, hleaf⟩
    refine ⟨name :: before, w, List.cons_prefix_cons.2 ⟨rfl, hprefix⟩,
      fun h => hne (List.cons.inj h).2, ?_, hleaf⟩
    rw [lookup?_cons_obj, hv, Option.bind_some, hfound]

theorem blocked_of_not_isObject (h : v.isObject = false) (name : String) (rest : List String) :
    Blocked (name :: rest) v :=
  ⟨[], v, List.nil_prefix, (List.cons_ne_nil name rest).symm, lookup?_nil v, h⟩

theorem not_blocked_nil (v : Json) : ¬ Blocked [] v := by
  rintro ⟨before, -, hprefix, hne, -⟩
  exact hne (List.prefix_nil.1 hprefix)

/-- Nothing is found behind a value that is no object. -/
theorem lookup?_of_blocked (h : Blocked path v) : lookup? path v = none := by
  induction path generalizing v with
  | nil => exact absurd h (not_blocked_nil v)
  | cons name rest ih =>
    cases v with
    | obj members =>
      obtain ⟨w, hw, hblocked⟩ := (blocked_cons rest).1 h
      rw [lookup?_cons_obj, hw, Option.bind_some, ih hblocked]
    | _ => rfl

/-! ## The three cases -/

/-- What is found on top is merged with what is found below. -/
theorem lookup?_mergeValue_of_some (hv : Json.Distinct v) (h : lookup? path v = some u)
    (w : Json) : lookup? path (mergeValue w v) = mergeFound (lookup? path w) (some u) := by
  induction path generalizing v w with
  | nil =>
    obtain rfl := Option.some.inj ((lookup?_nil v).symm.trans h)
    rw [lookup?_nil, lookup?_nil]
    rfl
  | cons name rest ih =>
    cases v with
    | obj upper =>
      rw [lookup?_cons_obj] at h
      obtain ⟨x, hx, hfound⟩ := Option.bind_eq_some_iff.1 h
      rw [lookup?_cons_mergeValue hv.nodup, lookup?_cons name rest w, hx]
      cases lookup? [name] w with
      | none => exact hfound
      | some y => exact ih (hv.of_valueAt? hx) hfound y
    | _ => cases h

/-- Where nothing is found on top and nothing blocks the path, the value below shows through. -/
theorem lookup?_mergeValue_of_none (hv : Json.Distinct v) (h : lookup? path v = none)
    (hopen : ¬ Blocked path v) (w : Json) : lookup? path (mergeValue w v) = lookup? path w := by
  induction path generalizing v w with
  | nil => cases (lookup?_nil v).symm.trans h
  | cons name rest ih =>
    cases v with
    | obj upper =>
      rw [lookup?_cons_mergeValue hv.nodup, lookup?_cons name rest w]
      cases hx : valueAt? name upper with
      | none => rw [mergeFound_none]
      | some x =>
        rw [lookup?_cons_obj, hx, Option.bind_some] at h
        have hopen' : ¬ Blocked rest x := fun hb => hopen ((blocked_cons rest).2 ⟨x, hx, hb⟩)
        cases lookup? [name] w with
        | none => exact h
        | some y => exact ih (hv.of_valueAt? hx) h hopen' y
    | _ => exact absurd (blocked_of_not_isObject rfl name rest) hopen

/-- Where the value on top blocks the path, nothing is found. -/
theorem lookup?_mergeValue_of_blocked (hv : Json.Distinct v) (h : Blocked path v) (w : Json) :
    lookup? path (mergeValue w v) = none := by
  induction path generalizing v w with
  | nil => exact absurd h (not_blocked_nil v)
  | cons name rest ih =>
    cases v with
    | obj upper =>
      obtain ⟨x, hx, hblocked⟩ := (blocked_cons rest).1 h
      rw [lookup?_cons_mergeValue hv.nodup, hx]
      cases lookup? [name] w with
      | none => exact lookup?_of_blocked hblocked
      | some y => exact ih (hv.of_valueAt? hx) hblocked y
    | _ =>
      rw [mergeValue_of_not_isObject rfl]
      rfl

/-! ## Merging again -/

theorem putEntry_of_valueAt? (h : valueAt? name members = some v) :
    putEntry name v members = members := by
  induction members with
  | nil => cases h
  | cons e rest ih =>
    rw [valueAt?] at h
    rw [putEntry]
    split at h
    · rename_i he
      obtain rfl := Option.some.inj h
      rw [if_pos he, ← he]
    · rename_i he
      rw [if_neg he, ih h]

/-- An object leaves alone what has all of it already. -/
theorem mergeMembers_of_absorbed
    (h : ∀ e ∈ upper, mergeFound (valueAt? e.1 base) (some e.2) = valueAt? e.1 base) :
    mergeMembers base upper = base := by
  induction upper with
  | nil => exact mergeMembers_nil base
  | cons e rest ih =>
    obtain ⟨hfirst, hrest⟩ := List.forall_mem_cons.1 h
    obtain ⟨merged, hmerged, hcons⟩ := mergeMembers_cons base e.1 e.2
    rw [hcons, putEntry_of_valueAt? (hfirst.symm.trans hmerged), ih hrest]

/-- A value that was merged over another one changes nothing when it is merged again. -/
theorem mergeValue_mergeValue (hv : Json.Distinct v) (w : Json) :
    mergeValue (mergeValue w v) v = mergeValue w v := by
  induction hv generalizing w with
  | @obj upper hupper hmembers ih =>
    have hself : ∀ e ∈ upper, mergeValue e.2 e.2 = e.2 := by
      intro e he
      have h := ih e he .null
      rwa [mergeValue_over_not_isObject (w := .null) rfl] at h
    cases hw : w.isObject with
    | true =>
      obtain ⟨base, rfl⟩ := Json.isObject_iff.1 hw
      rw [mergeValue, mergeValue, mergeMembers_of_absorbed]
      intro e he
      rw [valueAt?_mergeMembers hupper, valueAt?_of_mem hupper he]
      cases valueAt? e.1 base with
      | none => exact congrArg some (hself e he)
      | some y => exact congrArg some (ih e he y)
    | false =>
      rw [mergeValue_over_not_isObject hw, mergeValue, mergeMembers_of_absorbed]
      intro e he
      rw [valueAt?_of_mem hupper he]
      exact congrArg some (hself e he)
  | _ => rw [mergeValue_of_not_isObject rfl, mergeValue_of_not_isObject rfl]

/-! ## The law of merging -/

theorem lookup?_merge_leaf (hupper : Json.Distinct (.obj upper)) (base : List (String × Json))
    (h : lookup? path (.obj upper) = some v) (hv : v.isObject = false) :
    lookup? path (.obj (mergeMembers base upper)) = some v := by
  rw [obj_mergeMembers, lookup?_mergeValue_of_some hupper h]
  cases lookup? path (.obj base) with
  | none => rfl
  | some w => exact congrArg some (mergeValue_of_not_isObject hv w)

theorem lookup?_merge_objects {below above : List (String × Json)}
    (hupper : Json.Distinct (.obj upper)) (hbelow : lookup? path (.obj base) = some (.obj below))
    (habove : lookup? path (.obj upper) = some (.obj above)) :
    lookup? path (.obj (mergeMembers base upper)) = some (.obj (mergeMembers below above)) := by
  rw [obj_mergeMembers, lookup?_mergeValue_of_some hupper habove, hbelow, mergeFound, mergeValue]

theorem lookup?_merge_object {above : List (String × Json)} (hupper : Json.Distinct (.obj upper))
    (habove : lookup? path (.obj upper) = some (.obj above))
    (hnone : ∀ below, lookup? path (.obj base) ≠ some (.obj below)) :
    lookup? path (.obj (mergeMembers base upper)) = some (.obj above) := by
  rw [obj_mergeMembers, lookup?_mergeValue_of_some hupper habove]
  cases hw : lookup? path (.obj base) with
  | none => rfl
  | some w =>
    cases w with
    | obj below => exact absurd hw (hnone below)
    | _ => rw [mergeFound, mergeValue_over_not_isObject rfl]

theorem lookup?_merge_open (hupper : Json.Distinct (.obj upper)) (base : List (String × Json))
    (hnone : lookup? path (.obj upper) = none) (hopen : ¬ Blocked path (.obj upper)) :
    lookup? path (.obj (mergeMembers base upper)) = lookup? path (.obj base) := by
  rw [obj_mergeMembers, lookup?_mergeValue_of_none hupper hnone hopen]

theorem lookup?_merge_blocked (hupper : Json.Distinct (.obj upper)) (base : List (String × Json))
    (h : Blocked path (.obj upper)) : lookup? path (.obj (mergeMembers base upper)) = none := by
  rw [obj_mergeMembers, lookup?_mergeValue_of_blocked hupper h]

/-- What a path leads to in an object that is merged over another one: a value on top that is no
object; two objects merged; an object on top where there is none below; what is below where there is
nothing on top and the path is not blocked there; and nothing where it is blocked. So an object that
is merged over another one twice is merged once, the empty object changes nothing, and whatever was
merged before, the values on top that are no objects are found. -/
theorem merge_law (hupper : Json.Distinct (.obj upper)) (base : List (String × Json)) :
    (∀ path,
      (∀ v, lookup? path (.obj upper) = some v → v.isObject = false →
        lookup? path (.obj (mergeMembers base upper)) = some v) ∧
      (∀ below above, lookup? path (.obj base) = some (.obj below) →
        lookup? path (.obj upper) = some (.obj above) →
        lookup? path (.obj (mergeMembers base upper)) = some (.obj (mergeMembers below above))) ∧
      (∀ above, lookup? path (.obj upper) = some (.obj above) →
        (∀ below, lookup? path (.obj base) ≠ some (.obj below)) →
        lookup? path (.obj (mergeMembers base upper)) = some (.obj above)) ∧
      (lookup? path (.obj upper) = none → ¬ Blocked path (.obj upper) →
        lookup? path (.obj (mergeMembers base upper)) = lookup? path (.obj base)) ∧
      (Blocked path (.obj upper) → lookup? path (.obj (mergeMembers base upper)) = none)) ∧
    mergeMembers (mergeMembers base upper) upper = mergeMembers base upper ∧
    mergeMembers base [] = base ∧
    ∀ earlier path v, lookup? path (.obj upper) = some v → v.isObject = false →
      lookup? path (.obj (mergeMembers (mergeMembers base earlier) upper)) = some v := by
  refine ⟨fun path => ⟨fun v => lookup?_merge_leaf hupper base,
    fun below above => lookup?_merge_objects hupper, fun above => lookup?_merge_object hupper,
    lookup?_merge_open hupper base, lookup?_merge_blocked hupper base⟩, ?again,
    mergeMembers_nil base, fun earlier path v => lookup?_merge_leaf hupper _⟩
  have h := mergeValue_mergeValue hupper (.obj base)
  rw [← obj_mergeMembers, ← obj_mergeMembers] at h
  exact Json.obj.inj h

/-- An object on top whose first group is merged and whose second name hides a group. -/
theorem merge_law_of_conflicts :
    let base := [("voice", .obj [("lang", .str "en-US"), ("rate", .int 1)]),
      ("extra", .obj [("flag", .bool true)])]
    let upper := [("voice", Json.obj [("lang", .str "de-DE")]), ("extra", .int 5)]
    Json.Distinct (.obj upper) ∧
      lookup? ["voice", "lang"] (.obj (mergeMembers base upper)) = some (.str "de-DE") ∧
      lookup? ["voice", "rate"] (.obj (mergeMembers base upper)) = some (.int 1) ∧
      lookup? ["extra", "flag"] (.obj (mergeMembers base upper)) = none ∧
      mergeMembers (mergeMembers base upper) upper = mergeMembers base upper := by
  intro base upper
  have hvoice : Json.Distinct (.obj [("lang", .str "de-DE")]) :=
    .obj (by decide) (by simpa using Json.Distinct.str _)
  have hupper : Json.Distinct (.obj upper) :=
    .obj (by decide) (by simpa [upper] using ⟨hvoice, Json.Distinct.num _⟩)
  obtain ⟨hpath, hagain, -⟩ := merge_law hupper base
  have hopen : ¬ Blocked ["voice", "rate"] (.obj upper) := fun h => by
    obtain ⟨v, hv, h⟩ := (blocked_cons _).1 h
    obtain rfl := Option.some.inj hv
    obtain ⟨w, hw, -⟩ := (blocked_cons _).1 h
    cases hw
  have hblocked : Blocked ["extra", "flag"] (.obj upper) :=
    (blocked_cons _).2 ⟨.int 5, rfl, blocked_of_not_isObject rfl _ _⟩
  exact ⟨hupper, (hpath _).1 _ rfl rfl, (hpath _).2.2.2.1 rfl hopen, (hpath _).2.2.2.2 hblocked,
    hagain⟩

end Settings

end Arcade
