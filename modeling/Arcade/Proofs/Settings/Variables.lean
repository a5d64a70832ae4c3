import Arcade.Settings.EnvironmentFile

/-!
# Variables of an environment and of a file

A variable has the text that the environment gives it, also an empty one, and otherwise the one that
the environment file assigns, unless such files are switched off. Reading the file fails only if it
assigns something to a variable that is not set yet and that cannot be set to it.
-/

namespace Arcade

theorem ok_eq_ok_iff {α : Type} {x y : α} : (.ok x : Except Fault α) = .ok y ↔ y = x :=
  ⟨fun h => (Except.ok.inj h).symm, fun h => congrArg _ h.symm⟩

/-- Steps of which each succeeds under a condition, and none changes the conditions of those after
it, succeed together if all conditions hold at the start. -/
theorem foldlM_eq_ok {σ α : Type} {step : σ → α → Except Fault σ} {next : σ → α → σ}
    {Ready : σ → α → Prop} {Free : α → α → Prop}
    (hstep : ∀ {s t : σ} {x : α}, step s x = .ok t ↔ Ready s x ∧ t = next s x)
    (hfree : ∀ {s : σ} {x y : α}, Ready s x → Free x y → (Ready (next s x) y ↔ Ready s y))
    {xs : List α} (hxs : xs.Pairwise Free) {s t : σ} :
    xs.foldlM step s = .ok t ↔ (∀ x ∈ xs, Ready s x) ∧ t = xs.foldl next s := by
  induction xs generalizing s with
  | nil =>
    refine ok_eq_ok_iff.trans ?_
    simp
  | cons x rest ih =>
    rw [List.pairwise_cons] at hxs
    have hrest (hx : Ready s x) : (∀ y ∈ rest, Ready (next s x) y) ↔ ∀ y ∈ rest, Ready s y :=
      forall₂_congr fun y hy => hfree hx (hxs.1 y hy)
    rw [List.foldlM_cons, bind_eq_ok, List.forall_mem_cons, List.foldl_cons]
    constructor
    · rintro ⟨u, hu, ht⟩
      obtain ⟨hx, rfl⟩ := hstep.1 hu
      obtain ⟨hall, rfl⟩ := (ih hxs.2).1 ht
      exact ⟨⟨hx, (hrest hx).1 hall⟩, rfl⟩
    · rintro ⟨⟨hx, hall⟩, rfl⟩
      exact ⟨next s x, hstep.2 ⟨hx, rfl⟩, (ih hxs.2).2 ⟨(hrest hx).2 hall, rfl⟩⟩

namespace Dict

variable {α κ : Type} [DecidableEq κ]

theorem get?_insertNew (d : Dict α κ) (name other : κ) (value : α) :
    (d.insertNew name value).get? other =
      (d.get? other).or (if other = name then some value else none) := by
  unfold insertNew
  by_cases hc : d.contains name = true
  · rw [if_pos hc]
    by_cases h : other = name
    · obtain ⟨old, hold⟩ := Option.isSome_iff_exists.1 hc
      rw [h, hold]
      rfl
    · rw [if_neg h, Option.or_none]
  · rw [if_neg hc, get?_insert]
    by_cases h : other = name
    · rw [if_pos h, if_pos h, h, Option.not_isSome_iff_eq_none.1 hc]
      rfl
    · rw [if_neg h, if_neg h, Option.or_none]

theorem contains_insertNew_of_ne {d : Dict α κ} {name other : κ} {value : α} (h : other ≠ name) :
    (d.insertNew name value).contains other = d.contains other := by
  rw [contains, get?_insertNew, if_neg h, Option.or_none, contains]

end Dict

namespace EnvironmentFile

variable {environment environment' : Dict String} {text name value : String}

/-- Whether a variable can be set to a text. -/
def Settable (name value : String) : Prop :=
  Text.isName name = true ∧ Text.isName value = true ∧
    '=' ∉ name.toList ∧ '\x00' ∉ name.toList ∧ '\x00' ∉ value.toList

theorem setNew_eq_ok : setNew environment name value = .ok environment' ↔
    (environment.contains name = false → Settable name value) ∧
      environment' = environment.insertNew name value := by
  rw [setNew, Dict.insertNew]
  cases hc : environment.contains name with
  | true => simp [eq_comm]
  | false =>
    have hs : Settable name value ↔ (!(Text.isName name && Text.isName value)) = false ∧
        (name.toList.contains '=' || name.toList.contains '\x00' ||
          value.toList.contains '\x00') = false := by
      simp [Settable, and_assoc]
    rw [hs, if_neg Bool.false_ne_true]
    split
    · rename_i hname
      exact iff_of_false (fun h => by cases h) fun h =>
        Bool.false_ne_true ((h.1 rfl).1.symm.trans hname)
    · rename_i hname
      split
      · rename_i hbad
        exact iff_of_false (fun h => by cases h) fun h =>
          Bool.false_ne_true ((h.1 rfl).2.symm.trans hbad)
      · rename_i hbad
        rw [Bool.not_eq_true] at hname hbad
        exact ⟨fun h => ⟨fun _ => ⟨hname, hbad⟩, (Except.ok.inj h).symm⟩,
          fun h => congrArg _ h.2.symm⟩

/-! ## One assignment after the other -/

/-- Carries out an assignment, if it is one. -/
def assign (environment : Dict String) (e : String × Option String) : Except Fault (Dict String) :=
  match e.2 with
  | some value => setNew environment e.1 value
  | none => .ok environment

/-- The environment after an assignment that can be carried out. -/
def assigned (environment : Dict String) (e : String × Option String) : Dict String :=
  e.2.elim environment (environment.insertNew e.1)

/-- Whether an assignment can be carried out. -/
def Assigns (environment : Dict String) (e : String × Option String) : Prop :=
  ∀ value ∈ e.2, environment.contains e.1 = false → Settable e.1 value

theorem assign_eq_ok {e : String × Option String} : assign environment e = .ok environment' ↔
    Assigns environment e ∧ environment' = assigned environment e := by
  obtain ⟨name, value?⟩ := e
  cases value? with
  | none =>
    have h : Assigns environment (name, none) := nofun
    exact ⟨fun he => ⟨h, (Except.ok.inj he).symm⟩, fun he => congrArg _ he.2.symm⟩
  | some value => simpa [assign, Assigns, assigned] using setNew_eq_ok

/-- An assignment does not matter to those to other variables. -/
theorem assigns_assigned {e f : String × Option String} (h : f.1 ≠ e.1) :
    Assigns (assigned environment e) f ↔ Assigns environment f := by
  obtain ⟨name, value?⟩ := e
  cases value? with
  | none => exact Iff.rfl
  | some value => rw [Assigns, Assigns, assigned, Option.elim, Dict.contains_insertNew_of_ne h]

theorem get?_assigned (e : String × Option String) (name : String) :
    (assigned environment e).get? name =
      (environment.get? name).or (if name = e.1 then e.2 else none) := by
  obtain ⟨other, value?⟩ := e
  cases value? with
  | none => rw [assigned, Option.elim, ite_self, Option.or_none]
  | some value => exact Dict.get?_insertNew environment other name value

/-- Assignments to different variables are carried out if each of them can be. -/
theorem foldlM_assign_eq_ok {entries : List (String × Option String)}
    (hentries : (entries.map Prod.fst).Nodup) :
    entries.foldlM assign environment = .ok environment' ↔
      (∀ e ∈ entries, Assigns environment e) ∧
        environment' = entries.foldl assigned environment := by
  rw [List.Nodup, List.pairwise_map] at hentries
  exact foldlM_eq_ok assign_eq_ok (fun _ h => assigns_assigned (Ne.symm h)) hentries

theorem get?_foldl_assigned {entries : List (String × Option String)}
    (hentries : (entries.map Prod.fst).Nodup) (name : String) :
    (entries.foldl assigned environment).get? name =
      (environment.get? name).or (valueAt? name entries).join := by
  induction entries generalizing environment with
  | nil => simp [valueAt?]
  | cons e rest ih =>
    rw [List.map_cons, List.nodup_cons] at hentries
    rw [List.foldl_cons, ih hentries.2, get?_assigned, Option.or_assoc, valueAt?]
    by_cases h : e.1 = name
    · have hrest : valueAt? name rest = none :=
        Option.not_isSome_iff_eq_none.1 fun hs => hentries.1 (h ▸ valueAt?_isSome_iff.1 hs)
      rw [if_pos h.symm, if_pos h, hrest]
      simp
    · rw [if_neg (Ne.symm h), if_neg h, Option.none_or]

/-! ## The file -/

/-- The text of a variable: that in the environment or else that in a file, unless files are
switched off. -/
def textOf? (environment : Dict String) (text name : String) : Option String :=
  (environment.get? name).or
    (if isOff environment then none else ((values environment text).get? name).join)

/-- Whether all assignments of a file can be carried out. -/
def Extends (environment : Dict String) (text : String) : Prop :=
  isOff environment = true ∨ ∀ e ∈ (values environment text).entries, Assigns environment e

theorem extend_eq (environment : Dict String) (text : String) : extend environment text =
    if isOff environment then .ok environment
    else (values environment text).entries.foldlM assign environment := rfl

theorem extend_returns :
    (∃ environment', extend environment text = .ok environment') ↔ Extends environment text := by
  rw [extend_eq, Extends]
  cases isOff environment with
  | true => simp
  | false => simp [foldlM_assign_eq_ok (values environment text).distinct]

/-- What variables are set to once a file was read. -/
theorem get?_of_extend (h : extend environment text = .ok environment') (name : String) :
    environment'.get? name = textOf? environment text name := by
  rw [extend_eq] at h
  rw [textOf?]
  cases hoff : isOff environment with
  | true =>
    rw [hoff, if_pos rfl] at h
    rw [if_pos rfl, Option.or_none, Except.ok.inj h]
  | false =>
    have hnodup := (values environment text).distinct
    rw [hoff, if_neg Bool.false_ne_true] at h
    obtain ⟨-, rfl⟩ := (foldlM_assign_eq_ok hnodup).1 h
    rw [if_neg Bool.false_ne_true, get?_foldl_assigned hnodup]
    rfl

end EnvironmentFile

end Arcade
