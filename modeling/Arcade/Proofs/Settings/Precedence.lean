import Arcade.Proofs.Json.Plain
import Arcade.Proofs.Settings.Merging
import Arcade.Proofs.Settings.Variables
import Arcade.Settings.Loading

/-!
# Variables over the file over the standard

Loaded settings lie in three layers: the standard ones, the settings file merged over them, and the
variables that are set and not empty put on top. They can be loaded unless a text cannot be stored
in a file, the settings file is JSON but no object or lies too deep, the environment file assigns
what cannot be assigned, or a variable is to be put into what the settings file made no object.
-/

namespace Arcade.Settings

/-- The members of the object that settings are. -/
def members (s : Settings) : List (String × Json) :=
  match s.data with
  | .obj members => members
  | _ => []

theorem data_standard : standard.data = .obj standard.members := rfl

variable {s t : Settings} {all : List (String × Json)} {path : List String}

/-! ## The layer of the file -/

/-- The members of a settings file, none if it has no object. -/
def fileMembers : Option String → List (String × Json)
  | none => []
  | some text =>
    match Json.read text with
    | .ok (.obj members) => members
    | _ => []

/-- Whether a settings file can be taken or passed over. -/
def Readable (file : Option String) : Prop :=
  ∀ text ∈ file, Json.read text ≠ .error .tooDeep ∧
    ∀ v, Json.read text = .ok v → v.isObject = true

theorem distinct_fileMembers (file : Option String) : Json.Distinct (.obj (fileMembers file)) := by
  unfold fileMembers
  split
  · exact .noMembers
  · split
    · rename_i h
      exact Json.distinct_of_read h
    · exact .noMembers

/-- The standard settings with those of a file merged over them. -/
def fileOn (file : Option String) : Settings :=
  ⟨.obj (mergeMembers standard.members (fileMembers file))⟩

theorem fileOn_of_nil {file : Option String} (h : fileMembers file = []) :
    fileOn file = standard := by
  rw [fileOn, h, mergeMembers_nil]
  rfl

theorem withFile_eq_ok {file : Option String} :
    withFile file = .ok s ↔ Readable file ∧ s = fileOn file := by
  cases file with
  | none =>
    have hreadable : Readable none := nofun
    rw [withFile, ok_eq_ok_iff, fileOn_of_nil rfl, and_iff_right hreadable]
  | some text =>
    unfold withFile Readable
    cases hread : Json.read text with
    | error e =>
      have hfile : fileOn (some text) = standard := fileOn_of_nil (by rw [fileMembers, hread])
      by_cases he : e = .tooDeep
      · simp [hread, he]
      · simpa [hread, he, hfile] using ok_eq_ok_iff
    | ok v =>
      cases v with
      | obj above =>
        have hfile : fileOn (some text) = standard.merge above := by
          rw [fileOn, fileMembers, hread]
          rfl
        simpa [hread, hfile, Json.isObject] using ok_eq_ok_iff
      | _ => simp [hread, Json.isObject]

/-! ## One setting on top -/

/-- Whether neither of a path and the path to a setting leads through the other. -/
def Apart (path : List String) (group name : String) : Prop :=
  ¬ [group, name] <+: path ∧ ¬ path <+: [group, name]

instance (path : List String) (group name : String) : Decidable (Apart path group name) :=
  inferInstanceAs (Decidable (_ ∧ _))

/-- The layer with one setting has nothing where a path is apart from it. -/
theorem lookup?_single_of_apart {group name : String} (h : Apart path group name) (v : Json) :
    lookup? path (.obj [(group, .obj [(name, v)])]) = none ∧
      ¬ Blocked path (.obj [(group, .obj [(name, v)])]) := by
  have hnot {first other : String} (hne : first ≠ other) (w : Json) (rest : List String) :
      lookup? (first :: rest) (.obj [(other, w)]) = none ∧
        ¬ Blocked (first :: rest) (.obj [(other, w)]) := by
    have hnone : valueAt? first [(other, w)] = none := if_neg (Ne.symm hne)
    rw [lookup?_cons_obj, blocked_cons, hnone]
    simp
  match path, h with
  | [], h => exact absurd List.nil_prefix h.2
  | [first], h =>
    have hne : first ≠ group := by
      rintro rfl
      exact h.2 (by simp)
    exact hnot hne _ _
  | first :: second :: rest, h =>
    by_cases hfirst : first = group
    · subst hfirst
      have hne : second ≠ name := by
        rintro rfl
        exact h.1 (by simp)
      have hsome (w : Json) : valueAt? first [(first, w)] = some w := if_pos rfl
      rw [lookup?_cons_obj, blocked_cons, hsome]
      simpa using hnot hne v rest
    · exact hnot hfirst _ _

theorem distinct_single {v : Json} (h : Json.Distinct v) (name : String) :
    Json.Distinct (.obj [(name, v)]) :=
  .obj (List.pairwise_singleton _ _) (List.forall_mem_singleton.2 h)

/-- The settings with the layer of one setting on top. -/
def putOn (s : Settings) (group name : String) (v : Json) : Settings :=
  ⟨.obj (mergeMembers s.members [(group, .obj [(name, v)])])⟩

/-- Putting a setting merges its layer, which succeeds unless there is something at its group that
is no object. -/
theorem put_eq_ok {group name : String} {v : Json} (hv : v.isObject = false) :
    s.put group name v = .ok t ↔
      (s.data.isObject = true ∧ ∀ w ∈ valueAt? group s.members, w.isObject = true) ∧
        t = s.putOn group name v := by
  have hinner (inner : List (String × Json)) :
      mergeMembers inner [(name, v)] = putEntry name v inner := by
    rw [mergeMembers, mergeMembers_nil]
    cases valueAt? name inner with
    | none => rfl
    | some w => exact congrArg (putEntry name · inner) (mergeValue_of_not_isObject hv w)
  unfold put putOn members
  cases s.data with
  | obj all =>
    dsimp only
    rw [mergeMembers, mergeMembers_nil]
    cases hgroup : valueAt? group all with
    | none => simpa [Json.isObject, putEntry] using ok_eq_ok_iff
    | some w =>
      cases w with
      | obj inner => simpa [Json.isObject, mergeValue, hinner] using ok_eq_ok_iff
      | _ => simp [Json.isObject]
  | _ => simp [Json.isObject]

theorem isObject_mergeFound {w? : Option Json} (h : ∀ w ∈ w?, w.isObject = true)
    (above : List (String × Json)) :
    ∀ w ∈ mergeFound w? (some (.obj above)), w.isObject = true := by
  cases w? with
  | none => simp [mergeFound, Json.isObject]
  | some w =>
    obtain ⟨below, rfl⟩ := Json.isObject_iff.1 (h w rfl)
    simp [mergeFound, mergeValue, Json.isObject]

/-! ## The layer of the variables -/

/-- The text that overrides a setting: that of its variable, unless that is empty. -/
def override? (textOf? : String → Option String) (row : String × String × String) :
    Option String :=
  (textOf? row.1).filter (· ≠ "")

/-- Overrides one setting, if its variable does so. -/
def withRow (textOf? : String → Option String) (s : Settings) (row : String × String × String) :
    Except Fault Settings :=
  match override? textOf? row with
  | none => .ok s
  | some value => s.put row.2.1 row.2.2 (.str value)

/-- The settings with one of them overridden. -/
def rowOn (textOf? : String → Option String) (s : Settings) (row : String × String × String) :
    Settings :=
  (override? textOf? row).elim s fun value => s.putOn row.2.1 row.2.2 (.str value)

/-- Whether a variable that overrides a setting finds an object to put it in, or nothing. -/
def Grouped (textOf? : String → Option String) (s : Settings) (row : String × String × String) :
    Prop :=
  (override? textOf? row).isSome = true →
    s.data.isObject = true ∧ ∀ w ∈ valueAt? row.2.1 s.members, w.isObject = true

variable {textOf? : String → Option String} {row other : String × String × String}
  {rows : List (String × String × String)}

theorem withVariables_eq (s : Settings) (environment : Dict String) :
    s.withVariables environment = overrides.foldlM (withRow environment.get?) s := by
  unfold withVariables
  congr 1
  funext s row
  unfold withRow override?
  cases environment.get? row.1 with
  | none => rfl
  | some value => by_cases h : value = "" <;> simp [Option.filter, h]

theorem withRow_eq_ok : withRow textOf? s row = .ok t ↔
    Grouped textOf? s row ∧ t = rowOn textOf? s row := by
  unfold withRow Grouped rowOn
  cases override? textOf? row with
  | none => simpa using ok_eq_ok_iff
  | some value => simpa using put_eq_ok rfl

/-- Overriding one setting leaves objects where the others are put. -/
theorem grouped_rowOn (h : Grouped textOf? s row) :
    Grouped textOf? (rowOn textOf? s row) other ↔ Grouped textOf? s other := by
  unfold rowOn Grouped at *
  cases hrow : override? textOf? row with
  | none => rfl
  | some value =>
    obtain ⟨hdata, hgroup⟩ := h (by rw [hrow]; rfl)
    refine imp_congr_right fun _ => ?_
    have hsingle : (([(row.2.1, Json.obj [(row.2.2, .str value)])] : List (String × Json)).map
        Prod.fst).Nodup := List.pairwise_singleton _ _
    have hmembers : (s.putOn row.2.1 row.2.2 (.str value)).members =
        mergeMembers s.members [(row.2.1, .obj [(row.2.2, .str value)])] := rfl
    rw [Option.elim, hmembers, valueAt?_mergeMembers hsingle, valueAt?]
    by_cases hsame : row.2.1 = other.2.1
    · rw [if_pos hsame, ← hsame]
      exact iff_of_true ⟨rfl, isObject_mergeFound hgroup _⟩ ⟨hdata, hgroup⟩
    · rw [if_neg hsame, valueAt?, mergeFound_none]
      exact and_congr_left' (iff_of_true rfl hdata)

/-! ## What is found under the variables -/

theorem data_eq_members (h : s.data.isObject = true) : s.data = .obj s.members := by
  obtain ⟨all, hall⟩ := Json.isObject_iff.1 h
  rw [members, hall]

theorem lookup?_putOn_self (s : Settings) (group name value : String) :
    lookup? [group, name] (s.putOn group name (.str value)).data = some (.str value) := by
  refine lookup?_merge_leaf (distinct_single (distinct_single (.str value) name) group) _ ?_ rfl
  rw [lookup?_cons_obj, valueAt?, if_pos rfl, Option.bind_some, lookup?_cons_obj, valueAt?,
    if_pos rfl, Option.bind_some, lookup?_nil]

theorem lookup?_putOn_of_apart (hs : s.data.isObject = true) {group name : String}
    (h : Apart path group name) (value : String) :
    lookup? path (s.putOn group name (.str value)).data = lookup? path s.data := by
  obtain ⟨hnone, hopen⟩ := lookup?_single_of_apart h (.str value)
  rw [data_eq_members hs]
  exact lookup?_merge_open (distinct_single (distinct_single (.str value) name) group) _ hnone hopen

theorem isObject_rowOn (hs : s.data.isObject = true) (row : String × String × String) :
    (rowOn textOf? s row).data.isObject = true := by
  unfold rowOn
  cases override? textOf? row with
  | none => exact hs
  | some value => rfl

theorem lookup?_rowOn_of_apart (hs : s.data.isObject = true)
    (h : (override? textOf? row).isSome = true → Apart path row.2.1 row.2.2) :
    lookup? path (rowOn textOf? s row).data = lookup? path s.data := by
  unfold rowOn
  cases hrow : override? textOf? row with
  | none => rfl
  | some value => exact lookup?_putOn_of_apart hs (h (by rw [hrow]; rfl)) value

/-- Overriding settings leaves alone what is apart from all of them. -/
theorem lookup?_rowsOn_of_apart (hs : s.data.isObject = true)
    (h : ∀ row ∈ rows, (override? textOf? row).isSome = true → Apart path row.2.1 row.2.2) :
    lookup? path (rows.foldl (rowOn textOf?) s).data = lookup? path s.data := by
  induction rows generalizing s with
  | nil => rfl
  | cons row rest ih =>
    obtain ⟨hrow, hrest⟩ := List.forall_mem_cons.1 h
    rw [List.foldl_cons, ih (isObject_rowOn hs row) hrest, lookup?_rowOn_of_apart hs hrow]

/-- Two settings are apart. -/
theorem apart_of_ne {group name group' name' : String} (h : (group, name) ≠ (group', name')) :
    Apart [group, name] group' name' := by
  have hne : [group, name] ≠ [group', name'] := fun he => h (by simpa using he)
  exact ⟨fun hp => hne (hp.eq_of_length rfl).symm, fun hp => hne (hp.eq_of_length rfl)⟩

/-- The text of a variable is what its setting becomes. -/
theorem lookup?_rowsOn (hs : s.data.isObject = true) (hrows : (rows.map Prod.snd).Nodup)
    (hrow : row ∈ rows) {value : String} (h : override? textOf? row = some value) :
    lookup? [row.2.1, row.2.2] (rows.foldl (rowOn textOf?) s).data = some (.str value) := by
  induction rows generalizing s with
  | nil => cases hrow
  | cons first rest ih =>
    rw [List.map_cons, List.nodup_cons] at hrows
    rw [List.foldl_cons]
    rcases List.mem_cons.1 hrow with rfl | hrow
    · have hapart : ∀ other ∈ rest, (override? textOf? other).isSome = true →
          Apart [row.2.1, row.2.2] other.2.1 other.2.2 := fun other hother _ =>
        apart_of_ne fun he => hrows.1 (List.mem_map.2 ⟨other, hother, he.symm⟩)
      rw [lookup?_rowsOn_of_apart (isObject_rowOn hs row) hapart, rowOn, h]
      exact lookup?_putOn_self s _ _ value
    · exact ih (isObject_rowOn hs first) hrows.2 hrow

/-! ## Loading -/

/-- The texts that an environment and an environment file give to variables. -/
def given? (environmentFile : Option String) (environment : Dict String) :
    String → Option String :=
  EnvironmentFile.textOf? environment (environmentFile.getD "")

/-- What settings are loaded from is fit for it: both files hold texts that can be stored, the
settings file can be taken or passed over, the environment file assigns what can be assigned, and
what variables override is in no group that the settings file made something else. -/
structure Loadable (file environmentFile : Option String) (environment : Dict String) : Prop where
  stored : ∀ text ∈ [file, environmentFile], Text.hasSurrogate (text.getD "") = false
  readable : Readable file
  assigns : EnvironmentFile.Extends environment (environmentFile.getD "")
  grouped : ∀ row ∈ overrides, (override? (given? environmentFile environment) row).isSome = true →
    ∀ w ∈ valueAt? row.2.1 (fileMembers file), w.isObject = true

/-- The standard settings have an object for each group with a setting that can be overridden. -/
theorem exists_standard_group {row : String × String × String} (h : row ∈ overrides) :
    ∃ below, valueAt? row.2.1 standard.members = some (.obj below) := by
  have hall : ∀ row ∈ overrides,
      (valueAt? row.2.1 standard.members).map Json.isObject = some true := by decide
  obtain ⟨w, hw, hobject⟩ := Option.map_eq_some_iff.1 (hall row h)
  obtain ⟨below, rfl⟩ := Json.isObject_iff.1 hobject
  exact ⟨below, hw⟩

theorem grouped_fileOn {file : Option String} (h : row ∈ overrides) :
    Grouped textOf? (fileOn file) row ↔ ((override? textOf? row).isSome = true →
      ∀ w ∈ valueAt? row.2.1 (fileMembers file), w.isObject = true) := by
  obtain ⟨below, hbelow⟩ := exists_standard_group h
  have hmembers : (fileOn file).members = mergeMembers standard.members (fileMembers file) := rfl
  unfold Grouped
  rw [hmembers, valueAt?_mergeMembers (distinct_fileMembers file).nodup, hbelow]
  refine imp_congr_right fun _ => ?_
  rw [and_iff_right (show (fileOn file).data.isObject = true from rfl)]
  cases valueAt? row.2.1 (fileMembers file) with
  | none => simp [mergeFound, Json.isObject]
  | some w =>
    cases hw : w.isObject with
    | true =>
      obtain ⟨above, rfl⟩ := Json.isObject_iff.1 hw
      simp [mergeFound, mergeValue, Json.isObject]
    | false => simp [mergeFound, mergeValue_of_not_isObject hw, hw]

theorem withVariables_eq_ok {environment : Dict String} : s.withVariables environment = .ok t ↔
    (∀ row ∈ overrides, Grouped environment.get? s row) ∧
      t = overrides.foldl (rowOn environment.get?) s := by
  have hall : overrides.Pairwise fun _ _ => True := List.pairwise_of_forall fun _ _ => trivial
  rw [withVariables_eq]
  refine foldlM_eq_ok withRow_eq_ok ?_ hall
  intro s row other h _
  exact grouped_rowOn h

theorem load_eq (file environmentFile : Option String) (environment : Dict String) :
    load file environmentFile environment =
      if [file, environmentFile].any fun text => Text.hasSurrogate (text.getD "") then
        .error .notEncodable
      else withFile file >>= fun s =>
        EnvironmentFile.extend environment (environmentFile.getD "") >>= fun environment =>
          s.withVariables environment := by
  unfold load
  split <;> rfl

theorem load_eq_ok {file environmentFile : Option String} {environment : Dict String} :
    load file environmentFile environment = .ok s ↔ Loadable file environmentFile environment ∧
      s = overrides.foldl (rowOn (given? environmentFile environment)) (fileOn file) := by
  rw [load_eq]
  cases hstored : [file, environmentFile].any fun text => Text.hasSurrogate (text.getD "") with
  | true =>
    -- A text that no file can hold fails before anything is read.
    obtain ⟨text, htext, hsurrogate⟩ := List.any_eq_true.1 hstored
    refine iff_of_false nofun fun h => ?_
    rw [h.1.stored text htext] at hsurrogate
    cases hsurrogate
  | false =>
    have hstored' : ∀ text ∈ [file, environmentFile], Text.hasSurrogate (text.getD "") = false :=
      fun text htext => Bool.eq_false_iff.2 (List.any_eq_false.1 hstored text htext)
    rw [if_neg Bool.false_ne_true]
    constructor
    · -- What each of the three stages took is read off its success, in the order of the stages.
      intro h
      obtain ⟨_, hfile, h⟩ := bind_eq_ok.1 h
      obtain ⟨environment', hextend, h⟩ := bind_eq_ok.1 h
      obtain ⟨hreadable, rfl⟩ := withFile_eq_ok.1 hfile
      have hgiven : environment'.get? = given? environmentFile environment :=
        funext (EnvironmentFile.get?_of_extend hextend)
      obtain ⟨hgrouped, rfl⟩ := withVariables_eq_ok.1 h
      rw [hgiven] at hgrouped ⊢
      exact ⟨⟨hstored', hreadable, EnvironmentFile.extend_returns.1 ⟨_, hextend⟩,
        fun row hrow => (grouped_fileOn hrow).1 (hgrouped row hrow)⟩, rfl⟩
    · rintro ⟨h, rfl⟩
      obtain ⟨environment', hextend⟩ := EnvironmentFile.extend_returns.2 h.assigns
      have hgiven : environment'.get? = given? environmentFile environment :=
        funext (EnvironmentFile.get?_of_extend hextend)
      refine bind_eq_ok.2 ⟨_, withFile_eq_ok.2 ⟨h.readable, rfl⟩, bind_eq_ok.2 ⟨_, hextend, ?_⟩⟩
      rw [← hgiven]
      refine withVariables_eq_ok.2 ⟨fun row hrow => ?_, rfl⟩
      rw [hgiven]
      exact (grouped_fileOn hrow).2 (h.grouped row hrow)

/-- The name of a setting that can be overridden leads to its group and on to the setting. -/
theorem parts_override {row : String × String × String} (h : row ∈ overrides) :
    Text.parts '.' (row.2.1 ++ "." ++ row.2.2) = [row.2.1, row.2.2] := by
  have hall : ∀ row ∈ overrides,
      Text.parts '.' (row.2.1 ++ "." ++ row.2.2) = [row.2.1, row.2.2] := by decide
  exact hall row h

theorem get_of_lookup? {name : String} {v : Json} (default : Json)
    (h : lookup? (Text.parts '.' name) s.data = some v) : s.get name default = v := by
  rw [get, h, Option.getD_some]

theorem fileMembers_eq_nil {file : Option String}
    (h : ∀ text ∈ file, ∀ above, Json.read text ≠ .ok (.obj above)) : fileMembers file = [] := by
  unfold fileMembers
  split
  · rfl
  · rename_i text
    split
    · rename_i above hread
      exact absurd hread (h text rfl above)
    · rfl

/-- What settings say under a name that no variable has a say in: the value that the settings file
gives it, merged over the standard one if both are objects; the standard value where the file gives
none; and none at all where the file has something else in place of a group on the way to it. A file
without an object leaves the standard settings. -/
structure FollowsFile (file : Option String) (s : Settings) (name : String) (default : Json) :
    Prop where
  leaf : ∀ v, lookup? (Text.parts '.' name) (.obj (fileMembers file)) = some v →
    v.isObject = false → s.get name default = v
  merged : ∀ below above, lookup? (Text.parts '.' name) standard.data = some (.obj below) →
    lookup? (Text.parts '.' name) (.obj (fileMembers file)) = some (.obj above) →
    s.get name default = .obj (mergeMembers below above)
  object : ∀ above, lookup? (Text.parts '.' name) (.obj (fileMembers file)) = some (.obj above) →
    (∀ below, lookup? (Text.parts '.' name) standard.data ≠ some (.obj below)) →
    s.get name default = .obj above
  silent : lookup? (Text.parts '.' name) (.obj (fileMembers file)) = none →
    ¬ Blocked (Text.parts '.' name) (.obj (fileMembers file)) →
    s.get name default = standard.get name default
  blocked : Blocked (Text.parts '.' name) (.obj (fileMembers file)) → s.get name default = default
  unread : (∀ text ∈ file, ∀ above, Json.read text ≠ .ok (.obj above)) →
    s.get name default = standard.get name default

theorem followsFile_fileOn (file : Option String) (name : String) (default : Json) :
    FollowsFile file (fileOn file) name default := by
  have hfile := distinct_fileMembers file
  exact {
    leaf := fun v hv hleaf => get_of_lookup? default (lookup?_merge_leaf hfile _ hv hleaf)
    merged := fun below above hbelow habove =>
      get_of_lookup? default (lookup?_merge_objects hfile hbelow habove)
    object := fun above habove hnone =>
      get_of_lookup? default (lookup?_merge_object hfile habove hnone)
    silent := fun hnone hopen => by
      rw [get, fileOn, lookup?_merge_open hfile _ hnone hopen, ← data_standard, get]
    blocked := fun hblocked => by
      rw [get, fileOn, lookup?_merge_blocked hfile _ hblocked, Option.getD_none]
    unread := fun hnone => by rw [fileOn_of_nil (fileMembers_eq_nil hnone)] }

theorem FollowsFile.congr {file : Option String} {name : String} {default : Json}
    (h : FollowsFile file s name default) (heq : t.get name default = s.get name default) :
    FollowsFile file t name default := by
  obtain ⟨leaf, merged, object, silent, blocked, unread⟩ := h
  rw [← heq] at silent blocked unread
  exact ⟨fun v hv hleaf => heq.trans (leaf v hv hleaf),
    fun below above hbelow habove => heq.trans (merged below above hbelow habove),
    fun above habove hnone => heq.trans (object above habove hnone), silent, blocked, unread⟩

end Arcade.Settings
