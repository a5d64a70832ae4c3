import Arcade.Timer.Slot

/-!
# Slots and their timers

A slot fits its queue as long as it is the only one that makes and cancels its timers: of the timers
that wait, exactly the one that the slot holds was made for the slot's present generation. So a
timer of an earlier generation, which goes off because the queue is stubborn, is told by its
generation, and the timer that the slot holds is there until it goes off or is cancelled.

`own` tells for which generation of the slot a task was made, if it is a task of that slot.
-/

namespace Arcade

namespace TimerQueue

variable {τ : Type}

/-- The queue after a timer went off, with another time on its clock. -/
def expired (q : TimerQueue τ) (id : Nat) (time : Float) : TimerQueue τ :=
  { q with time := time, waiting := q.waiting.filter (·.id ≠ id) }

theorem mem_waiting_expired {q : TimerQueue τ} {id : Nat} {time : Float} {t : Timer τ} :
    t ∈ (q.expired id time).waiting ↔ t ∈ q.waiting ∧ t.id ≠ id := by
  simp [expired]

@[simp] theorem cancel_made (q : TimerQueue τ) (id : Nat) : (q.cancel id).made = q.made := by
  unfold cancel
  split <;> rfl

@[simp] theorem cancel_stubborn (q : TimerQueue τ) (id : Nat) :
    (q.cancel id).stubborn = q.stubborn := by
  unfold cancel
  split <;> rfl

theorem waiting_cancel_sublist (q : TimerQueue τ) (id : Nat) :
    (q.cancel id).waiting.Sublist q.waiting := by
  unfold cancel
  split
  · exact List.Sublist.refl _
  · exact List.filter_sublist

/-- A timer that waits is found by its number. -/
theorem exists_find?_of_mem {q : TimerQueue τ} {t : Timer τ} (h : t ∈ q.waiting) :
    ∃ u, q.waiting.find? (·.id = t.id) = some u := by
  rw [← Option.isSome_iff_exists, List.find?_isSome]
  exact ⟨t, h, decide_eq_true rfl⟩

theorem mem_of_find? {q : TimerQueue τ} {id : Nat} {t : Timer τ}
    (h : q.waiting.find? (·.id = id) = some t) : t ∈ q.waiting ∧ t.id = id := by
  have hid := List.find?_some h
  exact ⟨List.mem_of_find?_eq_some h, of_decide_eq_true hid⟩

theorem foldl_earlier_mem (t : Timer τ) (rest : List (Timer τ)) :
    rest.foldl earlier t ∈ t :: rest := by
  induction rest generalizing t with
  | nil => exact List.mem_cons_self
  | cons u rest ih =>
    have hhead : earlier t u = t ∨ earlier t u = u := by
      unfold earlier
      split <;> simp
    rw [List.foldl_cons]
    rcases List.mem_cons.mp (ih (earlier t u)) with h | h
    · rw [h]
      rcases hhead with h | h <;> simp [h]
    · exact List.mem_cons_of_mem _ (List.mem_cons_of_mem _ h)

/-- The next timer to go off is one that is due, and none with its number waits afterwards. -/
theorem mem_due_of_next? {q : TimerQueue τ} {target : Float} {next : Timer τ × TimerQueue τ}
    (h : q.next? target = some next) :
    next.1 ∈ q.due target ∧ next.2 = q.expired next.1.id next.1.deadline := by
  unfold next? at h
  cases hdue : q.due target with
  | nil =>
    rw [hdue] at h
    cases h
  | cons first rest =>
    rw [hdue] at h
    obtain rfl := Option.some.inj h
    exact ⟨foldl_earlier_mem first rest, rfl⟩

theorem mem_of_next? {q : TimerQueue τ} {target : Float} {next : Timer τ × TimerQueue τ}
    (h : q.next? target = some next) :
    next.1 ∈ q.waiting ∧ next.2 = q.expired next.1.id next.1.deadline := by
  obtain ⟨hdue, hq⟩ := mem_due_of_next? h
  exact ⟨(List.mem_filter.mp hdue).1, hq⟩

/-- If none is the next to go off, none is due. -/
theorem not_due_of_next?_eq_none {q : TimerQueue τ} {target : Float} (h : q.next? target = none)
    {t : Timer τ} (ht : t ∈ q.waiting) : ¬t.deadline ≤ target := by
  intro hle
  have hmem : t ∈ q.due target := List.mem_filter.mpr ⟨ht, decide_eq_true hle⟩
  unfold next? at h
  cases hdue : q.due target with
  | nil =>
    rw [hdue] at hmem
    cases hmem
  | cons first rest =>
    rw [hdue] at h
    cases h

/-- Fewer timers wait once one went off. -/
theorem length_waiting_expired {q : TimerQueue τ} {t : Timer τ} (ht : t ∈ q.waiting)
    (time : Float) : (q.expired t.id time).waiting.length < q.waiting.length :=
  List.length_filter_lt_length_iff_exists.mpr ⟨t, ht, by simp⟩

/-- The next timer to go off is found by its number, if no two timers that wait have the same. -/
theorem exists_of_next? {q : TimerQueue τ} {target : Float} {next : Timer τ × TimerQueue τ}
    (hdistinct : ∀ t ∈ q.waiting, ∀ u ∈ q.waiting, t.id = u.id → t = u)
    (h : q.next? target = some next) :
    ∃ t ∈ q.waiting, q.waiting.find? (·.id = t.id) = some t ∧
      next = (t, q.expired t.id t.deadline) := by
  obtain ⟨hmem, hq⟩ := mem_of_next? h
  refine ⟨next.1, hmem, ?_, Prod.ext rfl hq⟩
  obtain ⟨u, hu⟩ := exists_find?_of_mem hmem
  obtain ⟨humem, hid⟩ := mem_of_find? hu
  rwa [hdistinct u humem _ hmem hid] at hu

end TimerQueue

namespace Slot

variable {τ : Type} {own : τ → Option Nat} {s : Slot} {q : TimerQueue τ}

@[simp] theorem cancel_stubborn (s : Slot) (q : TimerQueue τ) :
    (s.cancel q).2.stubborn = q.stubborn := by
  unfold cancel
  cases s.timer <;> simp

@[simp] theorem cancel_made (s : Slot) (q : TimerQueue τ) : (s.cancel q).2.made = q.made := by
  unfold cancel
  cases s.timer <;> simp

@[simp] theorem cancel_time (s : Slot) (q : TimerQueue τ) : (s.cancel q).2.time = q.time := by
  unfold cancel
  cases s.timer <;> simp

theorem waiting_cancel_sublist (s : Slot) (q : TimerQueue τ) :
    (s.cancel q).2.waiting.Sublist q.waiting := by
  unfold cancel
  cases s.timer with
  | none => exact List.Sublist.refl _
  | some id => exact q.waiting_cancel_sublist id

/-- Whether the timers of a queue are those that the slot knows of. -/
structure Fits (own : τ → Option Nat) (s : Slot) (q : TimerQueue τ) : Prop where
  young : ∀ t ∈ q.waiting, t.id < q.made
  distinct : ∀ t ∈ q.waiting, ∀ u ∈ q.waiting, t.id = u.id → t = u
  past : ∀ t ∈ q.waiting, ∀ g, own t.task = some g → g ≤ s.generation
  current : ∀ t ∈ q.waiting, own t.task = some s.generation → s.timer = some t.id
  held : ∀ id, s.timer = some id → ∃ t ∈ q.waiting, t.id = id ∧ own t.task = some s.generation

/-- The timer that a slot holds. -/
def kept? (s : Slot) (q : TimerQueue τ) : Option (Timer τ) :=
  s.timer.bind fun id => q.waiting.reverse.find? (·.id = id)

@[simp] theorem kept?_cancel (s : Slot) (q : TimerQueue τ) :
    (s.cancel q).1.kept? (s.cancel q).2 = none := rfl

@[simp] theorem kept?_schedule (s : Slot) (q : TimerQueue τ) (delay : Float) (task : Nat → τ) :
    (s.schedule q delay task).1.kept? (s.schedule q delay task).2 =
      some ⟨(s.cancel q).2.made, (s.cancel q).2.time + delay, task (s.generation + 2)⟩ := by
  simp [schedule, occupy, kept?, TimerQueue.add, cancel]

theorem kept?_eq_none_iff (h : Fits own s q) : s.kept? q = none ↔ s.isPending = false := by
  unfold kept? isPending
  cases ht : s.timer with
  | none => simp
  | some id =>
    obtain ⟨t, hmem, hid, -⟩ := h.held id ht
    simpa using ⟨t, hmem, hid⟩

theorem fits_of_waiting_eq_nil (hw : q.waiting = []) (hs : s.timer = none) : Fits own s q := by
  constructor <;> simp [hw, hs]

namespace Fits

theorem cancel (h : Fits own s q) : Fits own (s.cancel q).1 (s.cancel q).2 := by
  have hmem : ∀ t ∈ (s.cancel q).2.waiting, t ∈ q.waiting :=
    fun t ht => (waiting_cancel_sublist s q).subset ht
  constructor
  · intro t ht
    rw [cancel_made]
    exact h.young t (hmem t ht)
  · intro t ht u hu
    exact h.distinct t (hmem t ht) u (hmem u hu)
  · intro t ht g hg
    exact Nat.le_succ_of_le (h.past t (hmem t ht) g hg)
  · intro t ht hg
    have := h.past t (hmem t ht) _ hg
    simp only [Slot.cancel] at this
    omega
  · intro id hid
    cases hid

theorem occupy (h : Fits own s q) {task : Nat → τ} (htask : ∀ g, own (task g) = some g)
    (deadline timerDeadline : Float) :
    Fits own (s.occupy q deadline timerDeadline task).1
      (s.occupy q deadline timerDeadline task).2 := by
  constructor
  · intro t ht
    rcases TimerQueue.mem_waiting_add.mp ht with ht | rfl
    · exact Nat.lt_succ_of_lt (h.young t ht)
    · exact Nat.lt_succ_self _
  · intro t ht u hu hid
    rcases TimerQueue.mem_waiting_add.mp ht with ht | rfl <;>
      rcases TimerQueue.mem_waiting_add.mp hu with hu | rfl
    · exact h.distinct t ht u hu hid
    · exact absurd hid (Nat.ne_of_lt (h.young t ht))
    · exact absurd hid.symm (Nat.ne_of_lt (h.young u hu))
    · rfl
  · intro t ht g hg
    rcases TimerQueue.mem_waiting_add.mp ht with ht | rfl
    · exact Nat.le_succ_of_le (h.past t ht g hg)
    · rw [htask] at hg
      exact Nat.le_of_eq (Option.some.inj hg).symm
  · intro t ht hg
    rcases TimerQueue.mem_waiting_add.mp ht with ht | rfl
    · have := h.past t ht _ hg
      simp only [Slot.occupy] at this
      omega
    · rfl
  · intro id hid
    exact ⟨_, TimerQueue.mem_waiting_add.mpr (.inr rfl), Option.some.inj hid, htask _⟩

theorem schedule (h : Fits own s q) {task : Nat → τ} (htask : ∀ g, own (task g) = some g)
    (delay : Float) :
    Fits own (s.schedule q delay task).1 (s.schedule q delay task).2 :=
  h.cancel.occupy htask _ _

/-- A timer that is not the slot's own can be added. -/
theorem add (h : Fits own s q) {task : τ} (htask : own task = none) (deadline : Float) :
    Fits own s (q.add deadline task) := by
  have hold : ∀ t ∈ (q.add deadline task).waiting, ∀ g, own t.task = some g → t ∈ q.waiting := by
    intro t ht g hg
    rcases TimerQueue.mem_waiting_add.mp ht with ht | rfl
    · exact ht
    · rw [htask] at hg
      cases hg
  constructor
  · intro t ht
    rcases TimerQueue.mem_waiting_add.mp ht with ht | rfl
    · exact Nat.lt_succ_of_lt (h.young t ht)
    · exact Nat.lt_succ_self _
  · intro t ht u hu hid
    rcases TimerQueue.mem_waiting_add.mp ht with ht | rfl <;>
      rcases TimerQueue.mem_waiting_add.mp hu with hu | rfl
    · exact h.distinct t ht u hu hid
    · exact absurd hid (Nat.ne_of_lt (h.young t ht))
    · exact absurd hid.symm (Nat.ne_of_lt (h.young u hu))
    · rfl
  · exact fun t ht g hg => h.past t (hold t ht g hg) g hg
  · exact fun t ht hg => h.current t (hold t ht _ hg) hg
  · intro id hid
    obtain ⟨t, ht, htask⟩ := h.held id hid
    exact ⟨t, TimerQueue.mem_waiting_add.mpr (.inl ht), htask⟩

/-- A timer that is added is the youngest. -/
theorem ordered_add (h : Fits own s q) (hq : q.waiting.Pairwise fun t u => t.id < u.id)
    (deadline : Float) (task : τ) :
    (q.add deadline task).waiting.Pairwise fun t u => t.id < u.id := by
  refine List.pairwise_append.mpr ⟨hq, List.pairwise_singleton _ _, fun t ht u hu => ?_⟩
  rw [List.mem_singleton.mp hu]
  exact h.young t ht

/-- The timer that the slot holds is the only one of its generation. -/
theorem kept?_eq_some (h : Fits own s q) {t : Timer τ} (ht : t ∈ q.waiting)
    (hg : own t.task = some s.generation) : s.kept? q = some t := by
  have hs := h.current t ht hg
  unfold kept?
  rw [hs, Option.bind_some]
  obtain ⟨u, hu⟩ : ∃ u, q.waiting.reverse.find? (fun v => decide (v.id = t.id)) = some u := by
    rw [← Option.isSome_iff_exists, List.find?_isSome]
    exact ⟨t, List.mem_reverse.mpr ht, decide_eq_true rfl⟩
  have hid : u.id = t.id := by simpa using List.find?_some hu
  rw [hu, h.distinct u (List.mem_reverse.mp (List.mem_of_find?_eq_some hu)) t ht hid]

/-- Once the timer that the slot holds went off, nothing is pending. -/
theorem expired_own (h : Fits own s q) {t : Timer τ} (ht : t ∈ q.waiting)
    (hg : own t.task = some s.generation) (time : Float) :
    Fits own ⟨none, none, s.generation⟩ (q.expired t.id time) := by
  constructor
  · intro u hu
    exact h.young u (TimerQueue.mem_waiting_expired.mp hu).1
  · intro u hu v hv
    exact h.distinct u (TimerQueue.mem_waiting_expired.mp hu).1 v
      (TimerQueue.mem_waiting_expired.mp hv).1
  · intro u hu
    exact h.past u (TimerQueue.mem_waiting_expired.mp hu).1
  · intro u hu hgu
    obtain ⟨hu, hne⟩ := TimerQueue.mem_waiting_expired.mp hu
    have hheld := h.current t ht hg
    rw [h.current u hu hgu] at hheld
    exact absurd (Option.some.inj hheld) hne
  · intro id hid
    cases hid

/-- Any other timer that goes off leaves the slot as it is. -/
theorem expired_other (h : Fits own s q) {t : Timer τ} (ht : t ∈ q.waiting)
    (hg : own t.task ≠ some s.generation) (time : Float) :
    Fits own s (q.expired t.id time) := by
  constructor
  · intro u hu
    exact h.young u (TimerQueue.mem_waiting_expired.mp hu).1
  · intro u hu v hv
    exact h.distinct u (TimerQueue.mem_waiting_expired.mp hu).1 v
      (TimerQueue.mem_waiting_expired.mp hv).1
  · intro u hu
    exact h.past u (TimerQueue.mem_waiting_expired.mp hu).1
  · intro u hu
    exact h.current u (TimerQueue.mem_waiting_expired.mp hu).1
  · intro id hid
    obtain ⟨u, hu, hid, hgu⟩ := h.held id hid
    refine ⟨u, TimerQueue.mem_waiting_expired.mpr ⟨hu, ?_⟩, hid, hgu⟩
    intro hsame
    rw [h.distinct u hu t ht hsame] at hgu
    exact hg hgu

/-- The timer that a slot holds waits and was made for the present generation. -/
theorem mem_of_kept? (h : Fits own s q) {t : Timer τ} (ht : s.kept? q = some t) :
    t ∈ q.waiting ∧ s.timer = some t.id ∧ own t.task = some s.generation := by
  unfold kept? at ht
  cases hs : s.timer with
  | none =>
    rw [hs] at ht
    cases ht
  | some id =>
    rw [hs, Option.bind_some] at ht
    have hmem := List.mem_reverse.mp (List.mem_of_find?_eq_some ht)
    have hid : t.id = id := by simpa using List.find?_some ht
    obtain ⟨u, hu, huid, hg⟩ := h.held id hs
    rw [h.distinct u hu t hmem (huid.trans hid.symm)] at hg
    exact ⟨hmem, by rw [hid], hg⟩

theorem kept?_expired_other (h : Fits own s q) {t : Timer τ} (ht : t ∈ q.waiting)
    (hg : own t.task ≠ some s.generation) (time : Float) :
    s.kept? (q.expired t.id time) = s.kept? q := by
  have hfits := h.expired_other ht hg time
  cases hk : s.kept? q with
  | none => exact (kept?_eq_none_iff hfits).mpr ((kept?_eq_none_iff h).mp hk)
  | some u =>
    obtain ⟨hu, -, hgu⟩ := h.mem_of_kept? hk
    refine hfits.kept?_eq_some (TimerQueue.mem_waiting_expired.mpr ⟨hu, fun hid => hg ?_⟩) hgu
    rwa [← h.distinct u hu t ht hid]

/-- The clock can be moved by itself. -/
theorem withTime (h : Fits own s q) (time : Float) : Fits own s { q with time := time } :=
  ⟨h.young, h.distinct, h.past, h.current, h.held⟩

end Fits

end Slot

end Arcade
