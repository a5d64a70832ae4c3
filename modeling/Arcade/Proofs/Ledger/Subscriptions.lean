import Mathlib.Data.List.TakeWhile
import Arcade.Proofs.Ledger.Operation

/-!
# Subscriptions

A subscription returns a function that ends it. The function only knows the listener, and takes the
first place of that listener from the list. So it ends a subscription of the same listener that was
made before, if there is one, and when it is called again, it ends another one that is open. Every
event is told once for each open subscription, in their order, exactly as long as no call does so;
and none does if no listener is subscribed twice.
-/

namespace Arcade

/-- A subscription of a listener. -/
structure Subscription where
  listener : Listener
  /-- Whether the function that it returned was not called yet. -/
  isOpen : Bool := true
deriving DecidableEq, Repr

/-- A shelf with all subscriptions that were made to its ledger, in order. -/
structure Audience where
  shelf : Shelf
  subscriptions : List Subscription

/-- What can be asked of a ledger about its listeners. -/
inductive Audience.Call where
  | subscribe (l : Listener)
  /-- Calls the function that the subscription at a place returned. -/
  | leave (place : Nat)
  | tell (e : Event)

/-! ## Taking the first place -/

variable {l : Listener} {front rest : List Listener}

theorem append_cons_eq_cons_append_iff :
    front ++ l :: rest = l :: (front ++ rest) ↔ ∀ m ∈ front, m = l := by
  induction front with
  | nil => simp
  | cons m front ih =>
    rw [List.cons_append, List.cons_append, List.forall_mem_cons, List.cons_eq_cons]
    constructor
    · rintro ⟨rfl, h⟩
      exact ⟨rfl, ih.1 h⟩
    · rintro ⟨rfl, h⟩
      exact ⟨rfl, ih.2 h⟩

/-- A place is the one that is taken exactly if, from the first place of its listener on, there is
nobody else before it. -/
theorem erase_append_cons_iff : (front ++ l :: rest).erase l = front ++ rest ↔
    ∀ m ∈ front.dropWhile (· ≠ l), m = l := by
  induction front with
  | nil => simp
  | cons m front ih =>
    by_cases h : m = l
    · subst h
      rw [List.cons_append, List.erase_cons_head, List.cons_append, append_cons_eq_cons_append_iff,
        List.dropWhile_cons_of_neg (by simp), List.forall_mem_cons, eq_self_iff_true, true_and]
    · rw [List.cons_append, List.erase_cons_tail (by simpa using h), List.cons_append,
        List.cons_inj_right, ih, List.dropWhile_cons_of_pos (by simpa using h)]

namespace Audience

open Subscription

variable {a : Audience}

/-- The listeners of the subscriptions that are open. -/
def entitled (subscriptions : List Subscription) : List Listener :=
  (subscriptions.filter isOpen).map listener

/-- What a call leaves. -/
def after (a : Audience) : Call → Audience
  | .subscribe l => ⟨a.shelf.subscribe l, a.subscriptions ++ [⟨l, true⟩]⟩
  | .leave place =>
    match a.subscriptions[place]? with
    | some x => ⟨a.shelf.unsubscribe x.listener, a.subscriptions.set place ⟨x.listener, false⟩⟩
    | none => a
  | .tell e => ⟨a.shelf.emit e, a.subscriptions⟩

/-- What calls leave, one after the other. -/
def run (a : Audience) (calls : List Call) : Audience := calls.foldl after a

/-- Whether every event that is told now is told once for each open subscription, in their order. -/
def Fair (a : Audience) : Prop :=
  ∀ e, (a.shelf.emit e).ledger.deliveries =
    a.shelf.ledger.deliveries ++ (entitled a.subscriptions).map fun l => (l, e)

theorem fair_iff : a.Fair ↔ a.shelf.ledger.listeners = entitled a.subscriptions := by
  constructor
  · intro h
    have hmap := h { kind := .dataReset }
    rw [Shelf.emit_eq, List.append_cancel_left_eq] at hmap
    have hfst := congrArg (List.map Prod.fst) hmap
    simpa only [List.map_map, Function.comp_def, List.map_id'] using hfst
  · intro h e
    rw [Shelf.emit_eq, h]

@[simp] theorem entitled_append (front rest : List Subscription) :
    entitled (front ++ rest) = entitled front ++ entitled rest := by
  rw [entitled, List.filter_append, List.map_append]
  rfl

@[simp] theorem entitled_cons_open (l : Listener) (rest : List Subscription) :
    entitled (⟨l, true⟩ :: rest) = l :: entitled rest := rfl

@[simp] theorem entitled_cons_closed (l : Listener) (rest : List Subscription) :
    entitled (⟨l, false⟩ :: rest) = entitled rest := rfl

/-- Whether calling the function that the subscription at a place returned ends this one only. While
it is open, all that are open from the first one of its listener up to it are of this listener; and
once it was called, none of its listener is open any more. -/
def Harmless (subscriptions : List Subscription) (place : Nat) : Prop :=
  ∀ x, subscriptions[place]? = some x →
    if x.isOpen then
      ∀ m ∈ (entitled (subscriptions.take place)).dropWhile (· ≠ x.listener), m = x.listener
    else x.listener ∉ entitled subscriptions

/-- Whether a call ends no subscription but its own. -/
def Call.Harmless (subscriptions : List Subscription) : Call → Prop
  | leave place => Audience.Harmless subscriptions place
  | _ => True

theorem exists_split {subscriptions : List Subscription} {place : Nat} {x : Subscription}
    (h : subscriptions[place]? = some x) :
    ∃ front rest, subscriptions = front ++ x :: rest ∧ place = front.length := by
  obtain ⟨hlt, rfl⟩ := List.getElem?_eq_some_iff.1 h
  refine ⟨subscriptions.take place, subscriptions.drop (place + 1), ?_, ?_⟩
  · rw [← List.drop_eq_getElem_cons hlt, List.take_append_drop]
  · rw [List.length_take, Nat.min_eq_left (Nat.le_of_lt hlt)]

/-- A call of a function leaves fairness exactly if it is harmless. -/
theorem fair_leave_iff (h : a.Fair) (place : Nat) :
    (a.after (.leave place)).Fair ↔ Harmless a.subscriptions place := by
  rw [fair_iff] at h
  cases hx : a.subscriptions[place]? with
  | none =>
    simp only [after, hx, fair_iff, Harmless, reduceCtorEq, false_implies, implies_true, iff_true]
    exact h
  | some x =>
    obtain ⟨front, rest, hsplit, rfl⟩ := exists_split hx
    obtain ⟨l, isOpen⟩ := x
    have hset : (front ++ ⟨l, isOpen⟩ :: rest).set front.length ⟨l, false⟩ =
        front ++ ⟨l, false⟩ :: rest := by
      rw [List.set_append_right _ _ (Nat.le_refl _), Nat.sub_self, List.set_cons_zero]
    rw [Harmless, hx]
    simp only [after, hx, fair_iff, Shelf.unsubscribe, Option.some.injEq, forall_eq']
    rw [h, hsplit, hset, List.take_left, entitled_append, entitled_append, entitled_cons_closed]
    cases isOpen with
    | true => rw [entitled_cons_open, erase_append_cons_iff, if_pos rfl]
    | false => rw [entitled_cons_closed, List.erase_eq_self_iff, if_neg Bool.false_ne_true]

/-- A step keeps an audience fair exactly if it is harmless. -/
theorem fair_after_iff (h : a.Fair) (c : Call) :
    (a.after c).Fair ↔ c.Harmless a.subscriptions := by
  have hlisteners := fair_iff.1 h
  cases c with
  | leave place => exact fair_leave_iff h place
  | subscribe l =>
    refine iff_of_true (fair_iff.2 ?_) trivial
    rw [after, Shelf.subscribe, entitled_append, ← hlisteners]
    rfl
  | tell e =>
    refine iff_of_true (fair_iff.2 ?_) trivial
    rw [after, Shelf.emit_eq]
    exact hlisteners

/-- Calls keep an audience fair all the way exactly if each of them is harmless. -/
theorem fair_run_iff (h : a.Fair) (calls : List Call) :
    (∀ before, before <+: calls → (a.run before).Fair) ↔
      ∀ before c, before ++ [c] <+: calls → c.Harmless (a.run before).subscriptions :=
  foldl_preserve_iff (f := after) (P := Fair) (Q := fun a c => c.Harmless a.subscriptions)
    (fun _ c ha => fair_after_iff ha c) h calls

/-! ## Listeners that are all different -/

/-- The listener that a call subscribes. -/
def Call.newcomer? : Call → Option Listener
  | subscribe l => some l
  | _ => none

theorem listeners_run (a : Audience) (calls : List Call) :
    (a.run calls).subscriptions.map listener =
      a.subscriptions.map listener ++ calls.filterMap Call.newcomer? := by
  induction calls generalizing a with
  | nil => simp [run]
  | cons c rest ih =>
    rw [run, List.foldl_cons, ← run, ih]
    cases c with
    | subscribe l =>
      rw [after, List.map_append, List.filterMap_cons, List.append_assoc]
      rfl
    | tell e => rfl
    | leave place =>
      have hset : (a.after (.leave place)).subscriptions.map listener =
          a.subscriptions.map listener := by
        rw [after]
        cases hx : a.subscriptions[place]? with
        | none => rfl
        | some x =>
          obtain ⟨front, rest, hsplit, rfl⟩ := exists_split hx
          dsimp only
          rw [hsplit, List.set_append_right _ _ (Nat.le_refl _), Nat.sub_self, List.set_cons_zero]
          simp
      rw [hset]
      rfl

theorem mem_listeners_of_entitled {subscriptions : List Subscription}
    (h : l ∈ entitled subscriptions) : l ∈ subscriptions.map listener :=
  (List.filter_sublist.map listener).subset h

/-- Among different listeners every call is harmless. -/
theorem harmless_of_nodup {subscriptions : List Subscription}
    (h : (subscriptions.map listener).Nodup) (place : Nat) : Harmless subscriptions place := by
  intro x hx
  obtain ⟨front, rest, rfl, rfl⟩ := exists_split hx
  obtain ⟨l, isOpen⟩ := x
  rw [List.map_append, List.map_cons, List.perm_middle.nodup_iff, List.nodup_cons,
    List.mem_append, not_or] at h
  have hfront : l ∉ entitled front := fun hl => h.1.1 (mem_listeners_of_entitled hl)
  have hrest : l ∉ entitled rest := fun hl => h.1.2 (mem_listeners_of_entitled hl)
  cases isOpen with
  | true =>
    have hnone : (entitled front).dropWhile (· ≠ l) = [] :=
      List.dropWhile_eq_nil_iff.2 fun m hm => decide_eq_true fun he => hfront (he ▸ hm)
    rw [if_pos rfl, List.take_left, hnone]
    exact nofun
  | false =>
    rw [if_neg Bool.false_ne_true, entitled_append, entitled_cons_closed, List.mem_append]
    exact not_or.2 ⟨hfront, hrest⟩

end Audience

/-- The audience of a shelf, in which those who listen already have the first subscriptions. -/
def Shelf.audience (s : Shelf) : Audience := ⟨s, s.ledger.listeners.map (⟨·, true⟩)⟩

namespace Audience

open Subscription

theorem fair_audience (s : Shelf) : s.audience.Fair := by
  refine fair_iff.2 ?_
  rw [Shelf.audience, entitled, List.filter_eq_self.2 fun x hx => ?_, List.map_map]
  · exact (List.map_id _).symm
  · obtain ⟨l, -, rfl⟩ := List.mem_map.1 hx
    rfl

/-- All the way through any calls, every event is told once for each subscription of which the
function was not called yet, in their order, exactly if every function that is called ends its own
subscription only. When no listener is subscribed twice, this is so whatever is called. -/
theorem each_told_once (s : Shelf) (calls : List Call) :
    ((∀ before, before <+: calls → (s.audience.run before).Fair) ↔
      ∀ before place, before ++ [.leave place] <+: calls →
        Harmless (s.audience.run before).subscriptions place) ∧
    ((s.ledger.listeners ++ calls.filterMap Call.newcomer?).Nodup →
      ∀ before, before <+: calls → (s.audience.run before).Fair) := by
  have hiff : (∀ before, before <+: calls → (s.audience.run before).Fair) ↔
      ∀ before place, before ++ [.leave place] <+: calls →
        Harmless (s.audience.run before).subscriptions place := by
    rw [fair_run_iff (fair_audience s)]
    refine ⟨fun h before place => h before (.leave place), fun h before c hc => ?_⟩
    cases c with
    | leave place => exact h before place hc
    | _ => trivial
  refine ⟨hiff, fun hdistinct => hiff.2 fun before place hbefore => harmless_of_nodup ?_ place⟩
  have hstart : s.audience.subscriptions.map listener = s.ledger.listeners := by
    rw [Shelf.audience, List.map_map]
    exact List.map_id _
  have hpart := (List.prefix_append before [.leave place]).trans hbefore
  rw [listeners_run, hstart]
  exact hdistinct.sublist
    ((List.Sublist.refl _).append (hpart.sublist.filterMap Call.newcomer?))

/-- A listener who is subscribed twice is told nothing more once the function of the first
subscription was called twice, though the second one is still open. -/
theorem not_fair_leave_twice {s : Shelf} (h : s.ledger.listeners = []) (l : Listener) :
    ¬ (s.audience.run [.subscribe l, .subscribe l, .leave 0, .leave 0]).Fair := by
  rw [fair_iff]
  simp [run, after, Shelf.audience, Shelf.subscribe, Shelf.unsubscribe, h, entitled]

end Audience

end Arcade
