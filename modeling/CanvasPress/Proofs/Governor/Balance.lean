/-
# The balance of a governor

At every moment each slot is free, held, or promised to a caller who has not
looked yet, and the number of those counted as waiting is the length of the
queue.  Within a step the books are open: a slot may be on its way back, and a
caller may be counted who is not in the queue.  `Balanced loose extra` allows
for `loose` such slots and `extra` such callers, so each half of a step closes
what the other half has opened.

Nothing is said here about the order of the queue.
-/

import CanvasPress.Governor
import Mathlib.Data.List.Perm.Basic
import Mathlib.Data.List.Nodup

namespace CanvasPress.Governor

variable {g : Governor} {loose extra ticket : Nat}

/-- The books of a governor, with slots on their way and callers counted ahead
of the queue. -/
structure Balanced (loose extra : Nat) (g : Governor) : Prop where
  /-- Every slot is free, held, promised or on its way. -/
  slots : g.free + g.held.length + g.promised.length + loose = g.capacity
  /-- Those who wait are counted. -/
  counted : g.queued = g.queue.length + extra
  /-- Nobody lacks a slot while one is free. -/
  idle : 0 < g.free → g.waiting = []
  /-- The queue keeps to its limit. -/
  bounded : ∀ limit, g.limit = some limit → g.queue.length ≤ limit
  /-- No ticket is in two places. -/
  distinct : (g.held ++ g.queue).Nodup
  /-- Tickets have been issued. -/
  issued : ∀ t ∈ g.held ++ g.queue, t < g.nextTicket

/-! ## Opening -/

theorem balanced_ofCapacity (slots : Nat) (limit : Option Nat) :
    (ofCapacity slots limit).Balanced 0 0 where
  slots := rfl
  counted := rfl
  idle _ := rfl
  bounded _ _ := Nat.zero_le _
  distinct := List.nodup_nil
  issued _ ht := absurd ht List.not_mem_nil

/-! ## Halves of steps -/

@[simp]
theorem queue_countOut (g : Governor) : g.countOut.queue = g.queue := rfl

/-- A caller who is counted without being in the queue counts himself out. -/
theorem Balanced.countOut (h : g.Balanced loose (extra + 1)) :
    g.countOut.Balanced loose extra where
  slots := h.slots
  counted := by
    have counted := h.counted
    change g.queued - 1 = g.queue.length + extra
    omega
  idle := h.idle
  bounded := h.bounded
  distinct := h.distinct
  issued := h.issued

/-- The queue does not notice that a slot comes back: a promise only moves the
line between its two parts. -/
@[simp]
theorem queue_returnSlot (g : Governor) : g.returnSlot.queue = g.queue := by
  unfold returnSlot queue
  split
  next hwaiting => simp [hwaiting]
  next first rest hwaiting => simp [hwaiting]

@[simp]
theorem held_returnSlot (g : Governor) : g.returnSlot.held = g.held := by
  unfold returnSlot
  split <;> rfl

@[simp]
theorem queued_returnSlot (g : Governor) : g.returnSlot.queued = g.queued := by
  unfold returnSlot
  split <;> rfl

@[simp]
theorem limit_returnSlot (g : Governor) : g.returnSlot.limit = g.limit := by
  unfold returnSlot
  split <;> rfl

@[simp]
theorem capacity_returnSlot (g : Governor) : g.returnSlot.capacity = g.capacity := by
  unfold returnSlot
  split <;> rfl

@[simp]
theorem nextTicket_returnSlot (g : Governor) :
    g.returnSlot.nextTicket = g.nextTicket := by
  unfold returnSlot
  split <;> rfl

/-- A slot on its way comes back. -/
theorem Balanced.returnSlot (h : g.Balanced (loose + 1) extra) :
    g.returnSlot.Balanced loose extra where
  slots := by
    have slots := h.slots
    unfold Governor.returnSlot
    split
    next => simpa [Nat.add_right_comm, Nat.add_assoc, Nat.add_comm, Nat.add_left_comm] using slots
    next => simp only [List.length_append, List.length_singleton]; omega
  counted := by simpa using h.counted
  idle := by
    unfold Governor.returnSlot
    split
    next hwaiting => exact fun _ => hwaiting
    next first rest hwaiting =>
      intro hfree
      simp [h.idle hfree] at hwaiting
  bounded := by simpa using h.bounded
  distinct := by simpa using h.distinct
  issued := by simpa using h.issued

/-! ## Steps -/

theorem acquire_of_free (hfree : 0 < g.free) :
    g.acquire = (.granted, { g with
      free := g.free - 1
      held := g.nextTicket :: g.held
      nextTicket := g.nextTicket + 1 }) := by
  simp only [Governor.acquire, if_pos hfree]

theorem acquire_of_limitReached {limit : Nat} (hfree : ¬ 0 < g.free)
    (hlimit : g.limitReached? g.queued = some limit) :
    g.acquire = (.refused g.queued limit,
      { g.countIn.countOut with nextTicket := g.nextTicket + 1 }) := by
  simp only [Governor.acquire, if_neg hfree, hlimit]

theorem acquire_of_room (hfree : ¬ 0 < g.free)
    (hroom : g.limitReached? g.queued = none) :
    g.acquire = (.queued, { g.countIn with
      waiting := g.waiting ++ [g.nextTicket]
      nextTicket := g.nextTicket + 1 }) := by
  simp only [Governor.acquire, if_neg hfree, hroom]

/-- A free slot is lent to the next ticket. -/
theorem Balanced.lend (h : g.Balanced 0 0) (hfree : 0 < g.free) :
    Balanced 0 0 { g with
      free := g.free - 1
      held := g.nextTicket :: g.held
      nextTicket := g.nextTicket + 1 } where
  slots := by
    have slots := h.slots
    simp only [List.length_cons]
    omega
  counted := h.counted
  idle _ := h.idle hfree
  bounded := h.bounded
  distinct := List.nodup_cons.2 ⟨fun hmem => Nat.lt_irrefl _ (h.issued _ hmem), h.distinct⟩
  issued := by
    intro t ht
    rcases List.mem_cons.1 ht with rfl | ht
    · exact Nat.lt_succ_self _
    · exact Nat.lt_succ_of_lt (h.issued t ht)

/-- A caller who is counted joins the end of the queue. -/
theorem Balanced.join (h : g.Balanced 0 0) (hfree : ¬ 0 < g.free)
    (hroom : g.limitReached? g.queued = none) :
    Balanced 0 0 { g.countIn with
      waiting := g.waiting ++ [g.nextTicket]
      nextTicket := g.nextTicket + 1 } where
  slots := h.slots
  counted := by
    have counted := h.counted
    simp only [countIn, queue, List.length_append, List.length_singleton] at counted ⊢
    omega
  idle hfree' := absurd hfree' hfree
  bounded := by
    intro limit hlimit
    have counted := h.counted
    have hlimit : g.limit = some limit := hlimit
    rw [limitReached?, hlimit, Option.filter_some] at hroom
    simp only [countIn, queue, List.length_append, List.length_singleton] at counted ⊢
    by_cases hle : limit ≤ g.queued
    · simp [hle] at hroom
    · omega
  distinct := by
    have hfresh : g.nextTicket ∉ g.held ++ g.queue := fun hmem =>
      Nat.lt_irrefl _ (h.issued _ hmem)
    have hperm : (g.held ++ (g.promised ++ (g.waiting ++ [g.nextTicket]))).Perm
        (g.nextTicket :: (g.held ++ g.queue)) := by
      rw [← List.append_assoc g.promised, ← List.append_assoc g.held]
      exact List.perm_append_singleton _ _
    exact hperm.nodup_iff.2 (List.nodup_cons.2 ⟨hfresh, h.distinct⟩)
  issued := by
    intro t ht
    have ht : t ∈ g.held ++ g.queue ∨ t = g.nextTicket := by
      simpa [queue, countIn, or_assoc] using ht
    rcases ht with ht | rfl
    · exact Nat.lt_succ_of_lt (h.issued t ht)
    · exact Nat.lt_succ_self _

/-- A refused caller counts himself in and out again, and only his ticket is
used up. -/
theorem Balanced.refuse (h : g.Balanced 0 0) :
    Balanced 0 0 { g.countIn.countOut with nextTicket := g.nextTicket + 1 } :=
  ⟨h.slots, h.counted, h.idle, h.bounded, h.distinct,
    fun t ht => Nat.lt_succ_of_lt (h.issued t ht)⟩

theorem Balanced.acquire (h : g.Balanced 0 0) : g.acquire.2.Balanced 0 0 := by
  by_cases hfree : 0 < g.free
  · rw [acquire_of_free hfree]
    exact h.lend hfree
  · cases hlimit : g.limitReached? g.queued with
    | some limit =>
        rw [acquire_of_limitReached hfree hlimit]
        exact h.refuse
    | none =>
        rw [acquire_of_room hfree hlimit]
        exact h.join hfree hlimit

/-- The holder of a slot lets go of it. -/
theorem Balanced.letGo (h : g.Balanced 0 0) (hheld : ticket ∈ g.held) :
    Balanced 1 0 { g with held := g.held.erase ticket } where
  slots := by
    have slots := h.slots
    have hlength := List.length_erase_add_one hheld
    change g.free + (g.held.erase ticket).length + g.promised.length + 1 = g.capacity
    omega
  counted := h.counted
  idle := h.idle
  bounded := h.bounded
  distinct := h.distinct.sublist (List.erase_sublist.append_right _)
  issued t ht := h.issued t ((List.erase_sublist.append_right _).subset ht)

theorem Balanced.release (h : g.Balanced 0 0) (ticket : Nat) :
    (g.release ticket).Balanced 0 0 := by
  unfold Governor.release
  split
  next hheld => exact (h.letGo hheld).returnSlot
  next => exact h

/-- Those who remain when a caller leaves the queue. -/
theorem queue_sublist_of_sublist (g : Governor) {promised waiting : List Nat}
    (hpromised : promised.Sublist g.promised) (hwaiting : waiting.Sublist g.waiting) :
    (g.held ++ (promised ++ waiting)).Sublist (g.held ++ g.queue) :=
  (hpromised.append hwaiting).append_left _

/-- A caller leaves to whom a slot was promised. -/
theorem Balanced.forgo (h : g.Balanced 0 0) (hpromised : ticket ∈ g.promised) :
    Balanced 1 1 { g with promised := g.promised.erase ticket } where
  slots := by
    have slots := h.slots
    have hlength := List.length_erase_add_one hpromised
    change g.free + g.held.length + (g.promised.erase ticket).length + 1 = g.capacity
    omega
  counted := by
    have counted := h.counted
    have hlength := List.length_erase_add_one hpromised
    simp only [queue, List.length_append] at counted ⊢
    omega
  idle := h.idle
  bounded limit hlimit := Nat.le_trans
    (List.erase_sublist.append_right _).length_le (h.bounded limit hlimit)
  distinct := h.distinct.sublist (queue_sublist_of_sublist g List.erase_sublist (.refl _))
  issued t ht := h.issued t
    ((queue_sublist_of_sublist g List.erase_sublist (.refl _)).subset ht)

/-- A caller leaves to whom no slot was promised. -/
theorem Balanced.giveUp (h : g.Balanced 0 0) (hwaiting : ticket ∈ g.waiting) :
    Balanced 0 1 { g with waiting := g.waiting.erase ticket } where
  slots := h.slots
  counted := by
    have counted := h.counted
    have hlength := List.length_erase_add_one hwaiting
    simp only [queue, List.length_append] at counted ⊢
    omega
  idle hfree := by
    change g.waiting.erase ticket = []
    rw [h.idle hfree, List.erase_nil]
  bounded limit hlimit := Nat.le_trans
    (List.erase_sublist.append_left _).length_le (h.bounded limit hlimit)
  distinct := h.distinct.sublist (queue_sublist_of_sublist g (.refl _) List.erase_sublist)
  issued t ht := h.issued t
    ((queue_sublist_of_sublist g (.refl _) List.erase_sublist).subset ht)

theorem Balanced.cancel (h : g.Balanced 0 0) (ticket : Nat) :
    (g.cancel ticket).Balanced 0 0 := by
  unfold Governor.cancel
  split
  next hpromised => exact (h.forgo hpromised).returnSlot.countOut
  next =>
    split
    next hwaiting => exact (h.giveUp hwaiting).countOut
    next => exact h

/-- A caller who looks takes his place among the holders. -/
theorem perm_of_mem_promised (hpromised : ticket ∈ g.promised) :
    ((ticket :: g.held) ++ (g.promised.erase ticket ++ g.waiting)).Perm
      (g.held ++ g.queue) := by
  have herase : (g.promised.erase ticket ++ g.waiting).cons ticket |>.Perm g.queue :=
    ((List.perm_cons_erase hpromised).symm).append_right g.waiting
  calc
    (ticket :: (g.held ++ (g.promised.erase ticket ++ g.waiting))).Perm
        (g.held ++ ticket :: (g.promised.erase ticket ++ g.waiting)) :=
      List.perm_middle.symm
    List.Perm _ (g.held ++ g.queue) := herase.append_left g.held

/-- A caller takes the slot that was promised to him. -/
theorem Balanced.take (h : g.Balanced 0 0) (hpromised : ticket ∈ g.promised) :
    Balanced 0 1 { g with
      promised := g.promised.erase ticket
      held := ticket :: g.held } where
  slots := by
    have slots := h.slots
    have hlength := List.length_erase_add_one hpromised
    simp only [List.length_cons]
    omega
  counted := (h.forgo hpromised).counted
  idle := h.idle
  bounded := (h.forgo hpromised).bounded
  distinct := (perm_of_mem_promised hpromised).nodup_iff.2 h.distinct
  issued t ht := h.issued t ((perm_of_mem_promised hpromised).subset ht)

theorem Balanced.poll (h : g.Balanced 0 0) (ticket : Nat) :
    (g.poll ticket).Balanced 0 0 := by
  unfold Governor.poll
  split
  next hpromised => exact (h.take hpromised).countOut
  next => exact h

/-! ## Runs -/

/-- Every step leaves the books closed. -/
theorem Balanced.apply (h : g.Balanced 0 0) (step : Step) : (g.apply step).Balanced 0 0 := by
  cases step with
  | acquire => exact h.acquire
  | release ticket => exact h.release ticket
  | cancel ticket => exact h.cancel ticket
  | poll ticket => exact h.poll ticket

/-- The books are closed after every run. -/
theorem Balanced.run (h : g.Balanced 0 0) (steps : List Step) :
    (g.run steps).Balanced 0 0 := by
  induction steps generalizing g with
  | nil => exact h
  | cons step rest ih => exact ih (h.apply step)

/-- Steps change neither the number of slots nor the limit. -/
theorem capacity_apply (g : Governor) (step : Step) :
    (g.apply step).capacity = g.capacity ∧ (g.apply step).limit = g.limit := by
  cases step with
  | acquire =>
      change g.acquire.2.capacity = _ ∧ g.acquire.2.limit = _
      by_cases hfree : 0 < g.free
      · rw [acquire_of_free hfree]
        exact ⟨rfl, rfl⟩
      · cases hlimit : g.limitReached? g.queued with
        | some limit =>
            rw [acquire_of_limitReached hfree hlimit]
            exact ⟨rfl, rfl⟩
        | none =>
            rw [acquire_of_room hfree hlimit]
            exact ⟨rfl, rfl⟩
  | release ticket =>
      simp only [apply, Governor.release]
      split <;> simp
  | cancel ticket =>
      simp only [apply, Governor.cancel]
      split
      · simp [countOut]
      · split <;> exact ⟨rfl, rfl⟩
  | poll ticket =>
      simp only [apply, Governor.poll]
      split <;> exact ⟨rfl, rfl⟩

/-- Runs change neither the number of slots nor the limit. -/
theorem capacity_run (g : Governor) (steps : List Step) :
    (g.run steps).capacity = g.capacity ∧ (g.run steps).limit = g.limit := by
  induction steps generalizing g with
  | nil => exact ⟨rfl, rfl⟩
  | cons step rest ih =>
      obtain ⟨hcapacity, hlimit⟩ := capacity_apply g step
      exact ⟨(ih _).1.trans hcapacity, (ih _).2.trans hlimit⟩

end CanvasPress.Governor
