/-
# Admission to the queue

A caller counts himself in before the limit is looked at, and those ahead of him count
themselves out on three different ways: refused, leaving, or looking at the slot they were
promised.  The answer to him is exact only because the counter is, at every moment between two
steps, the number of callers who were told to wait and have neither taken their slot nor left.

`Admission` says once what asking for a slot comes to, with the condition of each answer.  The
conditions exclude each other, so each answer is equivalent to its own.
-/

import CanvasPress.Proofs.Governor.Conservation

namespace CanvasPress.Governor

/-- What asking for a slot comes to: the answer and the governor afterwards. -/
inductive Admission (g : Governor) : Grant → Governor → Prop where
  | granted (hfree : 0 < g.free) :
    Admission g .granted { g with
      free := g.free - 1
      held := g.nextTicket :: g.held
      nextTicket := g.nextTicket + 1 }
  /-- The caller leaves nothing behind but the number of his ticket. -/
  | refused {limit : Nat} (hnone : g.free = 0) (hlimit : g.limit = some limit)
    (hfull : limit ≤ g.queued) :
    Admission g (.refused g.queued limit) { g with nextTicket := g.nextTicket + 1 }
  | queued (hnone : g.free = 0) (hroom : ∀ limit, g.limit = some limit → g.queued < limit) :
    Admission g .queued { g with
      waiting := g.waiting ++ [g.nextTicket]
      queued := g.queued + 1
      nextTicket := g.nextTicket + 1 }

variable {g : Governor} {ticket ahead limit : Nat}

theorem limitReached?_eq_some_iff :
    g.limitReached? ahead = some limit ↔ g.limit = some limit ∧ limit ≤ ahead := by
  simp [limitReached?, Option.filter_eq_some_iff]

theorem limitReached?_eq_none_iff :
    g.limitReached? ahead = none ↔ ∀ limit, g.limit = some limit → ahead < limit := by
  simp [limitReached?, Option.filter_eq_none_iff]

theorem admission_acquire (g : Governor) : Admission g g.acquire.1 g.acquire.2 := by
  by_cases hfree : 0 < g.free
  · rw [acquire_of_free hfree]
    exact .granted hfree
  · have hnone : g.free = 0 := by omega
    cases hlimit : g.limitReached? g.queued with
    | some limit =>
        rw [acquire_of_limitReached hfree hlimit]
        obtain ⟨hsome, hfull⟩ := limitReached?_eq_some_iff.1 hlimit
        exact .refused hnone hsome hfull
    | none =>
        rw [acquire_of_room hfree hlimit]
        exact .queued hnone (limitReached?_eq_none_iff.1 hlimit)

/-! ## The condition of each answer -/

namespace Admission

variable {answer : Grant} {after : Governor} (h : Admission g answer after)

include h

/-- A slot is lent at once just if one is free, whoever waits. -/
theorem eq_granted_iff : answer = .granted ↔ 0 < g.free := by
  cases h with
  | granted hfree => exact iff_of_true rfl hfree
  | refused hnone _ _ => exact iff_of_false nofun (by omega)
  | queued hnone _ => exact iff_of_false nofun (by omega)

/-- A caller is refused just if no slot is free and as many wait as may, and is told the number
of those who wait and the limit. -/
theorem eq_refused_iff : answer = .refused ahead limit ↔
    g.free = 0 ∧ g.limit = some limit ∧ limit ≤ g.queued ∧ ahead = g.queued := by
  cases h with
  | granted hfree => exact iff_of_false nofun (by omega)
  | refused hnone hlimit hfull =>
      constructor
      · rintro ⟨⟩
        exact ⟨hnone, hlimit, hfull, rfl⟩
      · rintro ⟨-, hown, -, rfl⟩
        rw [Option.some.inj (hlimit.symm.trans hown)]
  | queued _ hroom =>
      refine iff_of_false nofun ?_
      rintro ⟨-, hlimit, hfull, -⟩
      exact absurd (hroom limit hlimit) (by omega)

/-- In every other case the caller joins the queue. -/
theorem eq_queued_iff : answer = .queued ↔
    g.free = 0 ∧ ∀ limit, g.limit = some limit → g.queued < limit := by
  cases h with
  | granted hfree => exact iff_of_false nofun (by omega)
  | refused _ hlimit hfull =>
      refine iff_of_false nofun ?_
      rintro ⟨-, hroom⟩
      exact absurd (hroom _ hlimit) (by omega)
  | queued hnone hroom => exact iff_of_true rfl ⟨hnone, hroom⟩

/-- A refused caller leaves everything as he found it; only his ticket is used up. -/
theorem eq_self_of_refused (hrefused : answer = .refused ahead limit) :
    after = { g with nextTicket := g.nextTicket + 1 } := by
  subst hrefused
  cases h
  rfl

/-- A caller who is to wait becomes the last in line and is counted; nothing else changes. -/
theorem eq_joined_of_queued (hqueued : answer = .queued) :
    after = { g with
      waiting := g.waiting ++ [g.nextTicket]
      queued := g.queued + 1
      nextTicket := g.nextTicket + 1 } := by
  subst hqueued
  cases h
  rfl

end Admission

/-! ## Places that become free -/

/-- Whoever leaves the queue, promised a slot or not, is counted no longer. -/
theorem Balanced.queued_cancel (h : g.Balanced 0 0) (ht : ticket ∈ g.queue) :
    (g.cancel ticket).queued + 1 = g.queued := by
  have hcounted : 0 < g.queued := h.counted ▸ List.length_pos_of_mem ht
  unfold Governor.cancel
  split_ifs with hpromised hwaiting
  · change ({ g with promised := g.promised.erase ticket } : Governor).returnSlot.queued - 1 + 1
      = g.queued
    rw [queued_returnSlot]
    exact Nat.sub_add_cancel hcounted
  · exact Nat.sub_add_cancel hcounted
  · exact absurd (mem_queue.1 ht) (not_or.2 ⟨hpromised, hwaiting⟩)

/-- Whoever takes the slot he was promised is counted no longer. -/
theorem Balanced.queued_poll (h : g.Balanced 0 0) (hpromised : ticket ∈ g.promised) :
    (g.poll ticket).queued + 1 = g.queued := by
  have hcounted : 0 < g.queued :=
    h.counted ▸ List.length_pos_of_mem (mem_queue.2 (.inl hpromised))
  rw [Governor.poll, if_pos hpromised]
  exact Nat.sub_add_cancel hcounted

/-- A step after which fewer wait leaves room for one more. -/
theorem Balanced.acquire_ne_refused (h : g.Balanced 0 0) (step : Step)
    (hfewer : (g.apply step).queued < g.queued) :
    (g.apply step).acquire.1 ≠ .refused ahead limit := by
  intro hrefused
  obtain ⟨-, hlimit, hfull, -⟩ := (admission_acquire _).eq_refused_iff.1 hrefused
  have hbound := h.bounded limit ((capacity_apply g step).2.symm.trans hlimit)
  have hcounted := h.counted
  omega

/-! ## Demand -/

/-- Slots in use and callers who wait.  Whoever has a slot set aside counts as both. -/
def demand (g : Governor) : Nat :=
  g.active + g.queued

theorem demand_returnSlot_le (g : Governor) : g.returnSlot.demand ≤ g.demand := by
  have hfree : g.free ≤ g.returnSlot.free := by
    unfold returnSlot
    split
    · exact Nat.le_succ _
    · exact Nat.le_refl _
  rw [demand, demand, active, active, capacity_returnSlot, queued_returnSlot]
  omega

theorem demand_countOut_le (g : Governor) : g.countOut.demand ≤ g.demand :=
  Nat.add_le_add_left (Nat.sub_le _ _) _

/-- Nobody but a new caller adds to the demand. -/
theorem demand_apply_le (step : Step) (hstep : step ≠ .acquire) :
    (g.apply step).demand ≤ g.demand := by
  cases step with
  | acquire => exact absurd rfl hstep
  | release t =>
      change (g.release t).demand ≤ g.demand
      unfold Governor.release
      split
      · exact demand_returnSlot_le { g with held := g.held.erase t }
      · exact Nat.le_refl _
  | cancel t =>
      change (g.cancel t).demand ≤ g.demand
      unfold Governor.cancel
      split_ifs
      · exact (demand_countOut_le _).trans
          (demand_returnSlot_le { g with promised := g.promised.erase t })
      · exact demand_countOut_le { g with waiting := g.waiting.erase t }
      · exact Nat.le_refl _
  | poll t =>
      change (g.poll t).demand ≤ g.demand
      unfold Governor.poll
      split
      · exact demand_countOut_le { g with
          promised := g.promised.erase t, held := t :: g.held }
      · exact Nat.le_refl _

theorem demand_acquire_le (g : Governor) : g.acquire.2.demand ≤ g.demand + 1 := by
  have hadmission := admission_acquire g
  generalize g.acquire.1 = answer, g.acquire.2 = after at hadmission
  cases hadmission with
  | granted hfree =>
      change g.capacity - (g.free - 1) + g.queued ≤ g.capacity - g.free + g.queued + 1
      omega
  | refused hnone hlimit hfull => exact Nat.le_succ _
  | queued hnone hroom => exact Nat.le_refl _

/-- A caller is refused only when there is demand for every slot and for the whole queue, and he
does not add to it. -/
theorem demand_of_refused (hrefused : g.acquire.1 = .refused ahead limit) :
    g.limit = some limit ∧ g.capacity + limit ≤ g.demand ∧
      g.acquire.2.demand = g.demand := by
  have hadmission := admission_acquire g
  obtain ⟨hnone, hlimit, hfull, -⟩ := hadmission.eq_refused_iff.1 hrefused
  refine ⟨hlimit, ?_, ?_⟩
  · rw [demand, active, hnone]
    exact Nat.add_le_add_left hfull _
  · rw [hadmission.eq_self_of_refused hrefused]
    rfl

/-! ## The theorem -/

/-- After every run of a governor the answer to a new caller is decided by the free slots and by
the number of callers who wait, those included who have a slot set aside and have not looked.
He is granted a slot just if one is free.  He is refused just if none is and that number has
reached the limit; he is told both, and the slots in use, the number of those who wait, their
order, and what is promised to them stay as they were.  In every other case he becomes the last
in line and is the only one added.  Whoever leaves the line or takes his slot makes room for the
next caller, so that nobody is refused while fewer wait than may. -/
theorem queue_limit_decides {slots : Nat} {maximum : Option Nat} {start : Governor}
    (made : make slots maximum = .ok start) (steps : List Step) :
    let g := start.run steps
    let waiters := {t | start.standing t steps = .waiting}
    g.queued = waiters.ncard ∧
      (g.acquire.1 = .granted ↔ 0 < g.free) ∧
      (∀ ahead limit, g.acquire.1 = .refused ahead limit ↔
        g.free = 0 ∧ maximum = some limit ∧ limit ≤ waiters.ncard ∧ ahead = waiters.ncard) ∧
      (g.acquire.1 = .queued ↔
        g.free = 0 ∧ ∀ limit, maximum = some limit → waiters.ncard < limit) ∧
      (∀ ahead limit, g.acquire.1 = .refused ahead limit →
        g.acquire.2.active = g.active ∧ g.acquire.2.queued = g.queued ∧
          g.acquire.2.queue = g.queue ∧ g.acquire.2.promised = g.promised ∧
          g.acquire.2.held = g.held) ∧
      (g.acquire.1 = .queued →
        g.acquire.2.queue = g.queue ++ [g.nextTicket] ∧ g.nextTicket ∉ g.queue ∧
          g.acquire.2.queued = waiters.ncard + 1 ∧ g.acquire.2.active = g.active ∧
          g.acquire.2.promised = g.promised ∧ g.acquire.2.held = g.held) ∧
      (∀ t ∈ waiters, (g.cancel t).queued + 1 = waiters.ncard ∧
        ∀ ahead limit, (g.cancel t).acquire.1 ≠ .refused ahead limit) ∧
      (∀ t ∈ g.promised, t ∈ waiters ∧ t ∈ (g.poll t).held ∧
        (g.poll t).queued + 1 = waiters.ncard ∧
        ∀ ahead limit, (g.poll t).acquire.1 ≠ .refused ahead limit) := by
  intro g waiters
  have hstart : start = ofCapacity slots maximum := by
    unfold make at made
    split at made
    · cases made
    · exact (Except.ok.inj made).symm
  subst hstart
  have books : g.Balanced 0 0 := (balanced_ofCapacity slots maximum).run steps
  have agrees (t : Nat) : Agrees g t ((ofCapacity slots maximum).standing t steps) :=
    (agrees_ofCapacity slots maximum t).run (balanced_ofCapacity slots maximum) steps
  have hlimit : g.limit = maximum := (capacity_run (ofCapacity slots maximum) steps).2
  have hcount : g.queued = waiters.ncard :=
    books.counted.trans (length_eq_ncard books.nodup_queue fun t => (agrees t).waiting)
  have hadmission := admission_acquire g
  refine ⟨hcount, hadmission.eq_granted_iff, fun ahead limit => ?_, ?_, ?_, ?_, ?_, ?_⟩
  · rw [hadmission.eq_refused_iff, hlimit, hcount]
  · rw [hadmission.eq_queued_iff, hlimit, hcount]
  · intro ahead limit hrefused
    rw [hadmission.eq_self_of_refused hrefused]
    exact ⟨rfl, rfl, rfl, rfl, rfl⟩
  · intro hqueued
    rw [hadmission.eq_joined_of_queued hqueued, ← hcount]
    exact ⟨(List.append_assoc _ _ _).symm, books.nextTicket_not_mem.1, rfl, rfl, rfl, rfl⟩
  · intro t ht
    have hless := books.queued_cancel ((agrees t).waiting.2 ht)
    refine ⟨hless.trans hcount, fun ahead limit => ?_⟩
    exact books.acquire_ne_refused (.cancel t) (Nat.lt_of_succ_le hless.le)
  · intro t hpromised
    have hless := books.queued_poll hpromised
    have hheld : (g.poll t).held = t :: g.held := by
      rw [Governor.poll, if_pos hpromised]
      rfl
    refine ⟨(agrees t).waiting.1 (mem_queue.2 (.inl hpromised)),
      hheld ▸ List.mem_cons_self, hless.trans hcount, fun ahead limit => ?_⟩
    exact books.acquire_ne_refused (.poll t) (Nat.lt_of_succ_le hless.le)

/-- One slot and one place to wait.  The second caller waits, and has been promised the slot
without having looked; he still counts, so the third is refused. -/
theorem queue_limit_decides_before_a_look :
    make 1 (some 1) = .ok (ofCapacity 1 (some 1)) ∧
      let g := (ofCapacity 1 (some 1)).run [.acquire, .acquire, .release 0]
      g.promised = [1] ∧ g.acquire.1 = .refused 1 1 ∧
        ∀ ahead limit, (g.poll 1).acquire.1 ≠ .refused ahead limit := by
  have made : make 1 (some 1) = .ok (ofCapacity 1 (some 1)) := rfl
  obtain ⟨hcount, -, hrefused, -, -, -, -, hpoll⟩ :=
    queue_limit_decides made [.acquire, .acquire, .release 0]
  have hone := hcount.symm
  refine ⟨made, rfl, (hrefused 1 1).2 ⟨rfl, rfl, hone.ge, hone.symm⟩, ?_⟩
  exact (hpoll 1 (List.mem_singleton.2 rfl)).2.2.2

end CanvasPress.Governor
