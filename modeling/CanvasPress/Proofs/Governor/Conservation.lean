/-
# Conservation of slots

What a caller sees of a governor is his own standing: he waits, he holds a
slot, or he is done with it.  `standing` follows one ticket through a run by the
answers that its caller gets, without looking into the queue.  The main result
ties the numbers that a governor reports to these standings: slots are neither
lost nor made, the active ones are those held or set aside, and the counter of
waiting callers is the number of callers who wait.
-/

import CanvasPress.Proofs.Governor.Balance
import Mathlib.Data.Set.Card

namespace CanvasPress.Governor

/-- Where a caller stands with the slot he asked for. -/
inductive Standing where
  /-- He has not asked. -/
  | absent
  | waiting
  | holding
  /-- He was refused, has left, or has given his slot back. -/
  | gone
deriving DecidableEq

/-- The standing that an answer to `acquire` gives. -/
def Grant.standing : Grant → Standing
  | .granted => .holding
  | .queued => .waiting
  | .refused _ _ => .gone

/-- The standing of a ticket's caller after a step. -/
def Standing.after (g : Governor) (ticket : Nat) (standing : Standing) : Step → Standing
  | .acquire => if g.nextTicket = ticket then Grant.standing g.acquire.1 else standing
  | .release t => if t = ticket ∧ standing = .holding then .gone else standing
  | .cancel t => if t = ticket ∧ standing = .waiting then .gone else standing
  | .poll t =>
    if t = ticket ∧ standing = .waiting ∧ t ∈ g.promised then .holding else standing

/-- The standing of a ticket's caller after steps in order. -/
def standingFrom (ticket : Nat) : Standing → Governor → List Step → Standing
  | standing, _, [] => standing
  | standing, g, step :: rest =>
    standingFrom ticket (standing.after g ticket step) (g.apply step) rest

/-- The standing of a ticket's caller after a run. -/
def standing (g : Governor) (ticket : Nat) (steps : List Step) : Standing :=
  standingFrom ticket .absent g steps

variable {g : Governor} {ticket : Nat} {standing : Standing}

/-- A governor and a caller agree on where the caller stands. -/
structure Agrees (g : Governor) (ticket : Nat) (standing : Standing) : Prop where
  waiting : ticket ∈ g.queue ↔ standing = .waiting
  holding : ticket ∈ g.held ↔ standing = .holding

theorem agrees_ofCapacity (slots : Nat) (limit : Option Nat) (ticket : Nat) :
    Agrees (ofCapacity slots limit) ticket .absent where
  waiting := by simp [ofCapacity, queue]
  holding := by simp [ofCapacity]

/-- The next ticket is in nobody's hands. -/
theorem Balanced.nextTicket_not_mem (h : g.Balanced 0 0) :
    g.nextTicket ∉ g.queue ∧ g.nextTicket ∉ g.held :=
  ⟨fun hmem => Nat.lt_irrefl _ (h.issued _ (List.mem_append_right _ hmem)),
    fun hmem => Nat.lt_irrefl _ (h.issued _ (List.mem_append_left _ hmem))⟩

/-- Nobody both holds a slot and waits for one. -/
theorem Balanced.not_mem_queue_of_mem_held (h : g.Balanced 0 0) (hheld : ticket ∈ g.held) :
    ticket ∉ g.queue :=
  fun hqueue => (List.nodup_append.1 h.distinct).2.2 ticket hheld ticket hqueue rfl

theorem Balanced.nodup_held (h : g.Balanced 0 0) : g.held.Nodup :=
  (List.nodup_append.1 h.distinct).1

theorem Balanced.nodup_queue (h : g.Balanced 0 0) : g.queue.Nodup :=
  (List.nodup_append.1 h.distinct).2.1

/-- A promise and a place without one exclude each other. -/
theorem Balanced.not_mem_waiting (h : g.Balanced 0 0) (hpromised : ticket ∈ g.promised) :
    ticket ∉ g.waiting :=
  fun hwaiting => (List.nodup_append.1 h.nodup_queue).2.2 ticket hpromised ticket hwaiting rfl

/-! ## One step -/

theorem Agrees.acquire (h : g.Balanced 0 0) (agrees : Agrees g ticket standing) :
    Agrees g.acquire.2 ticket (standing.after g ticket .acquire) := by
  obtain ⟨hqueue, hheld⟩ := h.nextTicket_not_mem
  by_cases hmine : g.nextTicket = ticket
  · subst hmine
    by_cases hfree : 0 < g.free
    · rw [Standing.after, if_pos rfl, acquire_of_free hfree]
      exact ⟨by simpa [Grant.standing, queue] using hqueue, by simp [Grant.standing]⟩
    · cases hlimit : g.limitReached? g.queued with
      | some limit =>
          rw [Standing.after, if_pos rfl, acquire_of_limitReached hfree hlimit]
          exact ⟨by simpa [Grant.standing, queue, countIn, countOut] using hqueue,
            by simpa [Grant.standing, countIn, countOut] using hheld⟩
      | none =>
          rw [Standing.after, if_pos rfl, acquire_of_room hfree hlimit]
          exact ⟨by simp [Grant.standing, queue],
            by simpa [Grant.standing, countIn] using hheld⟩
  · rw [Standing.after, if_neg hmine]
    have hother : ticket ≠ g.nextTicket := fun heq => hmine heq.symm
    by_cases hfree : 0 < g.free
    · rw [acquire_of_free hfree]
      exact ⟨agrees.waiting, by simpa [hother] using agrees.holding⟩
    · cases hlimit : g.limitReached? g.queued with
      | some limit =>
          rw [acquire_of_limitReached hfree hlimit]
          exact ⟨agrees.waiting, agrees.holding⟩
      | none =>
          rw [acquire_of_room hfree hlimit]
          exact ⟨by simpa [queue, countIn, hother] using agrees.waiting, agrees.holding⟩

/-- A slot that is given back does not move anybody in the queue. -/
@[simp]
theorem queue_release (g : Governor) (t : Nat) : (g.release t).queue = g.queue := by
  unfold Governor.release
  split
  · rw [queue_returnSlot]
    rfl
  · rfl

theorem held_release (g : Governor) (t : Nat) : (g.release t).held = g.held.erase t := by
  unfold Governor.release
  split
  next => rw [held_returnSlot]
  next hheld => rw [List.erase_of_not_mem hheld]

theorem Agrees.release (h : g.Balanced 0 0) (agrees : Agrees g ticket standing) (t : Nat) :
    Agrees (g.release t) ticket (standing.after g ticket (.release t)) := by
  by_cases hgives : t = ticket ∧ standing = .holding
  · obtain ⟨rfl, rfl⟩ := hgives
    have hheld : t ∈ g.held := agrees.holding.2 rfl
    rw [Standing.after, if_pos ⟨rfl, rfl⟩]
    exact ⟨by simpa using h.not_mem_queue_of_mem_held hheld,
      by simpa [held_release] using h.nodup_held.not_mem_erase⟩
  · rw [Standing.after, if_neg hgives]
    refine ⟨by simpa using agrees.waiting, ?_⟩
    rw [held_release, h.nodup_held.mem_erase_iff, agrees.holding]
    grind

theorem mem_queue : ticket ∈ g.queue ↔ ticket ∈ g.promised ∨ ticket ∈ g.waiting :=
  List.mem_append

/-- Whoever leaves is not in the queue any more, and nobody else is moved. -/
theorem mem_queue_cancel (h : g.Balanced 0 0) (t : Nat) :
    ticket ∈ (g.cancel t).queue ↔ ticket ∈ g.queue ∧ ticket ≠ t := by
  have hnodup := List.nodup_append.1 h.nodup_queue
  unfold Governor.cancel
  by_cases hpromised : t ∈ g.promised
  · rw [if_pos hpromised, queue_countOut, queue_returnSlot, mem_queue, mem_queue,
      hnodup.1.mem_erase_iff]
    have hwaiting := h.not_mem_waiting hpromised
    grind
  · rw [if_neg hpromised]
    by_cases hwaiting : t ∈ g.waiting
    · rw [if_pos hwaiting, queue_countOut, mem_queue, mem_queue, hnodup.2.1.mem_erase_iff]
      grind
    · rw [if_neg hwaiting, mem_queue]
      grind

@[simp]
theorem held_cancel (g : Governor) (t : Nat) : (g.cancel t).held = g.held := by
  unfold Governor.cancel
  split
  · simp [countOut]
  · split <;> rfl

theorem Agrees.cancel (h : g.Balanced 0 0) (agrees : Agrees g ticket standing) (t : Nat) :
    Agrees (g.cancel t) ticket (standing.after g ticket (.cancel t)) := by
  by_cases hleaves : t = ticket ∧ standing = .waiting
  · obtain ⟨rfl, rfl⟩ := hleaves
    rw [Standing.after, if_pos ⟨rfl, rfl⟩]
    exact ⟨by simp [mem_queue_cancel h], by simpa using agrees.holding⟩
  · rw [Standing.after, if_neg hleaves]
    refine ⟨?_, by simpa using agrees.holding⟩
    rw [mem_queue_cancel h, agrees.waiting]
    grind

/-- Whoever takes his slot is not in the queue any more, and nobody else is moved. -/
theorem mem_queue_poll (h : g.Balanced 0 0) {t : Nat} (hpromised : t ∈ g.promised) :
    ticket ∈ (g.poll t).queue ↔ ticket ∈ g.queue ∧ ticket ≠ t := by
  have hnodup := List.nodup_append.1 h.nodup_queue
  have hwaiting := h.not_mem_waiting hpromised
  rw [Governor.poll, if_pos hpromised, queue_countOut, mem_queue, mem_queue,
    hnodup.1.mem_erase_iff]
  grind

theorem Agrees.poll (h : g.Balanced 0 0) (agrees : Agrees g ticket standing) (t : Nat) :
    Agrees (g.poll t) ticket (standing.after g ticket (.poll t)) := by
  by_cases hpromised : t ∈ g.promised
  · have hheld : (g.poll t).held = t :: g.held := by
      rw [Governor.poll, if_pos hpromised]
      rfl
    by_cases hmine : t = ticket
    · subst hmine
      have hwaiting := agrees.waiting.1 (mem_queue.2 (.inl hpromised))
      rw [Standing.after, if_pos ⟨rfl, hwaiting, hpromised⟩]
      exact ⟨by simp [mem_queue_poll h hpromised], by simp [hheld]⟩
    · rw [Standing.after, if_neg fun hall => hmine hall.1]
      have hother : ticket ≠ t := fun heq => hmine heq.symm
      exact ⟨by simpa [mem_queue_poll h hpromised, hother] using agrees.waiting,
        by simpa [hheld, hother] using agrees.holding⟩
  · rw [Governor.poll, if_neg hpromised, Standing.after,
      if_neg fun hall => hpromised hall.2.2]
    exact agrees

theorem Agrees.apply (h : g.Balanced 0 0) (agrees : Agrees g ticket standing) (step : Step) :
    Agrees (g.apply step) ticket (standing.after g ticket step) := by
  cases step with
  | acquire => exact agrees.acquire h
  | release t => exact agrees.release h t
  | cancel t => exact agrees.cancel h t
  | poll t => exact agrees.poll h t

/-! ## Runs -/

theorem Agrees.run (h : g.Balanced 0 0) (agrees : Agrees g ticket standing)
    (steps : List Step) :
    Agrees (g.run steps) ticket (standingFrom ticket standing g steps) := by
  induction steps generalizing g standing with
  | nil => exact agrees
  | cons step rest ih => exact ih (h.apply step) (agrees.apply h step)

/-- A list without repetition is as long as the set of its members is large. -/
theorem length_eq_ncard {tickets : List Nat} (hnodup : tickets.Nodup) {s : Set Nat}
    (hmem : ∀ t, t ∈ tickets ↔ t ∈ s) : tickets.length = s.ncard := by
  have hset : s = (tickets.toFinset : Set Nat) := by
    ext t
    rw [List.coe_toFinset, Set.mem_ofPred_eq, hmem]
  rw [hset, Set.ncard_coe_finset, List.toFinset_card_of_nodup hnodup]

/-- After every run of a governor its slots are accounted for: each is free, held
by a caller who was granted it, or set aside for one who has not looked yet; the
active slots are the last two kinds, so that their number is a true difference.
The count of waiting callers is the number of those who were told to wait and
have neither got their slot nor left.  A slot is free only while nobody lacks
one, and the queue keeps to its limit. -/
theorem slots_conserved {slots : Nat} {limit : Option Nat} {start : Governor}
    (made : make slots limit = .ok start) (steps : List Step) :
    let g := start.run steps
    g.free + g.held.length + g.promised.length = max slots 1 ∧
      g.free ≤ g.capacity ∧
      g.active = g.held.length + g.promised.length ∧
      g.active ≤ max slots 1 ∧
      g.held.length = {t | start.standing t steps = .holding}.ncard ∧
      g.queued = {t | start.standing t steps = .waiting}.ncard ∧
      (∀ t ∈ g.promised, start.standing t steps = .waiting) ∧
      (0 < g.free → ∀ t, start.standing t steps = .waiting → t ∈ g.promised) ∧
      (∀ l, limit = some l → g.queued ≤ l) := by
  intro g
  have hstart : start = ofCapacity slots limit := by
    unfold make at made
    split at made
    · cases made
    · exact (Except.ok.inj made).symm
  subst hstart
  have books : g.Balanced 0 0 := (balanced_ofCapacity slots limit).run steps
  have agrees (t : Nat) : Agrees g t ((ofCapacity slots limit).standing t steps) :=
    (agrees_ofCapacity slots limit t).run (balanced_ofCapacity slots limit) steps
  obtain ⟨hcapacity, hlimit⟩ := capacity_run (ofCapacity slots limit) steps
  have hslots := books.slots
  have hactive : g.active = g.held.length + g.promised.length := by
    unfold active
    omega
  refine ⟨hslots.trans hcapacity, by omega, hactive, ?_, ?_, ?_, ?_, ?_, ?_⟩
  · change g.capacity = max slots 1 at hcapacity
    omega
  · exact length_eq_ncard books.nodup_held fun t => (agrees t).holding
  · exact books.counted.trans (length_eq_ncard books.nodup_queue fun t => (agrees t).waiting)
  · exact fun t ht => (agrees t).waiting.1 (mem_queue.2 (.inl ht))
  · intro hfree t hwaiting
    have hqueue := mem_queue.1 ((agrees t).waiting.2 hwaiting)
    simpa [books.idle hfree] using hqueue
  · intro l hl
    exact books.counted.trans_le (books.bounded l (hlimit.trans hl))

/-- Callers share one slot.  The second waits, is promised the slot and leaves
without having looked; the third is refused, because one may wait and one does;
the fourth finds the slot free again. -/
theorem slots_conserved_after_forgone_promise :
    make 1 (some 1) = .ok (ofCapacity 1 (some 1)) ∧
      let steps : List Step := [.acquire, .acquire, .acquire, .release 0, .cancel 1, .acquire]
      {t | (ofCapacity 1 (some 1)).standing t steps = .holding}.ncard = 1 ∧
        {t | (ofCapacity 1 (some 1)).standing t steps = .waiting}.ncard = 0 := by
  have made : make 1 (some 1) = .ok (ofCapacity 1 (some 1)) := rfl
  obtain ⟨-, -, -, -, hheld, hqueued, -⟩ := slots_conserved made
    [.acquire, .acquire, .acquire, .release 0, .cancel 1, .acquire]
  exact ⟨made, hheld.symm, hqueued.symm⟩

end CanvasPress.Governor
