/-
# First come, first served

Callers are told apart by their tickets, and tickets are issued in order of arrival.
The queue is sorted by them, and the slots that come back are set aside from its front.
So nobody who waits is passed over: those who have a slot set aside stand in front of
those who have none, and slots are set aside for callers in the order in which they
began to wait.

`entrants` reads off a run who comes into a part of the governor, in order: into the
queue when told to wait, among the promised when a slot is set aside, among the holders
when granted a slot.
-/

import CanvasPress.Proofs.Governor.Conservation

namespace CanvasPress.Governor

variable {g : Governor} {part : Governor → List Nat} {ticket : Nat} {step : Step}
  {steps : List Step}

/-- Who is in one list and not in another. -/
def newcomers (old new : List Nat) : List Nat :=
  new.filter fun t => t ∉ old

/-- Whom a step brings into a part of the governor. -/
def entering (part : Governor → List Nat) (g : Governor) (step : Step) : List Nat :=
  newcomers (part g) (part (g.apply step))

/-- Whom the steps of a run bring into a part of the governor, in order. -/
def entrants (part : Governor → List Nat) : Governor → List Step → List Nat
  | _, [] => []
  | g, step :: rest => entering part g step ++ entrants part (g.apply step) rest

/-- Who leaves the queue in a step without having got a slot. -/
def leaving (g : Governor) : Step → List Nat
  | .cancel t => if t ∈ g.queue then [t] else []
  | .acquire => []
  | .release _ => []
  | .poll _ => []

/-- Who leaves the queue in a run without having got a slot, in order. -/
def leavers : Governor → List Step → List Nat
  | _, [] => []
  | g, step :: rest => leaving g step ++ leavers (g.apply step) rest

theorem mem_newcomers {old new : List Nat} :
    ticket ∈ newcomers old new ↔ ticket ∈ new ∧ ticket ∉ old := by
  simp [newcomers]

theorem newcomers_of_subset {old new : List Nat} (hsub : new ⊆ old) : newcomers old new = [] :=
  List.filter_eq_nil_iff.2 fun t ht => by simpa using hsub ht

@[simp]
theorem newcomers_self (old : List Nat) : newcomers old old = [] :=
  newcomers_of_subset (List.Subset.refl old)

theorem newcomers_of_new {old before after : List Nat} (hbefore : before ⊆ old)
    (hafter : after ⊆ old) (hnew : ticket ∉ old) :
    newcomers old (before ++ ticket :: after) = [ticket] := by
  have hold {part : List Nat} (hsub : part ⊆ old) : part.filter (fun t => t ∉ old) = [] :=
    newcomers_of_subset hsub
  rw [newcomers, List.filter_append, hold hbefore, List.filter_cons, hold hafter]
  simp [hnew]

/-! ## What a step does -/

/-- What a step does to the callers who hold a slot, to those for whom one is set aside
and to those who wait without one. -/
inductive Shift (g : Governor) : Step → List Nat → List Nat → List Nat → Prop where
  | stay (step : Step) : Shift g step g.held g.promised g.waiting
  | lend (hfree : 0 < g.free) : Shift g .acquire (g.nextTicket :: g.held) g.promised g.waiting
  | join : Shift g .acquire g.held g.promised (g.waiting ++ [g.nextTicket])
  | release {t : Nat} (hheld : t ∈ g.held) (hwaiting : g.waiting = []) :
      Shift g (.release t) (g.held.erase t) g.promised []
  /-- The slot that is given back is set aside for the first who has none. -/
  | pass {t first : Nat} {rest : List Nat} (hheld : t ∈ g.held)
      (hwaiting : g.waiting = first :: rest) :
      Shift g (.release t) (g.held.erase t) (g.promised ++ [first]) rest
  | giveUp {t : Nat} (hwaiting : t ∈ g.waiting) :
      Shift g (.cancel t) g.held g.promised (g.waiting.erase t)
  | forgo {t : Nat} (hpromised : t ∈ g.promised) (hwaiting : g.waiting = []) :
      Shift g (.cancel t) g.held (g.promised.erase t) []
  /-- The slot of a caller who leaves is set aside for the first who has none. -/
  | yield {t first : Nat} {rest : List Nat} (hpromised : t ∈ g.promised)
      (hwaiting : g.waiting = first :: rest) :
      Shift g (.cancel t) g.held (g.promised.erase t ++ [first]) rest
  | take {t : Nat} (hpromised : t ∈ g.promised) :
      Shift g (.poll t) (t :: g.held) (g.promised.erase t) g.waiting

theorem shift_apply (g : Governor) (step : Step) :
    Shift g step (g.apply step).held (g.apply step).promised (g.apply step).waiting := by
  cases step with
  | acquire =>
      change Shift g .acquire g.acquire.2.held g.acquire.2.promised g.acquire.2.waiting
      by_cases hfree : 0 < g.free
      · rw [acquire_of_free hfree]
        exact .lend hfree
      · cases hlimit : g.limitReached? g.queued with
        | some limit =>
            rw [acquire_of_limitReached hfree hlimit]
            exact .stay _
        | none =>
            rw [acquire_of_room hfree hlimit]
            exact .join
  | release t =>
      simp only [apply, Governor.release]
      split_ifs with hheld
      · simp only [returnSlot]
        split
        next hwaiting => simpa [hwaiting] using Shift.release hheld hwaiting
        next first rest hwaiting => exact .pass hheld hwaiting
      · exact .stay _
  | cancel t =>
      simp only [apply, Governor.cancel]
      split_ifs with hpromised hwaiting
      · simp only [returnSlot]
        split
        next hwaiting => simpa [countOut, hwaiting] using Shift.forgo hpromised hwaiting
        next first rest hwaiting => exact .yield hpromised hwaiting
      · exact .giveUp hwaiting
      · exact .stay _
  | poll t =>
      simp only [apply, Governor.poll]
      split_ifs with hpromised
      · exact .take hpromised
      · exact .stay _

/-- Whoever asks uses up a ticket, whatever he is told. -/
theorem nextTicket_acquire (g : Governor) : g.acquire.2.nextTicket = g.nextTicket + 1 := by
  unfold Governor.acquire
  dsimp only
  split_ifs
  · rfl
  · split <;> rfl

/-- Tickets are issued and not taken back. -/
theorem nextTicket_le_apply (g : Governor) (step : Step) :
    g.nextTicket ≤ (g.apply step).nextTicket := by
  cases step with
  | acquire =>
      rw [apply, nextTicket_acquire]
      exact Nat.le_succ _
  | release t =>
      rw [apply, Governor.release]
      split_ifs <;> simp
  | cancel t =>
      rw [apply, Governor.cancel]
      split_ifs <;> simp [countOut]
  | poll t =>
      rw [apply, Governor.poll]
      split_ifs <;> simp [countOut]

theorem nextTicket_le_run (g : Governor) (steps : List Step) :
    g.nextTicket ≤ (g.run steps).nextTicket := by
  induction steps generalizing g with
  | nil => exact Nat.le_refl _
  | cons step rest ih => exact Nat.le_trans (nextTicket_le_apply g step) (ih (g.apply step))

/-- A step leaves some of the queue in its order, or brings in the next ticket at its
end. -/
theorem queue_apply_cases (g : Governor) (step : Step) :
    (g.apply step).queue.Sublist g.queue ∨
      (g.apply step).queue = g.queue ++ [g.nextTicket] := by
  have hshift := shift_apply g step
  unfold queue
  generalize (g.apply step).held = held, (g.apply step).promised = promised,
    (g.apply step).waiting = waiting at hshift ⊢
  cases hshift with
  | stay => exact .inl (.refl _)
  | lend => exact .inl (.refl _)
  | join => exact .inr (List.append_assoc _ _ _).symm
  | release _ hwaiting =>
      rw [hwaiting]
      exact .inl (.refl _)
  | pass _ hwaiting =>
      rw [hwaiting, List.append_assoc]
      exact .inl (.refl _)
  | giveUp => exact .inl (List.erase_sublist.append_left _)
  | forgo _ hwaiting =>
      rw [hwaiting]
      exact .inl (List.erase_sublist.append_right _)
  | yield _ hwaiting =>
      rw [hwaiting, List.append_assoc]
      exact .inl (List.erase_sublist.append_right _)
  | take => exact .inl (List.erase_sublist.append_right _)

/-- Nobody comes to hold a slot but the next caller and those for whom one was set
aside. -/
theorem mem_held_apply (hheld : ticket ∈ (g.apply step).held) :
    ticket ∈ g.held ∨ ticket = g.nextTicket ∨ ticket ∈ g.promised := by
  have hshift := shift_apply g step
  generalize (g.apply step).held = held, (g.apply step).promised = promised,
    (g.apply step).waiting = waiting at hshift hheld
  cases hshift with
  | lend =>
      rcases List.mem_cons.1 hheld with rfl | hheld
      · exact .inr (.inl rfl)
      · exact .inl hheld
  | release => exact .inl (List.mem_of_mem_erase hheld)
  | pass => exact .inl (List.mem_of_mem_erase hheld)
  | take hpromised =>
      rcases List.mem_cons.1 hheld with rfl | hheld
      · exact .inr (.inr hpromised)
      · exact .inl hheld
  | _ => exact .inl hheld

/-! ## The queue is in order of arrival -/

/-- Tickets rise along the queue. -/
def Ordered (g : Governor) : Prop :=
  g.queue.Pairwise (· < ·)

theorem Ordered.apply (h : g.Balanced 0 0) (ordered : g.Ordered) (step : Step) :
    (g.apply step).Ordered := by
  rcases queue_apply_cases g step with hsub | hjoined
  · exact List.Pairwise.sublist hsub ordered
  · rw [Ordered, hjoined, List.pairwise_append]
    refine ⟨ordered, List.pairwise_singleton _ _, fun t ht next hnext => ?_⟩
    rw [List.mem_singleton.1 hnext]
    exact h.issued t (List.mem_append_right _ ht)

theorem Ordered.run (h : g.Balanced 0 0) (ordered : g.Ordered) (steps : List Step) :
    (g.run steps).Ordered := by
  induction steps generalizing g with
  | nil => exact ordered
  | cons step rest ih => exact ih (h.apply step) (ordered.apply h step)

/-- Those for whom a slot is set aside stand in front. -/
theorem Ordered.mem_promised_of_lt (ordered : g.Ordered) {t u : Nat} (ht : t ∈ g.queue)
    (hu : u ∈ g.promised) (hlt : t < u) : t ∈ g.promised := by
  rcases mem_queue.1 ht with hpromised | hwaiting
  · exact hpromised
  · have hbehind := (List.pairwise_append.1 ordered).2.2 u hu t hwaiting
    omega

/-! ## The order of those who begin to wait -/

/-- Whoever begins to wait has the next ticket. -/
theorem entering_queue_cases (h : g.Balanced 0 0) (step : Step) :
    entering queue g step = [] ∨
      entering queue g step = [g.nextTicket] ∧ g.nextTicket < (g.apply step).nextTicket := by
  rcases queue_apply_cases g step with hsub | hjoined
  · exact .inl (newcomers_of_subset hsub.subset)
  · have hissued : g.nextTicket < (g.apply step).nextTicket := by
      refine (h.apply step).issued _ (List.mem_append_right _ ?_)
      rw [hjoined]
      simp
    rw [entering, hjoined]
    exact .inr ⟨newcomers_of_new (List.Subset.refl _) (List.nil_subset _)
      h.nextTicket_not_mem.1, hissued⟩

/-- Callers begin to wait in order of arrival. -/
theorem entrants_queue_pairwise (h : g.Balanced 0 0) (steps : List Step) :
    (entrants queue g steps).Pairwise (· < ·) ∧
      ∀ t ∈ entrants queue g steps, g.nextTicket ≤ t := by
  induction steps generalizing g with
  | nil => exact ⟨.nil, fun t ht => by cases ht⟩
  | cons step rest ih =>
      obtain ⟨hsorted, hlater⟩ := ih (h.apply step)
      have hnext := nextTicket_le_apply g step
      rw [entrants]
      rcases entering_queue_cases h step with hnobody | ⟨hjoined, hissued⟩
      · rw [hnobody, List.nil_append]
        exact ⟨hsorted, fun t ht => Nat.le_trans hnext (hlater t ht)⟩
      · rw [hjoined, List.singleton_append]
        refine ⟨List.pairwise_cons.2
          ⟨fun t ht => Nat.lt_of_lt_of_le hissued (hlater t ht), hsorted⟩, fun t ht => ?_⟩
        rcases List.mem_cons.1 ht with rfl | ht
        · exact Nat.le_refl _
        · exact Nat.le_trans hnext (hlater t ht)

/-! ## Slots are set aside in that order -/

/-- For whom a step sets a slot aside: for nobody, and then nobody joins or leaves those
who wait without one but the next caller and the one who leaves; or for the first of
them. -/
theorem entering_promised_cases (h : g.Balanced 0 0) (step : Step) :
    entering promised g step = [] ∧
        ((g.apply step).waiting = g.waiting ++ entering queue g step ∨
          ∃ t ∈ leaving g step, (g.apply step).waiting = g.waiting.erase t ∧
            entering queue g step = []) ∨
      ∃ first, entering promised g step = [first] ∧ g.waiting = first :: (g.apply step).waiting ∧
        entering queue g step = [] := by
  have hshift := shift_apply g step
  have hnew := h.nextTicket_not_mem.1
  have hapart {t : Nat} (hwaiting : t ∈ g.waiting) : t ∉ g.promised :=
    fun hpromised => h.not_mem_waiting hpromised hwaiting
  simp only [entering, queue] at hnew ⊢
  generalize (g.apply step).held = held, (g.apply step).promised = promised,
    (g.apply step).waiting = waiting at hshift ⊢
  cases hshift with
  | stay =>
      rw [newcomers_self, newcomers_self, List.append_nil]
      exact .inl ⟨rfl, .inl rfl⟩
  | lend =>
      rw [newcomers_self, newcomers_self, List.append_nil]
      exact .inl ⟨rfl, .inl rfl⟩
  | join =>
      rw [newcomers_self, ← List.append_assoc,
        newcomers_of_new (List.Subset.refl _) (List.nil_subset _) hnew]
      exact .inl ⟨rfl, .inl rfl⟩
  | release hheld hwaiting =>
      rw [hwaiting, newcomers_self,
        newcomers_self]
      exact .inl ⟨rfl, .inl rfl⟩
  | @pass t first rest hheld hwaiting =>
      have hfirst : first ∉ g.promised := hapart (by simp [hwaiting])
      rw [hwaiting, List.append_assoc, List.singleton_append,
        newcomers_self,
        newcomers_of_new (List.Subset.refl _) (List.nil_subset _) hfirst]
      exact .inr ⟨first, rfl, rfl, rfl⟩
  | @giveUp t hwaiting =>
      have hleaves : t ∈ leaving g (.cancel t) := by
        simp [leaving, mem_queue.2 (.inr hwaiting)]
      rw [newcomers_self,
        newcomers_of_subset (List.erase_sublist.append_left _).subset]
      exact .inl ⟨rfl, .inr ⟨t, hleaves, rfl, rfl⟩⟩
  | @forgo t hpromised hwaiting =>
      rw [hwaiting, newcomers_of_subset List.erase_subset,
        newcomers_of_subset (List.erase_sublist.append_right _).subset]
      exact .inl ⟨rfl, .inl rfl⟩
  | @yield t first rest hpromised hwaiting =>
      have hfirst : first ∉ g.promised := hapart (by simp [hwaiting])
      rw [hwaiting, List.append_assoc, List.singleton_append,
        newcomers_of_subset (List.erase_sublist.append_right _).subset,
        newcomers_of_new List.erase_subset (List.nil_subset _) hfirst]
      exact .inr ⟨first, rfl, rfl, rfl⟩
  | take hpromised =>
      rw [newcomers_of_subset List.erase_subset,
        newcomers_of_subset (List.erase_sublist.append_right _).subset, List.append_nil]
      exact .inl ⟨rfl, .inl rfl⟩

/-- Slots are set aside in the order in which callers begin to wait: leaving out those who
leave, the callers for whom a run sets slots aside, followed by those who still have none,
are those who had none before it, followed by those who join. -/
theorem filter_entrants_promised (h : g.Balanced 0 0) {keep : Nat → Bool} {steps : List Step}
    (hkeep : ∀ t ∈ leavers g steps, keep t = false) :
    (entrants promised g steps ++ (g.run steps).waiting).filter keep =
      (g.waiting ++ entrants queue g steps).filter keep := by
  induction steps generalizing g with
  | nil => simp [entrants, run]
  | cons step rest ih =>
      have hrest := ih (h.apply step) fun t ht => hkeep t (List.mem_append_right _ ht)
      have hstep : (entering promised g step ++ (g.apply step).waiting).filter keep =
          (g.waiting ++ entering queue g step).filter keep := by
        rcases entering_promised_cases h step with
          ⟨hnobody, hjoined | ⟨t, hleaves, hleft, hqueue⟩⟩ | ⟨first, hfirst, hwaiting, hqueue⟩
        · rw [hnobody, hjoined, List.nil_append]
        · have hgone : keep t = false := hkeep t (List.mem_append_left _ hleaves)
          rw [hnobody, hleft, hqueue, List.nil_append, List.append_nil,
            (List.nodup_append.1 h.nodup_queue).2.1.erase_eq_filter, List.filter_filter]
          refine List.filter_congr fun u _ => ?_
          by_cases hleaver : u = t
          · simp [hleaver, hgone]
          · simp [hleaver]
        · rw [hfirst, hwaiting, hqueue, List.append_nil, List.singleton_append]
      calc
        (entrants promised g (step :: rest) ++ (g.run (step :: rest)).waiting).filter keep =
            (entering promised g step).filter keep ++
              (entrants promised (g.apply step) rest ++
                ((g.apply step).run rest).waiting).filter keep := by
          rw [← List.filter_append, ← List.append_assoc]
          rfl
        _ = (entering promised g step ++ (g.apply step).waiting).filter keep ++
              (entrants queue (g.apply step) rest).filter keep := by
          rw [hrest, List.filter_append, List.filter_append, List.append_assoc]
        _ = (g.waiting ++ entrants queue g (step :: rest)).filter keep := by
          rw [hstep, ← List.filter_append, List.append_assoc]
          rfl

/-! ## Nobody is granted a slot twice -/

/-- A caller who is done with waiting is granted no slot. -/
theorem not_mem_entrants_held (h : g.Balanced 0 0) (hissued : ticket < g.nextTicket)
    (hqueue : ticket ∉ g.queue) (steps : List Step) : ticket ∉ entrants held g steps := by
  induction steps generalizing g with
  | nil => exact List.not_mem_nil
  | cons step rest ih =>
      have hstep : ticket ∉ entering held g step := by
        intro hmem
        obtain ⟨hheld, hbefore⟩ := mem_newcomers.1 hmem
        rcases mem_held_apply hheld with hheld | rfl | hpromised
        · exact hbefore hheld
        · exact Nat.lt_irrefl _ hissued
        · exact hqueue (mem_queue.2 (.inl hpromised))
      have hstays : ticket ∉ (g.apply step).queue := by
        rcases queue_apply_cases g step with hsub | hjoined
        · exact fun hmem => hqueue (hsub.subset hmem)
        · rw [hjoined, List.mem_append, List.mem_singleton]
          rintro (hmem | rfl)
          · exact hqueue hmem
          · exact Nat.lt_irrefl _ hissued
      have hrest := ih (h.apply step) (Nat.lt_of_lt_of_le hissued (nextTicket_le_apply g step))
        hstays
      rw [entrants, List.mem_append, not_or]
      exact ⟨hstep, hrest⟩

/-- In a step at most one caller is granted a slot. -/
theorem entering_held_cases (h : g.Balanced 0 0) (step : Step) :
    entering held g step = [] ∨ ∃ t, entering held g step = [t] := by
  have hshift := shift_apply g step
  have hnew := h.nextTicket_not_mem.2
  have hapart {t : Nat} (hpromised : t ∈ g.promised) : t ∉ g.held :=
    fun hheld => h.not_mem_queue_of_mem_held hheld (mem_queue.2 (.inl hpromised))
  simp only [entering]
  generalize (g.apply step).held = held, (g.apply step).promised = promised,
    (g.apply step).waiting = waiting at hshift ⊢
  cases hshift with
  | lend =>
      exact .inr ⟨_, newcomers_of_new (List.nil_subset _) (List.Subset.refl _) hnew⟩
  | take hpromised =>
      exact .inr ⟨_, newcomers_of_new (List.nil_subset _) (List.Subset.refl _)
        (hapart hpromised)⟩
  | release => exact .inl (newcomers_of_subset List.erase_subset)
  | pass => exact .inl (newcomers_of_subset List.erase_subset)
  | _ => exact .inl (newcomers_self _)

/-- No caller is granted a slot twice. -/
theorem nodup_entrants_held (h : g.Balanced 0 0) (steps : List Step) :
    (entrants held g steps).Nodup := by
  induction steps generalizing g with
  | nil => exact List.nodup_nil
  | cons step rest ih =>
      have hnext := h.apply step
      rw [entrants]
      rcases entering_held_cases h step with hnobody | ⟨t, hgranted⟩
      · rw [hnobody, List.nil_append]
        exact ih hnext
      · have hheld : t ∈ (g.apply step).held := by
          have hmem : t ∈ entering held g step := by simp [hgranted]
          exact (mem_newcomers.1 hmem).1
        have hlater : t ∉ entrants held (g.apply step) rest :=
          not_mem_entrants_held hnext (hnext.issued t (List.mem_append_left _ hheld))
            (hnext.not_mem_queue_of_mem_held hheld) rest
        rw [hgranted, List.singleton_append]
        exact List.nodup_cons.2 ⟨hlater, ih hnext⟩

/-- A step gives a standing to nobody but the caller who asks. -/
theorem Standing.after_eq_absent {standing : Standing} (habsent : standing = .absent)
    (hother : g.nextTicket ≠ ticket) (step : Step) :
    standing.after g ticket step = .absent := by
  cases step with
  | acquire => rw [Standing.after, if_neg hother, habsent]
  | release t => simp [Standing.after, habsent]
  | cancel t => simp [Standing.after, habsent]
  | poll t => simp [Standing.after, habsent]

/-- Whoever has a standing has been issued a ticket. -/
theorem issued_of_standingFrom {standing : Standing}
    (hstart : standing ≠ .absent → ticket < g.nextTicket) (steps : List Step)
    (hstands : standingFrom ticket standing g steps ≠ .absent) :
    ticket < (g.run steps).nextTicket := by
  induction steps generalizing g standing with
  | nil => exact hstart hstands
  | cons step rest ih =>
      refine ih (fun hafter => ?_) hstands
      by_cases hknown : ticket < g.nextTicket
      · exact Nat.lt_of_lt_of_le hknown (nextTicket_le_apply g step)
      · have habsent : standing = .absent := by
          by_contra hstanding
          exact hknown (hstart hstanding)
        cases step with
        | acquire =>
            have hmine : g.nextTicket = ticket := by
              by_contra hother
              exact hafter (Standing.after_eq_absent habsent hother .acquire)
            rw [apply, nextTicket_acquire, hmine]
            exact Nat.lt_succ_self _
        | _ => simp [Standing.after, habsent] at hafter

end CanvasPress.Governor
