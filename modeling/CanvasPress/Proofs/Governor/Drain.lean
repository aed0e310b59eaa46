/-
# Nobody waits for ever

When no more callers come, a governor is drained in rounds: everybody who holds a slot
gives it back, and then everybody who waits looks.  While slots are given back and looks
are taken, in whatever order, whoever leaves the queue leaves it with a slot.  The queue
gets shorter with each round, because after the first half of a round a slot is set
aside for somebody if anybody waits.  So after more rounds than there are callers
waiting everybody has been granted a slot once and all slots are free.
-/

import CanvasPress.Proofs.Governor.Order

namespace CanvasPress.Governor

variable {g : Governor} {step : Step} {steps : List Step} {tickets : List Nat}
  {arranged : List Nat → List Nat → Prop} {rounds : Nat} {later : List Step}

theorem run_append (g : Governor) (before after : List Step) :
    g.run (before ++ after) = (g.run before).run after :=
  List.foldl_append

theorem entrants_append (part : Governor → List Nat) (g : Governor) (before after : List Step) :
    entrants part g (before ++ after) =
      entrants part g before ++ entrants part (g.run before) after := by
  induction before generalizing g with
  | nil => rfl
  | cons step rest ih =>
      rw [List.cons_append, entrants, ih, entrants, List.append_assoc]
      rfl

/-- A step that neither brings nor takes away a caller: a slot is given back, or a caller
looks. -/
def Step.IsQuiet : Step → Prop
  | .release _ => True
  | .poll _ => True
  | .acquire => False
  | .cancel _ => False

/-- Steps in which slots are given back under some tickets. -/
def releases (tickets : List Nat) : List Step :=
  tickets.map .release

/-- Steps in which the callers with some tickets look. -/
def looks (tickets : List Nat) : List Step :=
  tickets.map .poll

/-- Some rounds of draining: all who hold a slot give it back, in any order, and then all
who wait look, arranged in relation to their order of arrival. -/
inductive Rounds (arranged : List Nat → List Nat → Prop) : Nat → Governor → List Step → Prop where
  | done (g : Governor) : Rounds arranged 0 g []
  | round {rounds : Nat} {g : Governor} {holders lookers : List Nat} {rest : List Step}
      (hholders : holders.Perm g.held) (hlookers : arranged lookers g.queue)
      (more : Rounds arranged rounds (g.run (releases holders ++ looks lookers)) rest) :
      Rounds arranged (rounds + 1) g (releases holders ++ looks lookers ++ rest)

/-! ## Quiet steps -/

theorem Balanced.nodup_promised (h : g.Balanced 0 0) : g.promised.Nodup :=
  (List.nodup_append.1 h.nodup_queue).1

theorem entering_held_release (g : Governor) (t : Nat) :
    entering held g (.release t) = [] := by
  refine newcomers_of_subset ?_
  rw [apply, held_release]
  exact List.erase_subset

theorem entering_held_poll (h : g.Balanced 0 0) (t : Nat) :
    entering held g (.poll t) = if t ∈ g.promised then [t] else [] := by
  rw [entering, apply, Governor.poll]
  split_ifs with hpromised
  · refine newcomers_of_new (List.nil_subset _) (List.Subset.refl _) fun hheld => ?_
    exact h.not_mem_queue_of_mem_held hheld (mem_queue.2 (.inl hpromised))
  · exact newcomers_self _

/-- In a quiet step a caller leaves the queue only with a slot. -/
theorem entering_held_append_queue_perm (h : g.Balanced 0 0) (hquiet : step.IsQuiet) :
    (entering held g step ++ (g.apply step).queue).Perm g.queue := by
  cases step with
  | acquire => exact hquiet.elim
  | cancel t => exact hquiet.elim
  | release t => rw [entering_held_release, apply, queue_release, List.nil_append]
  | poll t =>
      rw [entering_held_poll h, apply, Governor.poll]
      split_ifs with hpromised
      · exact (List.perm_cons_erase hpromised).symm.append_right g.waiting
      · rw [List.nil_append]

/-- In a quiet run every caller who leaves the queue is granted a slot, once. -/
theorem entrants_held_append_queue_perm (h : g.Balanced 0 0)
    (hquiet : ∀ step ∈ steps, step.IsQuiet) :
    (entrants held g steps ++ (g.run steps).queue).Perm g.queue := by
  induction steps generalizing g with
  | nil => exact .refl _
  | cons step rest ih =>
      have hrest := ih (h.apply step) fun later hlater =>
        hquiet later (List.mem_cons_of_mem _ hlater)
      have hstep := entering_held_append_queue_perm h (hquiet step List.mem_cons_self)
      rw [entrants, List.append_assoc]
      exact (hrest.append_left _).trans hstep

theorem queue_subset_of_quiet (hquiet : step.IsQuiet) : (g.apply step).queue ⊆ g.queue := by
  cases step with
  | acquire => exact hquiet.elim
  | cancel t => exact hquiet.elim
  | release t =>
      rw [apply, queue_release]
      exact List.Subset.refl _
  | poll t =>
      rw [apply, Governor.poll]
      split_ifs
      · exact (List.erase_sublist.append_right _).subset
      · exact List.Subset.refl _

/-- In a quiet run nobody joins the queue. -/
theorem entrants_queue_of_quiet (hquiet : ∀ step ∈ steps, step.IsQuiet) :
    entrants queue g steps = [] := by
  induction steps generalizing g with
  | nil => rfl
  | cons step rest ih =>
      have hnobody : entering queue g step = [] :=
        newcomers_of_subset (queue_subset_of_quiet (hquiet step List.mem_cons_self))
      rw [entrants, hnobody, ih fun later hlater => hquiet later (List.mem_cons_of_mem _ hlater)]
      rfl

/-- In a quiet run nobody leaves the queue without a slot. -/
theorem leavers_of_quiet (hquiet : ∀ step ∈ steps, step.IsQuiet) : leavers g steps = [] := by
  induction steps generalizing g with
  | nil => rfl
  | cons step rest ih =>
      have hnobody : leaving g step = [] := by
        cases step with
        | cancel t => exact (hquiet _ List.mem_cons_self).elim
        | _ => rfl
      rw [leavers, hnobody, ih fun later hlater => hquiet later (List.mem_cons_of_mem _ hlater)]
      rfl

/-- In a quiet run slots are set aside for the first of those who have none. -/
theorem entrants_promised_append_waiting (h : g.Balanced 0 0)
    (hquiet : ∀ step ∈ steps, step.IsQuiet) :
    entrants promised g steps ++ (g.run steps).waiting = g.waiting := by
  have hnobody : leavers g steps = [] := leavers_of_quiet hquiet
  have hkeep : ∀ t ∈ leavers g steps, (fun _ : Nat => true) t = false := by simp [hnobody]
  have hall := filter_entrants_promised h hkeep
  simpa [entrants_queue_of_quiet hquiet] using hall

/-! ## Halves of a round -/

/-- In the first half of a round everybody gives his slot back. -/
theorem held_run_releases (hholders : tickets.Perm g.held) :
    (g.run (releases tickets)).held = [] := by
  induction tickets generalizing g with
  | nil => exact List.nil_perm.1 hholders
  | cons t rest ih =>
      have hrest := (List.cons_perm_iff_perm_erase.1 hholders).2
      rw [← held_release] at hrest
      exact ih hrest

theorem queue_run_releases (g : Governor) (tickets : List Nat) :
    (g.run (releases tickets)).queue = g.queue := by
  induction tickets generalizing g with
  | nil => rfl
  | cons t rest ih => exact (ih (g.release t)).trans (queue_release g t)

theorem entrants_held_releases (g : Governor) (tickets : List Nat) :
    entrants held g (releases tickets) = [] := by
  induction tickets generalizing g with
  | nil => rfl
  | cons t rest ih =>
      have hnobody : entering held g (.release t) = [] := entering_held_release g t
      change entering held g (.release t) ++ entrants held (g.release t) (releases rest) = []
      rw [hnobody, ih, List.nil_append]

theorem promised_poll (g : Governor) (t : Nat) : (g.poll t).promised = g.promised.erase t := by
  unfold Governor.poll
  split
  next => rfl
  next hpromised => rw [List.erase_of_not_mem hpromised]

theorem waiting_poll (g : Governor) (t : Nat) : (g.poll t).waiting = g.waiting := by
  unfold Governor.poll
  split <;> rfl

/-- Whoever looks does not move those who have no slot set aside. -/
theorem waiting_run_looks (g : Governor) (tickets : List Nat) :
    (g.run (looks tickets)).waiting = g.waiting := by
  induction tickets generalizing g with
  | nil => rfl
  | cons t rest ih => exact (ih (g.poll t)).trans (waiting_poll g t)

/-- Those who look take the slots set aside for them. -/
theorem promised_run_looks (h : g.Balanced 0 0) (hlook : g.promised ⊆ tickets) :
    (g.run (looks tickets)).promised = [] := by
  induction tickets generalizing g with
  | nil => exact List.subset_nil.1 hlook
  | cons t rest ih =>
      refine ih (h.poll t) fun u hu => ?_
      rw [apply, promised_poll, h.nodup_promised.mem_erase_iff] at hu
      exact (List.mem_cons.1 (hlook hu.2)).resolve_left hu.1

/-- When callers look one after the other, those with a slot set aside are granted it in
that order. -/
theorem entrants_held_looks (h : g.Balanced 0 0) (hnodup : tickets.Nodup) :
    entrants held g (looks tickets) = tickets.filter fun t => t ∈ g.promised := by
  induction tickets generalizing g with
  | nil => rfl
  | cons t rest ih =>
      obtain ⟨hfresh, hnodup⟩ := List.nodup_cons.1 hnodup
      have hothers : (rest.filter fun u => u ∈ (g.poll t).promised) =
          rest.filter fun u => u ∈ g.promised := by
        refine List.filter_congr fun u hu => ?_
        have hother : u ≠ t := fun heq => hfresh (heq ▸ hu)
        simp [promised_poll, h.nodup_promised.mem_erase_iff, hother]
      have hrest := ih (h.poll t) hnodup
      rw [hothers] at hrest
      change entering held g (.poll t) ++ entrants held (g.poll t) (looks rest) = _
      rw [entering_held_poll h, hrest, List.filter_cons]
      split_ifs <;> simp_all

/-! ## Rounds -/

theorem isQuiet_round (holders lookers : List Nat) :
    ∀ step ∈ releases holders ++ looks lookers, step.IsQuiet := by
  intro step hstep
  rcases List.mem_append.1 hstep with hmem | hmem
  · obtain ⟨t, -, rfl⟩ := List.mem_map.1 hmem
    trivial
  · obtain ⟨t, -, rfl⟩ := List.mem_map.1 hmem
    trivial

theorem Rounds.isQuiet (hrounds : Rounds arranged rounds g later) :
    ∀ step ∈ later, step.IsQuiet := by
  induction hrounds with
  | done => exact fun step hstep => absurd hstep List.not_mem_nil
  | @round rounds g holders lookers rest _ _ _ ih =>
      intro step hstep
      rcases List.mem_append.1 hstep with hmem | hmem
      · exact isQuiet_round holders lookers step hmem
      · exact ih step hmem

/-- A governor can be drained for as long as one likes. -/
theorem exists_rounds (g : Governor) (rounds : Nat) : ∃ later, Rounds Eq rounds g later := by
  induction rounds generalizing g with
  | zero => exact ⟨[], .done g⟩
  | succ rounds ih =>
      obtain ⟨rest, more⟩ := ih (g.run (releases g.held ++ looks g.queue))
      exact ⟨_, .round (.refl _) rfl more⟩

/-- After a round those wait who had no slot set aside at its middle. -/
theorem queue_run_round (h : g.Balanced 0 0) {holders lookers : List Nat}
    (hlookers : lookers.Perm g.queue) :
    (g.run (releases holders ++ looks lookers)).queue = (g.run (releases holders)).waiting := by
  have hmiddle : (g.run (releases holders)).promised ⊆ lookers := by
    intro t ht
    have hqueue : t ∈ (g.run (releases holders)).queue := mem_queue.2 (.inl ht)
    rw [queue_run_releases] at hqueue
    exact hlookers.mem_iff.2 hqueue
  rw [run_append, queue, promised_run_looks (h.run _) hmiddle, waiting_run_looks, List.nil_append]

/-- A round makes the queue shorter: once all slots are given back, one is set aside for
somebody if anybody waits. -/
theorem length_queue_run_round (h : g.Balanced 0 0) (hcapacity : 0 < g.capacity)
    {holders lookers : List Nat} (hholders : holders.Perm g.held)
    (hlookers : lookers.Perm g.queue) (hwait : g.queue ≠ []) :
    (g.run (releases holders ++ looks lookers)).queue.length < g.queue.length := by
  have books := h.run (releases holders)
  have hslots := books.slots
  have hsame := queue_run_releases g holders
  have hlengths := congrArg List.length hsame
  rw [held_run_releases hholders, (capacity_run g _).1] at hslots
  rw [queue, List.length_append] at hlengths
  rw [queue_run_round h hlookers]
  have hpromised : (g.run (releases holders)).promised ≠ [] := by
    intro hnobody
    have hfree : 0 < (g.run (releases holders)).free := by
      simp only [hnobody, List.length_nil] at hslots
      omega
    rw [queue, hnobody, books.idle hfree] at hsame
    exact hwait hsame.symm
  have hsome := List.length_pos_of_ne_nil hpromised
  omega

/-- When nobody waits a round leaves nobody with a slot. -/
theorem held_run_round {holders lookers : List Nat} (hholders : holders.Perm g.held)
    (hlookers : lookers.Perm g.queue) (hwait : g.queue = []) :
    (g.run (releases holders ++ looks lookers)).held = [] := by
  rw [hwait, List.perm_nil] at hlookers
  subst hlookers
  rw [run_append]
  exact held_run_releases hholders

/-- Rounds in which callers look in the order of their arrival are rounds. -/
theorem Rounds.perm (hrounds : Rounds Eq rounds g later) : Rounds List.Perm rounds g later := by
  induction hrounds with
  | done g => exact .done g
  | round hholders hlookers _ ih => exact .round hholders (.of_eq hlookers) ih

/-- A governor of which nobody wants anything stays so. -/
theorem Rounds.run_eq_self (hrounds : Rounds List.Perm rounds g later) (hheld : g.held = [])
    (hqueue : g.queue = []) : g.run later = g := by
  induction hrounds with
  | done => rfl
  | @round rounds g holders lookers rest hholders hlookers _ ih =>
      rw [hheld, List.perm_nil] at hholders
      rw [hqueue, List.perm_nil] at hlookers
      subst hholders hlookers
      exact ih hheld hqueue

/-- More rounds than there are callers waiting drain a governor. -/
theorem Rounds.drained (h : g.Balanced 0 0) (hcapacity : 0 < g.capacity)
    (hrounds : Rounds List.Perm rounds g later) (henough : g.queue.length < rounds) :
    (g.run later).held = [] ∧ (g.run later).queue = [] := by
  induction hrounds with
  | done => exact absurd henough (Nat.not_lt_zero _)
  | @round rounds g holders lookers rest hholders hlookers more ih =>
      have hbooks := h.run (releases holders ++ looks lookers)
      have hslots : 0 < (g.run (releases holders ++ looks lookers)).capacity := by
        rwa [(capacity_run g _).1]
      rw [run_append]
      by_cases hwait : g.queue = []
      · have hheld := held_run_round hholders hlookers hwait
        have hqueue : (g.run (releases holders ++ looks lookers)).queue = [] := by
          refine List.subset_nil.1 fun t ht => ?_
          have hall := entrants_held_append_queue_perm h (isQuiet_round holders lookers)
          rw [hwait, List.perm_nil, List.append_eq_nil_iff] at hall
          simp [hall.2] at ht
        rw [more.run_eq_self hheld hqueue]
        exact ⟨hheld, hqueue⟩
      · have hshorter := length_queue_run_round h hcapacity hholders hlookers hwait
        exact ih hbooks hslots (by omega)

/-- When those who wait look in the order of their arrival, slots are granted in that
order. -/
theorem Rounds.entrants_held (h : g.Balanced 0 0) (hrounds : Rounds Eq rounds g later) :
    entrants held g later ++ (g.run later).queue = g.queue := by
  induction hrounds with
  | done => rfl
  | @round rounds g holders lookers rest hholders hlookers more ih =>
      subst hlookers
      have books := h.run (releases holders)
      have hmiddle : (g.run (releases holders)).queue = g.queue := queue_run_releases g holders
      have hgranted : entrants held (g.run (releases holders)) (looks g.queue) =
          (g.run (releases holders)).promised := by
        rw [entrants_held_looks books h.nodup_queue, ← hmiddle, queue, List.filter_append,
          List.filter_eq_self.2 (by simp), List.filter_eq_nil_iff.2, List.append_nil]
        intro t hwaiting hpromised
        exact books.not_mem_waiting (of_decide_eq_true hpromised) hwaiting
      rw [run_append, entrants_append, List.append_assoc, ih (h.run _), entrants_append,
        entrants_held_releases, List.nil_append, hgranted, queue_run_round h (.refl _)]
      exact hmiddle

/-! ## Service -/

/-- A slot is free only while nobody lacks one, so nobody is granted one on the spot in
front of a caller who waits. -/
theorem Balanced.mem_promised_of_granted (h : g.Balanced 0 0) (hgranted : g.acquire.1 = .granted)
    {t : Nat} (ht : t ∈ g.queue) : t ∈ g.promised := by
  have hfree : 0 < g.free := by
    by_contra hfree
    cases hlimit : g.limitReached? g.queued with
    | some limit => simp [acquire_of_limitReached hfree hlimit] at hgranted
    | none => simp [acquire_of_room hfree hlimit] at hgranted
  simpa [queue, h.idle hfree] using ht

/-- Callers are served in the order of their arrival, and nobody waits for ever.

In every run of a governor those who are told to wait come in the order of their tickets;
those who wait with a slot set aside stand in front of those who wait without; and leaving
out those who leave the queue, slots have been set aside for the first of those who were
told to wait, in that order.  A caller is granted a slot on the spot only while nobody
waits without one.  No caller is granted a slot twice, nor after he was refused or has
left or has given it back.

From wherever the run has come, a governor can be drained in rounds, in which all slots
are given back and everybody who waits looks.  After more rounds than there are callers
waiting nobody holds a slot or waits and all slots are free.  Each of those who waited has
been granted a slot once; slots were set aside for those who lacked one in the order of
their arrival; and if callers look in that order they are granted slots in that order. -/
theorem served_in_order {slots : Nat} {limit : Option Nat} {start : Governor}
    (made : make slots limit = .ok start) (steps : List Step) :
    let g := start.run steps
    let stays (t : Nat) : Bool := t ∉ leavers start steps
    ((entrants queue start steps).Pairwise (· < ·) ∧
      (∀ t u, start.standing t steps = .waiting → u ∈ g.promised → t < u → t ∈ g.promised) ∧
      (entrants promised start steps).filter stays <+:
        (entrants queue start steps).filter stays) ∧
    (g.acquire.1 = .granted → ∀ t, start.standing t steps = .waiting → t ∈ g.promised) ∧
    ((entrants held start steps).Nodup ∧
      ∀ before after t, steps = before ++ after → start.standing t before = .gone →
        t ∉ entrants held (start.run before) after) ∧
    ((∀ rounds, ∃ later, Rounds Eq rounds g later) ∧
      ∀ rounds later, Rounds List.Perm rounds g later → g.queue.length < rounds →
        let last := g.run later
        last.active = 0 ∧ last.queued = 0 ∧ last.free = max slots 1 ∧
          (entrants held g later).Perm g.queue ∧
          entrants promised g later = g.waiting ∧
          (Rounds Eq rounds g later → entrants held g later = g.queue)) := by
  intro g stays
  have hstart : start = ofCapacity slots limit := by
    unfold make at made
    split at made
    · cases made
    · exact (Except.ok.inj made).symm
  have books : start.Balanced 0 0 := hstart ▸ balanced_ofCapacity slots limit
  have hagrees (t : Nat) : Agrees start t .absent := hstart ▸ agrees_ofCapacity slots limit t
  have hempty : start.queue = [] := by
    rw [hstart]
    rfl
  have hwaiting (t : Nat) (hstands : start.standing t steps = .waiting) : t ∈ g.queue :=
    ((hagrees t).run books steps).waiting.2 hstands
  have hordered : start.Ordered := by
    rw [Ordered, hempty]
    exact .nil
  have hcapacity : g.capacity = max slots 1 := by
    rw [(capacity_run start steps).1, hstart]
    rfl
  refine ⟨⟨?_, ?_, ?_⟩, ?_, ⟨nodup_entrants_held books steps, ?_⟩, exists_rounds g, ?_⟩
  · exact (entrants_queue_pairwise books steps).1
  · exact fun t u hstands hu hlt =>
      (hordered.run books steps).mem_promised_of_lt (hwaiting t hstands) hu hlt
  · have hkeep : ∀ t ∈ leavers start steps, stays t = false := by simp [stays]
    have hall := filter_entrants_promised books hkeep
    have hnobody : start.waiting = [] := (List.append_eq_nil_iff.1 hempty).2
    rw [hnobody, List.nil_append, List.filter_append] at hall
    exact ⟨_, hall⟩
  · exact fun hgranted t hstands =>
      (books.run steps).mem_promised_of_granted hgranted (hwaiting t hstands)
  · rintro before after t rfl hgone
    have hknown : t < (start.run before).nextTicket :=
      issued_of_standingFrom (fun habsent => absurd rfl habsent) before
        (by rw [← standing, hgone]; decide)
    have hleft : t ∉ (start.run before).queue := fun hqueue => by
      have hstands := ((hagrees t).run books before).waiting.1 hqueue
      rw [← standing, hgone] at hstands
      cases hstands
    exact not_mem_entrants_held (books.run before) hknown hleft after
  · intro rounds later hrounds henough
    have hbooks : g.Balanced 0 0 := books.run steps
    have hslots : 0 < g.capacity := by omega
    obtain ⟨hheld, hqueue⟩ := hrounds.drained hbooks hslots henough
    have hlast := hbooks.run later
    have hpromised := (List.append_eq_nil_iff.1 hqueue).1
    have hwait := (List.append_eq_nil_iff.1 hqueue).2
    have hfree := hlast.slots
    have hcounted := hlast.counted
    rw [hheld, hpromised, (capacity_run g later).1, hcapacity] at hfree
    rw [hqueue] at hcounted
    have hgranted := entrants_held_append_queue_perm hbooks hrounds.isQuiet
    have hset := entrants_promised_append_waiting hbooks hrounds.isQuiet
    rw [hqueue, List.append_nil] at hgranted
    rw [hwait, List.append_nil] at hset
    refine ⟨?_, hcounted, hfree, hgranted, hset, fun hin => ?_⟩
    · rw [active, (capacity_run g later).1, hcapacity, ← hfree]
      exact Nat.sub_self _
    · have hinorder := hin.entrants_held hbooks
      rwa [hqueue, List.append_nil] at hinorder

/-- Four callers share one slot.  The second is promised it and leaves without having
looked, so that the third stands first; three rounds serve him and the fourth. -/
theorem served_in_order_after_forgone_promise :
    make 1 none = .ok (ofCapacity 1 none) ∧
      let g := (ofCapacity 1 none).run
        [.acquire, .acquire, .acquire, .acquire, .release 0, .cancel 1]
      let later : List Step := [.poll 2, .poll 3, .release 2, .poll 3, .release 3]
      g.queue = [2, 3] ∧ g.promised = [2] ∧ Rounds Eq 3 g later ∧
        entrants held g later = [2, 3] ∧ (g.run later).active = 0 ∧ (g.run later).free = 1 := by
  have made : make 1 none = .ok (ofCapacity 1 none) := rfl
  have rounds : Rounds Eq 3 ((ofCapacity 1 none).run
      [.acquire, .acquire, .acquire, .acquire, .release 0, .cancel 1])
      [.poll 2, .poll 3, .release 2, .poll 3, .release 3] :=
    @Rounds.round Eq _ _ [] [2, 3] _ (.refl _) rfl <|
      @Rounds.round Eq _ _ [2] [3] _ (.refl _) rfl <|
        @Rounds.round Eq _ _ [3] [] _ (.refl _) rfl (.done _)
  obtain ⟨-, -, -, -, hdrained⟩ := served_in_order made
    [.acquire, .acquire, .acquire, .acquire, .release 0, .cancel 1]
  obtain ⟨hactive, -, hfree, -, -, hgranted⟩ := hdrained 3 _ rounds.perm (by decide)
  exact ⟨made, rfl, rfl, rounds, hgranted rounds, hactive, hfree⟩

end CanvasPress.Governor
