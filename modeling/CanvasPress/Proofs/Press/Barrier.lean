/-
# Groups do not overlap

What holds however a batch goes is read off from the items: those of the groups that are
over have their results, and the others belong to one group.  `renderBatch` is one of the
ways in which a batch may go.
-/

import CanvasPress.Proofs.Press.Batches

namespace CanvasPress

namespace Press

namespace BatchState

/-- The numbers of the calls that have begun. -/
def calls (b : BatchState) : List Nat :=
  b.members.filterMap Member.call

/-- The call for an item has begun. -/
def Began (b : BatchState) (i : Nat) : Prop :=
  ∃ member id, b.members[i]? = some member ∧ member.call = some id

/-- The call for an item has ended, well or not. -/
def Ended (b : BatchState) (i : Nat) : Prop :=
  ∃ member outcome, b.members[i]? = some member ∧ member.result? b.press = some outcome

variable {studio : Studio} {options : RenderOptions} {groups : List (List Document)}
  {b mid next last : BatchState} {event : Event} {events more : List Event} {size : Nat}
  {documents : List Document} {s : State}

/-! ## What holds however a batch goes -/

theorem document_group (size : Nat) (documents : List Document) (number : Nat) :
    (Member.group (groupsOf size documents) number).map Member.document =
      (documents.drop (number * (size + 1))).take (size + 1) := by
  have hsame : (Member.group (groupsOf size documents) number).map Member.document =
      (groupsOf size documents)[number]?.getD [] := by
    rw [Member.group, List.map_map]
    exact List.map_id _
  rw [hsame, getElem?_groupsOf]
  split_ifs with hless
  · rfl
  · rw [List.drop_eq_nil_of_le (Nat.le_of_not_lt hless)]
    rfl

/-- A result stays what it is. -/
theorem result?_step {member : Member} {outcome : Except Fault Rendering} (hs : s.Numbered)
    (studio : Studio) (event : Event) (hresult : member.result? s = some outcome) :
    member.result? (s.step studio event) = some outcome := by
  obtain ⟨id, hcall, hid⟩ := Option.bind_eq_some_iff.1 hresult
  exact Option.bind_eq_some_iff.2
    ⟨id, hcall, (State.run_moves hs studio [event]).result? hs hid⟩

/-- What is collected from items that all have their results. -/
theorem itemsOf_begun {members : List Member}
    (hended : ∀ member ∈ members, (member.result? s).isSome = true) (index : Nat) :
    (s.itemsOf index (Member.begun members)).map some =
      members.mapIdx fun i member => member.item? s (index + i) := by
  induction members generalizing index with
  | nil => rfl
  | cons member rest ih =>
      obtain ⟨document, call⟩ := member
      obtain ⟨outcome, hresult⟩ := Option.isSome_iff_exists.1 (hended _ List.mem_cons_self)
      obtain ⟨id, rfl, hid⟩ := Option.bind_eq_some_iff.1 hresult
      have hrest := ih (fun other hother => hended other (List.mem_cons_of_mem _ hother))
        (index + 1)
      have hbegun : Member.begun (⟨document, some id⟩ :: rest) =
          (id, document) :: Member.begun rest := rfl
      have hfirst : Member.item? s (index + 0) ⟨document, some id⟩ =
          some ⟨index, document, outcome⟩ := by
        rw [Member.item?, hresult]
        rfl
      rw [hbegun, State.itemsOf, hid, List.mapIdx_cons, hfirst]
      dsimp only
      rw [List.map_cons, hrest]
      simp only [Nat.add_assoc, Nat.add_comm 1]

/-- What holds of a batch with groups of a size, however it goes. -/
structure Sane (studio : Studio) (size : Nat) (documents : List Document) (b : BatchState) :
    Prop where
  sound : b.press.Sound studio
  past : b.closed.map Member.document = documents.take (b.number * size)
  present : b.group.map Member.document = (documents.drop (b.number * size)).take size
  issued : ∀ id ∈ b.calls, id < b.press.nextId
  distinct : b.calls.Nodup
  slots : ∀ id ∈ b.calls, b.press.KeepsSlot id
  items : b.items.map some = b.closed.mapIdx fun i member => member.item? b.press i

theorem sane_start (hs : s.Sound studio) (size : Nat) (documents : List Document) :
    (start (groupsOf size documents) s).Sane studio (size + 1) documents := by
  have hcalls : (start (groupsOf size documents) s).calls = [] :=
    call_group (groupsOf size documents) 0
  refine ⟨hs, ?_, document_group size documents 0, ?_, ?_, ?_, rfl⟩
  · simp [start]
  all_goals simp [hcalls]

namespace Sane

/-- The items are those of the first documents. -/
theorem document_members (h : b.Sane studio size documents) :
    b.members.map Member.document = documents.take ((b.number + 1) * size) := by
  rw [members, List.map_append, h.past, h.present, Nat.succ_mul]
  exact List.take_add.symm

/-- What happens to the press leaves the items as they are. -/
theorem happen (h : b.Sane studio size documents) (hspares : event.SparesSlots b.press) :
    ({ b with press := b.press.step studio event } : BatchState).Sane studio size documents where
  sound := h.sound.step event
  past := h.past
  present := h.present
  issued id hid := Nat.lt_of_lt_of_le (h.issued id hid)
    (State.nextId_le_run h.sound.numbered studio [event])
  distinct := h.distinct
  slots id hid := (h.slots id hid).step h.sound.numbered h.sound.seated studio hspares
  items := by
    refine h.items.trans (List.ext_getElem? fun i => ?_)
    have hitem := congrArg (·[i]?) h.items
    simp only [List.getElem?_mapIdx, List.getElem?_map] at hitem ⊢
    cases hmember : b.closed[i]? with
    | none => rfl
    | some member =>
        rw [hmember] at hitem
        obtain ⟨item, -, hfound⟩ := Option.map_eq_some_iff.1 hitem
        obtain ⟨outcome, hresult, -⟩ := Option.map_eq_some_iff.1 hfound.symm
        have hlater := result?_step h.sound.numbered studio event hresult
        rw [Option.map_some, Option.map_some, Member.item?, Member.item?, hresult, hlater]

/-- The call for an item of the group at work begins. -/
theorem begin {before after : List Member} {document : Document}
    (h : b.Sane studio size documents) (hgroup : b.group = before ++ .awaiting document :: after) :
    ({ b with
        press := b.press.step studio (.arrive document options)
        group := before ++ ⟨document, some b.press.nextId⟩ :: after } : BatchState).Sane studio size
      documents := by
  have harrived : Event.SparesSlots b.press (.arrive document options) := trivial
  have hpress := h.happen harrived
  let later : BatchState := { b with
    press := b.press.step studio (.arrive document options)
    group := before ++ ⟨document, some b.press.nextId⟩ :: after }
  have hcalls : later.calls.Perm (b.press.nextId :: b.calls) := by
    have hbefore : b.calls = (b.closed ++ before).filterMap Member.call ++
        after.filterMap Member.call := by
      simp [calls, members, hgroup, Member.awaiting]
    have hafter : later.calls = (b.closed ++ before).filterMap Member.call ++
        b.press.nextId :: after.filterMap Member.call := by
      simp [calls, members, later]
    rw [hbefore, hafter]
    exact List.perm_middle
  have hnext : later.press.nextId = b.press.nextId + 1 :=
    State.nextId_arrive studio b.press document options
  refine ⟨hpress.sound, h.past, ?_, fun id hid => ?_, ?_, fun id hid => ?_, hpress.items⟩
  · rw [← h.present, hgroup]
    simp [Member.awaiting]
  · rw [hnext]
    rcases List.mem_cons.1 (hcalls.subset hid) with rfl | hold
    · exact Nat.lt_succ_self _
    · exact Nat.lt_succ_of_lt (h.issued id hold)
  · refine hcalls.nodup_iff.2 (List.nodup_cons.2 ⟨fun hold => ?_, h.distinct⟩)
    exact Nat.lt_irrefl _ (h.issued _ hold)
  · rcases List.mem_cons.1 (hcalls.subset hid) with rfl | hold
    · exact (h.sound.numbered.jobs.keepsSlot (Nat.le_refl _)).step h.sound.numbered h.sound.seated
        studio harrived
    · exact hpress.slots id hold

/-- The group at work is over, and the next one comes. -/
theorem close (h : b.Sane studio (size + 1) documents)
    (hended : ∀ member ∈ b.group, (member.result? b.press).isSome = true) (lines : List LogLine) :
    ({ press := b.press.step studio (.report lines)
       number := b.number + 1
       closed := b.closed ++ b.group
       group := Member.group (groupsOf size documents) (b.number + 1)
       items := b.items ++ b.collected } : BatchState).Sane studio (size + 1) documents := by
  have hreported : Event.SparesSlots b.press (.report lines) := trivial
  have hpress := h.happen hreported
  let later : BatchState :=
    { press := b.press.step studio (.report lines)
      number := b.number + 1
      closed := b.closed ++ b.group
      group := Member.group (groupsOf size documents) (b.number + 1)
      items := b.items ++ b.collected }
  have hcalls : later.calls = b.calls := by
    change ((b.closed ++ b.group) ++ Member.group _ _).filterMap Member.call = _
    rw [List.filterMap_append, call_group, List.append_nil]
    rfl
  refine ⟨hpress.sound, ?_, document_group size documents (b.number + 1), ?_, ?_, ?_, ?_⟩
  · exact h.document_members
  · exact hcalls ▸ hpress.issued
  · exact hcalls ▸ h.distinct
  · exact hcalls ▸ hpress.slots
  · have hcollected := itemsOf_begun hended b.closed.length
    rw [List.map_append, h.items, List.mapIdx_append]
    simp only [Nat.add_comm _ b.closed.length]
    exact congrArg _ hcollected

theorem step (h : b.Sane studio (size + 1) documents)
    (hstep : Step studio options (groupsOf size documents) b event next) :
    next.Sane studio (size + 1) documents := by
  cases hstep with
  | begin hgroup => exact h.begin hgroup
  | happen hspares => exact h.happen hspares
  | close hgroup hended => exact h.close hended _

theorem goes (h : b.Sane studio (size + 1) documents)
    (hgoes : Goes studio options (groupsOf size documents) b events last) :
    last.Sane studio (size + 1) documents := by
  induction hgoes with
  | refl => exact h
  | tail _ hstep ih => exact ih.step hstep

/-! ## Where items stand -/

section Places

variable {i j : Nat} {member : Member} (h : b.Sane studio size documents)

include h

/-- An item of a group that is over has its result, and it has been collected. -/
theorem collected_closed (hmember : b.closed[i]? = some member) :
    ∃ outcome, member.result? b.press = some outcome ∧
      b.items[i]? = some ⟨i, member.document, outcome⟩ := by
  have hitem := congrArg (·[i]?) h.items
  simp only [List.getElem?_mapIdx, List.getElem?_map, hmember] at hitem
  obtain ⟨item, hitem, hfound⟩ := Option.map_eq_some_iff.1 hitem
  obtain ⟨outcome, hresult, rfl⟩ := Option.map_eq_some_iff.1 hfound.symm
  exact ⟨outcome, hresult, hitem⟩

/-- There are items up to the group at work. -/
theorem place (hsize : 0 < size) (hmember : b.members[i]? = some member) :
    i < documents.length ∧ i / size ≤ b.number := by
  have hlength := congrArg List.length h.document_members
  rw [List.length_map, List.length_take] at hlength
  have hless := (List.getElem?_eq_some_iff.1 hmember).1
  have hdivided : i / size < b.number + 1 := (Nat.div_lt_iff_lt_mul hsize).2 (by omega)
  omega

/-- The items of the groups before the one at work have ended. -/
theorem ended_of_lt (hsize : 0 < size) (hi : i < documents.length) (hless : i / size < b.number) :
    b.Ended i := by
  have hlength := congrArg List.length h.past
  rw [List.length_map, List.length_take] at hlength
  have hplace : i < b.number * size := (Nat.div_lt_iff_lt_mul hsize).1 hless
  have hclosed : i < b.closed.length := by omega
  have hmember := List.getElem?_eq_getElem hclosed
  obtain ⟨outcome, hresult, -⟩ := h.collected_closed hmember
  refine ⟨b.closed[i], outcome, ?_, hresult⟩
  rw [members, List.getElem?_append_left hclosed, hmember]

/-- An item that has begun and not ended belongs to the group at work. -/
theorem div_eq_number (hsize : 0 < size) (hbegan : b.Began i) (hopen : ¬ b.Ended i) :
    i / size = b.number := by
  obtain ⟨member, -, hmember, -⟩ := hbegan
  obtain ⟨hi, hplace⟩ := h.place hsize hmember
  rcases Nat.lt_or_eq_of_le hplace with hless | hsame
  · exact absurd (h.ended_of_lt hsize hi hless) hopen
  · exact hsame

/-- No more calls are open than there are items in a group. -/
theorem countP_isOpen_le : b.calls.countP b.press.isOpen ≤ size := by
  have hover : (b.closed.filterMap Member.call).countP b.press.isOpen = 0 := by
    refine List.countP_eq_zero.2 fun id hid hopen => ?_
    obtain ⟨member, hmember, hcall⟩ := List.mem_filterMap.1 hid
    obtain ⟨i, hplace⟩ := List.mem_iff_getElem?.1 hmember
    obtain ⟨outcome, hresult, -⟩ := h.collected_closed hplace
    rw [Member.result?, hcall, Option.bind_some] at hresult
    rw [State.isOpen, hresult] at hopen
    cases hopen
  have hgroup : (b.group.filterMap Member.call).countP b.press.isOpen ≤ size := by
    have hlength := congrArg List.length h.present
    rw [List.length_map, List.length_take] at hlength
    have hcalls := List.length_filterMap_le Member.call b.group
    have hcount := @List.countP_le_length _ b.press.isOpen (b.group.filterMap Member.call)
    omega
  rw [calls, members, List.filterMap_append, List.countP_append, hover, Nat.zero_add]
  exact hgroup

/-- No more calls hold a slot than there are slots. -/
theorem countP_holdsSlot_le : b.calls.countP b.press.holdsSlot ≤ b.press.governor.capacity := by
  rw [List.countP_eq_length_filter]
  exact h.sound.length_le_capacity (h.distinct.filter _) fun id hid => (List.mem_filter.1 hid).2

end Places

/-- No call begins before the groups before its own are over. -/
theorem barrier {i j : Nat} (h : b.Sane studio (size + 1) documents)
    (hstep : Step studio options (groupsOf size documents) b event next) (hbegan : next.Began j)
    (hless : i / (size + 1) < j / (size + 1)) : b.Ended i := by
  have hsize : 0 < size + 1 := Nat.succ_pos size
  have hnext := h.step hstep
  obtain ⟨member, id, hmember, hcall⟩ := hbegan
  obtain ⟨hj, hnumber⟩ : j < documents.length ∧ j / (size + 1) ≤ b.number := by
    cases hstep with
    | begin hgroup => exact hnext.place hsize hmember
    | happen hspares => exact hnext.place hsize hmember
    | close hgroup hended =>
        have hmembers : b.members[j]? = some member := by
          change ((b.closed ++ b.group) ++ Member.group _ _)[j]? = some member at hmember
          rcases Nat.lt_or_ge j (b.closed ++ b.group).length with hold | hnew
          · rwa [List.getElem?_append_left hold] at hmember
          · rw [List.getElem?_append_right hnew] at hmember
            have hcalls := call_group (groupsOf size documents) (b.number + 1)
            have hnone := List.filterMap_eq_nil_iff.1 hcalls member (List.mem_of_getElem? hmember)
            rw [hnone] at hcall
            cases hcall
        exact h.place hsize hmembers
  have hearlier : i < j := Nat.lt_of_not_le fun hle =>
    Nat.not_lt.2 (Nat.div_le_div_right hle) hless
  exact h.ended_of_lt hsize (hearlier.trans hj) (Nat.lt_of_lt_of_le hless hnumber)

/-- When every group is over, what has been collected are the results of all documents in
order. -/
theorem items_of_isOver (h : b.Sane studio (size + 1) documents)
    (hover : IsOver (groupsOf size documents) b) :
    b.items.length = documents.length ∧
      ∀ (i : Nat) (document : Document), documents[i]? = some document →
        ∃ id outcome, b.members[i]? = some ⟨document, some id⟩ ∧
          b.press.result? id = some outcome ∧ b.items[i]? = some ⟨i, document, outcome⟩ := by
  have hnone : (groupsOf size documents)[b.number]? = none := List.getElem?_eq_none hover
  rw [getElem?_groupsOf] at hnone
  split_ifs at hnone with hless
  have hdocuments : b.closed.map Member.document = documents := by
    rw [h.past, List.take_of_length_le (Nat.le_of_not_lt hless)]
  constructor
  · have hlength := congrArg List.length h.items
    have hsame := congrArg List.length hdocuments
    rw [List.length_map] at hlength hsame
    rw [hlength, List.length_mapIdx, hsame]
  · intro i document hdocument
    rw [← hdocuments, List.getElem?_map] at hdocument
    obtain ⟨member, hmember, rfl⟩ := Option.map_eq_some_iff.1 hdocument
    obtain ⟨outcome, hresult, hitem⟩ := h.collected_closed hmember
    obtain ⟨id, hcall, hid⟩ := Option.bind_eq_some_iff.1 hresult
    refine ⟨id, outcome, ?_, hid, hitem⟩
    have hless := (List.getElem?_eq_some_iff.1 hmember).1
    rw [members, List.getElem?_append_left hless, hmember, ← hcall]

end Sane

end BatchState

/-! ## The clock's way -/

/-- Items whose calls have begun. -/
def Member.ofCalls (calls : List (Nat × Document)) : List Member :=
  calls.map fun call => ⟨call.2, some call.1⟩

theorem Member.begun_ofCalls (calls : List (Nat × Document)) :
    Member.begun (Member.ofCalls calls) = calls := by
  rw [begun, ofCalls, List.filterMap_map]
  exact List.filterMap_some

namespace BatchState

section Clock

variable {number : Nat} {group : List Document} {out : List Nat}

/-- The calls of a group may begin in order. -/
theorem goes_arrivals (closed : List Member) (items : List BatchItem) (documents : List Document)
    (s : State) (before : List Member) :
    Goes studio options groups
      ⟨s, number, closed, before ++ documents.map Member.awaiting, items⟩
      (State.arrivals options documents)
      ⟨s.run studio (State.arrivals options documents), number, closed,
        before ++ Member.ofCalls (State.callsFrom s.nextId documents), items⟩ := by
  induction documents generalizing s before with
  | nil => exact .refl
  | cons document rest ih =>
      let later := s.run studio [.arrive document options, .advance moment]
      have hnext : later.nextId = s.nextId + 1 := State.nextId_arrive studio s document options
      have hrest := ih later (before ++ [⟨document, some s.nextId⟩])
      rw [hnext, List.append_assoc, List.append_assoc] at hrest
      exact .head (.begin rfl) (.head (.happen trivial) hrest)

/-- A group that the clock drives goes from its first call to the next group. -/
theorem goes_groupEvents (hs : s.Steady studio) (hout : s.HeldApart out)
    (hroom : out.length < s.governor.capacity) (hgroup : groups[number]? = some group)
    (hsome : group ≠ []) (options : RenderOptions) (closed : List Member) (items : List BatchItem) :
    Goes studio options groups ⟨s, number, closed, Member.group groups number, items⟩
      (s.groupEvents studio options closed.length group)
      ⟨(s.renderGroup studio options closed.length group).2, number + 1,
        closed ++ Member.ofCalls (State.callsFrom s.nextId group),
        Member.group groups (number + 1),
        items ++ (s.renderGroup studio options closed.length group).1⟩ := by
  let mid : BatchState := ⟨s.run studio (s.workEvents studio options group), number, closed,
    Member.ofCalls (State.callsFrom s.nextId group), items⟩
  have hworked : Goes studio options groups
      ⟨s, number, closed, Member.group groups number, items⟩
      (s.workEvents studio options group) mid := by
    let arrived : BatchState := ⟨s.run studio (State.arrivals options group), number, closed,
      Member.ofCalls (State.callsFrom s.nextId group), items⟩
    have hwaiting : Member.group groups number = group.map Member.awaiting := by
      rw [Member.group, hgroup]
      rfl
    have harrived : Goes studio options groups
        ⟨s, number, closed, Member.group groups number, items⟩
        (State.arrivals options group) arrived := by
      rw [hwaiting]
      exact goes_arrivals closed items group s []
    have hawaited := goes_clockwork studio options groups arrived
      (State.isClockwork_awaitEvents studio (State.callsFrom s.nextId group) arrived.press)
    rw [← State.run_append] at hawaited
    exact harrived.trans hawaited
  have hcollected : mid.collected = (s.renderGroup studio options closed.length group).1 := by
    rw [State.renderGroup_eq, collected, Member.begun_ofCalls]
  have hended : ∀ member ∈ mid.group, (member.result? mid.press).isSome = true := by
    intro member hmember
    obtain ⟨call, hcall, rfl⟩ := List.mem_map.1 hmember
    obtain ⟨offset, hoffset, hid⟩ := List.mem_range'.1 (List.of_mem_zip hcall).1
    have hresults := State.areResults_renderGroup hs hout hroom options closed.length group
    obtain ⟨outcome, hresult, -⟩ := hresults.item offset _ (List.getElem?_eq_getElem hoffset)
    rw [State.renderGroup_eq, State.groupEvents, State.run_append] at hresult
    rw [Member.result?, Option.bind_some, hid, Nat.one_mul]
    exact Option.isSome_iff_exists.2 ⟨outcome, hresult⟩
  have hbegun : mid.group ≠ [] := by
    intro hnone
    have hlength := congrArg List.length hnone
    have hempty : group.length = 0 := by
      simpa [mid, Member.ofCalls, State.callsFrom] using hlength
    exact hsome (List.eq_nil_of_length_eq_zero hempty)
  have hclosed := hworked.tail (.close hbegun hended)
  rw [hcollected] at hclosed
  rw [State.renderGroup_eq_run, State.groupEvents, State.run_append]
  exact hclosed

/-- Groups that the clock drives follow one another. -/
theorem goes_groupsEvents (hs : s.Steady studio) (hout : s.HeldApart out)
    (hroom : out.length < s.governor.capacity) {rest : List (List Document)}
    (hrest : groups.drop number = rest) (hsome : ∀ group ∈ rest, group ≠ [])
    (options : RenderOptions) (closed : List Member) (items : List BatchItem) :
    ∃ last, Goes studio options groups ⟨s, number, closed, Member.group groups number, items⟩
        (s.groupsEvents studio options closed.length rest) last ∧
      IsOver groups last ∧
      last.items = items ++ (s.renderGroups studio options closed.length rest).1 := by
  induction rest generalizing s number closed items with
  | nil => exact ⟨_, .refl, List.drop_eq_nil_iff.1 hrest, (List.append_nil _).symm⟩
  | cons group rest ih =>
      have hgroup : groups[number]? = some group := by
        rw [← List.head?_drop, hrest]
        rfl
      have hlater : groups.drop (number + 1) = rest := by
        rw [← List.tail_drop, hrest]
        rfl
      have hfirst := goes_groupEvents hs hout hroom hgroup (hsome group List.mem_cons_self) options
        closed items
      have hkeeps : s.Keeps (s.run studio (s.groupEvents studio options closed.length group)) :=
        (State.isRunFor_groupEvents studio options closed.length group s).keeps hs.sound
      have hlength : (closed ++ Member.ofCalls (State.callsFrom s.nextId group)).length =
          closed.length + group.length := by
        simp [Member.ofCalls, State.callsFrom]
      obtain ⟨last, hgoes, hover, hitems⟩ := ih (hs.run _) (hkeeps.apart out hout)
        (hkeeps.capacity ▸ hroom) hlater
        (fun other hother => hsome other (List.mem_cons_of_mem _ hother))
        (closed ++ Member.ofCalls (State.callsFrom s.nextId group))
        (items ++ (s.renderGroup studio options closed.length group).1)
      rw [← State.renderGroup_eq_run, hlength] at hgoes hitems
      refine ⟨last, hfirst.trans hgoes, hover, ?_⟩
      rw [hitems, List.append_assoc]
      rfl

/-- The way of the clock is one of the ways a batch may go. -/
theorem goes_batchEvents (hs : s.Steady studio) (hroom : s.outsiders.length < s.governor.capacity)
    (documents : List Document) (batch : BatchOptions) :
    ∃ last, Goes studio batch.options (groupsOf (batch.concurrency - 1) documents)
        (start (groupsOf (batch.concurrency - 1) documents) s)
        (s.batchEvents studio documents batch) last ∧
      IsOver (groupsOf (batch.concurrency - 1) documents) last ∧
      last.items = (s.renderBatch studio documents batch).1 := by
  refine goes_groupsEvents hs (State.heldApart_outsiders s) hroom List.drop_zero
    (fun group hgroup => ?_) batch.options [] []
  obtain ⟨number, hnumber⟩ := List.mem_iff_getElem?.1 hgroup
  rw [getElem?_groupsOf] at hnumber
  split_ifs at hnumber with hless
  cases hnumber
  refine List.ne_nil_of_length_pos ?_
  rw [List.length_take, List.length_drop]
  omega

end Clock

end BatchState

/-! ## The theorem -/

/-- Groups of a batch do not overlap.  For every run of an opened press, and for all documents
and batch options, however the batch goes from there:

* No call begins before every item of the groups before its own has its result, be it good or
  bad.
* The items whose calls have begun and not ended all belong to one group, and there are at most
  as many of them as a group may have, which is at least one.
* A call of the batch that is at work holds a slot, and no more of them hold one than the press
  was opened with slots, which is at least one.
* When every group is over, the items that have been collected are those of the documents in
  order, each with the result of the call for it, in whatever order the calls have ended.

Unless all slots are held apart from its calls, `renderBatch` is such a way to go, and what it
returns is what has been collected in the end. -/
theorem batch_groups_never_overlap {studio : Studio} {settings : Settings} {around : Surroundings}
    {start : State} (hopen : openWith settings around = .ok (studio, start))
    (before : List Event) :
    let s := start.run studio before
    ∀ (documents : List Document) (batch : BatchOptions),
      let size := max batch.concurrency 1
      let groups := groupsOf (batch.concurrency - 1) documents
      (∀ events b, BatchState.Goes studio batch.options groups (.start groups s) events b →
        (∀ event next, BatchState.Step studio batch.options groups b event next →
          ∀ i j, i / size < j / size → next.Began j → b.Ended i) ∧
        (∀ i j, b.Began i → ¬ b.Ended i → b.Began j → ¬ b.Ended j → i / size = j / size) ∧
        b.calls.countP b.press.isOpen ≤ size ∧
        (∀ id ∈ b.calls, b.press.isAtWork id = true → b.press.holdsSlot id = true) ∧
        b.calls.countP b.press.holdsSlot ≤ max settings.maxConcurrentRenders 1 ∧
        (BatchState.IsOver groups b → b.items.length = documents.length ∧
          ∀ (i : Nat) (document : Document), documents[i]? = some document →
            ∃ id outcome, b.members[i]? = some ⟨document, some id⟩ ∧
              b.press.result? id = some outcome ∧
              b.items[i]? = some ⟨i, document, outcome⟩)) ∧
      (s.outsiders.length < s.governor.capacity →
        ∃ b, BatchState.Goes studio batch.options groups (.start groups s)
            (s.batchEvents studio documents batch) b ∧
          BatchState.IsOver groups b ∧ b.items = (s.renderBatch studio documents batch).1) := by
  intro s documents batch size groups
  have hs : s.Steady studio := (State.steady_of_openWith hopen).run before
  have hsize : size = batch.concurrency - 1 + 1 := by
    simp only [size]
    omega
  refine ⟨fun events b hgoes => ?_, fun hroom => BatchState.goes_batchEvents hs hroom _ _⟩
  have hsane := (BatchState.sane_start hs.sound (batch.concurrency - 1) documents).goes hgoes
  have hcapacity : b.press.governor.capacity = max settings.maxConcurrentRenders 1 := by
    obtain ⟨-, governor, hstart, made⟩ := State.governor_of_openWith hopen
    rw [hgoes.press_eq, State.capacity_run]
    change (start.run studio before).governor.capacity = _
    rw [State.capacity_run, hstart, governor_eq_of_make made]
    rfl
  rw [hsize]
  refine ⟨fun event next hstep i j hless hbegan => hsane.barrier hstep hbegan hless,
    fun i j hi hiopen hj hjopen => ?_, hsane.countP_isOpen_le,
    fun id hid => (hsane.slots id hid).holdsSlot, hcapacity ▸ hsane.countP_holdsSlot_le,
    hsane.items_of_isOver⟩
  rw [hsane.div_eq_number (Nat.succ_pos _) hi hiopen,
    hsane.div_eq_number (Nat.succ_pos _) hj hjopen]

/-- While the first of three documents is being saved, the third does not begin, though the
second has ended and two slots are free. -/
theorem batch_groups_never_overlap_of_slow_first :
    let settings : Settings := { enableCaching := false, outputPath := some "out" }
    let options := { RenderOptions.ofSettings settings with format := .vector }
    let first := Document.ofKind .businessModel
    let second := Document.ofKind .valueProposition
    let documents := [first, second, first]
    let groups := groupsOf 1 documents
    let events : List Event := [.arrive first options, .arrive second options, .proceed 1]
    ∃ (studio : Studio) (start : State) (b : BatchState),
      openWith settings ⟨.obliging, .missing, none, ⟨0, 0⟩⟩ = .ok (studio, start) ∧
        BatchState.Goes studio options groups (.start groups start) events b ∧
        b.Began 0 ∧ ¬ b.Ended 0 ∧ b.Ended 1 ∧
        (∀ event next, BatchState.Step studio options groups b event next → ¬ next.Began 2) ∧
        ∃ last, BatchState.Goes studio options groups (.start groups start)
            (start.batchEvents studio documents ⟨2, options⟩) last ∧
          BatchState.IsOver groups last ∧ last.items.length = 3 := by
  intro settings options first second documents groups events
  let studio : Studio := ⟨.obliging, settings, .empty, none, ⟨0, 0⟩⟩
  let start : State := .fresh settings (.ofCapacity 3 none)
  let b : BatchState :=
    ⟨start.run studio events, 0, [], [⟨first, some 0⟩, ⟨second, some 1⟩], []⟩
  have hopen : openWith settings ⟨.obliging, .missing, none, ⟨0, 0⟩⟩ = .ok (studio, start) := rfl
  have hgroup : Member.group groups 0 = [.awaiting first, .awaiting second] := by
    rw [Member.group, getElem?_groupsOf]
    rfl
  have hgoes : BatchState.Goes studio options groups (.start groups start) events b := by
    rw [BatchState.start, hgroup]
    have hfirst := @BatchState.Step.begin studio options groups
      ⟨start, 0, [], [.awaiting first, .awaiting second], []⟩ [] [.awaiting second] first rfl
    have hsecond := @BatchState.Step.begin studio options groups
      ⟨start.run studio [.arrive first options], 0, [],
        [⟨first, some 0⟩, .awaiting second], []⟩ [⟨first, some 0⟩] [] second rfl
    exact .head hfirst (.head hsecond (.head (.happen trivial) .refl))
  have hopened : ¬ b.Ended 0 := by
    rintro ⟨member, outcome, hmember, hresult⟩
    cases hmember
    cases hresult
  have hended : b.Ended 1 := by
    obtain ⟨outcome, hresult⟩ := Option.isSome_iff_exists.1
      (show ((start.run studio events).result? 1).isSome = true from rfl)
    exact ⟨_, outcome, rfl, hresult⟩
  obtain ⟨hways, hclock⟩ := batch_groups_never_overlap hopen [] documents ⟨2, options⟩
  obtain ⟨hbarrier, -⟩ := hways events b hgoes
  obtain ⟨last, hlast, hover, -⟩ := hclock (show 0 < 3 by decide)
  obtain ⟨-, -, -, -, -, hitems⟩ := hways _ last hlast
  exact ⟨studio, start, b, hopen, hgoes, ⟨_, 0, rfl, rfl⟩, hopened, hended,
    fun event next hstep hbegan => hopened (hbarrier event next hstep 0 2 (by decide) hbegan),
    last, hlast, hover, (hitems hover).1⟩

end Press

end CanvasPress
