/-
# The history of a press

The chronicle of a run lists the calls that ended and the clearings of the cache, in
order.  A run takes the press on by moves that add exactly its chronicle.  Numbers
are given once: a call that has ended is not in progress, and no later call has its
number, so its result stays what it is.
-/

import CanvasPress.Proofs.Press.Moves
import Mathlib.Data.List.Nodup

namespace CanvasPress.Press

variable {studio : Studio} {s s' : State}

/-- The call that a mark records, if it records one. -/
def Mark.call? : Mark → Option Finished
  | .finished call => some call
  | .cleared => none

namespace State

/-! ## What the end of a call touches -/

section Ends

variable (s : State) (job : Job) (outcome : Except Fault Rendering)

@[simp]
theorem now_finish : (s.finish job outcome).now = s.now := by
  cases outcome <;> rfl

@[simp]
theorem cache_finish : (s.finish job outcome).cache = s.cache := by
  cases outcome <;> rfl

@[simp]
theorem engine_finish : (s.finish job outcome).engine = s.engine := by
  cases outcome <;> rfl

@[simp]
theorem jobs_finish : (s.finish job outcome).jobs = s.othersThan job.id := by
  cases outcome <;> rfl

@[simp]
theorem nextId_finish : (s.finish job outcome).nextId = s.nextId := by
  cases outcome <;> rfl

@[simp]
theorem finished_finish :
    (s.finish job outcome).finished = s.ending job outcome :: s.finished := by
  cases outcome <;> rfl

end Ends

/-- A call is over: it is off the list and on record, and neither numbers nor the engine
have changed. -/
structure Closes (s s' : State) (job : Job) (outcome : Except Fault Rendering) : Prop where
  jobs : s'.jobs = s.othersThan job.id
  finished : s'.finished = s.ending job outcome :: s.finished
  nextId : s'.nextId = s.nextId
  engine : s'.engine = s.engine

theorem closes_finish (s : State) (job : Job) (outcome : Except Fault Rendering) :
    s.Closes (s.finish job outcome) job outcome :=
  ⟨jobs_finish _ _ _, finished_finish _ _ _, nextId_finish _ _ _, engine_finish _ _ _⟩

theorem closes_hit (s : State) (job : Job) (outcome : Except Fault Rendering) :
    s.Closes ({ s with hits := s.hits + 1 }.finish job outcome) job outcome :=
  ⟨jobs_finish _ _ _, finished_finish _ _ _, nextId_finish _ _ _, engine_finish _ _ _⟩

theorem closes_deliver (s : State) (job : Job) (work : Work) (conversion : Conversion)
    (filepath : Option String) :
    s.Closes (s.deliver job work conversion filepath) job
      (.ok (s.renderingOf job work conversion filepath)) :=
  ⟨jobs_finish _ _ _, finished_finish _ _ _, nextId_finish _ _ _, engine_finish _ _ _⟩

/-! ## The chronicle -/

/-- The calls that ended on the way from one state to another, in order. -/
def endedSince (s s' : State) : List Finished :=
  (s'.finished.take (s'.finished.length - s.finished.length)).reverse

/-- What an event adds to the history. -/
def marks (studio : Studio) (s : State) (event : Event) : List Mark :=
  match event with
  | .clearCache => [.cleared]
  | event => (s.endedSince (s.step studio event)).map .finished

/-- The history of a run, the oldest event first. -/
def chronicle (studio : Studio) : State → List Event → List Mark
  | _, [] => []
  | s, event :: rest => s.marks studio event ++ chronicle studio (s.step studio event) rest

theorem run_append (before after : List Event) :
    s.run studio (before ++ after) = (s.run studio before).run studio after :=
  List.foldl_append

end State

/-- A move adds the calls that it ends to those that have ended. -/
theorem Move.finished {marks : List Mark} (h : Move studio s marks s') :
    s'.finished = (marks.filterMap Mark.call?).reverse ++ s.finished := by
  cases h with
  | hit _ _ _ _ => simp [Mark.call?]; rfl
  | deliver filepath hknows hconverts => simp [Mark.call?, State.deliver]; rfl
  | fail _ _ => simp [Mark.call?]
  | expire _ _ _ => simp [Mark.call?]
  | reject document options fault => rfl
  | _ => rfl

theorem Moves.finished {marks : List Mark} (h : Moves studio s marks s') :
    s'.finished = (marks.filterMap Mark.call?).reverse ++ s.finished := by
  induction h with
  | refl => rfl
  | tail _ move ih => simp [move.finished, ih]

/-- What every move preserves, moves in order preserve. -/
theorem Moves.preserve {P : State → Prop} {marks : List Mark} (h : Moves studio s marks s')
    (hmove : ∀ {s s' : State} {marks : List Mark}, Move studio s marks s' → P s → P s')
    (hstart : P s) : P s' := by
  induction h with
  | refl => exact hstart
  | tail _ move ih => exact hmove move ih

theorem Leads.preserve {P : State → Prop} (h : Leads studio s s')
    (hmove : ∀ {s s' : State} {marks : List Mark}, Move studio s marks s' → P s → P s')
    (hstart : P s) : P s' := by
  obtain ⟨ended, hmoves⟩ := h
  exact hmoves.preserve hmove hstart

namespace State

/-- Every event takes the press on by moves that add what it adds to the history. -/
theorem step_moves (hnumbers : s.HasNumbers) (event : Event) :
    Moves studio s (s.marks studio event) (s.step studio event) := by
  by_cases hclear : event = .clearCache
  · subst hclear
    exact Moves.refl.tail .clear
  · obtain ⟨ended, hmoves⟩ : Leads studio s (s.step studio event) := leads_step hnumbers hclear
    have hfinished : (s.step studio event).finished = ended.reverse ++ s.finished := by
      simpa [List.filterMap_map, Function.comp_def, Mark.call?] using hmoves.finished
    have hmarks : s.marks studio event = ended.map .finished := by
      cases event with
      | clearCache => exact absurd rfl hclear
      | _ => simp [marks, endedSince, hfinished]
    rwa [hmarks]

/-! ## Numbers -/

/-- Calls in progress and calls that have ended have numbers of their own. -/
structure Numbered (s : State) : Prop where
  jobs : s.HasNumbers
  distinct : (s.jobs.map Job.id).Nodup
  finished : ∀ call ∈ s.finished, call.id < s.nextId
  apart : ∀ job ∈ s.jobs, ∀ call ∈ s.finished, call.id ≠ job.id

@[simp]
theorem finished_fresh (settings : Settings) (governor : Governor) :
    (fresh settings governor).finished = [] := rfl

theorem numbered_fresh (settings : Settings) (governor : Governor) :
    (fresh settings governor).Numbered where
  jobs _ hjob := by cases hjob
  distinct := List.nodup_nil
  finished _ hcall := by cases hcall
  apart _ hjob := by cases hjob

/-- A call that waits keeps its number. -/
@[simp]
theorem ids_wait (job : Job) (phase : Phase) :
    (s.wait job phase).jobs.map Job.id = s.jobs.map Job.id := by
  rw [wait, List.map_map]
  refine List.map_congr_left fun other _ => ?_
  by_cases hid : other.id = job.id
  · simp [hid]
  · simp [hid]

theorem ids_othersThan_sublist (s : State) (id : Nat) :
    ((s.othersThan id).map Job.id).Sublist (s.jobs.map Job.id) :=
  List.filter_sublist.map _

theorem mem_othersThan {job : Job} {id : Nat} :
    job ∈ s.othersThan id ↔ job ∈ s.jobs ∧ job.id ≠ id := by
  simp [othersThan]

namespace Numbered

theorem congr (hs : s.Numbered) (hjobs : s'.jobs = s.jobs) (hfinished : s'.finished = s.finished)
    (hnext : s'.nextId = s.nextId) : s'.Numbered where
  jobs job hjob := hnext ▸ hs.jobs job (hjobs ▸ hjob)
  distinct := hjobs ▸ hs.distinct
  finished call hcall := hnext ▸ hs.finished call (hfinished ▸ hcall)
  apart job hjob call hcall := hs.apart job (hjobs ▸ hjob) call (hfinished ▸ hcall)

theorem wait {job known : Job} (hs : s.Numbered) (hknows : s.Knows job known) (phase : Phase) :
    (s.wait job phase).Numbered where
  jobs other hother := by
    rcases mem_jobs_wait hother with rfl | ⟨hmem, -⟩
    · exact hknows.id_lt hs.jobs
    · exact hs.jobs other hmem
  distinct := by
    rw [ids_wait]
    exact hs.distinct
  finished := hs.finished
  apart other hother call hcall := by
    rcases mem_jobs_wait hother with rfl | ⟨hmem, -⟩
    · obtain ⟨hmem, hid⟩ := mem_of_job? hknows.listed
      exact hid ▸ hs.apart known hmem call hcall
    · exact hs.apart other hmem call hcall

theorem ends {job known : Job} {outcome : Except Fault Rendering} (hs : s.Numbered)
    (hknows : s.Knows job known) (hcloses : s.Closes s' job outcome) : s'.Numbered where
  jobs other hother := by
    rw [hcloses.jobs, mem_othersThan] at hother
    exact hcloses.nextId ▸ hs.jobs other hother.1
  distinct := by
    rw [hcloses.jobs]
    exact hs.distinct.sublist (ids_othersThan_sublist s job.id)
  finished call hcall := by
    rw [hcloses.finished] at hcall
    rw [hcloses.nextId]
    rcases List.mem_cons.1 hcall with rfl | hcall
    · exact hknows.id_lt hs.jobs
    · exact hs.finished call hcall
  apart other hother call hcall := by
    rw [hcloses.jobs, mem_othersThan] at hother
    rw [hcloses.finished] at hcall
    rcases List.mem_cons.1 hcall with rfl | hcall
    · exact hother.2.symm
    · exact hs.apart other hother.1 call hcall

end Numbered

end State

theorem Move.numbered {marks : List Mark} (h : Move studio s marks s') (hs : s.Numbered) :
    s'.Numbered := by
  cases h with
  | number =>
      exact ⟨fun job hjob => Nat.lt_succ_of_lt (hs.jobs job hjob), hs.distinct,
        fun call hcall => Nat.lt_succ_of_lt (hs.finished call hcall), hs.apart⟩
  | reject document options fault =>
      refine ⟨fun job hjob => Nat.lt_succ_of_lt (hs.jobs job hjob), hs.distinct,
        fun call hcall => ?_, fun job hjob call hcall => ?_⟩
      · rcases List.mem_cons.1 hcall with rfl | hcall
        · exact Nat.lt_succ_self _
        · exact Nat.lt_succ_of_lt (hs.finished call hcall)
      · rcases List.mem_cons.1 hcall with rfl | hcall
        · exact Nat.ne_of_gt (hs.jobs job hjob)
        · exact hs.apart job hjob call hcall
  | enter ticket document options =>
      refine ⟨hs.jobs.enter rfl rfl rfl, ?_,
        fun call hcall => Nat.lt_succ_of_lt (hs.finished call hcall), fun job hjob call hcall => ?_⟩
      · have hnew : s.nextId ∉ s.jobs.map Job.id := by
          intro hmem
          obtain ⟨job, hjob, hid⟩ := List.mem_map.1 hmem
          exact Nat.ne_of_lt (hs.jobs job hjob) hid
        rw [List.map_append]
        exact List.nodup_append_comm.1 (List.nodup_cons.2 ⟨hnew, hs.distinct⟩)
      · rcases List.mem_append.1 hjob with hjob | hjob
        · exact hs.apart job hjob call hcall
        · cases List.mem_singleton.1 hjob
          exact Nat.ne_of_lt (hs.finished call hcall)
  | drop id =>
      exact ⟨fun job hjob => hs.jobs job (State.mem_othersThan.1 hjob).1,
        hs.distinct.sublist (State.ids_othersThan_sublist s id), hs.finished,
        fun job hjob => hs.apart job (State.mem_othersThan.1 hjob).1⟩
  | rasterize ends hknows => exact hs.wait hknows _
  | paginate hknows => exact hs.wait hknows _
  | save ends hknows => exact hs.wait hknows _
  | hit hknows => exact hs.ends hknows (State.closes_hit _ _ _)
  | deliver filepath hknows => exact hs.ends hknows (State.closes_deliver _ _ _ _ _)
  | fail hknows => exact hs.ends hknows (State.closes_finish _ _ _)
  | expire ms hknows => exact hs.ends hknows (State.closes_finish _ _ _)
  | _ => exact hs.congr rfl rfl rfl

namespace State

/-- A known call is the only one in progress with its number. -/
theorem Numbered.eq_known {job known other : Job} (hs : s.Numbered) (hknows : s.Knows job known)
    (hother : other ∈ s.jobs) (hid : other.id = job.id) : other = known := by
  obtain ⟨hmem, hknown⟩ := mem_of_job? hknows.listed
  exact List.inj_on_of_nodup_map hs.distinct hother hmem (hid.trans hknown.symm)

theorem Numbered.step (hs : s.Numbered) (event : Event) : (s.step studio event).Numbered :=
  (step_moves hs.jobs event).preserve Move.numbered hs

theorem Numbered.run (hs : s.Numbered) (studio : Studio) (events : List Event) :
    (s.run studio events).Numbered := by
  induction events generalizing s with
  | nil => exact hs
  | cons event rest ih => exact ih (hs.step event)

/-- A run takes the press on by moves that add its chronicle to the history. -/
theorem run_moves (hs : s.Numbered) (studio : Studio) (events : List Event) :
    Moves studio s (s.chronicle studio events) (s.run studio events) := by
  induction events generalizing s with
  | nil => exact .refl
  | cons event rest ih => exact (step_moves hs.jobs event).trans (ih (hs.step event))

end State

end CanvasPress.Press
