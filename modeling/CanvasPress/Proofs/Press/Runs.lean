/-
# A rendering is a run

The clock of a press only chooses which event comes next and when.  So what holds after
every run holds when the clock has driven a press, and when a document has been rendered.
-/

import CanvasPress.Press.Batch
import CanvasPress.Press.Open
import CanvasPress.Proofs.Press.Chronicle

namespace CanvasPress.Press

variable {studio : Studio} {s s' mid : State}

/-- A press is opened fresh. -/
theorem fresh_of_openWith {settings : Settings} {around : Surroundings}
    (hopen : openWith settings around = .ok (studio, s)) :
    studio.settings = settings ∧ ∃ governor, s = .fresh settings governor := by
  unfold openWith at hopen
  split at hopen
  next => cases hopen
  next =>
    split at hopen
    next => cases hopen
    next =>
      split at hopen
      next => cases hopen
      next governor _ =>
        cases hopen
        exact ⟨rfl, governor, rfl⟩

/-- One state leads to another by some events. -/
def Reaches (studio : Studio) (s s' : State) : Prop :=
  ∃ events, s' = s.run studio events

theorem Reaches.refl (s : State) : Reaches studio s s :=
  ⟨[], rfl⟩

theorem Reaches.trans (first : Reaches studio s mid) (second : Reaches studio mid s') :
    Reaches studio s s' := by
  obtain ⟨before, rfl⟩ := first
  obtain ⟨after, rfl⟩ := second
  exact ⟨before ++ after, (State.run_append before after).symm⟩

/-- One more event. -/
theorem Reaches.next (first : Reaches studio s mid) (event : Event) :
    Reaches studio s (mid.step studio event) :=
  first.trans ⟨[event], rfl⟩

namespace State

/-- The clock is put forward, if the time has not passed. -/
theorem reaches_time (studio : Studio) (s : State) (time : Nat) :
    Reaches studio s { s with now := max s.now time } := by
  refine ⟨[.advance (time - s.now)], ?_⟩
  have hnow : max s.now time = s.now + (time - s.now) := by omega
  rw [hnow]
  rfl

theorem reaches_happen (time : Nat) (event : Event) :
    Reaches studio s (s.happen studio time event) :=
  ((reaches_time studio s time).next event).next (.advance moment)

theorem reaches_driveWhile (goes : State → Bool) (limit : Option Nat) (fuel : Nat) :
    Reaches studio s (s.driveWhile studio goes limit fuel) := by
  induction fuel generalizing s with
  | zero => exact .refl s
  | succ fuel ih =>
      unfold driveWhile
      split_ifs
      · split
        next => exact .refl s
        next time event _ =>
          split_ifs
          · exact .refl s
          · exact (reaches_happen time event).trans ih
      · exact .refl s

theorem reaches_drive (goes : State → Bool) : Reaches studio s (s.drive studio goes) :=
  reaches_driveWhile goes none s.eventBound

theorem reaches_driveUntil (time : Nat) (goes : State → Bool) :
    Reaches studio s (s.driveUntil studio time goes) :=
  reaches_driveWhile goes (some time) s.eventBound

/-- A rendering returns the result of a call that arrives, after some more events; if its
caller gives up before there is one, he leaves at the end. -/
theorem reaches_render (studio : Studio) (s : State) (document : Document)
    (options : RenderOptions) (patience : Option Nat) :
    ∃ last, Reaches studio (s.step studio (.arrive document options)) last ∧
      (s.render studio document options patience).1 = last.result? s.nextId ∧
      Reaches studio last (s.render studio document options patience).2 := by
  have hbegun : Reaches studio (s.step studio (.arrive document options))
      ((s.arrive studio document options).advance moment) :=
    (Reaches.refl _).next (.advance moment)
  cases patience with
  | none => exact ⟨_, hbegun.trans (reaches_drive _), rfl, .refl _⟩
  | some time =>
      refine ⟨_, hbegun.trans (reaches_driveUntil (s.now + time) fun later =>
        (later.result? s.nextId).isNone), ?_⟩
      simp only [render]
      split
      next outcome houtcome => exact ⟨houtcome.symm, .refl _⟩
      next hnone =>
        exact ⟨hnone.symm, (reaches_time studio _ _).next (.leave s.nextId)⟩

end State

end CanvasPress.Press
