/-
# Sweeps go unnoticed

Two presses are alike if they differ at most in what they have reported and in the
stale entries of their caches: both caches mirror one history.  Alike presses stay
alike whatever happens to both, and they stay alike when one of them is swept.  So
the sweeps of a run have no part in what any call returns.
-/

import CanvasPress.Proofs.Cache.History
import CanvasPress.Proofs.Cache.Key
import CanvasPress.Press.Basic

namespace CanvasPress.Press

variable {studio : Studio} {s s' : State} {job : Job} {now : Nat}

/-- An event sweeps the cache. -/
def Event.isPurge : Event → Bool
  | .purgeCache => true
  | _ => false

/-- Two caches mirror one history, or there is none. -/
inductive CachesAlike (now : Nat) :
    Option (Cache Rendering) → Option (Cache Rendering) → Prop where
  | none : CachesAlike now none none
  | some {cache cache' : Cache Rendering} {history : List (Cache.Mark Rendering)}
      (hexpiry : cache.expiry = cache'.expiry) (h : cache.Mirrors now history)
      (h' : cache'.Mirrors now history) : CachesAlike now (some cache) (some cache')

/-- Two presses differ in nothing but their reports and what is stale in their caches. -/
def State.Alike (s s' : State) : Prop :=
  ∃ cache log, s' = { s with cache := cache, log := log } ∧ CachesAlike s.now s.cache cache

namespace State.Alike

theorem now_eq (h : s.Alike s') : s'.now = s.now := by
  obtain ⟨cache, log, rfl, -⟩ := h
  rfl

theorem engine_eq (h : s.Alike s') : s'.engine = s.engine := by
  obtain ⟨cache, log, rfl, -⟩ := h
  rfl

theorem governor_eq (h : s.Alike s') : s'.governor = s.governor := by
  obtain ⟨cache, log, rfl, -⟩ := h
  rfl

theorem jobs_eq (h : s.Alike s') : s'.jobs = s.jobs := by
  obtain ⟨cache, log, rfl, -⟩ := h
  rfl

theorem nextId_eq (h : s.Alike s') : s'.nextId = s.nextId := by
  obtain ⟨cache, log, rfl, -⟩ := h
  rfl

theorem finished_eq (h : s.Alike s') : s'.finished = s.finished := by
  obtain ⟨cache, log, rfl, -⟩ := h
  rfl

theorem job?_eq (h : s.Alike s') (id : Nat) : s'.job? id = s.job? id := by
  rw [State.job?, h.jobs_eq]
  rfl

theorem report (h : s.Alike s') (lines lines' : List LogLine) :
    (s.report lines).Alike (s'.report lines') := by
  obtain ⟨cache, log, rfl, hcaches⟩ := h
  exact ⟨cache, log ++ lines', rfl, hcaches⟩

theorem wait (h : s.Alike s') (job : Job) (phase : Phase) :
    (s.wait job phase).Alike (s'.wait job phase) := by
  obtain ⟨cache, log, rfl, hcaches⟩ := h
  exact ⟨cache, log, rfl, hcaches⟩

theorem finish (h : s.Alike s') (job : Job) (outcome : Except Fault Rendering) :
    (s.finish job outcome).Alike (s'.finish job outcome) := by
  obtain ⟨cache, log, rfl, hcaches⟩ := h
  cases outcome with
  | ok rendering => exact ⟨cache, log, rfl, hcaches⟩
  | error fault => exact ⟨cache, log ++ failureLog job.document fault, rfl, hcaches⟩

theorem deliver (h : s.Alike s') (job : Job) (work : Work) (conversion : Conversion)
    (filepath : Option String) :
    (s.deliver job work conversion filepath).Alike
      (s'.deliver job work conversion filepath) := by
  obtain ⟨cache, log, rfl, hcaches⟩ := h
  unfold State.deliver
  refine finish ⟨_, log, rfl, ?_⟩ job _
  generalize s.cache = before at hcaches ⊢
  cases hcaches with
  | none => exact .none
  | some hexpiry hmirrors hmirrors' =>
      exact .some (by simpa using hexpiry) (hmirrors.put work.key _) (hmirrors'.put work.key _)

theorem converted (h : s.Alike s') (job : Job) (work : Work)
    (outcome : Except Fault Conversion) :
    (s.converted studio job work outcome).Alike (s'.converted studio job work outcome) := by
  cases outcome with
  | error fault => exact h.finish job (.error fault)
  | ok conversion =>
      simp only [State.converted]
      cases studio.settings.outputPath with
      | none => exact h.deliver job work conversion none
      | some _ =>
          rw [h.now_eq]
          exact h.wait job _

theorem passOn (h : s.Alike s') (answer : Nat × Engine.Reply) :
    (s.passOn studio answer).Alike (s'.passOn studio answer) := by
  simp only [State.passOn, h.job?_eq]
  split
  next job _ =>
    split
    next work _ =>
      unfold answered
      split
      next reason => exact (h.report _ _).converted job work _
      next => exact h.converted job work _
      next => exact h.converted job work _
      next => exact h
    next => exact h
  next => exact h

theorem withEngine (h : s.Alike s') (engine : Engine) (lines lines' : List LogLine) :
    (s.withEngine studio engine lines).Alike (s'.withEngine studio engine lines') := by
  have hstart : ({ s with engine := engine }.report lines).Alike
      ({ s' with engine := engine }.report lines') := by
    obtain ⟨cache, log, rfl, hcaches⟩ := h
    exact ⟨cache, log ++ lines', rfl, hcaches⟩
  simp only [State.withEngine, h.engine_eq]
  generalize (engine.replies.take (engine.replies.length - s.engine.replies.length)).reverse =
    answers
  generalize { s with engine := engine }.report lines = t,
    { s' with engine := engine }.report lines' = t' at hstart ⊢
  induction answers generalizing t t' with
  | nil => exact hstart
  | cons answer rest ih => exact ih _ _ (hstart.passOn answer)

theorem convert (h : s.Alike s') (job : Job) (work : Work) :
    (s.convert studio job work).Alike (s'.convert studio job work) := by
  unfold State.convert
  split
  next => exact h.converted job work _
  next =>
    rw [h.now_eq]
    exact h.wait job _
  next =>
    have hwaits := h.wait job (.paginating work)
    dsimp only
    rw [hwaits.engine_eq, hwaits.now_eq]
    exact hwaits.withEngine _ _ _

theorem composed (h : s.Alike s') (job : Job) (key : String) :
    (s.composed studio job key).Alike (s'.composed studio job key) := by
  have htime : s'.timeOfDay studio = s.timeOfDay studio := by
    simp only [timeOfDay, h.now_eq]
  simp only [State.composed, htime, h.now_eq]
  exact (h.report _ _).convert job _

theorem countHit (h : s.Alike s') :
    State.Alike { s with hits := s.hits + 1 } { s' with hits := s'.hits + 1 } := by
  obtain ⟨cache, log, rfl, hcaches⟩ := h
  exact ⟨cache, log, rfl, hcaches⟩

/-- Both presses find the same, or nothing. -/
theorem begin (h : s.Alike s') (job : Job) :
    (s.begin studio job).Alike (s'.begin studio job) := by
  obtain ⟨after, log, rfl, hcaches⟩ := h
  have hname := isSome_shortKey?_cacheKey job.document job.options
  generalize hbefore : s.cache = before at hcaches
  cases hcaches with
  | none =>
      have halike : s.Alike { s with cache := none, log := log } :=
        ⟨none, log, rfl, by rw [hbefore]; exact .none⟩
      simp only [State.begin, hbefore]
      exact halike.composed _ _
  | @some cache cache' history hexpiry hmirrors hmirrors' =>
      have hlooked :
          State.Alike { s with cache := some (cache.get s.now (cacheKey _ _)).2 }
            { s with cache := some (cache'.get s.now (cacheKey _ _)).2, log := log } :=
        ⟨_, log, rfl, .some (by simpa using hexpiry) (hmirrors.get hname) (hmirrors'.get hname)⟩
      simp only [State.begin, hbefore, ← hmirrors.get_agree hmirrors' hexpiry hname]
      split
      next =>
        exact (((hlooked.report _ _).countHit).report _ _).finish _ _
      next => exact ((hlooked.report _ _).report _ _).composed _ _

/-! ### Events -/

theorem govern (h : s.Alike s') (governor : Governor) :
    State.Alike { s with governor := governor } { s' with governor := governor } := by
  obtain ⟨cache, log, rfl, hcaches⟩ := h
  exact ⟨cache, log, rfl, hcaches⟩

theorem leaveEngine (h : s.Alike s') (id : Nat) :
    State.Alike { s with engine := s.engine.leave id }
      { s' with engine := s'.engine.leave id } := by
  obtain ⟨cache, log, rfl, hcaches⟩ := h
  exact ⟨cache, log, rfl, hcaches⟩

theorem reject (h : s.Alike s') (document : Document) (options : RenderOptions)
    (fault : Fault) :
    (s.reject document options fault).Alike (s'.reject document options fault) := by
  obtain ⟨cache, log, rfl, hcaches⟩ := h
  exact ⟨cache, log, rfl, hcaches⟩

theorem arrive (h : s.Alike s') (document : Document) (options : RenderOptions) :
    (s.arrive studio document options).Alike (s'.arrive studio document options) := by
  obtain ⟨cache, log, rfl, hcaches⟩ := h
  unfold State.arrive
  dsimp only
  split
  next => exact reject ⟨cache, log, rfl, hcaches⟩ document options _
  next =>
    split
    next =>
      apply reject
      exact ⟨cache, log, rfl, hcaches⟩
    next =>
      apply report
      exact ⟨cache, log, rfl, hcaches⟩
    next =>
      apply begin
      exact ⟨cache, log, rfl, hcaches⟩

theorem look (h : s.Alike s') (id : Nat) : (s.look studio id).Alike (s'.look studio id) := by
  simp only [State.look, h.job?_eq, h.governor_eq]
  split
  next job _ =>
    split
    next =>
      split_ifs
      · exact (h.govern _).begin job
      · exact h
    next => exact h
  next => exact h

theorem proceed (h : s.Alike s') (id : Nat) :
    (s.proceed studio id).Alike (s'.proceed studio id) := by
  simp only [State.proceed, h.job?_eq]
  split
  next job _ =>
    split
    next work _ _ => exact h.converted job work _
    next work conversion _ _ =>
      split
      next => exact h.deliver job work conversion _
      next => exact (h.report _ _).deliver job work conversion none
    next => exact h
  next => exact h

theorem expire (h : s.Alike s') (id : Nat) : (s.expire studio id).Alike (s'.expire studio id) := by
  simp only [State.expire, h.job?_eq]
  split
  next job ms _ _ =>
    split
    next => exact h
    next => exact (h.leaveEngine id).finish job _
  next => exact h

theorem leave (h : s.Alike s') (id : Nat) : (s.leave id).Alike (s'.leave id) := by
  simp only [State.leave, h.job?_eq]
  split
  next job _ =>
    obtain ⟨cache, log, rfl, hcaches⟩ := h
    exact ⟨cache, log, rfl, hcaches⟩
  next => exact h.leaveEngine id

theorem askEngine (h : s.Alike s') (request : Engine.Request) :
    (s.askEngine studio request).Alike (s'.askEngine studio request) := by
  have hnumbered : State.Alike { s with nextId := s.nextId + 1 }
      { s' with nextId := s'.nextId + 1 } := by
    obtain ⟨cache, log, rfl, hcaches⟩ := h
    exact ⟨cache, log, rfl, hcaches⟩
  simp only [State.askEngine]
  rw [h.engine_eq, h.now_eq, h.nextId_eq] at *
  exact hnumbered.withEngine _ _ _

theorem hold (h : s.Alike s') : s.hold.2.Alike s'.hold.2 := by
  simp only [State.hold, h.governor_eq]
  split <;> exact h.govern _

theorem advance (h : s.Alike s') (nanos : Nat) : (s.advance nanos).Alike (s'.advance nanos) := by
  obtain ⟨after, log, rfl, hcaches⟩ := h
  refine ⟨after, log, rfl, ?_⟩
  have hlater : s.now ≤ s.now + nanos := Nat.le_add_right _ _
  change CachesAlike (s.now + nanos) s.cache after
  generalize s.cache = before at hcaches ⊢
  cases hcaches with
  | none => exact .none
  | some hexpiry hmirrors hmirrors' =>
      exact .some hexpiry (hmirrors.mono hlater) (hmirrors'.mono hlater)

theorem clearCache (h : s.Alike s') : s.clearCache.Alike s'.clearCache := by
  obtain ⟨after, log, rfl, hcaches⟩ := h
  refine ⟨after.map Cache.clear, log, rfl, ?_⟩
  change CachesAlike s.now (s.cache.map Cache.clear) (after.map Cache.clear)
  generalize s.cache = before at hcaches ⊢
  cases hcaches with
  | none => exact .none
  | some hexpiry hmirrors hmirrors' =>
      exact .some (by simpa using hexpiry) hmirrors.clear hmirrors'.clear

/-- A sweep of one press goes unnoticed. -/
theorem purge_left (h : s.Alike s') : s.purgeCache.Alike s' := by
  obtain ⟨after, log, rfl, hcaches⟩ := h
  refine ⟨after, log, rfl, ?_⟩
  change CachesAlike s.now (s.cache.map fun cache => cache.purge s.now) after
  generalize s.cache = before at hcaches ⊢
  cases hcaches with
  | none => exact .none
  | some hexpiry hmirrors hmirrors' =>
      exact .some (by simpa using hexpiry) hmirrors.purge hmirrors'

/-- Alike presses stay alike whatever happens to both, sweeps apart. -/
theorem step (h : s.Alike s') {event : Event} (hpurge : event ≠ .purgeCache) :
    (s.step studio event).Alike (s'.step studio event) := by
  cases event with
  | arrive document options => exact h.arrive document options
  | look id => exact h.look id
  | proceed id => exact h.proceed id
  | expire id => exact h.expire id
  | leave id => exact h.leave id
  | settle =>
      simp only [State.step, State.settle, h.engine_eq, h.now_eq]
      exact h.withEngine _ _ _
  | serveNext =>
      simp only [State.step, State.serveNext, h.engine_eq, h.now_eq]
      exact h.withEngine _ _ _
  | endPrint who =>
      simp only [State.step, State.endPrint, h.engine_eq]
      exact h.withEngine _ _ _
  | askEngine request => exact h.askEngine request
  | hold => exact h.hold
  | unhold ticket =>
      simp only [State.step, State.unhold, h.governor_eq]
      exact h.govern _
  | advance nanos => exact h.advance nanos
  | clearCache => exact h.clearCache
  | purgeCache => exact absurd rfl hpurge
  | report lines => exact h.report lines lines

/-- A run leaves a press alike to one that is never swept. -/
theorem run (h : s.Alike s') (studio : Studio) (events : List Event) :
    (s.run studio events).Alike (s'.run studio (events.filter fun event => !event.isPurge)) := by
  induction events generalizing s s' with
  | nil => exact h
  | cons event rest ih =>
      by_cases hpurge : event = .purgeCache
      · subst hpurge
        exact ih h.purge_left
      · have hkept : (!event.isPurge) = true := by
          cases event with
          | purgeCache => exact absurd rfl hpurge
          | _ => rfl
        have hfilter : (event :: rest).filter (fun event => !event.isPurge) =
            event :: rest.filter fun event => !event.isPurge := List.filter_cons_of_pos hkept
        rw [hfilter]
        exact ih (h.step hpurge)

end State.Alike

/-- A fresh press is like itself. -/
theorem State.alike_fresh (settings : Settings) (governor : Governor) :
    (fresh settings governor).Alike (fresh settings governor) := by
  refine ⟨_, _, rfl, ?_⟩
  cases hcaching : settings.enableCaching with
  | true =>
      simp only [fresh, hcaching]
      exact .some rfl (Cache.mirrors_empty _ _) (Cache.mirrors_empty _ _)
  | false =>
      simp only [fresh, hcaching]
      exact .none

end CanvasPress.Press
