/-
  Parley.Proofs.Entry
  ───────────────────
  **CALLBACKS FOR THE ENTRY OF A THREAD.**

  A visit enters a thread if it begins with its first line and the position
  before it was in another thread.  Then, and only then, the callbacks for the
  entry of that thread run, before anything else in the visit:

    • `Batch.entryCallbacks` — in a batch that succeeds each of its callbacks
      runs once, in order,
    • `visitAt_entering` — what a visit brings, the entry first (`Entering`),
    • `serve_entries` — in every turn, at every position that it resolves.

  What counts as the position before is the one resolved last; at the first
  position of a turn it is where the dialog was left, and nowhere if it begins.
-/
import Parley.Proofs.Visits
import Parley.Stage

namespace Parley

variable {σ H : Type}

namespace Event

/-- Whether a session is not made or a callback fails. -/
def callFails : Event H → Bool
  | .spawned ok | .entryCall _ _ ok | .changeCall _ _ _ ok | .branchCall _ _ _ ok
  | .endCall _ _ ok => !ok
  | _ => false

/-- The callback for the entry of a thread that is called. -/
def entryCallback? : Event H → Option H
  | .entryCall callback _ _ => some callback
  | _ => none

/-- No other event is the call of a callback for an entry. -/
theorem entryCallback?_eq_none {e : Event H} (h : e.kind ≠ .entryCall) :
    e.entryCallback? = none := by
  cases e with
  | entryCall => exact absurd rfl h
  | _ => rfl

end Event

/-- The events until the next position is resolved. -/
def untilReached (events : List (Event H)) : List (Event H) :=
  events.takeWhile fun e => e.kind ≠ .reached

/-- Until the next position all is passed that resolves none. -/
theorem untilReached_append {tail : List (Event H)} (h : ∀ e ∈ tail, e.kind ≠ .reached)
    (later : List (Event H)) : untilReached (tail ++ later) = tail ++ untilReached later :=
  List.takeWhile_append_of_pos fun e he => by simpa using h e he

/-- Where no position is resolved, nothing is left out. -/
theorem untilReached_eq_self {events : List (Event H)} (h : ∀ e ∈ events, e.kind ≠ .reached) :
    untilReached events = events := by
  have happend := untilReached_append h []
  rw [List.append_nil] at happend
  rw [happend]
  exact List.append_nil events

/-! ## §1. Batches for the entry of a thread. -/

variable {w : World σ H}

/-- In a relay that succeeds each callback runs once, in order. -/
theorem Relay.entryCallbacks {session : Session} {batch : List H} {handle last : Handle}
    {env env' : Env σ} {events : List (Event H)}
    (h : Relay w.entering session batch handle env ⟨.ok last, env', events⟩) :
    events.filterMap Event.entryCallback? = batch := by
  generalize ho : (⟨.ok last, env', events⟩ : Outcome σ H Handle) = o at h
  -- along the relay; each call is one event, of its own callback
  induction h generalizing events with
  | done =>
    cases ho
    rfl
  | failed => cases ho
  | passed _ _ ih =>
    cases ho
    exact congrArg (List.cons _) (ih rfl)

/-- In a batch for an entry that succeeds each of its callbacks runs once, in
order. -/
theorem Batch.entryCallbacks {batch : List H} {handle last : Handle} {env env' : Env σ}
    {events : List (Event H)} (h : Batch w w.entering batch handle env ⟨.ok last, env', events⟩) :
    events.filterMap Event.entryCallback? = batch := by
  cases h with
  | empty => rfl
  | relayed _ _ hrelay =>
    rw [List.filterMap_cons_none rfl]
    exact hrelay.entryCallbacks

/-- In a relay that fails the call of a callback does. -/
theorem Relay.callFails {session : Session} {batch : List H} {handle : Handle}
    {env env' : Env σ} {fault : Fault} {events : List (Event H)}
    (h : Relay w.entering session batch handle env ⟨.error fault, env', events⟩) :
    ∃ e ∈ events, e.callFails = true := by
  generalize ho : (⟨.error fault, env', events⟩ : Outcome σ H Handle) = o at h
  -- along the relay, up to the call that fails
  induction h generalizing events with
  | done => cases ho
  | failed =>
    cases ho
    exact ⟨_, List.mem_singleton_self _, rfl⟩
  | passed _ _ ih =>
    cases ho
    obtain ⟨e, he, hfails⟩ := ih rfl
    exact ⟨e, List.mem_cons_of_mem _ he, hfails⟩

/-- In a batch for an entry that fails no session is made, or a callback fails. -/
theorem Batch.callFails {batch : List H} {handle : Handle} {env env' : Env σ} {fault : Fault}
    {events : List (Event H)}
    (h : Batch w w.entering batch handle env ⟨.error fault, env', events⟩) :
    ∃ e ∈ events, e.callFails = true := by
  cases h with
  | unspawned => exact ⟨_, List.mem_singleton_self _, rfl⟩
  | relayed _ _ hrelay =>
    obtain ⟨e, he, hfails⟩ := hrelay.callFails
    exact ⟨e, List.mem_cons_of_mem _ he, hfails⟩

namespace Dialog

variable (d : Dialog H) (w : World σ H)

/-! ## §2. Visits. -/

/-- Whether a visit to a position enters its thread, where the position before it
was in another. -/
def Enters (previous : String) (p : Position) : Prop := p.index = 0 ∧ previous ≠ p.thread

instance (previous : String) (p : Position) : Decidable (Enters previous p) :=
  inferInstanceAs (Decidable (_ ∧ _))

/-- What a visit at a place brings after its position is resolved: the callbacks
for the entry of its thread, if it enters one, and then the rest. -/
inductive Entering (a : Place σ) : List (Event H) → Prop
  /-- No thread is entered, and no such callback runs. -/
  | stays {events : List (Event H)} (h : ¬ Enters a.working.thread a.position)
      (hnone : ∀ e ∈ events, e.kind ≠ .entryCall) : Entering a events
  /-- The callbacks for the thread run, from a handle at the position with the
  variables of the turn, and none of them afterwards.  If they move the handle,
  nothing follows but the end of a dialog that has come to its end. -/
  | enters {last : Handle} {env : Env σ} {entry rest : List (Event H)}
      (h : Enters a.working.thread a.position)
      (hbatch : Batch w w.entering (d.hooks.atEntry a.position.thread)
        ⟨d.id, a.position, a.working.values⟩ a.env ⟨.ok last, env, entry⟩)
      (hrest : ∀ e ∈ rest, e.kind ≠ .entryCall)
      (hmoved : last.position ≠ a.position → ∀ e ∈ rest, e.kind ∈ endKinds) :
      Entering a (entry ++ rest)

variable {d w} in
/-- The callbacks that run are those for the thread, if one is entered. -/
theorem Entering.callbacks {a : Place σ} {events : List (Event H)}
    (h : d.Entering w a events) :
    events.filterMap Event.entryCallback?
      = if Enters a.working.thread a.position then d.hooks.atEntry a.position.thread
        else [] := by
  cases h with
  | stays h hnone =>
    rw [if_neg h]
    exact List.filterMap_eq_nil_iff.mpr fun e he => Event.entryCallback?_eq_none (hnone e he)
  | enters h hbatch hrest _ =>
    have hlater := List.filterMap_eq_nil_iff.mpr
      fun e he => Event.entryCallback?_eq_none (hrest e he)
    rw [if_pos h, List.filterMap_append, hbatch.entryCallbacks, hlater, List.append_nil]

variable {d w} in
/-- What follows a visit before the next position is the end of the dialog at
most, and no such callback. -/
theorem Entering.append {a : Place σ} {events later : List (Event H)}
    (h : d.Entering w a events) (hlater : ∀ e ∈ later, e.kind ∈ endKinds) :
    d.Entering w a (events ++ later) := by
  have hnone : ∀ e ∈ later, e.kind ≠ .entryCall := by
    intro e he hkind
    have hend := hlater e he
    rw [hkind] at hend
    simp [endKinds] at hend
  have hsplit : ∀ {q : Event H → Prop} {first : List (Event H)}, (∀ e ∈ first, q e) →
      (∀ e ∈ later, q e) → ∀ e ∈ first ++ later, q e :=
    fun hfirst hlast => List.forall_mem_append.mpr ⟨hfirst, hlast⟩
  -- the end of the dialog calls callbacks of its own
  cases h with
  | stays h hstays => exact .stays h (hsplit hstays hnone)
  | enters h hbatch hrest hmoved =>
    rw [List.append_assoc]
    exact .enters h hbatch (hsplit hrest hnone) fun hne => hsplit (hmoved hne) hlater

/-- How the entry of a thread goes at a place. -/
theorem enterAt_cases (a : Place σ) :
    (∃ fault env entry, d.enterAt w a = ⟨.error fault, env, entry⟩
        ∧ ∃ e ∈ entry, e.callFails = true)
      ∨ (¬ Enters a.working.thread a.position
        ∧ d.enterAt w a = ⟨.ok (a.working.arrive a.position, none), a.env, []⟩)
      ∨ (Enters a.working.thread a.position ∧ ∃ last env entry,
        d.enterAt w a = ⟨.ok ({ a.working.arrive a.position with values := last.values },
          last.redirect? a.position), env, entry⟩
        ∧ Batch w w.entering (d.hooks.atEntry a.position.thread)
          ⟨d.id, a.position, a.working.values⟩ a.env ⟨.ok last, env, entry⟩) := by
  unfold enterAt enter
  -- a thread is entered at its first line, from another thread
  by_cases h : Enters a.working.thread a.position
  · rw [if_pos (show (d.stepOf a).position.index = 0
      ∧ a.working.thread ≠ (d.stepOf a).position.thread from h)]
    have hbatch := d.runEntry_batch w a.position.thread
      ⟨d.id, a.position, a.working.values⟩ a.env
    rcases hrun : d.runEntry w a.position.thread ⟨d.id, a.position, a.working.values⟩ a.env
      with ⟨result, env, entry⟩
    rw [hrun] at hbatch
    cases result with
    | error fault => exact .inl ⟨fault, env, entry, Act.bind_of_error hrun, hbatch.callFails⟩
    | ok last =>
      refine .inr (.inr ⟨h, last, env, entry, ?_, hbatch⟩)
      refine (Act.bind_of_ok hrun).trans ?_
      simp [Outcome.after]
      rfl
  · rw [if_neg (show ¬ ((d.stepOf a).position.index = 0
      ∧ a.working.thread ≠ (d.stepOf a).position.thread) from h)]
    exact .inr (.inl ⟨h, rfl⟩)

/-- After the entry of a thread none of its callbacks runs again; if they led
elsewhere, nothing follows. -/
theorem entering_of_entered {a : Place σ} {entered : Progress} {redirect : Option Position}
    {env : Env σ} {entry rest : List (Event H)}
    (hentry : d.enterAt w a = ⟨.ok (entered, redirect), env, entry⟩)
    (hrest : ∀ e ∈ rest, e.kind ≠ .entryCall) (hnone : redirect ≠ none → rest = []) :
    d.Entering w a (entry ++ rest) := by
  rcases d.enterAt_cases w a with
    ⟨_, _, _, hcase, _⟩ | ⟨hstays, hcase⟩ | ⟨henters, last, _, _, hcase, hbatch⟩
  · rw [hcase] at hentry
    cases hentry
  · rw [hcase] at hentry
    cases hentry
    exact .stays hstays hrest
  · rw [hcase] at hentry
    cases hentry
    refine .enters henters hbatch hrest fun hne => ?_
    -- a handle that was moved leads elsewhere
    have hmoved : last.redirect? a.position ≠ none := by
      rw [Handle.redirect?_of_ne hne]
      exact Option.some_ne_none _
    rw [hnone hmoved]
    exact fun _ he => absurd he List.not_mem_nil

/-- **What a visit brings**: first the callbacks for the entry of its thread, if
it enters one, and then the rest. -/
theorem visitAt_entering {lines : List (Line H)} {a : Place σ} {tail : List (Event H)}
    (htail : (d.visitAt w lines a).events = .reached a.position :: tail)
    (hsmooth : ∀ e ∈ tail, e.callFails = false) :
    d.Entering w a tail := by
  have hvisiting := d.visitAt_visiting w lines a
  generalize d.visitAt w lines a = o at hvisiting htail
  have hanswers : ∀ entered env, ∀ e ∈ (d.answerBefore w lines (d.stepOf a) entered env).events,
      e.kind ≠ .entryCall :=
    d.answerBefore_lacks w (by simp [takingKinds, branchKinds]) lines (d.stepOf a)
  have hruns : ∀ answered route env,
      ∀ e ∈ (d.lineRoute w lines (d.stepOf a) answered route env).events,
        e.kind ≠ .entryCall := fun answered route =>
    Act.Lacks.of_confined (d.lineRoute_confined w lines (d.stepOf a) answered route) (by simp)
  -- whichever part the visit gets to, those after the entry have no such callback
  cases hvisiting with
  | barred hentry =>
    cases htail
    rcases d.enterAt_cases w a with ⟨_, _, _, hcase, e, he, hfails⟩ | ⟨_, hcase⟩ | ⟨_, _, _, _, hcase, _⟩
    · -- the callback that fails is among the events
      rw [hcase] at hentry
      cases hentry
      rw [hsmooth e he] at hfails
      cases hfails
    · rw [hcase] at hentry
      cases hentry
    · rw [hcase] at hentry
      cases hentry
  | redirected hentry =>
    cases htail
    have hentering := d.entering_of_entered w hentry
      (fun _ he => absurd he List.not_mem_nil) (fun _ => rfl)
    rw [List.append_nil] at hentering
    exact hentering
  | @unanswered entered env _ _ _ _ hentry hanswer =>
    cases htail
    have hanswers := hanswers entered env
    rw [hanswer] at hanswers
    exact d.entering_of_entered w hentry hanswers fun h => absurd rfl h
  | @unrun entered answered route env env' _ _ _ _ _ hentry hanswer hline =>
    cases htail
    have hanswers := hanswers entered env
    have hruns := hruns answered route env'
    rw [hanswer] at hanswers
    rw [hline] at hruns
    exact d.entering_of_entered w hentry (List.forall_mem_append.mpr ⟨hanswers, hruns⟩)
      fun h => absurd rfl h
  | @led entered answered route route' env env' env'' entry answering running hentry hanswer
      hline =>
    have hanswers := hanswers entered env
    have hruns := hruns answered route env'
    have hfollows : ∀ e ∈ (d.follow w (d.stepOf a) answered route' env'').events,
        e.kind ≠ .entryCall :=
      Act.Lacks.of_confined (d.follow_confined w (d.stepOf a) answered route')
        (by simp [routeKinds]) env''
    rw [hanswer] at hanswers
    rw [hline] at hruns
    rw [Outcome.after_events, List.cons_append, List.cons.injEq] at htail
    rw [← htail.2, List.append_assoc]
    exact d.entering_of_entered w hentry (List.forall_mem_append.mpr
      ⟨List.forall_mem_append.mpr ⟨hanswers, hruns⟩, hfollows⟩) fun h => absurd rfl h

/-! ## §3. Turns. -/

/-- The thread of the position before one that a call resolves: of the one
resolved last, or at first where the dialog was left. -/
def threadBefore (call : Call) (env : Env σ) (before : List (Event H)) : String :=
  match (visited before).getLast? with
  | some p => p.thread
  | none =>
    match call.task env.saved with
    | .turn _ _ => env.saved.thread
    | .begin _ | .nothing _ => ""

/-- After some events, the turn of a call is at a place. -/
def Arrives (call : Call) (env : Env σ) (past : List (Event H)) (a : Place σ) : Prop :=
  ∃ start n, d.outset call env = some start ∧ d.Leads w n start past a

/-- The callbacks for the entry of threads, in the outcome of a call. -/
structure EntriesOnce (call : Call) (env : Env σ) (o : Outcome σ H Report) : Prop where
  /-- None runs before a position is resolved. -/
  opens : ∀ e ∈ untilReached o.events, e.kind ≠ .entryCall
  /-- At every position that is resolved, each callback for the entry of its thread
  runs once, in order, if the thread is entered there, and none otherwise. -/
  callbacks : ∀ before p rest, o.events = before ++ .reached p :: rest →
    (untilReached rest).filterMap Event.entryCallback?
      = if Enters (threadBefore call env before) p then d.hooks.atEntry p.thread else []
  /-- They run before anything else there, each with the handle that the one before
  handed back, and if they move it nothing else happens there. -/
  entering : ∀ before p rest, o.events = before ++ .reached p :: rest →
    ∃ a, d.Arrives w call env before a ∧ a.position = p
      ∧ a.working.thread = threadBefore call env before ∧ d.Entering w a (untilReached rest)
  /-- A dialog that goes on enters no thread at its first position. -/
  resumed : ∀ cause reply, call.task env.saved = .turn cause reply →
    ∀ before p rest, o.events = before ++ .reached p :: rest → visited before = [] →
    ∀ e ∈ untilReached rest, e.kind ≠ .entryCall

variable {d} in
/-- Where a way comes to, the thread before is that of the turn. -/
theorem threadBefore_of_leads {w : World σ H} {call : Call} {env : Env σ} {start b : Place σ}
    {n : Nat} {before : List (Event H)} (houtset : d.outset call env = some start)
    (hleads : d.Leads w n start before b) :
    threadBefore call env before = b.working.thread := by
  rw [hleads.visited.2]
  unfold threadBefore
  -- a visit stands in the thread of its position; without one the turn is where it set out
  cases (visited before).getLast? with
  | some p => rfl
  | none =>
    cases htask : call.task env.saved with
    | begin options =>
      rw [d.outset_of_begin htask] at houtset
      cases houtset
      rfl
    | turn cause reply =>
      rw [d.outset_of_turn htask] at houtset
      cases houtset
      rfl
    | nothing result =>
      rw [d.outset_of_nothing htask] at houtset
      cases houtset

/-- At every position that a call resolves the callbacks run as they should. -/
theorem serve_entering {call : Call} {env : Env σ}
    (hsmooth : ∀ e ∈ (d.serve w call env).events, e.callFails = false)
    {before rest : List (Event H)} {p : Position}
    (h : (d.serve w call env).events = before ++ .reached p :: rest) :
    ∃ a, d.Arrives w call env before a ∧ a.position = p
      ∧ a.working.thread = threadBefore call env before
      ∧ d.Entering w a (untilReached rest) := by
  cases houtset : d.outset call env with
  | none =>
    rcases d.serve_of_no_outset w houtset with hserve | ⟨fault, hserve⟩
    · rw [hserve] at h
      simp at h
    · rw [hserve] at h
      simp at h
  | some start =>
    rw [d.serve_of_outset w houtset, Outcome.commit_events] at h hsmooth
    -- the position is resolved by a visit at the place that the way comes to
    obtain ⟨n, b, lines, tail, later, _, hleads, rfl, hthread, hin, hvisit, rfl, hlater⟩ :=
      d.loopAt_at w d.settings.maxSteps start h
    refine ⟨b, ⟨start, n, houtset, hleads⟩, rfl, (threadBefore_of_leads houtset hleads).symm, ?_⟩
    have hquiet : ∀ e ∈ tail, e.kind ≠ .reached := by
      obtain ⟨tail', htail', hlacks⟩ := d.visitAt_events w lines b
      rw [hvisit, List.cons.injEq] at htail'
      rw [htail'.2]
      exact hlacks
    have hentering := d.visitAt_entering w hvisit fun e he => hsmooth e (by rw [h]; simp [he])
    rw [untilReached_append hquiet]
    rcases hlater with ⟨q, more, rfl⟩ | hend
    · -- another position is resolved next
      rw [show untilReached (.reached q :: more : List (Event H)) = [] from rfl,
        List.append_nil]
      exact hentering
    · have hself : untilReached later = later := untilReached_eq_self fun e he hkind => by
        have hmem := hend e he
        rw [hkind] at hmem
        simp [endKinds] at hmem
      rw [hself]
      exact hentering.append hend

/-- Before the first position nothing happens but the end of a dialog that has come
to its end. -/
theorem serve_opens (call : Call) (env : Env σ) :
    ∀ e ∈ untilReached (d.serve w call env).events, e.kind ∈ endKinds := by
  cases houtset : d.outset call env with
  | none =>
    rcases d.serve_of_no_outset w houtset with hserve | ⟨fault, hserve⟩
    all_goals
      rw [hserve]
      exact fun _ he => absurd he List.not_mem_nil
  | some start =>
    rw [d.serve_of_outset w houtset, Outcome.commit_events]
    rcases d.loopAt_opens w d.settings.maxSteps start with ⟨more, hopens⟩ | hend
    · rw [hopens]
      exact fun _ he => absurd he List.not_mem_nil
    · exact fun e he => hend e ((List.takeWhile_sublist _).subset he)

/-- **Callbacks for the entry of a thread run when it is entered, and only
then.**  In a turn in which no callback fails and every session is made, they run
at the positions that begin a thread where the position before was in another. -/
theorem serve_entries {call : Call} {env : Env σ}
    (hsmooth : ∀ e ∈ (d.serve w call env).events, e.callFails = false) :
    d.EntriesOnce w call env (d.serve w call env) := by
  constructor
  case opens =>
    intro e he hkind
    have hend := d.serve_opens w call env e he
    rw [hkind] at hend
    simp [endKinds] at hend
  case callbacks =>
    intro before p rest h
    obtain ⟨a, _, rfl, hthread, hentering⟩ := d.serve_entering w hsmooth h
    rw [← hthread]
    exact hentering.callbacks
  case entering =>
    intro before p rest h
    exact d.serve_entering w hsmooth h
  case resumed =>
    intro cause reply htask before p rest h hfirst
    obtain ⟨a, ⟨start, n, houtset, hleads⟩, rfl, hthread, hentering⟩ :=
      d.serve_entering w hsmooth h
    -- no visit leads there, so it is where the dialog was left, in the same thread
    obtain rfl : n = 0 := by rw [← hleads.visited.1, hfirst, List.length_nil]
    cases hleads
    rw [d.outset_of_turn htask] at houtset
    cases houtset
    generalize untilReached rest = events at hentering
    cases hentering with
    | stays _ hnone => exact hnone
    | enters henters => exact absurd rfl henters.2

/-- A dialog of two threads; entering the second writes a variable. -/
def gateDialog : Dialog Routine where
  id := "gate"
  script := (Script.empty.addAction "default" {} (.jump "garden")).addMessage "garden" {}
  hooks := (Hooks.none.onEntry "garden" [.set "seen" (.bool true)]).onEntry "garden" []

/-- Both callbacks for the garden run when it is entered from the main thread. -/
theorem gateDialog_entries :
    gateDialog.EntriesOnce Stage.world (.begin .empty) ⟨Stage.new "c", ⟨[], 0⟩, {}⟩
      (gateDialog.serve Stage.world (.begin .empty) ⟨Stage.new "c", ⟨[], 0⟩, {}⟩) := by
  have hsmooth : ∀ e ∈ (gateDialog.serve Stage.world (.begin .empty)
      ⟨Stage.new "c", ⟨[], 0⟩, {}⟩).events, e.callFails = false := by decide
  exact gateDialog.serve_entries Stage.world hsmooth

end Dialog

end Parley
