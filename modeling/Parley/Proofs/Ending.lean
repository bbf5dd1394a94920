/-
  Parley.Proofs.Ending
  ────────────────────
  **A DIALOG ENDS ONCE.**

  A turn ends the dialog, or replaces it, at most once, and that is the last
  that the user hears of it in the turn:

    • `conclude_concluding` — the host is told first, and then every callback
      for the end, each about the same variables,
    • `visitAt_closing` — a visit that goes on has nothing to do with the end,
      and one that does not closes the turn in one of a few ways (`Closing`),
    • `serve_endsOnce` — a call reports that the dialog is complete, replaced or
      waiting exactly as the host was told, and the variables it reports are
      those it told the callbacks and those it saved.

  A directive that ends the dialog leaves its mark in the variables; the end of
  a thread leaves them as they were (`EndsAt`).
-/
import Parley.Proofs.Visits

namespace Parley

variable {σ H : Type}

/-- Whether the host is called to end the dialog or to replace it. -/
def Event.closes : Event H → Bool
  | .finished .. | .handedOver .. => true
  | _ => false

/-- The ending that a directive orders. -/
def Directive.ending? : Directive → Option Ending
  | .complete => some .completed
  | .stop => some .canceled
  | .timeout => some .timeout
  | _ => none

/-- Only a directive that orders an ending leads to one, and to the ending it orders. -/
theorem Directive.ending?_of_route {directive : Directive} {s : Script H} {p : Position}
    {ending : Ending} (h : directive.route s p = .finish ending) :
    directive.ending? = some ending := by
  cases directive with
  | jump thread =>
    change (if s.hasThread thread then Route.restart ⟨thread, 0⟩ else .onward) = _ at h
    split at h <;> cases h
  | complete | stop | timeout =>
    cases h
    rfl
  | next | again | hold | handOver => cases h

namespace Dialog

variable (d : Dialog H) (w : World σ H)

/-! ## §1. The end of the dialog. -/

/-- Every callback for the end, once and in order, is told the variables. -/
def tellings (values : Values) : List (Event H) :=
  match d.hooks.ending with
  | [] => []
  | batch => .spawned true :: batch.map fun h => .endCall h values true

/-- What comes of ending the dialog with a reply and its final variables. -/
inductive Concluding (reply : Option String) (values : Values) :
    Except Fault Report → List (Event H) → Prop
  /-- The host ends the dialog, and then every callback for the end runs. -/
  | told : Concluding reply values (.ok (.complete values))
      (.finished reply true :: d.tellings values)
  /-- The host does not end the dialog, no session is made, or a callback
  fails. -/
  | untold {fault : Fault} {ok : Bool} {rest : List (Event H)}
      (hrest : ∀ e ∈ rest, e.kind ∈ [EventKind.spawned, .endCall]) :
      Concluding reply values (.error fault) (.finished reply ok :: rest)

/-- A session that is made brings the one event of its making. -/
theorem spawn_events {env env' : Env σ} {session : Session} {events : List (Event H)}
    (h : spawn w env = ⟨.ok session, env', events⟩) : events = [.spawned true] := by
  unfold spawn at h
  rcases Act.call_cases (H := H) .spawned w.spawn env with
    ⟨fault, world, hspawn⟩ | ⟨_, world, hspawn⟩
  · rw [hspawn] at h
    cases h
  · rw [hspawn] at h
    cases h
    rfl

/-- Callbacks for the end that all succeed bring one event each, in order. -/
theorem tellAll_events (session : Session) (values : Values) :
    ∀ (batch : List H) {env env' : Env σ} {u : Unit} {events : List (Event H)},
      tellAll w session values batch env = ⟨.ok u, env', events⟩ →
      events = batch.map fun h => .endCall h values true := by
  intro batch
  -- along the batch; a callback that fails ends it
  induction batch with
  | nil =>
    intro env env' u events h
    cases h
    rfl
  | cons h rest ih =>
    intro env env' u events hall
    unfold tellAll at hall
    rcases Act.call_cases (.endCall h values) (w.atEnd h values session) env with
      ⟨fault, world, hcall⟩ | ⟨_, world, hcall⟩
    · rw [Act.bind_of_error hcall] at hall
      cases hall
    · rw [Act.bind_of_ok hcall] at hall
      rcases hrest : tellAll w session values rest { env with world } with
        ⟨result, env'', events'⟩
      rw [hrest] at hall
      cases hall
      rw [ih hrest]
      rfl

/-- The end of a dialog that goes well brings the tellings of its variables. -/
theorem runEnd_events {values : Values} {env env' : Env σ} {u : Unit}
    {events : List (Event H)} (h : d.runEnd w values env = ⟨.ok u, env', events⟩) :
    events = d.tellings values := by
  unfold tellings
  unfold runEnd at h
  -- a dialog without callbacks for the end makes no session
  cases hbatch : d.hooks.ending with
  | nil =>
    rw [hbatch] at h
    cases h
    rfl
  | cons first rest =>
    rw [hbatch] at h
    change (spawn w >>= fun session => tellAll w session values (first :: rest)) env = _ at h
    rcases Act.bind_cases (spawn w) (fun session => tellAll w session values (first :: rest)) env
      with ⟨fault, env₁, events₁, hspawn, hseq⟩ | ⟨session, env₁, events₁, hspawn, hseq⟩
    · rw [hseq] at h
      cases h
    · rw [hseq] at h
      rcases hall : tellAll w session values (first :: rest) env₁ with ⟨result, env₂, events₂⟩
      rw [hall] at h
      cases h
      rw [tellAll_events w session values _ hall, spawn_events w hspawn]
      rfl

/-- **The end of a dialog.** -/
theorem conclude_concluding (reply : Option String) (values : Values) (env : Env σ) :
    d.Concluding reply values (d.conclude w reply values env).result
      (d.conclude w reply values env).events := by
  unfold conclude
  rcases Act.call_cases (H := H) (.finished reply) (w.finish reply) env with
    ⟨fault, world, hfinish⟩ | ⟨_, world, hfinish⟩
  · -- nothing else is tried
    rw [Act.bind_of_error hfinish]
    exact .untold (by simp)
  · rw [Act.bind_of_ok hfinish]
    have hkinds := (d.runEnd_confined w values).events { env with world }
    rcases hrun : d.runEnd w values { env with world } with ⟨result, env', events⟩
    rw [hrun] at hkinds
    -- the callbacks for the end may fail as well
    cases result with
    | error fault =>
      rw [Act.bind_of_error hrun]
      exact .untold hkinds
    | ok _ =>
      have htold : d.Concluding reply values (.ok (.complete values))
          (.finished reply true :: (events ++ [])) := by
        rw [List.append_nil, d.runEnd_events w hrun]
        exact .told
      rw [Act.bind_of_ok hrun]
      exact htold

/-- The tellings are a session and calls of callbacks for the end. -/
theorem tellings_kinds (values : Values) :
    ∀ e ∈ d.tellings values, e.kind ∈ [EventKind.spawned, .endCall] := by
  intro e he
  unfold tellings at he
  split at he
  · cases he
  · rcases List.mem_cons.mp he with rfl | he
    · simp [Event.kind]
    · obtain ⟨h, _, rfl⟩ := List.mem_map.mp he
      simp [Event.kind]

variable {d} in
/-- The host is told first, and after that only callbacks for the end. -/
theorem Concluding.opens {reply : Option String} {values : Values}
    {result : Except Fault Report} {events : List (Event H)}
    (h : d.Concluding reply values result events) :
    ∃ ok rest, events = .finished reply ok :: rest
      ∧ ∀ e ∈ rest, e.kind ∈ [EventKind.spawned, .endCall] := by
  cases h with
  | told => exact ⟨true, _, rfl, d.tellings_kinds values⟩
  | untold hrest => exact ⟨_, _, rfl, hrest⟩

/-! ## §2. How a turn closes. -/

/-- The directive that decides at a place: that of the branch that the reply
chooses, or that of the line, if the reply leads on to it. -/
inductive Decides (lines : List (Line H)) (a : Place σ) : Directive → Prop
  /-- The reply chooses it. -/
  | chosen {directive : Directive} (h : Chooses lines a directive) : Decides lines a directive
  /-- The line orders it, and no directive that the reply chooses leads
  elsewhere. -/
  | ordered {draft : Draft} {directive : Directive}
      (hline : lines[a.position.index]? = some (.action draft directive))
      (hpass : ∀ chosen, Chooses lines a chosen →
        chosen.route d.script a.position = .onward) : Decides lines a directive

/-- The dialog ends at a place, with the final variables, after what the visit
there brings. -/
inductive EndsAt (a : Place σ) : Values → List (Event H) → Prop
  /-- The thread has no more lines; the variables are those of the turn. -/
  | past {lines : List (Line H)} (hthread : d.script.thread? a.position.thread = some lines)
      (hend : lines.length ≤ a.position.index) : EndsAt a a.working.values []
  /-- A directive ends the dialog, and how is written into a variable. -/
  | ordered {lines : List (Line H)} {directive : Directive} {ending : Ending}
      {values : Values} {tail : List (Event H)}
      (hthread : d.script.thread? a.position.thread = some lines)
      (hin : a.position.index < lines.length) (hdecides : d.Decides lines a directive)
      (hending : directive.ending? = some ending)
      (hmark : values.get? statusKey = some (.string ending.name)) :
      EndsAt a values (.reached a.position :: tail)

/-- How a turn closes at a place: its result, what happened there before, and
what the host and the callbacks are told. -/
inductive Closing (a : Place σ) :
    Except Fault (Progress × Report) → List (Event H) → List (Event H) → Prop
  /-- The turn waits or fails, and the host is told nothing. -/
  | unclosed {result : Except Fault (Progress × Report)} {before : List (Event H)}
      (h : ∀ done, result = .ok done → done.2 = .waiting) : Closing a result before []
  /-- The dialog is replaced. -/
  | replaced {moved : Progress} {before : List (Event H)} {script : String}
      {options : Values} :
      Closing a (.ok (moved, .replaced)) before [.handedOver script options true]
  /-- The host does not replace the dialog. -/
  | unreplaced {fault : Fault} {before : List (Event H)} {script : String}
      {options : Values} :
      Closing a (.error fault) before [.handedOver script options false]
  /-- The dialog ends, with the variables of the progress. -/
  | concluded {moved : Progress} {report : Report} {reply : Option String}
      {before closing : List (Event H)} (hends : d.EndsAt a moved.values before)
      (h : d.Concluding reply moved.values (.ok report) closing) :
      Closing a (.ok (moved, report)) before closing
  /-- Ending the dialog fails. -/
  | unconcluded {fault : Fault} {reply : Option String} {values : Values}
      {before closing : List (Event H)}
      (h : d.Concluding reply values (.error fault) closing) :
      Closing a (.error fault) before closing

/-- Either there are no events, or the first ends or replaces the dialog and the
others are callbacks for the end. -/
def Opens (closing : List (Event H)) : Prop :=
  closing = [] ∨ ∃ e rest, closing = e :: rest ∧ e.closes = true
    ∧ ∀ e ∈ rest, e.kind ∈ [EventKind.spawned, .endCall]

variable {d} in
/-- What closes a turn opens with a call on the host to end or replace the dialog, if it is
anything. -/
theorem Closing.opens {a : Place σ} {result : Except Fault (Progress × Report)}
    {before closing : List (Event H)} (h : d.Closing a result before closing) :
    Opens closing := by
  cases h with
  | unclosed _ => exact .inl rfl
  | replaced => exact .inr ⟨_, [], rfl, rfl, by simp⟩
  | unreplaced => exact .inr ⟨_, [], rfl, rfl, by simp⟩
  | concluded _ h | unconcluded h =>
    obtain ⟨ok, rest, rfl, hrest⟩ := h.opens
    exact .inr ⟨_, rest, rfl, rfl, hrest⟩

variable {d} in
/-- What a turn reports that closes, and what the host was told. -/
theorem Closing.report_cases {a : Place σ} {moved : Progress} {report : Report}
    {before closing : List (Event H)}
    (h : d.Closing a (.ok (moved, report)) before closing) :
    (report.status = .waiting ∧ closing = [])
      ∨ (report.status = .replaced
        ∧ ∃ script options, closing = [.handedOver script options true])
      ∨ (report = .complete moved.values ∧ d.EndsAt a moved.values before
        ∧ ∃ reply, closing = .finished reply true :: d.tellings moved.values) := by
  cases h with
  | unclosed h =>
    have hwaits : report = .waiting := h _ rfl
    exact .inl ⟨by rw [hwaits]; rfl, rfl⟩
  | replaced => exact .inr (.inl ⟨rfl, _, _, rfl⟩)
  | concluded hends h =>
    cases h
    exact .inr (.inr ⟨rfl, hends, _, rfl⟩)

/-- Neither making a session nor a callback for the end closes a dialog. -/
theorem closes_of_kind {e : Event H} (h : e.kind ∈ [EventKind.spawned, .endCall]) :
    e.closes = false := by
  cases e with
  | finished | handedOver => simp [Event.kind] at h
  | _ => rfl

section Reports

variable {d} {a : Place σ} {moved : Progress} {report : Report}
  {before closing : List (Event H)} (h : d.Closing a (.ok (moved, report)) before closing)

include h

/-- A turn reports an end exactly if the host was told of one. -/
theorem Closing.complete_iff :
    report.status = .complete ↔ ∃ e ∈ closing, e.kind = .finished := by
  rcases h.report_cases with ⟨hstatus, rfl⟩ | ⟨hstatus, _, _, rfl⟩ | ⟨rfl, _, reply, rfl⟩
  · simp [hstatus]
  · simp [hstatus, Event.kind]
  · exact ⟨fun _ => ⟨_, List.mem_cons_self, rfl⟩, fun _ => rfl⟩

/-- A turn reports a replacement exactly if the host was told of one. -/
theorem Closing.replaced_iff :
    report.status = .replaced ↔ ∃ e ∈ closing, e.kind = .handedOver := by
  rcases h.report_cases with ⟨hstatus, rfl⟩ | ⟨hstatus, _, _, rfl⟩ | ⟨rfl, _, reply, rfl⟩
  · simp [hstatus]
  · simp [hstatus, Event.kind]
  · refine ⟨(fun hstatus => by cases hstatus), ?_⟩
    rintro ⟨e, he, hkind⟩
    rcases List.mem_cons.mp he with rfl | he
    · cases hkind
    -- the tellings after the end of a dialog replace nothing
    · have htold := d.tellings_kinds moved.values e he
      rw [hkind] at htold
      simp at htold

/-- A turn reports that it waits exactly if the host was told neither. -/
theorem Closing.waiting_iff :
    report.status = .waiting ↔ ∀ e ∈ closing, e.closes = false := by
  rcases h.report_cases with ⟨hstatus, rfl⟩ | ⟨hstatus, _, _, rfl⟩ | ⟨rfl, _, reply, rfl⟩
  · simp [hstatus]
  · simp [hstatus, Event.closes]
  · simp [Report.complete, Event.closes]

/-- Where a turn does not end the dialog, no callback is told of an end. -/
theorem Closing.untold (hstatus : report.status ≠ .complete) :
    ∀ e ∈ closing, e.kind ≠ .endCall := by
  rcases h.report_cases with ⟨_, rfl⟩ | ⟨_, _, _, rfl⟩ | ⟨rfl, _⟩
  · simp
  · simp [Event.kind]
  · exact absurd rfl hstatus

end Reports

/-! ## §3. Visits that close a turn. -/

/-- The host is not told to end or to replace the dialog, and no callback is told
of the end. -/
def Calm (events : List (Event H)) : Prop :=
  ∀ e ∈ events, e.closes = false ∧ e.kind ≠ .endCall

/-- No events are calm. -/
theorem Calm.nil : Calm ([] : List (Event H)) := fun _ he => absurd he List.not_mem_nil

/-- Calm events after calm ones are calm. -/
theorem Calm.append {first last : List (Event H)} (hfirst : Calm first) (hlast : Calm last) :
    Calm (first ++ last) := by
  intro e he
  rcases List.mem_append.mp he with he | he
  · exact hfirst e he
  · exact hlast e he

/-- A resolved position is calm. -/
theorem Calm.reached {p : Position} {events : List (Event H)} (h : Calm events) :
    Calm (.reached p :: events) := by
  intro e he
  rcases List.mem_cons.mp he with rfl | he
  · exact ⟨rfl, by simp [Event.kind]⟩
  · exact h e he

/-- An act is calm that lacks the three kinds of events about the end. -/
theorem Calm.of_lacks {α : Type} {act : Act σ H α} (hfinished : Act.Lacks .finished act)
    (hhandedOver : Act.Lacks .handedOver act) (hendCall : Act.Lacks .endCall act)
    (env : Env σ) : Calm (act env).events := by
  intro e he
  refine ⟨?_, hendCall env e he⟩
  cases e with
  | finished => exact absurd rfl (hfinished env _ he)
  | handedOver => exact absurd rfl (hhandedOver env _ he)
  | _ => rfl

/-- An act is calm that is confined to other kinds. -/
theorem Calm.of_confined {α : Type} {kinds : List EventKind} {act : Act σ H α}
    (h : Act.Confined kinds act)
    (hkinds : .finished ∉ kinds ∧ .handedOver ∉ kinds ∧ .endCall ∉ kinds) (env : Env σ) :
    Calm (act env).events :=
  .of_lacks (.of_confined h hkinds.1) (.of_confined h hkinds.2.1) (.of_confined h hkinds.2.2) env

/-- What concerns the end is not among calm events. -/
theorem Calm.exists_append {events closing : List (Event H)} (hcalm : Calm events)
    {p : Event H → Prop} (hp : ∀ e, p e → e.closes = true ∨ e.kind = .endCall) :
    (∃ e ∈ events ++ closing, p e) ↔ ∃ e ∈ closing, p e := by
  constructor
  · rintro ⟨e, he, hpe⟩
    rcases List.mem_append.mp he with he | he
    · rcases hp e hpe with hcloses | hcall
      · rw [(hcalm e he).1] at hcloses
        cases hcloses
      · exact absurd hcall (hcalm e he).2
    · exact ⟨e, he, hpe⟩
  · rintro ⟨e, he, hpe⟩
    exact ⟨e, List.mem_append_right _ he, hpe⟩

/-- After calm events, a closing calls the host once at most. -/
theorem Calm.once {events closing : List (Event H)} (hcalm : Calm events)
    (hopens : Opens closing) : (events ++ closing).countP Event.closes ≤ 1 := by
  have hnone : events.countP Event.closes = 0 :=
    List.countP_eq_zero.mpr fun e he => by rw [(hcalm e he).1]; simp
  rw [List.countP_append, hnone, Nat.zero_add]
  rcases hopens with rfl | ⟨e, rest, rfl, _, hrest⟩
  · exact Nat.zero_le 1
  -- all that follows the first event of a closing are callbacks for the end
  · have hquiet : rest.countP Event.closes = 0 :=
      List.countP_eq_zero.mpr fun e he => by rw [closes_of_kind (hrest e he)]; simp
    rw [List.countP_cons, hquiet]
    split <;> omega

/-- After calm events, nothing is sent or asked once the host was called to close. -/
theorem Calm.last {events closing before rest : List (Event H)} {e : Event H}
    (hcalm : Calm events) (hopens : Opens closing)
    (hsplit : events ++ closing = before ++ e :: rest) (hcloses : e.closes = true) :
    ∀ e ∈ rest, e.kind ≠ .sent ∧ e.kind ≠ .prompted := by
  obtain ⟨before', _, hclosed⟩ := append_eq_of_lacks (p := fun e => e.closes = true) hcloses
    (fun e he h => by rw [(hcalm e he).1] at h; cases h) hsplit
  rcases hopens with rfl | ⟨e', rest', rfl, _, hrest'⟩
  · simp at hclosed
  -- the call that closes is the first event of the closing
  · cases before' with
    | nil =>
      rw [List.nil_append, List.cons.injEq] at hclosed
      intro e'' he''
      have hkind := hrest' e'' (hclosed.2 ▸ he'')
      constructor <;> (intro h; rw [h] at hkind; simp at hkind)
    | cons _ before' =>
      -- a second call to close would be among the callbacks for the end
      rw [List.cons_append, List.cons.injEq] at hclosed
      have hmem : e ∈ rest' := by rw [hclosed.2]; simp
      rw [closes_of_kind (hrest' e hmem)] at hcloses
      cases hcloses

/-- Entering a thread is calm. -/
theorem enterAt_calm (a : Place σ) : Calm (d.enterAt w a).events :=
  .of_confined (d.enter_confined w _ _ _) (by simp) _

/-- Answering is calm. -/
theorem answerBefore_calm (lines : List (Line H)) (step : Step) (working : Progress)
    (env : Env σ) : Calm (d.answerBefore w lines step working env).events :=
  .of_lacks (d.answerBefore_lacks w (by simp [takingKinds, branchKinds]) lines step working)
    (d.answerBefore_lacks w (by simp [takingKinds, branchKinds]) lines step working)
    (d.answerBefore_lacks w (by simp [takingKinds, branchKinds]) lines step working) env

/-- Running a line is calm: whatever it orders is done by following its route. -/
theorem lineRoute_calm (lines : List (Line H)) (step : Step) (working : Progress)
    (route : Route) (env : Env σ) :
    Calm (d.lineRoute w lines step working route env).events :=
  .of_confined (d.lineRoute_confined w lines step working route) (by simp) env

/-- A reply chooses one directive at most. -/
theorem Chooses.unique {lines : List (Line H)} {a : Place σ} {directive other : Directive}
    (h : Chooses lines a directive) (hother : Chooses lines a other) : directive = other := by
  obtain ⟨reply, intake, branch, hreply, _, hquestion, hbranch, horder⟩ := h
  obtain ⟨reply', intake', branch', hreply', _, hquestion', hbranch', horder'⟩ := hother
  cases hreply.symm.trans hreply'
  cases hquestion.symm.trans hquestion'
  cases hbranch.symm.trans hbranch'
  cases horder.symm.trans horder'
  rfl

/-- A visit that ends the dialog obeys a directive to end it. -/
theorem decides_of_finish {lines : List (Line H)} {a : Place σ}
    (hin : a.position.index < lines.length) {entered answered : Progress} {route : Route}
    {ending : Ending} {env env' env'' : Env σ} {answering running : List (Event H)}
    (hanswer : d.answerBefore w lines (d.stepOf a) entered env
      = ⟨.ok (answered, route), env', answering⟩)
    (hline : d.lineRoute w lines (d.stepOf a) answered route env'
      = ⟨.ok (answered, .finish ending), env'', running⟩) :
    ∃ directive, d.Decides lines a directive ∧ directive.ending? = some ending := by
  have hanswered : d.Answered (fun _ => True) lines a route :=
    d.answerBefore_answered w.redirectsTo_any lines a entered env (answered, route)
      (by rw [hanswer])
  -- the line is run only if the reply leads on to it
  rcases d.lineRoute_cases hin hline with ⟨_, hroute, _⟩ | ⟨hroute, hran⟩
  · -- the reply ends the dialog
    cases hanswered with
    | onward _ => cases hroute
    | moved _ => cases hroute
    | ordered hchosen =>
      exact ⟨_, .chosen hchosen, Directive.ending?_of_route hroute.symm⟩
  · -- the reply leads on to the line, and that ends it
    have hpass : ∀ chosen, Chooses lines a chosen →
        chosen.route d.script a.position = .onward := by
      cases hanswered with
      | onward hpass => exact hpass
      | moved _ => cases hroute
      | ordered hchosen =>
        intro chosen hother
        rw [← hchosen.unique hother]
        exact hroute
    generalize hfinish : Route.finish ending = route' at hran
    cases hran with
    | ordered hline' _ =>
      exact ⟨_, .ordered hline' hpass, Directive.ending?_of_route hfinish.symm⟩
    | _ => cases hfinish

/-- A turn that stops, as what follows a visit. -/
def stopAt (done : Progress × Report) : Progress × Move := (done.1, .stop done.2)

variable {d w} in
/-- **How a route closes a turn**, if it does not go on. -/
theorem Following.closing {lines : List (Line H)} {a : Place σ}
    (hthread : d.script.thread? a.position.thread = some lines)
    (hin : a.position.index < lines.length) {working : Progress} {route : Route} {env : Env σ}
    {o : Outcome σ H (Progress × Move)} (h : d.Following w a working env route o)
    (hdecides : ∀ ending, route = .finish ending →
      ∃ directive, d.Decides lines a directive ∧ directive.ending? = some ending)
    (tail : List (Event H)) :
    (∃ moved target, o.result = .ok (moved, .goOn target) ∧ o.events = [])
      ∨ ∃ result, o.result = result.map stopAt
        ∧ d.Closing a result (.reached a.position :: tail) o.events := by
  have hwaits : ∀ moved : Progress, d.Closing a (.ok (moved, .waiting))
      (.reached a.position :: tail) [] := by
    intro moved
    refine .unclosed fun done hdone => ?_
    cases hdone
    rfl
  -- routes that go on, that leave the turn waiting, that hand over, and the end
  cases h with
  | onward => exact .inl ⟨_, _, rfl, rfl⟩
  | restart target => exact .inl ⟨_, _, rfl, rfl⟩
  | suspend => exact .inr ⟨.ok (working, .waiting), rfl, hwaits _⟩
  | hold => exact .inr ⟨.ok ({ working with replay := true }, .waiting), rfl, hwaits _⟩
  | handedOver script thread => exact .inr ⟨.ok (working, .replaced), rfl, .replaced⟩
  | refused script thread => exact .inr ⟨.error _, rfl, .unreplaced⟩
  | @finish ending values _ hvalues hconclude =>
    obtain ⟨directive, hdirective, hending⟩ := hdecides ending rfl
    have hmark : values.get? statusKey = some (.string ending.name) := by
      rw [hvalues]
      exact Table.get?_insert_self ..
    have hconcluding := d.conclude_concluding w (d.stepOf a).reply values env
    rcases hend : d.conclude w (d.stepOf a).reply values env with ⟨result, env', closing⟩
    rw [hend] at hconcluding
    cases result with
    | error fault =>
      rw [Act.bind_of_error hend] at hconclude
      subst hconclude
      exact .inr ⟨.error fault, rfl, .unconcluded hconcluding⟩
    | ok report =>
      rw [Act.bind_of_ok hend] at hconclude
      subst hconclude
      refine .inr ⟨.ok ({ working with values }, report), rfl, ?_⟩
      rw [Outcome.after_events, Act.pure_apply, List.append_nil]
      exact .concluded (.ordered hthread hin hdirective hending hmark) hconcluding

/-- **How a visit closes a turn**, if it does not go on. -/
theorem visitAt_closing {lines : List (Line H)} {a : Place σ}
    (hthread : d.script.thread? a.position.thread = some lines)
    (hin : a.position.index < lines.length) :
    (∃ moved target, (d.visitAt w lines a).result = .ok (moved, .goOn target)
        ∧ Calm (d.visitAt w lines a).events)
      ∨ ∃ result before closing, (d.visitAt w lines a).result = result.map stopAt
        ∧ (d.visitAt w lines a).events = before ++ closing ∧ Calm before
        ∧ d.Closing a result before closing := by
  have hentries := d.enterAt_calm w a
  -- a part that fails closes the turn with what happened so far
  have hfails : ∀ {o : Outcome σ H (Progress × Move)} {fault}, o.result = .error fault →
      Calm o.events → ∃ result before closing, o.result = result.map stopAt
        ∧ o.events = before ++ closing ∧ Calm before ∧ d.Closing a result before closing :=
    fun {o fault} hfault hcalm => ⟨.error fault, o.events, [], hfault,
      (List.append_nil _).symm, hcalm, .unclosed fun _ h => by cases h⟩
  have hvisiting := d.visitAt_visiting w lines a
  generalize d.visitAt w lines a = o at hvisiting ⊢
  cases hvisiting with
  | barred hentry =>
    rw [hentry] at hentries
    exact .inr (hfails rfl hentries.reached)
  | redirected hentry =>
    rw [hentry] at hentries
    exact .inl ⟨_, _, rfl, hentries.reached⟩
  | @unanswered entered env _ _ _ _ hentry hanswer =>
    have hanswers := d.answerBefore_calm w lines (d.stepOf a) entered env
    rw [hentry] at hentries
    rw [hanswer] at hanswers
    exact .inr (hfails rfl (hentries.append hanswers).reached)
  | @unrun entered answered route env env' _ _ _ _ _ hentry hanswer hline =>
    have hanswers := d.answerBefore_calm w lines (d.stepOf a) entered env
    have hruns := d.lineRoute_calm w lines (d.stepOf a) answered route env'
    rw [hentry] at hentries
    rw [hanswer] at hanswers
    rw [hline] at hruns
    exact .inr (hfails rfl (hentries.append (hanswers.append hruns)).reached)
  | @led entered answered route route' env env' env'' entry answering running
      hentry hanswer hline =>
    have hanswers := d.answerBefore_calm w lines (d.stepOf a) entered env
    have hruns := d.lineRoute_calm w lines (d.stepOf a) answered route env'
    rw [hentry] at hentries
    rw [hanswer] at hanswers
    rw [hline] at hruns
    have hcalm := (hentries.append (hanswers.append hruns)).reached (p := a.position)
    have hdecides : ∀ ending, route' = .finish ending →
        ∃ directive, d.Decides lines a directive ∧ directive.ending? = some ending := by
      rintro ending rfl
      exact d.decides_of_finish w hin hanswer hline
    -- the parts before are calm, so what the route comes to closes the turn
    rcases (d.follow_following w a answered route' env'').closing hthread hin hdecides
        (entry ++ (answering ++ running)) with
      ⟨moved, target, hresult, hevents⟩ | ⟨result, hresult, hclosing⟩
    · refine .inl ⟨moved, target, hresult, ?_⟩
      rw [Outcome.after_events, hevents, List.append_nil]
      exact hcalm
    · exact .inr ⟨result, _, _, hresult, rfl, hcalm, hclosing⟩

/-! ## §4. Turns and their ends. -/

variable {d w} in
/-- On the way of a turn nothing is told of an end. -/
theorem Leads.calm {n : Nat} {a b : Place σ} {events : List (Event H)}
    (h : d.Leads w n a events b) : Calm events := by
  -- along the way, visit by visit
  induction h with
  | here a => exact .nil
  | visit hthread hin hvisit _ ih =>
    rcases d.visitAt_closing w hthread hin with
      ⟨_, _, _, hcalm⟩ | ⟨result, _, _, hresult, _⟩
    · rw [hvisit] at hcalm
      exact hcalm.append ih
    · -- a visit that goes on does not close the turn
      rw [hvisit] at hresult
      cases result <;> cases hresult

variable {d w} in
/-- **A loop closes** where it halts. -/
theorem Halts.closing {left : Nat} {b : Place σ} {o : Outcome σ H (Progress × Report)}
    (h : d.Halts w left b o) :
    ∃ before closing, o.events = before ++ closing ∧ Calm before
      ∧ d.Closing b o.result before closing := by
  -- an unknown thread, no budget, the end of a thread, and a visit that fails or stops
  cases h with
  | unknown hthread => exact ⟨[], [], rfl, .nil, .unclosed fun _ h => by cases h⟩
  | spent hline => exact ⟨[], [], rfl, .nil, .unclosed fun _ h => by cases h; rfl⟩
  | ended _ _ hthread hend hconclude =>
    subst hconclude
    have hconcluding := d.conclude_concluding w b.reply b.working.values b.env
    rcases hdone : d.conclude w b.reply b.working.values b.env with ⟨result, env, closing⟩
    rw [hdone] at hconcluding
    refine ⟨[], closing, ?_, .nil, ?_⟩
    · cases result with
      | error fault => rw [Act.bind_of_error hdone, List.nil_append]
      | ok report =>
        rw [Act.bind_of_ok hdone]
        simp [Outcome.after]
    · cases result with
      | error fault =>
        rw [Act.bind_of_error hdone]
        exact .unconcluded hconcluding
      | ok report =>
        rw [Act.bind_of_ok hdone]
        exact .concluded (.past hthread hend) hconcluding
  | failed _ _ hthread hin hvisit =>
    rcases d.visitAt_closing w hthread hin with
      ⟨_, _, hresult, _⟩ | ⟨result, before, closing, hresult, hevents, hcalm, hclosing⟩
    · rw [hvisit] at hresult
      cases hresult
    · rw [hvisit] at hresult hevents
      cases result with
      | error fault =>
        cases hresult
        exact ⟨before, closing, hevents, hcalm, hclosing⟩
      | ok done => cases hresult
  | stopped _ _ hthread hin hvisit =>
    rcases d.visitAt_closing w hthread hin with
      ⟨_, _, hresult, _⟩ | ⟨result, before, closing, hresult, hevents, hcalm, hclosing⟩
    · rw [hvisit] at hresult
      cases hresult
    · rw [hvisit] at hresult hevents
      cases result with
      | error fault => cases hresult
      | ok done =>
        cases hresult
        exact ⟨before, closing, hevents, hcalm, hclosing⟩

/-- A turn from a place on that completes the dialog. -/
inductive Completes (start : Place σ) : Report → Outcome σ H Report → Prop
  /-- The turn comes to a place where the dialog ends, and until then no callback
  for the end runs.  The host is told, and then each of those callbacks, about the
  variables that are reported and saved. -/
  | ended {n : Nat} {b : Place σ} {events visit : List (Event H)} {snapshot : Values}
      {reply : Option String} {o : Outcome σ H Report}
      (hleads : d.Leads w n start events b) (hends : d.EndsAt b snapshot visit)
      (hevents : o.events
        = events ++ visit ++ .finished reply true :: d.tellings snapshot)
      (hcalm : ∀ e ∈ events ++ visit, e.kind ≠ .endCall)
      (hsaved : o.env.saved.values = snapshot) : Completes start (.complete snapshot) o

/-- The end of a dialog, in the outcome of a call. -/
structure EndsOnce (call : Call) (env : Env σ) (o : Outcome σ H Report) : Prop where
  /-- The host is called at most once to end the dialog or to replace it. -/
  once : o.events.countP Event.closes ≤ 1
  /-- After that no message is sent and no question asked. -/
  last : ∀ before e rest, o.events = before ++ e :: rest → e.closes = true →
    ∀ e ∈ rest, e.kind ≠ .sent ∧ e.kind ≠ .prompted
  /-- The dialog is complete if the host was called to end it, and only then. -/
  complete : ∀ report, o.result = .ok report →
    (report.status = .complete ↔ ∃ e ∈ o.events, e.kind = .finished)
  /-- It is replaced if the host was called to replace it, and only then. -/
  replaced : ∀ report, o.result = .ok report →
    (report.status = .replaced ↔ ∃ e ∈ o.events, e.kind = .handedOver)
  /-- It waits if the host was called for neither, and only then. -/
  waiting : ∀ report, o.result = .ok report →
    (report.status = .waiting ↔ ∀ e ∈ o.events, e.closes = false)
  /-- A turn that completes the dialog has come to its end. -/
  ended : ∀ report, o.result = .ok report → report.status = .complete →
    ∃ start, d.outset call env = some start ∧ d.Completes w start report o
  /-- A turn that does not complete it runs no callback for the end. -/
  untold : ∀ report, o.result = .ok report → report.status ≠ .complete →
    ∀ e ∈ o.events, e.kind ≠ .endCall

/-- A call that does nothing ends nothing. -/
theorem endsOnce_of_nothing {call : Call} {env env' : Env σ} {result : Except Fault Report}
    (hwaits : ∀ report, result = .ok report → report = .waiting) :
    d.EndsOnce w call env ⟨result, env', []⟩ where
  once := Nat.zero_le 1
  last before e rest h := by simp at h
  complete report hok := by simp [hwaits report hok, Report.waiting]
  replaced report hok := by simp [hwaits report hok, Report.waiting]
  waiting report hok := by simp [hwaits report hok, Report.waiting]
  ended report hok hcomplete := by
    rw [hwaits report hok] at hcomplete
    cases hcomplete
  untold report hok _ := by simp

variable {d w} in
/-- A turn ends once that comes to a place and closes there. -/
theorem Closing.endsOnce {call : Call} {env : Env σ} {start b : Place σ} {n : Nat}
    {events before closing : List (Event H)} {o : Outcome σ H (Progress × Report)}
    (houtset : d.outset call env = some start) (hleads : d.Leads w n start events b)
    (hevents : o.events = events ++ before ++ closing) (hbefore : Calm before)
    (hclosing : d.Closing b o.result before closing) : d.EndsOnce w call env o.commit := by
  have hcalm : Calm (events ++ before) := hleads.calm.append hbefore
  have hreport : ∀ report, o.commit.result = .ok report →
      ∃ moved, d.Closing b (.ok (moved, report)) before closing ∧ o.commit.env.saved = moved := by
    intro report hok
    obtain ⟨moved, hresult, hsaved⟩ := Outcome.exists_of_commit_ok hok
    exact ⟨moved, hresult ▸ hclosing, hsaved⟩
  rw [← Outcome.commit_events] at hevents
  -- each part about the whole trace comes down to the closing, for all before it is calm
  constructor
  case once =>
    rw [hevents]
    exact hcalm.once hclosing.opens
  case last =>
    intro first e rest hsplit
    exact hcalm.last hclosing.opens (hevents.symm.trans hsplit)
  case complete =>
    intro report hok
    obtain ⟨moved, hclosed, _⟩ := hreport report hok
    rw [hevents, hcalm.exists_append fun e h => .inl (by cases e <;> first | rfl | cases h)]
    exact hclosed.complete_iff
  case replaced =>
    intro report hok
    obtain ⟨moved, hclosed, _⟩ := hreport report hok
    rw [hevents, hcalm.exists_append fun e h => .inl (by cases e <;> first | rfl | cases h)]
    exact hclosed.replaced_iff
  case waiting =>
    intro report hok
    obtain ⟨moved, hclosed, _⟩ := hreport report hok
    rw [hclosed.waiting_iff, hevents, List.forall_mem_append]
    exact ⟨fun h => ⟨fun e he => (hcalm e he).1, h⟩, fun h => h.2⟩
  case ended =>
    intro report hok hcomplete
    obtain ⟨moved, hclosed, hsaved⟩ := hreport report hok
    refine ⟨start, houtset, ?_⟩
    rcases hclosed.report_cases with ⟨hstatus, _⟩ | ⟨hstatus, _⟩ | ⟨rfl, hends, reply, rfl⟩
    · rw [hstatus] at hcomplete
      cases hcomplete
    · rw [hstatus] at hcomplete
      cases hcomplete
    · exact .ended hleads hends hevents (fun e he => (hcalm e he).2) (by rw [hsaved])
  case untold =>
    intro report hok hstatus
    obtain ⟨moved, hclosed, _⟩ := hreport report hok
    rw [hevents, List.forall_mem_append]
    exact ⟨fun e he => (hcalm e he).2, hclosed.untold hstatus⟩

/-- **A dialog ends once.**  Whatever a call runs into, it calls the host at most
once to end the dialog or to replace it, and nothing is sent or asked after
that; what it reports agrees with that, and so do the variables that are told,
reported and saved. -/
theorem serve_endsOnce (call : Call) (env : Env σ) :
    d.EndsOnce w call env (d.serve w call env) := by
  cases houtset : d.outset call env with
  | none =>
    rcases d.serve_of_no_outset w houtset with hserve | ⟨fault, hserve⟩
    · rw [hserve]
      exact d.endsOnce_of_nothing w fun report hok => by cases hok; rfl
    · rw [hserve]
      exact d.endsOnce_of_nothing w fun report hok => by cases hok
  | some start =>
    obtain ⟨n, left, b, events, o, _, hleads, hhalts, hloop⟩ :=
      d.loopAt_course w d.settings.maxSteps start
    obtain ⟨before, closing, hevents, hcalm, hclosing⟩ := hhalts.closing
    rw [d.serve_of_outset w houtset, hloop]
    refine hclosing.endsOnce (o := o.after events) houtset hleads ?_ hcalm
    rw [Outcome.after_events, hevents, List.append_assoc]

end Dialog

end Parley
