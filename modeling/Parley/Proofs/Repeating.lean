/-
  Parley.Proofs.Repeating
  ───────────────────────
  **A QUESTION THAT IS REPEATED IS ASKED AGAIN, AND NOTHING ELSE IS DONE.**

  A branch that orders the line before again is taken at the line after its
  question.  So the turn goes one line on to take the reply, one line back to ask,
  and stops there:

    • `visit_ordered` — the reply is taken, and its directive is followed,
    • `visit_question` — the question is asked, in a thread that the turn is in
      already, so that no callback for its entry runs even at its first line,
    • `turn_reasked` — so the turn leaves the dialog where it found it, but for the
      variables,
    • `run_reasked` — and so does every turn of a run, after which a reply that
      orders nothing goes on with the line after the question.
-/
import Parley.Proofs.Replies
import Parley.Proofs.Bounds
import Parley.Proofs.Waiting

namespace Parley

variable {σ H : Type}

/-- What an intake orders for a reply, unless a callback decides: the directive of the branch
that it selects, or to go on if it selects none. -/
def Intake.orders? (intake : Intake H) (reply : String) : Option Directive :=
  match (intake.select? reply).map Branch.consequence with
  | none => some .next
  | some (.directive directive) => some directive
  | some (.handler _) => none

namespace Dialog

variable (d : Dialog H) (w : World σ H)

/-! ## §1. Replies that order a directive. -/

variable {d} {lines : List (Line H)} {q : Position} {draft : Draft} {intake : Intake H}

/-- The directive of a reply is obeyed by a branch, or to go on if there is none. -/
theorem branch_of_orders {text : String} {directive : Directive}
    (horders : intake.orders? text = some directive) (question : Position) (step : Step)
    (working : Progress) (env : Env σ) :
    d.branch w intake question text step working env
      = ⟨.ok (working, directive.route d.script step.position), env,
          [.offered question text]⟩ := by
  unfold Intake.orders? at horders
  cases hselect : intake.select? text with
  | none =>
    rw [hselect] at horders
    cases horders
    exact d.branch_of_unmatched w hselect question step working env
  | some chosen =>
    rw [hselect, Option.map_some] at horders
    cases horder : chosen.consequence with
    | directive =>
      rw [horder] at horders
      cases horders
      exact d.branch_of_directive w hselect horder question step working env
    | handler =>
      rw [horder] at horders
      cases horders

variable {w} in
/-- A reply that its callbacks heed is taken, and leads nowhere else. -/
theorem Heeds.taking {text : String} {values : Values} {env : Env σ}
    (hheeds : d.Heeds w lines q.following values (some text) env)
    (hquestion : questionBefore? lines q.following.index = some intake) :
    ∃ values' env' taking,
      d.Taking w q intake text values env ⟨.ok (values', none), env', taking⟩ := by
  cases hkey : intake.key with
  | none => exact ⟨values, env, [], .unnamed hkey⟩
  | some key =>
    obtain ⟨after, env', events, hrun, hposition⟩ := hheeds intake key text hquestion hkey rfl
    have htaking := Taking.of_ok d w hkey hrun
    have hstays : after.redirect? q.following = none := Handle.redirect?_of_eq hposition
    rw [hstays] at htaking
    exact ⟨_, _, _, htaking⟩

/-- **A visit whose reply orders a directive** takes the reply, and follows the directive with
what the callbacks about the reply leave. -/
theorem visit_ordered {text : String} (hne : text ≠ "") {directive : Directive}
    {working : Progress} {values : Values} {env env' : Env σ} {taking : List (Event H)}
    (hquestion : questionBefore? lines q.following.index = some intake)
    (horders : intake.orders? text = some directive)
    (htaking : d.Taking w q intake text working.values env ⟨.ok (values, none), env', taking⟩)
    (cause : Cause) :
    d.visit w lines q.following cause (some text) working env
      = (d.walk w lines (d.stepAt q.following cause (some text))
          { working.arrive q.following with values }
          (directive.route d.script q.following) env').after
            (.reached q.following :: (taking ++ [.offered q text])) := by
  have hthere : d.Taking w q intake text (working.arrive q.following).values env
      ⟨.ok (values, none), env', taking⟩ := htaking
  have htaken := hthere.takeReply_eq cause (some text)
  rw [d.visit_of_reply w hne hquestion, Act.note_bind_apply]
  show ((d.takeReply w intake q text _ _ >>= d.settle w lines intake q text _) env).after _ = _
  rw [Act.bind_of_ok htaken, settle_of_no_redirect,
    Act.bind_of_ok (branch_of_orders w horders q _ _ env'), Outcome.after_after,
    Outcome.after_after]
  rfl

/-! ## §2. Questions that are asked again. -/

/-- A prompt starts with the message of the question, or does not start. -/
theorem ask_prompts (d : Dialog H) (draft : Draft) (question : Position) (values : Values)
    (env : Env σ) :
    (∃ env', d.ask w draft question values env
        = ⟨.ok .suspend, env',
            [.prompted question d.settings.promptId (draft.render values env.words).1 true]⟩)
      ∨ ∃ result env' m rest, d.ask w draft question values env
        = ⟨result, env', .prompted question d.settings.promptId m false :: rest⟩ := by
  rcases d.ask_cases w draft question values env with
    ⟨m, env', hask⟩ | ⟨result, env', m, ok, hask, _⟩
  · -- the prompt is called with what the draft is rendered to
    have hhead : (d.ask w draft question values env).events.head?
        = some (.prompted question d.settings.promptId (draft.render values env.words).1
            (Act.succeeded (w.prompt d.settings.promptId (draft.render values env.words).1
              env.world).1)) := by
      unfold ask
      rw [Act.render_bind_apply, Act.bind_of_ok (Act.attempt_of rfl)]
      rfl
    rw [hask, List.head?_cons, Option.some.injEq, Event.prompted.injEq] at hhead
    obtain ⟨-, -, rfl, -⟩ := hhead
    exact .inl ⟨env', hask⟩
  · exact .inr ⟨result, env', m, _, hask⟩

/-- **A visit to a question** in the thread of the turn, with no reply, asks it and stops there,
unless the prompt does not start. -/
theorem visit_question (hline : lines[q.index]? = some (.question draft intake))
    (working : Progress) (hthere : working.thread = q.thread) (cause : Cause) (env : Env σ) :
    (∃ env', d.visit w lines q cause none working env
        = ⟨.ok (working.arrive q, .stop .waiting), env', [.reached q,
            .prompted q d.settings.promptId (draft.render working.values env.words).1 true]⟩)
      ∨ ∃ result env' m rest, d.visit w lines q cause none working env
        = ⟨result, env', .reached q :: .prompted q d.settings.promptId m false :: rest⟩ := by
  -- the thread is not entered, and there is no reply to take
  have hentry : d.enterAt w ⟨q, cause, none, working, env⟩
      = ⟨.ok (working.arrive q, none), env, []⟩ := by
    unfold enterAt enter
    rw [if_neg fun h => h.2 hthere]
    rfl
  have hanswer : d.answerBefore w lines (d.stepAt q cause none) (working.arrive q) env
      = ⟨.ok (working.arrive q, .onward), env, []⟩ := by
    rw [d.answerBefore_of_no_reply w rfl]
    rfl
  have hvisit : d.visit w lines q cause none working env
      = (d.walk w lines (d.stepAt q cause none) (working.arrive q) .onward env).after
          [.reached q] := visitAt_of_answered hentry hanswer
  have hwalk : d.walk w lines (d.stepAt q cause none) (working.arrive q) .onward
      = (d.ask w draft q working.values >>= fun route =>
          d.follow w (d.stepAt q cause none) (working.arrive q) route) :=
    d.walk_of_line w (d.stepAt q cause none) hline (working.arrive q)
  rw [hvisit, hwalk]
  rcases d.ask_prompts w draft q working.values env with
    ⟨env', hask⟩ | ⟨result, env', m, rest, hask⟩
  · rw [Act.bind_of_ok hask]
    exact .inl ⟨env', rfl⟩
  · refine .inr ?_
    cases result with
    | error fault =>
      rw [Act.bind_of_error hask]
      exact ⟨_, _, m, rest, rfl⟩
    | ok route =>
      rw [Act.bind_of_ok hask]
      exact ⟨_, _, m, rest ++ _, rfl⟩

/-! ## §3. Turns that ask again. -/

variable (d)

/-- A question, in a thread with a name, with a line after it, where a turn may visit both. -/
structure Repeatable (lines : List (Line H)) (q : Position) (draft : Draft)
    (intake : Intake H) : Prop where
  /-- The thread has a name. -/
  named : q.thread ≠ ""
  /-- Those are its lines. -/
  thread : d.script.thread? q.thread = some lines
  /-- The question is one of them. -/
  question : lines[q.index]? = some (.question draft intake)
  /-- It is not the last. -/
  later : q.index + 1 < lines.length
  /-- The budget allows two visits. -/
  budget : 2 ≤ d.settings.maxSteps

/-- The dialog waits for the reply to the question at `q`. -/
structure Awaits (q : Position) (saved : Progress) : Prop where
  /-- It stands at the question. -/
  position : saved.position = q
  /-- That is not to be run again. -/
  replay : saved.replay = false

/-- A call brings a reply for which the question at `q` is to be asked again, and neither a
callback about the reply nor a prompt stands in the way. -/
structure AsksAgain (w : World σ H) (lines : List (Line H)) (q : Position) (intake : Intake H)
    (t : Turn σ) : Prop where
  /-- The reply selects a branch that orders it. -/
  orders : ∃ text, t.call.text? = some text ∧ intake.orders? text = some .again
  /-- Callbacks about the reply succeed, and lead nowhere else. -/
  heeds : d.Heeds w lines q.following t.env.saved.values t.call.text? t.env
  /-- No prompt fails. -/
  prompts : ∀ question prompt m, .prompted question prompt m false ∉ (d.outcomeOf w t).events

/-- What comes of a turn in which the question at `q` is asked again. -/
structure Reasked (w : World σ H) (q : Position) (draft : Draft) (intake : Intake H) (t : Turn σ)
    (o : Outcome σ H Report) : Prop where
  /-- It succeeds, and waits. -/
  waiting : o.result = .ok .waiting
  /-- Nothing is saved but variables. -/
  stands : o.env.saved = { t.env.saved with values := o.env.saved.values }
  /-- So the dialog waits for a reply to that question as before. -/
  awaits : Awaits q o.env.saved
  /-- The reply is taken, and the variables are those that the callbacks about it hand back.  All
  that happens besides is that the question is asked with them. -/
  taken : ∃ text env' taking, t.call.text? = some text
    ∧ d.Taking w q intake text t.env.saved.values t.env
      ⟨.ok (o.env.saved.values, none), env', taking⟩
    ∧ o.events = .reached q.following :: (taking ++ [.offered q text]) ++ [.reached q,
      .prompted q d.settings.promptId (draft.render o.env.saved.values t.env.words).1 true]
  /-- The prompt of the question is delivered, with those variables, and nothing else is. -/
  delivers : deliveredOf o.events
    = [.prompted q d.settings.promptId (draft.render o.env.saved.values t.env.words).1 true]
  /-- No callback for the entry of a thread runs. -/
  unhooked : ∀ e ∈ o.events, e.kind ≠ .entryCall

/-- What comes of a turn whose reply orders nothing: the reply is taken, and then the turn goes on
with the line after the question, and from there as that leads, with what the callbacks about the
reply leave. -/
def GoesPast (w : World σ H) (lines : List (Line H)) (q : Position) (intake : Intake H)
    (text : String) (t : Turn σ) : Prop :=
  ∃ values env' taking line cause,
    d.Taking w q intake text t.env.saved.values t.env ⟨.ok (values, none), env', taking⟩
      ∧ lines[q.following.index]? = some line
      ∧ t.call.onward? = some (cause, some text)
      ∧ d.outcomeOf w t
        = (((d.runLine w line (d.stepAt q.following cause (some text)) values >>= fun route =>
              d.follow w (d.stepAt q.following cause (some text))
                { t.env.saved.arrive q.following with values } route)
            >>= d.pursue w (d.settings.maxSteps - 1)) env').commit.after
              (.reached q.following :: (taking ++ [.offered q text]))

variable {d}

/-- A dialog that awaits a reply goes on with the line after the question. -/
theorem Awaits.resumePosition {saved : Progress} (h : Awaits q saved) :
    saved.resumePosition = q.following := by
  unfold Progress.resumePosition Progress.resumeIndex
  rw [h.replay, ← h.position]
  rfl

/-- That question is the one before the line after it. -/
theorem Repeatable.before (hquestion : d.Repeatable lines q draft intake) :
    questionBefore? lines q.following.index = some intake :=
  questionBefore?_eq_some.mpr ⟨q.index, draft, rfl, hquestion.question⟩

/-- The line after the question may be visited. -/
theorem Repeatable.visitable (hquestion : d.Repeatable lines q draft intake) :
    d.Visitable lines q.following :=
  ⟨hquestion.named, hquestion.thread, hquestion.later,
    Nat.lt_of_lt_of_le Nat.zero_lt_two hquestion.budget⟩

/-- The progress of a turn that has gone a line on from the question and back to it. -/
theorem Awaits.arrive_back {saved : Progress} (h : Awaits q saved) (values : Values) :
    Progress.arrive { saved.arrive q.following with values } q = { saved with values } := by
  obtain ⟨rfl, hreplay⟩ := h
  unfold Progress.arrive
  rw [← hreplay]
  rfl

/-- What a turn delivers in which a reply is taken and a question asked: the prompt of that. -/
theorem deliveredOf_asked {text prompt : String} {m : Message} {taking : List (Event H)}
    (htaking : ∀ e ∈ taking, e.kind ∈ takingKinds) :
    deliveredOf (.reached q.following :: (taking ++ [.offered q text])
        ++ [.reached q, .prompted q prompt m true]) = [.prompted q prompt m true] := by
  have hdelivers : ∀ kind ∈ takingKinds, kind ∉ [EventKind.sent, .prompted] := by decide
  have hquiet : deliveredOf taking = [] :=
    List.filter_eq_nil_iff.mpr fun e he => by simpa using hdelivers _ (htaking e he)
  unfold deliveredOf at hquiet ⊢
  rw [List.filter_append, List.filter_cons_of_neg (by simp [Event.kind]), List.filter_append,
    hquiet]
  rfl

/-- **A turn whose reply orders the question again** leaves the dialog where it found it. -/
theorem turn_reasked (hquestion : d.Repeatable lines q draft intake) {t : Turn σ}
    (hawaits : Awaits q t.env.saved) (hagain : d.AsksAgain w lines q intake t) :
    d.Reasked w q draft intake t (d.outcomeOf w t) := by
  obtain ⟨text, htext, horders⟩ := hagain.orders
  have hheeds := hagain.heeds
  have hprompts := hagain.prompts
  rw [htext] at hheeds
  obtain ⟨cause, honward⟩ := Call.exists_onward_of_text htext
  obtain ⟨budget, hbudget, -, hturn⟩ :=
    outcomeOf_of_onward w hquestion.visitable hawaits.resumePosition honward
  obtain ⟨values, env, taking, htaking⟩ := hheeds.taking hquestion.before
  have hvisit := visit_ordered w (Call.text?_ne htext) hquestion.before horders htaking cause
  -- the directive leads back by one line, and a second visit is within the budget
  have hback : d.walk w lines (d.stepAt q.following cause (some text))
        { t.env.saved.arrive q.following with values }
        (Directive.again.route d.script q.following) env
      = ⟨.ok ({ t.env.saved.arrive q.following with values }, .goOn q), env, []⟩ := by
    have hroute : Directive.again.route d.script q.following ≠ .onward := by
      simp [Directive.route]
    unfold walk
    rw [d.lineRoute_of_ne w hroute, Act.pure_bind_apply]
    rfl
  obtain ⟨rest, rfl⟩ : ∃ rest, budget = rest + 1 :=
    ⟨budget - 1, by have := hquestion.budget; omega⟩
  have hin : q.index < lines.length := Nat.lt_of_succ_lt hquestion.later
  have hpursue : d.pursue w (rest + 1) ({ t.env.saved.arrive q.following with values }, .goOn q)
      = (d.visit w lines q .advanced none { t.env.saved.arrive q.following with values }
          >>= d.pursue w rest) := d.resolve_of_line w hquestion.thread hin rest _ _ _
  rw [hback] at hvisit
  rw [hturn, Act.bind_of_ok hvisit, hpursue] at hprompts ⊢
  rcases visit_question w hquestion.question { t.env.saved.arrive q.following with values } rfl
    .advanced env with ⟨env', hask⟩ | ⟨result, env', m, later, hask⟩
  · -- the callbacks about the reply drew no words, so those for the message are as they were
    have hwords : env.words = t.env.words := htaking.words
    rw [hawaits.arrive_back values, hwords] at hask
    have hdone : (((d.visit w lines q .advanced none
            { t.env.saved.arrive q.following with values } >>= d.pursue w rest) env).after
          (.reached q.following :: (taking ++ [.offered q text]) ++ [])).commit
        = ⟨.ok .waiting, { env' with saved := { t.env.saved with values } },
            .reached q.following :: (taking ++ [.offered q text]) ++ [.reached q,
              .prompted q d.settings.promptId (draft.render values t.env.words).1 true]⟩ := by
      rw [Act.bind_of_ok hask]
      simp [pursue, Outcome.after, Outcome.commit]
    refine hdone ▸ ⟨rfl, rfl, ?awaits, ⟨text, env, taking, htext, htaking, rfl⟩,
      deliveredOf_asked htaking.kinds, ?unhooked⟩
    case awaits => exact ⟨hawaits.position, hawaits.replay⟩
    case unhooked =>
      have hunhooked : ∀ kind ∈ takingKinds, kind ≠ .entryCall := by decide
      intro e he
      simp only [List.mem_append, List.mem_cons, List.not_mem_nil, or_false] at he
      rcases he with (rfl | he | rfl) | rfl | rfl
      case inl.inr.inl => exact hunhooked _ (htaking.kinds e he)
      all_goals simp [Event.kind]
  · -- the prompt would have failed
    refine absurd ?_ (hprompts q d.settings.promptId m)
    cases result with
    | error fault =>
      rw [Act.bind_of_error hask, Outcome.commit_events]
      simp
    | ok moved =>
      rw [Act.bind_of_ok hask, Outcome.commit_events]
      simp

/-- **A turn whose reply orders nothing** goes on with the line after the question. -/
theorem turn_goesPast (hquestion : d.Repeatable lines q draft intake) {t : Turn σ}
    (hawaits : Awaits q t.env.saved) {text : String} (htext : t.call.text? = some text)
    (horders : intake.orders? text = some .next)
    (hheeds : d.Heeds w lines q.following t.env.saved.values (some text) t.env) :
    d.GoesPast w lines q intake text t := by
  obtain ⟨cause, honward⟩ := Call.exists_onward_of_text htext
  obtain ⟨budget, hbudget, -, hturn⟩ :=
    outcomeOf_of_onward w hquestion.visitable hawaits.resumePosition honward
  obtain ⟨values, env, taking, htaking⟩ := hheeds.taking hquestion.before
  have hvisit := visit_ordered w (Call.text?_ne htext) hquestion.before horders htaking cause
  obtain ⟨line, hline⟩ : ∃ line, lines[q.following.index]? = some line :=
    ⟨_, List.getElem?_eq_getElem hquestion.later⟩
  have hwalk := d.walk_of_line w (d.stepAt q.following cause (some text)) hline
    { t.env.saved.arrive q.following with values }
  have hruns := hvisit.trans
    (congrArg (fun act : Act σ H (Progress × Move) => (act env).after _) hwalk)
  refine ⟨values, env, taking, line, cause, htaking, hline, honward, ?_⟩
  rw [hturn, Act.bind_of_after hruns, Outcome.commit_after, ← hbudget]
  rfl

/-! ## §4. Runs that ask again. -/

/-- Every turn of a run in which a question is asked again finds the dialog waiting for a reply
to it, and so does the call after the run. -/
theorem turnsOf_awaits (hquestion : d.Repeatable lines q draft intake) {run : List (Meeting σ)}
    {saved : Progress} (hawaits : Awaits q saved)
    (hagain : ∀ t ∈ d.turnsOf w saved run, d.AsksAgain w lines q intake t) :
    (∀ t ∈ d.turnsOf w saved run, Awaits q t.env.saved)
      ∧ Awaits q (d.savedAfter w saved run) := by
  -- along the run; every turn leaves the dialog waiting as it found it
  induction run generalizing saved with
  | nil => exact ⟨fun _ ht => absurd ht List.not_mem_nil, hawaits⟩
  | cons m rest ih =>
    unfold turnsOf at hagain ⊢
    rw [List.forall_mem_cons] at hagain ⊢
    have hfirst : Awaits q (m.env saved).saved := hawaits
    obtain ⟨hturns, hafter⟩ :=
      ih (turn_reasked w hquestion (t := ⟨m.call, m.env saved⟩) hfirst hagain.1).awaits hagain.2
    exact ⟨⟨hfirst, hturns⟩, hafter⟩

/-- **A question can be repeated any number of times.**  Let a dialog wait for the reply to a
question that has a line after it, and let every call of a run bring a reply for which the question
is to be asked again.  Then each of them succeeds and waits, delivers the prompt of the question
with the variables in which the reply stands, delivers nothing else, enters no thread, and leaves
the dialog waiting at the question as before.  A reply after that which orders nothing, or to go
on, goes on with the line after the question. -/
theorem run_reasked (hquestion : d.Repeatable lines q draft intake) {saved : Progress}
    (hawaits : Awaits q saved) {run : List (Meeting σ)}
    (hagain : ∀ t ∈ d.turnsOf w saved run, d.AsksAgain w lines q intake t) :
    (∀ t ∈ d.turnsOf w saved run, d.Reasked w q draft intake t (d.outcomeOf w t))
      ∧ ∀ (m : Meeting σ) text, m.call.text? = some text → intake.orders? text = some .next →
        d.Heeds w lines q.following (d.savedAfter w saved run).values (some text)
          (m.env (d.savedAfter w saved run)) →
        d.GoesPast w lines q intake text ⟨m.call, m.env (d.savedAfter w saved run)⟩ := by
  obtain ⟨hturns, hafter⟩ := turnsOf_awaits w hquestion hawaits hagain
  constructor
  · intro t ht
    exact turn_reasked w hquestion (hturns t ht) (hagain t ht)
  · intro m text htext horders hheeds
    exact turn_goesPast w hquestion (t := ⟨m.call, m.env (d.savedAfter w saved run)⟩) hafter htext
      horders hheeds

/-- The message of a question that offers to be asked again, and shows what was said and heard
before. -/
def againDraft : Draft where
  texts := ["Said \x7b\x7bvars.ready\x7d\x7d, heard \x7b\x7bvars.heard\x7d\x7d"]
  suggestions := [⟨"Again", "again"⟩]

/-- Its reply is put into a variable, and orders it again if it says so. -/
def againIntake : Intake Routine where
  key := some "ready"
  branches := [.matching .string "again" (· == "again") (.directive .again)]

/-- The question, and a line after it. -/
def againLines : List (Line Routine) := [.question againDraft againIntake, .message {}]

/-- A dialog of those lines.  A callback notes the reply, and the thread cannot be entered twice. -/
def againDialog : Dialog Routine where
  id := "again"
  script := Script.empty.addAll (againLines.map (Addition.line "default"))
  hooks := (Hooks.none.onEntry "default" [.fail "entry" "entered twice"]).onChange "ready"
    [.setReply "heard"]

/-- It has asked. -/
def againProgress : Progress := { thread := "default" }

/-- The question is to be asked again, and once more. -/
def againRun : List (Meeting Stage) := [replyOn readyStage "again", replyOn readyStage "again"]

/-- The dialog asks as often as it is told to, and goes past the question after a reply that
orders nothing. -/
theorem againDialog_reasked :
    (∀ t ∈ againDialog.turnsOf Stage.world againProgress againRun,
        againDialog.Reasked Stage.world ⟨"default", 0⟩ againDraft againIntake t
          (againDialog.outcomeOf Stage.world t))
      ∧ againDialog.GoesPast Stage.world againLines ⟨"default", 0⟩ againIntake "no"
          ⟨(replyOn readyStage "no").call, (replyOn readyStage "no").env
            (againDialog.savedAfter Stage.world againProgress againRun)⟩ := by
  have hquestion : againDialog.Repeatable againLines ⟨"default", 0⟩ againDraft againIntake :=
    ⟨by decide, rfl, rfl, by decide, by decide⟩
  have hheeds : ∀ values text? (env : Env Stage), env.world = readyStage →
      againDialog.Heeds Stage.world againLines ⟨"default", 1⟩ values text? env := by
    rintro values text? ⟨world, words, saved⟩ rfl intake key text hquestion hkey _
    cases hquestion
    cases hkey
    exact ⟨_, _, _, rfl, rfl⟩
  have hprompts : ∀ events : List (Event Routine),
      events.all (fun e => e.kind ≠ .prompted || e.asks) = true →
      ∀ question prompt m, .prompted question prompt m false ∉ events :=
    fun events hall _ _ _ hmem =>
      absurd (List.all_eq_true.mp hall _ hmem) (by simp [Event.kind, Event.asks])
  have hagain : ∀ t ∈ againDialog.turnsOf Stage.world againProgress againRun,
      againDialog.AsksAgain Stage.world againLines ⟨"default", 0⟩ againIntake t := by
    refine List.forall_mem_cons.mpr ⟨?first, List.forall_mem_singleton.mpr ?second⟩
    all_goals exact ⟨⟨"again", rfl, rfl⟩, hheeds _ _ _ rfl, hprompts _ rfl⟩
  have hreasked := run_reasked Stage.world hquestion ⟨rfl, rfl⟩ hagain
  exact ⟨hreasked.1, hreasked.2 (replyOn readyStage "no") "no" rfl rfl (hheeds _ _ _ rfl)⟩

/-- The question is asked again with the reply just taken, and with what its callback wrote. -/
example :
    (againDialog.turnsOf Stage.world againProgress againRun).map (fun t =>
        deliveredOf (againDialog.outcomeOf Stage.world t).events)
      = List.replicate 2 [.prompted ⟨"default", 0⟩ "colloquy_text_prompt"
          { text := "Said again, heard again", suggestions := [⟨"Again", "again"⟩] } true] := by
  cbv

end Dialog

end Parley
