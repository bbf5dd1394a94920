/-
  Parley.Proofs.Waiting
  ─────────────────────
  **A DIALOG THAT WAITS STAYS WHERE IT IS, AND COLLECTS REPLIES.**

  A line is waited at if the branch that the reply chooses orders that, or if no
  branch is chosen and the line itself orders it (`Waits`).

    • `visit_waits` — a visit to such a line stops there, and sends what the line
      does if it is run,
    • `turn_parked` — so a turn that begins with it leaves the dialog at that line,
      which the next turn begins with again,
    • `run_parked` — so does every turn of a run in which the dialog waits,
    • `collect_of_single`, `collect_of_multiple` — and the variable of the
      question before the line holds the last reply, or all of them joined to
      what it held.
-/
import Parley.Proofs.HandOver
import Parley.Proofs.Resumption

namespace Parley

variable {σ H : Type}

/-- The reply of a call: what it brings from the user, unless that is empty. -/
def Call.text? (call : Call) : Option String :=
  (call.onward?.bind Prod.snd).filter (· ≠ "")

/-- The replies of a run, in order. -/
def textsOf (run : List (Meeting σ)) : List String := run.filterMap (·.call.text?)

/-- A call with a reply goes on with it. -/
theorem Call.exists_onward_of_text {call : Call} {text : String} (h : call.text? = some text) :
    ∃ cause, call.onward? = some (cause, some text) := by
  obtain ⟨hreply, _⟩ := Option.filter_eq_some_iff.mp h
  obtain ⟨⟨cause, reply⟩, honward, rfl⟩ := Option.bind_eq_some_iff.mp hreply
  exact ⟨cause, honward⟩

/-- An empty reply is none. -/
theorem Call.text?_ne {call : Call} {text : String} (h : call.text? = some text) :
    text ≠ "" := by
  simpa using (Option.filter_eq_some_iff.mp h).2

/-- No reply of a run is empty. -/
theorem ne_of_mem_textsOf {run : List (Meeting σ)} : ∀ text ∈ textsOf run, text ≠ "" := by
  intro text hmem
  obtain ⟨m, _, htext⟩ := List.mem_filterMap.mp hmem
  exact Call.text?_ne htext

namespace Dialog

variable (d : Dialog H) (w : World σ H)

/-! ## §1. Replies collected in a variable. -/

/-- The variables once replies are put into one of them, one after the other. -/
def collect (key : String) (multiple : Bool) (values : Values) (texts : List String) : Values :=
  texts.foldl (fun values text =>
    values.insert key (.string (d.joined values key text multiple))) values

variable {d} {key : String} {values : Values}

/-- Replies are collected one after the other. -/
theorem collect_append (multiple : Bool) (first last : List String) :
    d.collect key multiple values (first ++ last)
      = d.collect key multiple (d.collect key multiple values first) last :=
  List.foldl_append

/-- The other variables stay as they are. -/
theorem get?_collect_of_ne {k : String} (hk : k ≠ key) (multiple : Bool) (texts : List String) :
    (d.collect key multiple values texts).get? k = values.get? k := by
  induction texts generalizing values with
  | nil => rfl
  | cons text rest ih =>
    show (d.collect key multiple (values.insert key _) rest).get? k = _
    rw [ih, Table.get?_insert_of_ne _ _ hk]

/-- A single reply takes the place of what was held. -/
theorem joined_of_single (text : String) : d.joined values key text false = text := by
  unfold joined
  cases values.shown? key <;> simp

/-- Joined replies: after what the variable shows, if it shows anything. -/
theorem joined_of_multiple (text : String) :
    d.joined values key text true
      = d.settings.separator.intercalate
          (((values.shown? key).filter (· ≠ "")).toList ++ [text]) := by
  unfold joined
  cases values.shown? key with
  | none => simp
  | some held => by_cases hheld : held = "" <;> simp [hheld, Option.filter_some]

/-- **Of single replies** the last one is held. -/
theorem collect_of_single {texts : List String} {text : String}
    (hlast : texts.getLast? = some text) :
    (d.collect key false values texts).get? key = some (.string text) := by
  induction texts generalizing values with
  | nil => cases hlast
  | cons first rest ih =>
    show (d.collect key false (values.insert key (.string _)) rest).get? key = _
    cases rest with
    | nil =>
      cases hlast
      show (values.insert key _).get? key = _
      rw [Table.get?_insert_self, joined_of_single]
      rfl
    | cons second rest => exact ih (by simpa using hlast)

/-- A variable into which a reply was joined does not show as empty. -/
theorem joined_ne {text : String} (htext : text ≠ "") :
    d.joined values key text true ≠ "" := by
  unfold joined
  cases values.shown? key with
  | none => exact htext
  | some held => by_cases hheld : held = "" <;> simp [hheld, htext]

/-- **Of multiple replies** all are held, in order, after what the variable showed before. -/
theorem collect_of_multiple {texts : List String} (hne : texts ≠ [])
    (htexts : ∀ text ∈ texts, text ≠ "") :
    (d.collect key true values texts).get? key
      = some (.string (d.settings.separator.intercalate
          (((values.shown? key).filter (· ≠ "")).toList ++ texts))) := by
  -- along the replies; each finds the ones before it joined in the variable
  induction texts generalizing values with
  | nil => exact absurd rfl hne
  | cons first rest ih =>
    rw [List.forall_mem_cons] at htexts
    show (d.collect key true (values.insert key (.string _)) rest).get? key = _
    cases rest with
    | nil =>
      show (values.insert key _).get? key = _
      rw [Table.get?_insert_self, joined_of_multiple]
    | cons second rest =>
      -- by the rest, the variable shows what it showed before with the first reply joined to it
      have hshown : Values.shown? (values.insert key (.string (d.joined values key first true)))
          key = some (d.joined values key first true) := by
        unfold Values.shown?
        rw [Table.get?_insert_self]
        rfl
      rw [ih (List.cons_ne_nil _ _) htexts.2, hshown,
        Option.filter_some_pos (by simpa using joined_ne htexts.1), joined_of_multiple]
      cases (values.shown? key).filter (· ≠ "") with
      | none => simp
      | some held => simp [String.append_assoc]

/-- What a variable holds once replies were collected in it. -/
structure Collects (separator key : String) (multiple : Bool) (texts : List String)
    (values values' : Values) : Prop where
  /-- Without a reply nothing changes. -/
  idle : texts = [] → values' = values
  /-- Of single replies it holds the last. -/
  single : multiple = false → ∀ text, texts.getLast? = some text →
    values'.get? key = some (.string text)
  /-- Of multiple replies it holds all, joined, after what it showed if it showed anything. -/
  joined : multiple = true → texts ≠ [] →
    values'.get? key = some (.string (separator.intercalate
      (((values.shown? key).filter (· ≠ "")).toList ++ texts)))
  /-- The other variables stay as they were. -/
  others : ∀ k, k ≠ key → values'.get? k = values.get? k

/-- **Collecting replies** goes as `Collects` says. -/
theorem collect_collects (multiple : Bool) {texts : List String}
    (htexts : ∀ text ∈ texts, text ≠ "") :
    Collects d.settings.separator key multiple texts values
      (d.collect key multiple values texts) where
  idle h := by rw [h]; rfl
  single hmultiple text hlast := by
    rw [hmultiple]
    exact collect_of_single hlast
  joined hmultiple hne := by
    rw [hmultiple]
    exact collect_of_multiple hne htexts
  others k hk := get?_collect_of_ne hk multiple texts

/-! ## §2. What a reply leads to at a line that is waited at. -/

/-- What orders to wait at a line with what the user sent: the branch that a reply chooses, so
that the line is not run; or the line, if no branch is chosen, and it sends a draft first. -/
inductive Waits (lines : List (Line H)) (index : Nat) (text? : Option String) :
    Option Draft → Prop
  /-- The reply chooses a branch that orders it. -/
  | chosen {intake : Intake H} {text : String} {branch : Branch H}
      (hquestion : questionBefore? lines index = some intake) (htext : text? = some text)
      (hbranch : intake.select? text = some branch)
      (horder : branch.consequence = .directive .hold) : Waits lines index text? none
  /-- The line orders it. -/
  | ordered {draft : Draft} (hline : lines[index]? = some (.action draft .hold))
      (hfree : ∀ intake text, questionBefore? lines index = some intake → text? = some text →
        intake.select? text = none) : Waits lines index text? (some draft)

/-- The route of a reply at a line that is waited at: it waits, or leads on to the line. -/
def waitRoute : Option Draft → Route
  | none => .hold
  | some _ => .onward

variable (d)

/-- The callbacks for what the user sent to the question before a position succeed, and lead
nowhere else. -/
def Heeds (lines : List (Line H)) (here : Position) (values : Values) (text? : Option String)
    (env : Env σ) : Prop :=
  ∀ intake key text, questionBefore? lines here.index = some intake → intake.key = some key →
    text? = some text → ∃ after env' events,
      d.replyBatch w here values intake key text env = ⟨.ok after, env', events⟩
        ∧ after.position = here

/-- What becomes of the variables at a line that is waited at. -/
structure Gathers (lines : List (Line H)) (index : Nat) (text? : Option String)
    (values values' : Values) : Prop where
  /-- A reply is collected, if no callback has a say in that. -/
  collected : ∀ intake key, questionBefore? lines index = some intake →
    intake.key = some key → d.hooks.atChange key = [] →
    values' = d.collect key intake.multiple values text?.toList
  /-- Nothing changes without a reply, or if no question names a variable for it. -/
  unchanged : text? = none ∨ (questionBefore? lines index).bind Intake.key = none →
    values' = values

variable {d} {lines : List (Line H)} {here : Position}

/-- A reply is taken, and leads nowhere else. -/
theorem takeReply_of_heeds {intake : Intake H} {text : String} {working : Progress}
    {env : Env σ} (hquestion : questionBefore? lines here.index = some intake)
    (hheeds : d.Heeds w lines here working.values (some text) env) (question : Position)
    (cause : Cause) (given : Option String) :
    ∃ taken env' events,
      d.takeReply w intake question text (d.stepAt here cause given) working env
          = ⟨.ok (taken, none), env', events⟩
        ∧ taken = { working with values := taken.values }
        ∧ d.Gathers lines here.index (some text) working.values taken.values := by
  cases hkey : intake.key with
  | none =>
    rw [d.takeReply_of_no_key w hkey]
    refine ⟨working, env, [], rfl, rfl, ?_, fun _ => rfl⟩
    intro intake' key hquestion' hkey'
    rw [hquestion] at hquestion'
    cases hquestion'
    rw [hkey] at hkey'
    cases hkey'
  | some key =>
    obtain ⟨after, env', events, hrun, hposition⟩ := hheeds intake key text hquestion hkey rfl
    have hstays : after.redirect? here = none := Handle.redirect?_of_eq hposition
    have htaken : d.takeReply w intake question text (d.stepAt here cause given) working env
        = ⟨.ok ({ working with values := after.values }, after.redirect? here),
            { env' with saved := { env'.saved with values := after.values } },
            .captured question key text :: events⟩ := d.takeReply_of_ok w hkey hrun
    rw [hstays] at htaken
    refine ⟨_, _, _, htaken, rfl, ?_, ?_⟩
    · -- no callback has a say, so what is handed back is what was handed over
      intro intake' key' hquestion' hkey' hfree
      rw [hquestion] at hquestion'
      cases hquestion'
      rw [hkey] at hkey'
      cases hkey'
      unfold replyBatch runChange at hrun
      rw [hfree] at hrun
      cases hrun
      rfl
    · rintro (hnone | hnone)
      · cases hnone
      · rw [hquestion, Option.bind_some, hkey] at hnone
        cases hnone

/-- **What is sent leads on to the line, or waits**, and nothing else happens but what that
takes. -/
theorem answerBefore_waits {text? : Option String} {draft? : Option Draft}
    {working : Progress} {env : Env σ} {cause : Cause} {given : Option String}
    (htext : (d.stepAt here cause given).reply = text?)
    (hwaits : Waits lines here.index text? draft?)
    (hheeds : d.Heeds w lines here working.values text? env) :
    ∃ answered env' events,
      d.answerBefore w lines (d.stepAt here cause given) working env
          = ⟨.ok (answered, waitRoute draft?), env', events⟩
        ∧ answered = { working with values := answered.values }
        ∧ d.Gathers lines here.index text? working.values answered.values := by
  cases text? with
  | none =>
    cases hwaits with
    | chosen _ hsome => cases hsome
    | ordered hline hfree =>
      rw [d.answerBefore_of_no_reply w htext]
      refine ⟨working, env, [], rfl, rfl, fun _ _ _ _ _ => rfl, fun _ => rfl⟩
  | some text =>
    cases hquestion : questionBefore? lines here.index with
    | none =>
      cases hwaits with
      | chosen hsome =>
        rw [hquestion] at hsome
        cases hsome
      | ordered hline hfree =>
        have hanswer : d.answerBefore w lines (d.stepAt here cause given) working
            = .answer (working, .onward) := d.answerBefore_of_no_question w hquestion working
        rw [hanswer]
        refine ⟨working, env, [], rfl, rfl, ?_, fun _ => rfl⟩
        intro intake key hquestion'
        rw [hquestion] at hquestion'
        cases hquestion'
    | some intake =>
      obtain ⟨taken, env', events, htaken, hvalues, hgathers⟩ := takeReply_of_heeds w hquestion
        hheeds { here with index := here.index - 1 } cause given
      -- the branch is tried on the reply once it is taken
      have hbranch : d.branch w intake { here with index := here.index - 1 } text
            (d.stepAt here cause given) taken env'
          = ⟨.ok (taken, waitRoute draft?), env',
              [.offered { here with index := here.index - 1 } text]⟩ := by
        cases hwaits with
        | chosen hquestion' htext' hselect horder =>
          rw [hquestion] at hquestion'
          cases hquestion'
          cases htext'
          exact d.branch_of_directive w hselect horder _ _ taken env'
        | ordered hline hfree =>
          exact d.branch_of_unmatched w (hfree intake text hquestion rfl) _ _ taken env'
      refine ⟨taken, env', events ++ [.offered { here with index := here.index - 1 } text], ?_,
        hvalues, hgathers⟩
      refine (d.answerBefore_of_taken w htext hquestion htaken).trans ?_
      exact congrArg (Outcome.after events) hbranch

/-! ## §3. Turns that wait. -/

/-- The deliveries of the dialog among events. -/
def deliveredOf (events : List (Event H)) : List (Event H) :=
  events.filter fun e => e.kind ∈ [EventKind.sent, .prompted]

/-- What a line sends that is waited at: the message of its draft, if it is run and that has any
content. -/
def bodyOf (draft? : Option Draft) (values : Values) (words : Words) : List (Event H) :=
  match draft? with
  | some draft => if draft.hasContent then [.sent (draft.render values words).1 true] else []
  | none => []

/-- Such a line sends, and nothing else. -/
theorem bodyOf_kind {draft? : Option Draft} {values : Values} {words : Words} :
    ∀ e ∈ (bodyOf draft? values words : List (Event H)), e.kind = .sent := by
  intro e he
  unfold bodyOf at he
  split at he
  · split at he
    · rw [List.mem_singleton.mp he]
      rfl
    · cases he
  · cases he

/-- The draft of a line is sent, or that fails. -/
theorem sendDraft_cases (draft : Draft) (values : Values) (env : Env σ) :
    (∃ env', sendDraft w draft values env
        = ⟨.ok (), env', bodyOf (some draft) values env.words⟩)
      ∨ ∃ fault env' m, sendDraft w draft values env
        = ⟨.error fault, env', [.sent m false]⟩ := by
  unfold sendDraft bodyOf
  by_cases hcontent : draft.hasContent
  · simp only [hcontent, if_true]
    rw [Act.render_bind_apply]
    rcases Act.call_cases (.sent (draft.render values env.words).1)
        (w.send (draft.render values env.words).1)
        { env with words := (draft.render values env.words).2 } with
      ⟨fault, world, hcall⟩ | ⟨_, world, hcall⟩
    · exact .inr ⟨fault, _, _, hcall⟩
    · exact .inl ⟨_, hcall⟩
  · simp only [hcontent]
    exact .inl ⟨env, rfl⟩

/-- **The way from a reply at a line that is waited at** stops there, unless the line cannot be
sent. -/
theorem walk_waits {text? : Option String} {draft? : Option Draft}
    (hwaits : Waits lines here.index text? draft?) (cause : Cause) (given : Option String)
    (answered : Progress) (env : Env σ) :
    (∃ env', d.walk w lines (d.stepAt here cause given) answered (waitRoute draft?) env
        = ⟨.ok ({ answered with replay := true }, .stop .waiting), env',
            bodyOf draft? answered.values env.words⟩)
      ∨ ∃ fault env' m,
        d.walk w lines (d.stepAt here cause given) answered (waitRoute draft?) env
          = ⟨.error fault, env', [.sent m false]⟩ := by
  cases hwaits with
  | chosen =>
    have hroute : waitRoute none ≠ .onward := by simp [waitRoute]
    refine .inl ⟨env, ?_⟩
    unfold walk
    rw [d.lineRoute_of_ne w hroute, Act.pure_bind_apply]
    rfl
  | @ordered draft hline hfree =>
    have hline' : lines[(d.stepAt here cause given).position.index]?
        = some (.action draft .hold) := hline
    have hwalk : d.walk w lines (d.stepAt here cause given) answered (waitRoute (some draft))
        = (sendDraft w draft answered.values >>= fun _ =>
            (pure ({ answered with replay := true }, .stop .waiting) :
              Act σ H (Progress × Move))) := by
      show (d.lineRoute w lines _ answered .onward >>= _) = _
      rw [d.lineRoute_of_line w hline']
      show (sendDraft w draft answered.values >>= fun _ => pure _) >>= _ >>= _ = _
      simp only [bind_assoc, pure_bind]
      rfl
    rw [hwalk]
    rcases sendDraft_cases w draft answered.values env with
      ⟨env', hsend⟩ | ⟨fault, env', m, hsend⟩
    · rw [Act.bind_of_ok hsend]
      refine .inl ⟨env', ?_⟩
      simp [Outcome.after]
    · exact .inr ⟨fault, env', m, Act.bind_of_error hsend⟩

variable (d)

/-- What comes of a turn that waits. -/
structure Parked (lines : List (Line H)) (here : Position) (draft? : Option Draft) (t : Turn σ)
    (o : Outcome σ H Report) : Prop where
  /-- It succeeds, and waits. -/
  waiting : o.result = .ok .waiting
  /-- The dialog stands at the line, which is to be run again, and keeps its options. -/
  stands : o.env.saved = { t.env.saved with
    thread := here.thread, index := here.index, replay := true, values := o.env.saved.values }
  /-- No callback for the entry of a thread runs, and none for the end. -/
  unhooked : ∀ e ∈ o.events, e.kind ≠ .entryCall ∧ e.kind ≠ .endCall
  /-- Only the line sends anything, if it is run. -/
  delivers : ∃ words, deliveredOf o.events = bodyOf draft? o.env.saved.values words
  /-- The reply is collected. -/
  gathers : d.Gathers lines here.index t.call.text? t.env.saved.values o.env.saved.values

/-- A line, in a thread with a name, that a turn may visit. -/
structure Visitable (lines : List (Line H)) (here : Position) : Prop where
  /-- The thread has a name. -/
  named : here.thread ≠ ""
  /-- Those are its lines. -/
  thread : d.script.thread? here.thread = some lines
  /-- The line is one of them. -/
  line : here.index < lines.length
  /-- The budget allows a visit. -/
  budget : 0 < d.settings.maxSteps

variable {d}

/-- A call that goes on with a dialog at a line visits that line first. -/
theorem outcomeOf_of_onward (hline : d.Visitable lines here) {t : Turn σ}
    (hsaved : t.env.saved.resumePosition = here) {cause : Cause} {given : Option String}
    (honward : t.call.onward? = some (cause, given)) :
    ∃ budget, budget + 1 = d.settings.maxSteps
      ∧ (d.stepAt here cause given).reply = t.call.text?
      ∧ d.outcomeOf w t
        = ((d.visit w lines here cause given t.env.saved >>= d.pursue w budget) t.env).commit := by
  obtain ⟨budget, hsteps⟩ := Nat.exists_eq_succ_of_ne_zero (Nat.ne_of_gt hline.budget)
  have hthere : t.env.saved.thread = here.thread := congrArg Position.thread hsaved
  have hstarted : t.env.saved.isStarted = true := bne_iff_ne.mpr (hthere ▸ hline.named)
  refine ⟨budget, hsteps.symm, ?_, ?_⟩
  · unfold Call.text?
    rw [honward]
    rfl
  · unfold outcomeOf
    rw [d.serve_of_onward w honward, d.resume_of_started w hstarted, hsaved, turn_eq, hsteps,
      d.resolve_of_line w hline.thread hline.line]

/-- **A visit that waits** leaves the dialog at its line, and sends what that does; or the line
cannot be sent. -/
theorem visit_waits {text? : Option String} {draft? : Option Draft} {cause : Cause}
    {given : Option String} {working : Progress} {env : Env σ}
    (htext : (d.stepAt here cause given).reply = text?)
    (hwaits : Waits lines here.index text? draft?)
    (hheeds : d.Heeds w lines here working.values text? env)
    (hthere : working.thread = here.thread) :
    (∃ (answered : Progress) (env' : Env σ) (answering : List (Event H)) (words : Words),
        d.visit w lines here cause given working env
          = ⟨.ok ({ answered with replay := true }, .stop .waiting), env',
              .reached here :: (answering ++ bodyOf draft? answered.values words)⟩
        ∧ answered = { working.arrive here with values := answered.values }
        ∧ d.Gathers lines here.index text? working.values answered.values
        ∧ ∀ e ∈ answering, e.kind ∈ takingKinds ++ branchKinds)
      ∨ ∃ fault env' events m, d.visit w lines here cause given working env
        = ⟨.error fault, env', events ++ [.sent m false]⟩ := by
  -- no thread is entered
  have hentry : d.enterAt w ⟨here, cause, given, working, env⟩
      = ⟨.ok (working.arrive here, none), env, []⟩ := by
    unfold enterAt enter
    rw [if_neg fun h => h.2 hthere]
    rfl
  have hheeds' : d.Heeds w lines here (working.arrive here).values text? env := hheeds
  obtain ⟨answered, env', answering, hanswer, hvalues, hgathers⟩ :=
    answerBefore_waits w htext hwaits hheeds'
  have hvisit : d.visit w lines here cause given working env
      = (d.walk w lines (d.stepAt here cause given) answered (waitRoute draft?) env').after
          (.reached here :: answering) := visitAt_of_answered hentry hanswer
  rcases walk_waits w hwaits cause given answered env' with
    ⟨env'', hwalk⟩ | ⟨fault, env'', m, hwalk⟩
  · refine .inl ⟨answered, env'', answering, env'.words, ?_, hvalues, hgathers, ?_⟩
    · rw [hvisit, hwalk]
      rfl
    · intro e he
      refine Decidable.byContradiction fun hkind => ?_
      have hlacks := d.answerBefore_lacks w hkind lines (d.stepAt here cause given)
        (working.arrive here) env e
      rw [hanswer] at hlacks
      exact hlacks he rfl
  · refine .inr ⟨fault, env'', .reached here :: answering, m, ?_⟩
    rw [hvisit, hwalk]
    rfl

/-- What a visit delivers on which nothing else is sent than what its line does. -/
theorem deliveredOf_visit {answering : List (Event H)}
    (hanswering : ∀ e ∈ answering, e.kind ∈ takingKinds ++ branchKinds) (draft? : Option Draft)
    (values : Values) (words : Words) :
    deliveredOf (.reached here :: (answering ++ bodyOf draft? values words))
      = bodyOf draft? values words := by
  have hdelivers : ∀ kind ∈ takingKinds ++ branchKinds,
      kind ∉ [EventKind.sent, .prompted] := by decide
  have hquiet : deliveredOf answering = [] :=
    List.filter_eq_nil_iff.mpr fun e he => by simpa using hdelivers _ (hanswering e he)
  have hbody : deliveredOf (bodyOf draft? values words : List (Event H))
      = bodyOf draft? values words :=
    List.filter_eq_self.mpr fun e he => by simp [bodyOf_kind e he]
  calc deliveredOf (.reached here :: (answering ++ bodyOf draft? values words))
      = deliveredOf (answering ++ bodyOf draft? values words) :=
        List.filter_cons_of_neg (by simp [Event.kind])
    _ = deliveredOf answering ++ deliveredOf (bodyOf draft? values words) :=
        List.filter_append ..
    _ = bodyOf draft? values words := by rw [hquiet, hbody, List.nil_append]

/-- **A turn that waits** leaves the dialog where it is. -/
theorem turn_parked (hline : d.Visitable lines here) {t : Turn σ} {draft? : Option Draft}
    (hsaved : t.env.saved.resumePosition = here) (hgoes : t.call.goesOn = true)
    (hwaits : Waits lines here.index t.call.text? draft?)
    (hheeds : d.Heeds w lines here t.env.saved.values t.call.text? t.env)
    (hsends : ∀ m, .sent m false ∉ (d.outcomeOf w t).events) :
    d.Parked lines here draft? t (d.outcomeOf w t) := by
  obtain ⟨cause, given, honward⟩ := Call.exists_onward hgoes
  obtain ⟨budget, _, htext, hturn⟩ := outcomeOf_of_onward w hline hsaved honward
  have hthere : t.env.saved.thread = here.thread := congrArg Position.thread hsaved
  rcases visit_waits w htext hwaits hheeds hthere with
    ⟨answered, env, answering, words, hvisit, hvalues, hgathers, hanswering⟩
      | ⟨fault, env, events, m, hvisit⟩
  · have hdone : d.outcomeOf w t
        = ⟨.ok .waiting, { env with saved := { answered with replay := true } },
            .reached here :: (answering ++ bodyOf draft? answered.values words)⟩ := by
      rw [hturn, Act.bind_of_ok hvisit]
      simp [pursue, Outcome.after, Outcome.commit]
    rw [hdone]
    refine ⟨rfl, ?stands, ?unhooked,
      ⟨words, deliveredOf_visit hanswering draft? answered.values words⟩, hgathers⟩
    case stands =>
      show { answered with replay := true } = _
      rw [hvalues]
      rfl
    case unhooked =>
      have hunhooked : ∀ kind ∈ takingKinds ++ branchKinds,
          kind ≠ .entryCall ∧ kind ≠ .endCall := by decide
      intro e he
      rcases List.mem_cons.mp he with rfl | he
      · simp [Event.kind]
      rcases List.mem_append.mp he with he | he
      · exact hunhooked _ (hanswering e he)
      · rw [bodyOf_kind e he]
        decide
  · -- the message of the line would have failed
    refine absurd ?_ (hsends m)
    rw [hturn, Act.bind_of_error hvisit, Outcome.commit_events]
    simp

/-! ## §4. Runs that wait. -/

/-- A call of a run waits at a line: it goes on with the dialog, something orders to wait, and
neither a callback about its reply nor the host stands in the way. -/
structure StaysAt (d : Dialog H) (w : World σ H) (lines : List (Line H)) (here : Position)
    (t : Turn σ) : Prop where
  /-- It goes on with the dialog. -/
  goesOn : t.call.goesOn = true
  /-- The branch that its reply chooses orders to wait, or the line does. -/
  waits : ∃ draft?, Waits lines here.index t.call.text? draft?
  /-- Callbacks about its reply succeed, and lead nowhere else. -/
  heeds : d.Heeds w lines here t.env.saved.values t.call.text? t.env
  /-- No message fails. -/
  sends : ∀ m, .sent m false ∉ (d.outcomeOf w t).events

/-- A dialog that waits at a line goes on with that line. -/
theorem Parked.resumePosition {draft? : Option Draft} {t : Turn σ} {o : Outcome σ H Report}
    (h : d.Parked lines here draft? t o) : o.env.saved.resumePosition = here := by
  rw [h.stands]
  rfl

variable {w} in
/-- **A turn that stays** leaves the dialog waiting at its line. -/
theorem StaysAt.parked {t : Turn σ} (h : d.StaysAt w lines here t)
    (hline : d.Visitable lines here) (hsaved : t.env.saved.resumePosition = here)
    {draft? : Option Draft} (hwaits : Waits lines here.index t.call.text? draft?) :
    d.Parked lines here draft? t (d.outcomeOf w t) :=
  turn_parked w hline hsaved h.goesOn hwaits h.heeds h.sends

variable {w} in
/-- The next turn after one that waits begins with the same line. -/
theorem StaysAt.resumePosition {t : Turn σ} (h : d.StaysAt w lines here t)
    (hline : d.Visitable lines here) (hsaved : t.env.saved.resumePosition = here) :
    (d.outcomeOf w t).env.saved.resumePosition = here := by
  obtain ⟨draft?, hwaits⟩ := h.waits
  exact (h.parked hline hsaved hwaits).resumePosition

/-- Every turn of a run that waits at a line begins with it. -/
theorem turnsOf_resumePosition (hline : d.Visitable lines here) {run : List (Meeting σ)}
    {saved : Progress} (hsaved : saved.resumePosition = here)
    (hstays : ∀ t ∈ d.turnsOf w saved run, d.StaysAt w lines here t) :
    ∀ t ∈ d.turnsOf w saved run, t.env.saved.resumePosition = here := by
  -- along the run; every call leaves the dialog where the next one begins
  induction run generalizing saved with
  | nil => exact fun _ ht => absurd ht List.not_mem_nil
  | cons m rest ih =>
    unfold turnsOf at hstays ⊢
    rw [List.forall_mem_cons] at hstays ⊢
    exact ⟨hsaved, ih (hstays.1.resumePosition hline hsaved) hstays.2⟩

/-- The replies of a run that waits are collected, if no callback has a say in that. -/
theorem savedAfter_collect (hline : d.Visitable lines here) {intake : Intake H} {key : String}
    (hquestion : questionBefore? lines here.index = some intake) (hkey : intake.key = some key)
    (hfree : d.hooks.atChange key = []) {run : List (Meeting σ)} {saved : Progress}
    (hsaved : saved.resumePosition = here)
    (hstays : ∀ t ∈ d.turnsOf w saved run, d.StaysAt w lines here t) :
    (d.savedAfter w saved run).values
      = d.collect key intake.multiple saved.values (textsOf run) := by
  -- along the run; the replies of each call are collected after those before
  induction run generalizing saved with
  | nil => rfl
  | cons m rest ih =>
    unfold turnsOf at hstays
    rw [List.forall_mem_cons] at hstays
    obtain ⟨draft?, hwaits⟩ := hstays.1.waits
    have hfirst := hstays.1.parked hline hsaved hwaits
    have hvalues : (d.outcomeOf w ⟨m.call, m.env saved⟩).env.saved.values
        = d.collect key intake.multiple saved.values m.call.text?.toList :=
      hfirst.gathers.collected intake key hquestion hkey hfree
    have htexts : textsOf (m :: rest) = m.call.text?.toList ++ textsOf rest := by
      unfold textsOf
      cases htext : m.call.text? <;> simp [htext]
    rw [htexts, collect_append, ← hvalues]
    exact ih hfirst.resumePosition hstays.2

/-- **A dialog that waits stays where it is, and collects replies.**  Let the next turn of a
dialog begin with a line, in a thread with a name, and let every call of a run wait there.  Then
each of them succeeds and waits, and leaves the dialog at that line, which is to be run again;
no callback for the entry of a thread or for the end runs, and nothing is sent but the message
of the line, if that is run and has any content.  The variable of the question before the line
holds after that the last reply of the run, or all of them joined to what it showed before, if no
callback has a say in it. -/
theorem run_parked (hline : d.Visitable lines here) {saved : Progress}
    (hsaved : saved.resumePosition = here) {run : List (Meeting σ)}
    (hstays : ∀ t ∈ d.turnsOf w saved run, d.StaysAt w lines here t) :
    (∀ t ∈ d.turnsOf w saved run, ∀ draft?, Waits lines here.index t.call.text? draft? →
        d.Parked lines here draft? t (d.outcomeOf w t))
      ∧ ∀ intake key, questionBefore? lines here.index = some intake →
        intake.key = some key → d.hooks.atChange key = [] →
        Collects d.settings.separator key intake.multiple (textsOf run) saved.values
          (d.savedAfter w saved run).values := by
  constructor
  · intro t ht draft? hwaits
    have hbegins := turnsOf_resumePosition w hline hsaved hstays t ht
    exact (hstays t ht).parked hline hbegins hwaits
  · intro intake key hquestion hkey hfree
    rw [savedAfter_collect w hline hquestion hkey hfree hsaved hstays]
    exact collect_collects intake.multiple ne_of_mem_textsOf

/-- A question for colors, one after the other, and an offer to be done with that. -/
def paletteLines : List (Line Routine) :=
  [.question {}
    { key := some "colors", multiple := true,
      branches := [.matching .string "more" (· == "more") (.directive .hold)] },
    .action { suggestions := [⟨"Done", "done"⟩] } .hold]

/-- A dialog of those lines. -/
def paletteDialog : Dialog Routine where
  id := "palette"
  script := Script.empty.addAll (paletteLines.map (Addition.line "default"))
  settings := { separator := ", " }

/-- It has asked, and there was a color before. -/
def paletteProgress : Progress where
  thread := "default"
  values := Table.empty.insert "colors" (.string "red")

/-- There is to be more, and then nothing comes in, and then another color. -/
def paletteRun : List (Meeting Stage) :=
  [replyOn readyStage "more", replyOn readyStage "", replyOn readyStage "blue"]

/-- The dialog waits through two colors and an empty reply, and collects the colors. -/
theorem paletteDialog_parked :
    (∀ t ∈ paletteDialog.turnsOf Stage.world paletteProgress paletteRun, ∀ draft?,
        Waits paletteLines 1 t.call.text? draft? →
        paletteDialog.Parked paletteLines ⟨"default", 1⟩ draft? t
          (paletteDialog.outcomeOf Stage.world t))
      ∧ Collects ", " "colors" true ["more", "blue"] paletteProgress.values
        (paletteDialog.savedAfter Stage.world paletteProgress paletteRun).values
      ∧ paletteDialog.savedAfter Stage.world paletteProgress paletteRun
        = { thread := "default", index := 1, replay := true,
            values := Table.empty.insert "colors" (.string "red, more, blue") } := by
  have hline : paletteDialog.Visitable paletteLines ⟨"default", 1⟩ :=
    ⟨by decide, rfl, by decide, by decide⟩
  have hstays : ∀ t ∈ paletteDialog.turnsOf Stage.world paletteProgress paletteRun,
      paletteDialog.StaysAt Stage.world paletteLines ⟨"default", 1⟩ t := by
    have hheeds : ∀ values text? (env : Env Stage),
        paletteDialog.Heeds Stage.world paletteLines ⟨"default", 1⟩ values text? env := by
      intro values text? env intake key text _ _ _
      exact ⟨_, _, _, rfl, rfl⟩
    have hsends : ∀ events : List (Event Routine),
        events.all (fun e => match e with | .sent _ ok => ok | _ => true) = true →
        ∀ m, .sent m false ∉ events :=
      fun events hall m hmem => absurd (List.all_eq_true.mp hall _ hmem) (by simp)
    refine List.forall_mem_cons.mpr ⟨?more, List.forall_mem_cons.mpr ⟨?nothing,
      List.forall_mem_singleton.mpr ?blue⟩⟩
    case more =>
      exact ⟨rfl, ⟨none, .chosen rfl rfl rfl rfl⟩, hheeds _ _ _, hsends _ rfl⟩
    case nothing =>
      exact ⟨rfl, ⟨_, .ordered rfl fun _ _ _ htext => by cases htext⟩, hheeds _ _ _,
        hsends _ rfl⟩
    case blue =>
      refine ⟨rfl, ⟨_, .ordered rfl fun intake text hquestion htext => ?_⟩, hheeds _ _ _,
        hsends _ rfl⟩
      cases hquestion
      cases htext
      rfl
  have hparked := run_parked Stage.world hline rfl hstays
  exact ⟨hparked.1, hparked.2 _ "colors" rfl rfl rfl, rfl⟩

end Dialog

end Parley
