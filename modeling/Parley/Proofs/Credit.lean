/-
  Parley.Proofs.Credit
  ────────────────────
  **THE QUESTION THAT A REPLY IS CREDITED TO.**

  A turn credits its reply to a question if it puts the reply into the variable of
  that question, or tries its branches on the reply.  In a run of calls this is the
  question that was asked last, but for two ways a run can go
  (`LeadsClear.run_credits`):

    • the prompt of the question failed; the user was told so, and the dialog then
      waited for the reply all the same,
    • an earlier turn was over before it asked a question that it had come to
      (`Skips`), and since then no prompt was called.

  Callbacks are to move their handle only where no question stands above; to the
  start of a thread, for one.
-/
import Parley.Proofs.Attention
import Parley.Stage

namespace Parley

variable {σ H α β : Type}

/-! ## §1. Events that credit a question. -/

/-- The question that an event credits with the reply. -/
def Event.credited? : Event H → Option Position
  | .captured question _ _ | .offered question _ => some question
  | _ => none

/-- Only taking a reply and trying branches credit a question. -/
theorem Event.credited?_eq_none {e : Event H} (hcaptured : e.kind ≠ .captured)
    (hoffered : e.kind ≠ .offered) : e.credited? = none := by
  cases e with
  | captured => exact absurd rfl hcaptured
  | offered => exact absurd rfl hoffered
  | _ => rfl

namespace Act

/-- The questions that an act credits have the property, and no prompt is called
before. -/
def CreditsFirst (property : Position → Prop) (act : Act σ H α) : Prop :=
  ∀ env before e after q, (act env).events = before ++ e :: after → e.credited? = some q →
    property q ∧ ∀ e ∈ before, e.kind ≠ .prompted

namespace CreditsFirst

variable {p : Position → Prop}

/-- An act that neither takes a reply nor tries branches credits no question. -/
theorem of_lacks {act : Act σ H α} (hcaptured : Lacks .captured act)
    (hoffered : Lacks .offered act) : CreditsFirst p act := by
  intro env before e after q hevents hcredit
  have he : e ∈ (act env).events := by rw [hevents]; simp
  rw [Event.credited?_eq_none (hcaptured env e he) (hoffered env e he)] at hcredit
  cases hcredit

/-- Nor does one confined to other kinds of events. -/
theorem of_confined {kinds : List EventKind} {act : Act σ H α} (h : Confined kinds act)
    (hkinds : .captured ∉ kinds ∧ .offered ∉ kinds) : CreditsFirst p act :=
  of_lacks (.of_confined h hkinds.1) (.of_confined h hkinds.2)

/-- An answer credits no question. -/
theorem pure (a : α) : CreditsFirst p (Pure.pure a : Act σ H α) :=
  of_lacks (.pure a) (.pure a)

/-- A note credits what its event does, and nothing happens before it. -/
theorem note {event : Event H} (h : ∀ q, event.credited? = some q → p q) :
    CreditsFirst p (Act.note event : Act σ H Unit) := by
  intro env before e after q hevents hcredit
  -- the one event of a note has none before it
  have hlength : [event].length = (before ++ e :: after).length := congrArg _ hevents
  simp only [List.length_cons, List.length_append, List.length_nil] at hlength
  have hbefore : before = [] := List.eq_nil_of_length_eq_zero (by omega)
  subst hbefore
  rw [List.nil_append] at hevents
  cases hevents
  exact ⟨h q hcredit, fun e he => absurd he List.not_mem_nil⟩

/-- A sequence whose first act calls no prompt. -/
theorem bind {act : Act σ H α} {next : α → Act σ H β} (hact : CreditsFirst p act)
    (hquiet : Lacks .prompted act) (hnext : ∀ a, CreditsFirst p (next a)) :
    CreditsFirst p (act >>= next) := by
  intro env before e after q hevents hcredit
  have hfirst := hact env
  have hnone := hquiet env
  -- an act that fails ends the sequence; else the event is one of either act
  rcases bind_cases act next env with ⟨fault, env', events, h, hseq⟩ | ⟨a, env', events, h, hseq⟩
  · rw [h] at hfirst
    rw [hseq] at hevents
    exact hfirst before e after q hevents hcredit
  · rw [h] at hfirst hnone
    rw [hseq, Outcome.after_events] at hevents
    rcases Dialog.append_eq_cases hevents with ⟨after', hhere⟩ | ⟨before', rfl, hlater⟩
    · exact hfirst before e after' q hhere hcredit
    · obtain ⟨hp, hbefore⟩ := hnext a env' before' e after q hlater hcredit
      exact ⟨hp, List.forall_mem_append.mpr ⟨hnone, hbefore⟩⟩

/-- A sequence whose second act credits no question. -/
theorem bind_quiet {act : Act σ H α} {next : α → Act σ H β} (hact : CreditsFirst p act)
    (hnext : ∀ a, Lacks .captured (next a) ∧ Lacks .offered (next a)) :
    CreditsFirst p (act >>= next) := by
  intro env before e after q hevents hcredit
  have hfirst := hact env
  -- as before; but only the first act can have the event, so its prompts do not matter
  rcases bind_cases act next env with ⟨fault, env', events, h, hseq⟩ | ⟨a, env', events, h, hseq⟩
  · rw [h] at hfirst
    rw [hseq] at hevents
    exact hfirst before e after q hevents hcredit
  · rw [h] at hfirst
    rw [hseq, Outcome.after_events] at hevents
    rcases Dialog.append_eq_cases hevents with ⟨after', hhere⟩ | ⟨before', _, hlater⟩
    · exact hfirst before e after' q hhere hcredit
    · -- the second act would credit the question
      have he : e ∈ (next a env').events := by rw [hlater]; simp
      rw [Event.credited?_eq_none ((hnext a).1 env' e he) ((hnext a).2 env' e he)] at hcredit
      cases hcredit

end CreditsFirst

end Act

namespace Dialog

variable (d : Dialog H) (w : World σ H)

/-! ## §2. Turns that credit a question. -/

/-- Taking a reply credits its question, before any prompt. -/
theorem takeReply_credits {p : Position → Prop} (intake : Intake H) {question : Position}
    (hquestion : p question) (reply : String) (step : Step) (working : Progress) :
    Act.CreditsFirst p (d.takeReply w intake question reply step working) := by
  cases hkey : intake.key with
  | none =>
    rw [d.takeReply_of_no_key w hkey]
    exact .pure _
  | some key =>
    rw [d.takeReply_of_key w hkey]
    have hbatch := d.replyBatch_confined w step.position working.values intake key reply
    -- the note credits the question, and the callbacks after it none
    refine (Act.CreditsFirst.note fun q hq => ?_).bind_quiet fun _ => ⟨?_, ?_⟩
    · cases hq
      exact hquestion
    · exact (Act.Lacks.of_confined hbatch (by simp)).bind
        fun _ => (Act.Lacks.saveValues _).bind fun _ => .pure _
    · exact (Act.Lacks.of_confined hbatch (by simp)).bind
        fun _ => (Act.Lacks.saveValues _).bind fun _ => .pure _

/-- Trying the branches of a question credits it. -/
theorem branch_credits {p : Position → Prop} (intake : Intake H) {question : Position}
    (hquestion : p question) (reply : String) (step : Step) (working : Progress) :
    Act.CreditsFirst p (d.branch w intake question reply step working) := by
  refine (Act.CreditsFirst.note fun q hq => ?_).bind ?_ fun _ => ?_
  · cases hq
    exact hquestion
  · exact .note (by simp [Event.kind])
  -- no branch, one with a directive, or one with a callback
  · split
    · exact .pure _
    · exact .pure _
    · exact .of_confined ((runHandler_confined w _ reply _).bind fun decided => .pure _) (by simp)

/-- A reply is credited to the nearest question above, which is that of the line
before. -/
theorem answerBefore_credits {lines : List (Line H)} {step : Step}
    (hthread : d.script.thread? step.position.thread = some lines) (working : Progress) :
    Act.CreditsFirst (fun q => d.script.above? step.position = some q)
      (d.answerBefore w lines step working) := by
  cases hreply : step.reply with
  | none =>
    rw [d.answerBefore_of_no_reply w hreply]
    exact .pure _
  | some reply =>
    cases hquestion : questionBefore? lines step.position.index with
    | none =>
      rw [d.answerBefore_of_no_question w hquestion]
      exact .pure _
    | some intake =>
      obtain ⟨i, draft, hindex, hline⟩ := questionBefore?_eq_some.mp hquestion
      -- the nearest question above is the line right before, for that is one
      have habove : d.script.above? step.position
          = some { step.position with index := step.position.index - 1 } := by
        have hasked : d.script.question? ⟨step.position.thread, i⟩ = some intake :=
          Script.question?_of_line hthread hline
        unfold Script.above?
        rw [hindex]
        unfold Script.questionAbove?
        rw [hasked]
        rfl
      rw [d.answerBefore_of_reply w hreply hquestion]
      refine (d.takeReply_credits w intake habove reply step working).bind
        (d.takeReply_lacks w (by simp [takingKinds]) intake _ reply step working) ?_
      rintro ⟨taken, redirect⟩
      cases redirect with
      | some target => exact .pure _
      | none => exact d.branch_credits w intake habove reply step taken

/-- A visit credits the nearest question above its position, before it calls a prompt. -/
theorem visit_credits {lines : List (Line H)} {position : Position}
    (hthread : d.script.thread? position.thread = some lines) (cause : Cause)
    (reply : Option String) (working : Progress) :
    Act.CreditsFirst (fun q => d.script.above? position = some q)
      (d.visit w lines position cause reply working) := by
  rw [visit_eq]
  -- only what the reply leads to credits a question, and a prompt comes after it
  refine (Act.CreditsFirst.note (by simp [Event.credited?])).bind
    (.note (by simp [Event.kind])) fun _ => ?_
  refine (Act.CreditsFirst.of_confined (d.enter_confined w _ _ _) (by simp)).bind
    (.of_confined (d.enter_confined w _ _ _) (by simp)) ?_
  rintro ⟨entered, redirect⟩
  cases redirect with
  | some target => exact .pure _
  | none =>
    refine (d.answerBefore_credits w hthread entered).bind_quiet ?_
    rintro ⟨answered, route⟩
    have hwalk := d.walk_confined w lines (d.stepAt position cause reply) answered route
    exact ⟨.of_confined hwalk (by simp [routeKinds]), .of_confined hwalk (by simp [routeKinds])⟩

/-- **A loop credits** the nearest question above its first position, before it calls a
prompt. -/
theorem resolve_credits (budget : Nat) (position : Position) (cause : Cause)
    (reply : Option String) (working : Progress) :
    Act.CreditsFirst (fun q => d.script.above? position = some q)
      (d.resolve w budget position cause reply working) := by
  have hzero := d.resolve_zero_confined w position cause reply working
  -- without a line, or without budget for it, no reply is taken
  by_cases hline : d.script.HasLine position
  · cases budget with
    | zero => exact .of_confined hzero (by simp)
    | succ budget =>
      obtain ⟨lines, hthread, hin⟩ := hline
      rw [d.resolve_of_line w hthread hin]
      refine (d.visit_credits w hthread cause reply working).bind_quiet fun moved => ?_
      have hrest := d.pursue_confined w budget moved
      exact ⟨.of_confined hrest (by simp [quietKinds]), .of_confined hrest (by simp [quietKinds])⟩
  · rw [d.resolve_of_no_line w hline]
    exact .of_confined hzero (by simp)

/-- **A call credits** the nearest question above the line that its turn begins with,
before it calls a prompt; and it does not begin the dialog. -/
theorem serve_credits {call : Call} {env : Env σ} {before after : List (Event H)}
    {e : Event H} {q : Position} (hevents : (d.serve w call env).events = before ++ e :: after)
    (hcredit : e.credited? = some q) :
    (∃ cause reply, call.task env.saved = .turn cause reply)
      ∧ d.script.above? env.saved.resumePosition = some q ∧ promptCalls before = [] := by
  -- a call begins the dialog, goes on with it, or does nothing
  cases htask : call.task env.saved with
  | begin options =>
    rw [d.serve_of_begin w htask, begin_apply, turn_eq, Outcome.commit_events] at hevents
    -- a begin has no reply
    have hquiet : Act.CreditsFirst (fun _ => False) (d.resolve w d.settings.maxSteps
        ⟨d.startThread options, 0⟩ .begun none (Progress.start "" options)) :=
      .of_confined (d.resolve_confined w _ _ _ _) (by simp [quietKinds])
    exact (hquiet _ before e after q hevents hcredit).1.elim
  | turn cause reply =>
    rw [d.serve_of_turn w htask, turn_eq, Outcome.commit_events] at hevents
    obtain ⟨habove, hquiet⟩ :=
      d.resolve_credits w _ _ cause reply _ env before e after q hevents hcredit
    exact ⟨⟨cause, reply, rfl⟩, habove, promptCalls_eq_nil hquiet⟩
  | nothing result =>
    rw [d.serve_of_nothing w htask] at hevents
    simp at hevents

end Dialog

/-! ## §3. Runs. -/

/-- A call in what surrounds it. -/
structure Turn (σ : Type) where
  /-- The call. -/
  call : Call
  /-- What surrounds it. -/
  env : Env σ

namespace Dialog

variable (d : Dialog H) (w : World σ H)

/-- What comes of a call. -/
def outcomeOf (t : Turn σ) : Outcome σ H Report := d.serve w t.call t.env

/-- The calls of a run, each in what the ones before it saved. -/
def turnsOf : Progress → List (Meeting σ) → List (Turn σ)
  | _, [] => []
  | saved, m :: rest =>
    ⟨m.call, m.env saved⟩ :: turnsOf (d.outcomeOf w ⟨m.call, m.env saved⟩).env.saved rest

/-- What happens in a run. -/
def eventsOf (turns : List (Turn σ)) : List (Event H) :=
  turns.flatMap fun t => (d.outcomeOf w t).events

/-- The calls of prompts in a call that succeeds. -/
def callsOf (t : Turn σ) : List (Position × Bool) :=
  match (d.outcomeOf w t).result with
  | .ok _ => promptCalls (d.outcomeOf w t).events
  | .error _ => []

/-- The question whose prompt was called last in a run, in a call that succeeded. -/
def lastOf (turns : List (Turn σ)) : Option Position :=
  lastCalled none (turns.flatMap (d.callsOf w))

/-- A call has skipped a question, and in the calls after it the dialog does not begin
anew, and none that succeeds calls a prompt. -/
def Skipped (turns : List (Turn σ)) : Prop :=
  ∃ earlier t later report, turns = earlier ++ t :: later
    ∧ (d.outcomeOf w t).result = .ok report
    ∧ d.Skips (d.CutsOff w t.call t.env) (d.lastOf w (earlier ++ [t]))
        (d.outcomeOf w t).env.saved report
    ∧ ∀ t' ∈ later, (∀ options, t'.call.task t'.env.saved ≠ .begin options)
      ∧ d.callsOf w t' = []

/-- A run leaves the dialog below the question asked last, or has skipped a
question. -/
def Keeps (turns : List (Turn σ)) (saved : Progress) : Prop :=
  d.Left saved (d.lastOf w turns) ∨ d.Skipped w turns

section Steps

variable {d w} {turns : List (Turn σ)} {t : Turn σ}

/-- In a call that succeeds all calls of prompts count. -/
theorem callsOf_of_ok {report : Report} (h : (d.outcomeOf w t).result = .ok report) :
    d.callsOf w t = promptCalls (d.outcomeOf w t).events := by
  unfold callsOf
  rw [h]

/-- In one that fails none does. -/
theorem callsOf_of_error {fault : Fault} (h : (d.outcomeOf w t).result = .error fault) :
    d.callsOf w t = [] := by
  unfold callsOf
  rw [h]

/-- After one more call its calls of prompts come last. -/
theorem lastOf_snoc (turns : List (Turn σ)) (t : Turn σ) :
    d.lastOf w (turns ++ [t]) = lastCalled (d.lastOf w turns) (d.callsOf w t) := by
  unfold lastOf
  rw [List.flatMap_append, lastCalled_append, List.flatMap_singleton]

/-- A skipped question stays so, until the dialog begins anew or a prompt is
called. -/
theorem Skipped.snoc (h : d.Skipped w turns)
    (hbegin : ∀ options, t.call.task t.env.saved ≠ .begin options)
    (hcalls : d.callsOf w t = []) : d.Skipped w (turns ++ [t]) := by
  obtain ⟨earlier, t₀, later, report, rfl, hok, hskips, hlater⟩ := h
  refine ⟨earlier, t₀, later ++ [t], report, by simp, hok, hskips, ?_⟩
  -- the call comes after those that were already later
  intro t' ht'
  rcases List.mem_append.mp ht' with ht' | ht'
  · exact hlater t' ht'
  · cases List.mem_singleton.mp ht'
    exact ⟨hbegin, hcalls⟩

/-- A call that succeeds, from a settled place or with a prompt. -/
theorem LeadsClear.keeps_of_ok (hclear : d.LeadsClear w) {start : Place σ}
    (houtset : d.outset t.call t.env = some start)
    (h : d.Settled start (d.lastOf w turns) ∨ d.callsOf w t ≠ []) {report : Report}
    (hok : (d.outcomeOf w t).result = .ok report) :
    d.Keeps w (turns ++ [t]) (d.outcomeOf w t).env.saved := by
  rw [callsOf_of_ok hok] at h
  have hleft := hclear.serve_left houtset h hok
  rw [show d.serve w t.call t.env = d.outcomeOf w t from rfl, ← callsOf_of_ok hok,
    ← lastOf_snoc] at hleft
  -- a question that this call skips is skipped with no call after it
  rcases hleft with hleft | hskips
  · exact .inl hleft
  · exact .inr ⟨turns, t, [], report, rfl, hok, hskips, fun _ h => absurd h List.not_mem_nil⟩

/-- **A call that begins the dialog**, whatever was before it. -/
theorem LeadsClear.keeps_begin (hclear : d.LeadsClear w) {options : Values}
    (htask : t.call.task t.env.saved = .begin options) :
    d.Keeps w (turns ++ [t]) (d.outcomeOf w t).env.saved := by
  -- a begin sets out at the first line of a thread, where every question is attended to
  cases hresult : (d.outcomeOf w t).result with
  | ok report =>
    exact hclear.keeps_of_ok (d.outset_of_begin htask)
      (.inl ⟨.inl (.of_none (Script.above?_of_first rfl) _), .inl rfl⟩) hresult
  | error fault =>
    -- it has entered no thread
    refine .inl (.inl ?_)
    have hbegin : d.outcomeOf w t = d.begin w options t.env := d.serve_of_begin w htask
    rw [hbegin, begin_apply] at hresult ⊢
    obtain ⟨values, hsaved⟩ := d.turn_revalued w hresult
    rw [hsaved]
    rfl

/-- **A call that goes on** from where the dialog stands. -/
theorem LeadsClear.keeps_turn (hclear : d.LeadsClear w) {cause : Cause} {reply : Option String}
    (htask : t.call.task t.env.saved = .turn cause reply) (h : d.Keeps w turns t.env.saved) :
    d.Keeps w (turns ++ [t]) (d.outcomeOf w t).env.saved := by
  have hbegin : ∀ options, t.call.task t.env.saved ≠ .begin options := by
    intro options hbegins
    rw [htask] at hbegins
    cases hbegins
  have houtset := d.outset_of_turn htask
  cases hresult : (d.outcomeOf w t).result with
  | ok report =>
    -- what the run has left is settled; a question it has skipped stays so unless a prompt is
    -- called
    rcases h with hleft | hskipped
    · refine hclear.keeps_of_ok houtset (.inl ⟨.inl (hleft.resolve_left ?_), ?_⟩) hresult
      · rw [Call.isStarted_of_task htask]
        simp
      · exact hleft.elim .inl fun hattends => .inr (.inl hattends)
    · by_cases hcalls : d.callsOf w t = []
      · exact .inr (hskipped.snoc hbegin hcalls)
      · exact hclear.keeps_of_ok houtset (.inr hcalls) hresult
  | error fault =>
    have hcalls := callsOf_of_error hresult
    rcases h with hleft | hskipped
    · -- it stands where it stood, and no question has been asked since
      refine .inl ?_
      rw [lastOf_snoc, hcalls, lastCalled_nil]
      have hturn : d.outcomeOf w t = d.turn w t.env.saved.resumePosition cause reply t.env :=
        d.serve_of_turn w htask
      rw [hturn] at hresult ⊢
      obtain ⟨values, hsaved⟩ := d.turn_revalued w hresult
      rw [hsaved]
      exact hleft
    · exact .inr (hskipped.snoc hbegin hcalls)

/-- **One call.** -/
theorem LeadsClear.keeps_snoc (hclear : d.LeadsClear w) (h : d.Keeps w turns t.env.saved) :
    d.Keeps w (turns ++ [t]) (d.outcomeOf w t).env.saved := by
  -- a call begins the dialog, goes on with it, or does nothing
  cases htask : t.call.task t.env.saved with
  | begin options => exact hclear.keeps_begin htask
  | turn cause reply => exact hclear.keeps_turn htask h
  | nothing result =>
    have hnothing : d.outcomeOf w t = ⟨result, t.env, []⟩ := d.serve_of_nothing w htask
    have hcalls : d.callsOf w t = [] := by
      unfold callsOf
      rw [hnothing]
      cases result <;> rfl
    rw [hnothing]
    refine h.imp (fun hleft => ?_) fun hskipped => hskipped.snoc (fun options hbegin => ?_) hcalls
    · rw [lastOf_snoc, hcalls, lastCalled_nil]
      exact hleft
    · rw [htask] at hbegin
      cases hbegin

/-- **A run.** -/
theorem LeadsClear.keeps_append (hclear : d.LeadsClear w) (run : List (Meeting σ)) :
    ∀ {turns : List (Turn σ)} {saved : Progress}, d.Keeps w turns saved →
      d.Keeps w (turns ++ d.turnsOf w saved run) (d.savedAfter w saved run) := by
  -- along the run; a call finds what the one before it saved
  induction run with
  | nil =>
    intro turns saved h
    rw [show d.turnsOf w saved [] = [] from rfl, List.append_nil]
    exact h
  | cons m rest ih =>
    intro turns saved h
    have hnext := ih (hclear.keeps_snoc (t := ⟨m.call, m.env saved⟩) h)
    rw [List.append_assoc] at hnext
    exact hnext

end Steps

end Dialog

/-! ## §4. Callbacks that move their handle to the start of a thread. -/

namespace Routine

/-- A handle was handed back where it was, or at the start of a thread. -/
def Stayed (before after : Handle) : Prop :=
  after.position = before.position ∨ after.position.index = 0

/-- Routines leave their handle where it is, or move it to the start of a thread. -/
theorem stayed_closed : Closed Stayed := by
  refine ⟨fun _ => .inl rfl, ?trans, fun _ _ => .inr rfl, fun _ _ _ => .inl rfl⟩
  rintro first second third hfirst (hsame | hstart)
  · unfold Stayed
    rw [hsame]
    exact hfirst
  · exact .inr hstart

end Routine

/-- The callbacks of a stage move their handle to the start of a thread, if they do. -/
theorem Stage.world_redirectsTo : Stage.world.RedirectsTo fun p => p.index = 0 :=
  ⟨Stage.perform_closed Routine.stayed_closed, Stage.perform_closed Routine.stayed_closed⟩

namespace Dialog

variable (d : Dialog H) (w : World σ H)

/-- So they move it where no question stands above. -/
theorem leadsClear_stage (d : Dialog Routine) : d.LeadsClear Stage.world :=
  Stage.world_redirectsTo.mono fun _ => Script.above?_of_first

/-! ## §5. The question that a reply is credited to. -/

/-- The question that was asked last: whose prompt was the last to start. -/
def lastAsked (events : List (Event H)) : Option Position :=
  ((promptCalls events).filter Prod.snd).getLast?.map Prod.fst

/-- A call credits its reply to the question at `q` after a run, and after what
happened `before` in the call. -/
inductive Credited (turns : List (Turn σ)) (before : List (Event H)) (q : Position) : Prop
  /-- The question was asked last. -/
  | asked (h : lastAsked (d.eventsOf w turns ++ before) = some q)
  /-- In the calls that succeeded, its prompt was called last, and failed. -/
  | unasked (h : (turns.flatMap (d.callsOf w)).getLast? = some (q, false))
  /-- An earlier call has skipped a question. -/
  | skipped (h : d.Skipped w turns)

/-- The run begins the dialog. -/
def Begins (saved : Progress) (run : List (Meeting σ)) : Prop :=
  ∃ m rest options, run = m :: rest ∧ m.call.task saved = .begin options

/-- A call that fails has asked no question. -/
theorem filter_callsOf (t : Turn σ) :
    (promptCalls (d.outcomeOf w t).events).filter Prod.snd = (d.callsOf w t).filter Prod.snd := by
  cases hresult : (d.outcomeOf w t).result with
  | ok report => rw [callsOf_of_ok hresult]
  | error fault =>
    rw [callsOf_of_error hresult, List.filter_nil, List.filter_eq_nil_iff]
    intro call hcall hok
    obtain ⟨e, he, hprompted⟩ := List.mem_filterMap.mp hcall
    cases e with
    | prompted question prompt message ok =>
      cases hprompted
      change ok = true at hok
      subst hok
      -- asking a question is the last thing that happens in a call, which succeeds
      have hwaiting := (d.serve_asked w he).waiting
      rw [show d.serve w t.call t.env = d.outcomeOf w t from rfl, hresult] at hwaiting
      cases hwaiting
    | _ => cases hprompted

/-- The question that was asked last in a run is to be found among the calls that
succeeded. -/
theorem filter_eventsOf (turns : List (Turn σ)) :
    (promptCalls (d.eventsOf w turns)).filter Prod.snd
      = (turns.flatMap (d.callsOf w)).filter Prod.snd := by
  -- along the run, call by call
  induction turns with
  | nil => rfl
  | cons t rest ih =>
    unfold eventsOf at ih ⊢
    rw [List.flatMap_cons, List.flatMap_cons, promptCalls_append, List.filter_append,
      List.filter_append, ih, filter_callsOf]

/-- The prompt that was called last has started, or it has failed. -/
theorem lastAsked_or_failed {turns : List (Turn σ)} {q : Position}
    (h : d.lastOf w turns = some q) :
    lastAsked (d.eventsOf w turns) = some q
      ∨ (turns.flatMap (d.callsOf w)).getLast? = some (q, false) := by
  unfold lastOf lastCalled at h
  rw [Option.or_none] at h
  obtain ⟨⟨question, ok⟩, hlast, hquestion⟩ := Option.map_eq_some_iff.mp h
  cases hquestion
  -- the last call of a prompt, in the calls that succeeded, decides
  cases ok with
  | false => exact .inr hlast
  | true =>
    refine .inl ?_
    obtain ⟨earlier, hearlier⟩ := List.getLast?_eq_some_iff.mp hlast
    unfold lastAsked
    rw [filter_eventsOf, hearlier, List.filter_append]
    simp

variable {d w} in
/-- **A reply goes to the question that was asked last.**  Let callbacks move their
handle, if they do, where no question stands above.  Then in every run that begins the
dialog, whichever calls fail, a reply is put into the variable of a question, and the
branches of a question are tried on it, only if that question was asked last; or if
its prompt was the last to be called and failed; or if a call has skipped a
question. -/
theorem LeadsClear.run_credits (hclear : d.LeadsClear w) {saved : Progress}
    {run : List (Meeting σ)} {m : Meeting σ} (hbegins : Begins saved (run ++ [m]))
    {before after : List (Event H)} {e : Event H} {q : Position}
    (hevents : (d.serve w m.call (m.env (d.savedAfter w saved run))).events
      = before ++ e :: after)
    (hcredit : e.credited? = some q) :
    d.Credited w (d.turnsOf w saved run) before q := by
  obtain ⟨⟨cause, reply, htask⟩, habove, hquiet⟩ := d.serve_credits w hevents hcredit
  change m.call.task (d.savedAfter w saved run) = _ at htask
  change d.script.above? (d.savedAfter w saved run).resumePosition = _ at habove
  obtain ⟨first, rest, options, hrun, hbegin⟩ := hbegins
  cases run with
  | nil =>
    -- the first call has no reply to credit
    cases hrun
    rw [show d.savedAfter w saved [] = saved from rfl, hbegin] at htask
    cases htask
  | cons m' run =>
    rw [List.cons_append, List.cons.injEq] at hrun
    obtain ⟨rfl, _⟩ := hrun
    have hfirst : d.Keeps w ([] ++ [⟨m'.call, m'.env saved⟩])
        (d.outcomeOf w ⟨m'.call, m'.env saved⟩).env.saved := hclear.keeps_begin hbegin
    -- the begin keeps, whatever came before it, and so does every call after it
    have hkeeps : d.Keeps w (d.turnsOf w saved (m' :: run)) (d.savedAfter w saved (m' :: run)) :=
      hclear.keeps_append run hfirst
    -- no prompt is called before the reply is credited, so the last one is that of the run
    rcases hkeeps with hleft | hskipped
    · have hlast := hleft.resolve_left (by rw [Call.isStarted_of_task htask]; simp) q habove
      rcases d.lastAsked_or_failed w hlast with hasked | hfailed
      · refine .asked ?_
        unfold lastAsked at hasked ⊢
        rw [promptCalls_append, hquiet, List.append_nil]
        exact hasked
      · exact .unasked hfailed
    · exact .skipped hskipped

/-- A dialog that asks for a name, and waits until it gets one. -/
def callDialog : Dialog Routine where
  id := "call"
  script := (Script.empty.ask {} (.capture "name")).addAction "default" {} .hold

/-- A stage that has the prompt. -/
def readyStage : Stage := (Stage.new "c").register "colloquy_text_prompt"

/-- The dialog is begun on a stage. -/
def beginOn (stage : Stage) : Meeting Stage := ⟨.begin .empty, stage, ⟨[], 0⟩⟩

/-- A reply comes in on a stage. -/
def replyOn (stage : Stage) (reply : String) : Meeting Stage :=
  ⟨.resume .continued (some reply), stage, ⟨[], 0⟩⟩

/-- The second reply to that dialog is credited to its one question, which was asked last. -/
theorem callDialog_credits :
    callDialog.Credited Stage.world
      (callDialog.turnsOf Stage.world {} [beginOn readyStage, replyOn readyStage "Ada"])
      [.reached ⟨"default", 1⟩] ⟨"default", 0⟩ := by
  -- the reply is taken right after its line is reached
  have hevents : (callDialog.serve Stage.world (.resume .continued (some "Bob"))
        ((replyOn readyStage "Bob").env (callDialog.savedAfter Stage.world {}
          [beginOn readyStage, replyOn readyStage "Ada"]))).events
      = [.reached ⟨"default", 1⟩] ++ .captured ⟨"default", 0⟩ "name" "Bob"
        :: [.offered ⟨"default", 0⟩ "Bob"] := rfl
  exact (leadsClear_stage callDialog).run_credits
    (m := replyOn readyStage "Bob") ⟨_, _, _, rfl, rfl⟩ hevents rfl

/-- After a run, a call credits its reply to the question at `q`, though that was not
asked last. -/
def Misdirects (d : Dialog H) (w : World σ H) (run : List (Meeting σ)) (m : Meeting σ)
    (q : Position) : Prop :=
  ∃ before e after, (d.serve w m.call (m.env (d.savedAfter w {} run))).events
      = before ++ e :: after
    ∧ e.credited? = some q ∧ lastAsked (d.eventsOf w (d.turnsOf w {} run) ++ before) ≠ some q

/-- A dialog that asks twice, and asks the second question again after every reply,
one line a turn. -/
def retryDialog : Dialog Routine where
  id := "retry"
  script := ((Script.empty.ask {} (.capture "a")).ask {}
    { key := some "b", branches := [.fallback (.directive .again)] }).say {}
  settings := { maxSteps := 1 }

/-- A dialog that a reply to its first question stops, at the second. -/
def quitDialog : Dialog Routine where
  id := "quit"
  script := ((Script.empty.ask {}
    { branches := [.fallback (.directive .stop)] }).ask {} (.capture "b")).say {}

/-- A dialog with a callback for its first question, and a second thread with another
question. -/
def strayDialog : Dialog Routine where
  id := "stray"
  script := (((Script.empty.ask {} (.handled "a" [])).say {}).addQuestion "b" {}
    (.capture "b")).addAction "b" {} .hold

/-- A world whose callbacks lead into the midst of a thread. -/
def strayWorld : World Stage Routine :=
  { Stage.world with
    atReply := fun _ _ handle _ s => (.ok { handle with position := ⟨"b", 1⟩ }, s) }

/-- A reply goes to a question that was not asked last: after its prompt failed; where a
turn was cut off before it asked a question again; where a turn ended the dialog at a
question; and where a callback led below one. -/
theorem credits_not_asked :
    callDialog.Misdirects Stage.world [beginOn (.new "c")] (replyOn (.new "c") "Ada")
        ⟨"default", 0⟩
      ∧ retryDialog.Misdirects Stage.world
        [beginOn readyStage, replyOn readyStage "x", replyOn readyStage "y"]
        (replyOn readyStage "z") ⟨"default", 0⟩
      ∧ quitDialog.Misdirects Stage.world [beginOn readyStage, replyOn readyStage "x"]
        (replyOn readyStage "y") ⟨"default", 1⟩
      ∧ strayDialog.Misdirects strayWorld [beginOn readyStage, replyOn readyStage "x"]
        (replyOn readyStage "y") ⟨"b", 0⟩ := by
  refine ⟨?unheard, ?cut, ?stopped, ?strayed⟩
  case unheard =>
    exact ⟨[.reached ⟨"default", 1⟩], _, _, rfl, rfl, by decide⟩
  case cut =>
    exact ⟨[.reached ⟨"default", 1⟩], _, _, rfl, rfl, by decide⟩
  case stopped =>
    exact ⟨[.reached ⟨"default", 2⟩], _, _, rfl, rfl, by decide⟩
  case strayed =>
    exact ⟨[.reached ⟨"b", 1⟩], _, _, rfl, rfl, by decide⟩

end Dialog

end Parley
