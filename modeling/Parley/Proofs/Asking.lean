/-
  Parley.Proofs.Asking
  ────────────────────
  **A TURN THAT ASKS A QUESTION ENDS BY THAT.**

  When a prompt has started, nothing more happens in the turn: it succeeds, the
  dialog waits, and it stands at the question.  `Act.AsksLast` says so of an
  act; it is shown for the one line that asks, and carried over to visits, to
  the loop and to the calls of a host.
-/
import Parley.Proofs.Turns

namespace Parley

variable {σ H α β : Type}

/-- The question at a position, if one stands there. -/
def Script.question? (s : Script H) (p : Position) : Option (Intake H) :=
  (s.thread? p.thread).bind fun lines => lines[p.index]?.bind Line.intake?

/-- A line that asks is the question at its position. -/
theorem Script.question?_of_line {s : Script H} {p : Position} {lines : List (Line H)}
    {draft : Draft} {intake : Intake H} (hthread : s.thread? p.thread = some lines)
    (hline : lines[p.index]? = some (.question draft intake)) :
    s.question? p = some intake := by
  unfold question?
  rw [hthread, Option.bind_some, hline]
  rfl

/-- The question before a line of a thread stands one line before it. -/
theorem Script.question?_of_before {s : Script H} {p : Position} {lines : List (Line H)}
    {intake : Intake H} (hthread : s.thread? p.thread = some lines)
    (hquestion : Dialog.questionBefore? lines p.index = some intake) :
    s.question? { p with index := p.index - 1 } = some intake := by
  obtain ⟨i, draft, hindex, hline⟩ := Dialog.questionBefore?_eq_some.mp hquestion
  rw [hindex]
  exact question?_of_line hthread hline

namespace Act

/-! ## §1. Acts that end by asking. -/

/-- If the question at `q` is asked with success, that is the last thing that
happens in the act, and its answer has the property. -/
def AsksLast (q : Position) (property : α → Prop) (act : Act σ H α) : Prop :=
  ∀ env prompt message, .prompted q prompt message true ∈ (act env).events →
    ∃ a env' before, act env = ⟨.ok a, env', before ++ [.prompted q prompt message true]⟩
      ∧ property a

namespace AsksLast

variable {q : Position} {p : α → Prop} {r : β → Prop}

/-- Where nothing is asked, nothing is to be shown. -/
theorem of_lacks {act : Act σ H α} (h : Lacks .prompted act) : AsksLast q p act := by
  intro env prompt message he
  exact absurd rfl (h env _ he)

/-- A sequence ends by asking if its first act does and then nothing follows,
and if what may follow otherwise does. -/
theorem bind {known : α → Prop} {act : Act σ H α} {next : α → Act σ H β}
    (hact : AsksLast q p act) (hknown : Yields known act)
    (hdone : ∀ a, p a → ∃ b, next a = Pure.pure b ∧ r b)
    (hnext : ∀ a, known a → AsksLast q r (next a)) : AsksLast q r (act >>= next) := by
  intro env prompt message he
  have hasks := hact env prompt message
  have hyields := hknown env
  rcases bind_cases act next env with ⟨fault, env', events, h, h'⟩ | ⟨a, env', events, h, h'⟩
  · -- an act that asks does not fail
    rw [h'] at he
    rw [h] at hasks
    obtain ⟨a, _, _, hok, _⟩ := hasks he
    cases hok
  · rw [h'] at he
    rw [h] at hasks hyields
    rcases List.mem_append.mp he with he | he
    · -- the first act asks, and nothing follows
      obtain ⟨_, _, before, hok, hp⟩ := hasks he
      cases hok
      obtain ⟨b, hpure, hr⟩ := hdone a hp
      refine ⟨b, env', before, ?_, hr⟩
      rw [h', hpure]
      simp [Outcome.after]
    · obtain ⟨b, env'', before, hok, hr⟩ := hnext a (hyields a rfl) env' prompt message he
      refine ⟨b, env'', events ++ before, ?_, hr⟩
      rw [h', hok]
      simp [Outcome.after]

/-- A sequence ends by asking if nothing is asked in its first act. -/
theorem bind_of_lacks {known : α → Prop} {act : Act σ H α} {next : α → Act σ H β}
    (hact : Lacks .prompted act) (hknown : Yields known act)
    (hnext : ∀ a, known a → AsksLast q r (next a)) : AsksLast q r (act >>= next) :=
  bind (of_lacks (p := fun _ => False) hact) hknown (fun _ h => h.elim) hnext

end AsksLast

end Act

namespace Dialog

variable (d : Dialog H) (w : World σ H)

/-! ## §2. The line that asks. -/

/-- A prompt starts, and the dialog waits; or it does not, and a message is sent,
after which the dialog goes on. -/
theorem ask_cases (draft : Draft) (question : Position) (values : Values) (env : Env σ) :
    (∃ message env', d.ask w draft question values env
        = ⟨.ok .suspend, env', [.prompted question d.settings.promptId message true]⟩)
      ∨ ∃ result env' message ok, d.ask w draft question values env
        = ⟨result, env', [.prompted question d.settings.promptId message false,
            .sent (.ofText d.settings.failureText) ok]⟩
          ∧ ∀ route, result = .ok route → route = .onward := by
  obtain ⟨message, env₁, hrender⟩ : ∃ message env₁,
      (Act.render draft values : Act σ H Message) env = ⟨.ok message, env₁, []⟩ :=
    ⟨_, _, rfl⟩
  unfold ask
  simp only [Act.bind_of_ok hrender, Outcome.after_nil]
  rcases Act.call_cases (H := H) (.prompted question d.settings.promptId message)
      (w.prompt d.settings.promptId message) env₁ with ⟨fault, world, hcall⟩ | ⟨_, world, hcall⟩
  · rw [Act.bind_of_ok (Act.attempt_of hcall)]
    -- the notice is sent, or sending it fails
    rcases Act.call_cases (H := H) (.sent (.ofText d.settings.failureText))
        (w.send (.ofText d.settings.failureText)) { env₁ with world } with
      ⟨fault', world', hsend⟩ | ⟨_, world', hsend⟩
    · refine .inr ⟨.error fault', { env₁ with world := world' }, message, false, ?_,
        fun route h => by cases h⟩
      simp only [Act.bind_of_error hsend]
      rfl
    · refine .inr ⟨.ok .onward, { env₁ with world := world' }, message, true, ?_,
        fun route h => by cases h; rfl⟩
      simp only [Act.bind_of_ok hsend]
      rfl
  · refine .inl ⟨message, { env₁ with world }, ?_⟩
    rw [Act.bind_of_ok (Act.attempt_of hcall)]
    rfl

/-- **A prompt that goes through ends the turn** at its question. -/
theorem ask_asks (q : Position) (draft : Draft) (question : Position) (values : Values) :
    Act.AsksLast q (fun route => route = .suspend ∧ question = q)
      (d.ask w draft question values) := by
  intro env prompt message he
  -- the prompt goes through, or it failed and a message is all there is
  rcases d.ask_cases w draft question values env with
    ⟨message', env', hask⟩ | ⟨result, env', message', ok, hask, _⟩
  · rw [hask] at he ⊢
    cases List.mem_singleton.mp he
    exact ⟨.suspend, env', [], rfl, rfl, rfl⟩
  · rw [hask] at he
    simp at he

/-- **A way that asks** ends at its question. -/
theorem walk_asks (q : Position) (lines : List (Line H)) (step : Step) (working : Progress)
    (route : Route) :
    Act.AsksLast q (fun moved => moved = (working, .stop .waiting) ∧ step.position = q
        ∧ ∃ draft intake, lines[q.index]? = some (.question draft intake))
      (d.walk w lines step working route) := by
  have hroute : Act.AsksLast q (fun led => led = (working, .suspend) ∧ step.position = q
        ∧ ∃ draft intake, lines[q.index]? = some (.question draft intake))
      (d.lineRoute w lines step working route) := by
    cases hline : lines[step.position.index]? with
    | none =>
      unfold lineRoute
      rw [hline]
      cases route <;> exact .of_lacks (.pure _)
    | some line =>
      by_cases honward : route = .onward
      case neg =>
        -- the reply has decided the route, so the line itself does not run
        rw [d.lineRoute_of_ne w honward]
        exact .of_lacks (.pure _)
      case pos =>
        subst honward
        rw [d.lineRoute_of_line w hline]
        cases line with
        | question draft intake =>
          refine (d.ask_asks w q draft step.position working.values).bind (.trivial _) ?_ ?_
          · rintro route ⟨rfl, hq⟩
            refine ⟨_, rfl, rfl, hq, draft, intake, ?_⟩
            rw [← hq]
            exact hline
          · exact fun _ _ => .of_lacks (.pure _)
        | message draft =>
          exact .of_lacks (((Act.Lacks.of_confined (sendDraft_confined w draft _)
            (by simp)).bind fun _ => .pure _).bind fun _ => .pure _)
        | action draft directive =>
          exact .of_lacks (((Act.Lacks.of_confined (sendDraft_confined w draft _)
            (by simp)).bind fun _ => .pure _).bind fun _ => .pure _)
  -- a question that was asked suspends the turn, and nothing follows
  refine hroute.bind (.trivial _) ?_ ?_
  · rintro led ⟨rfl, hq, hline⟩
    exact ⟨_, rfl, rfl, hq, hline⟩
  · exact fun led _ =>
      .of_lacks (.of_confined (d.follow_confined w step led.1 led.2) (by simp [routeKinds]))

/-! ## §3. Visits, turns and calls that ask. -/

/-- **A visit that asks** ends at its line, which is the question. -/
theorem visit_asks (q : Position) (lines : List (Line H)) (position : Position)
    (cause : Cause) (reply : Option String) (working : Progress) :
    Act.AsksLast q (fun moved => moved.2 = .stop .waiting ∧ moved.1.position = q
        ∧ moved.1.replay = false ∧ position = q
        ∧ ∃ draft intake, lines[q.index]? = some (.question draft intake))
      (d.visit w lines position cause reply working) := by
  rw [visit_eq]
  -- nothing asks before the way from the line; it only changes the variables
  refine .bind_of_lacks (.note (by simp [Event.kind])) (.trivial _) ?_
  intro _ _
  refine .bind_of_lacks (.of_confined (d.enter_confined w _ _ _) (by simp))
    (d.enter_yields w _ _ _) ?_
  rintro ⟨entered, redirect⟩ ⟨values, rfl⟩
  cases redirect with
  | some target => exact .of_lacks (.pure _)
  | none =>
    refine .bind_of_lacks (d.answerBefore_lacks w (by simp [takingKinds, branchKinds]) lines _ _)
      (d.answerBefore_yields w lines _ _) ?_
    rintro ⟨answered, route⟩ ⟨values', rfl⟩
    intro env prompt message he
    obtain ⟨moved, env', before, hok, rfl, hq, hline⟩ :=
      d.walk_asks w q lines _ _ route env prompt message he
    have hposition : position = q := hq
    refine ⟨_, env', before, hok, rfl, ?_, rfl, hposition, hline⟩
    rw [← hposition]
    rfl

/-- **A loop that asks** ends at the question. -/
theorem resolve_asks (q : Position) (budget : Nat) (position : Position) (cause : Cause)
    (reply : Option String) (working : Progress) :
    Act.AsksLast q (fun done => done.2 = .waiting ∧ done.1.position = q
        ∧ done.1.replay = false ∧ ∃ intake, d.script.question? q = some intake)
      (d.resolve w budget position cause reply working) := by
  refine d.resolve_induct w
    (motive := fun _ _ _ _ act => Act.AsksLast q (fun done => done.2 = .waiting
      ∧ done.1.position = q ∧ done.1.replay = false
      ∧ ∃ intake, d.script.question? q = some intake) act)
    ?unknown ?ended ?spent ?line budget position cause reply working
  case unknown =>
    intro position cause reply working
    exact .of_lacks fun _ _ he => absurd he List.not_mem_nil
  case ended =>
    intro position cause reply working
    exact .of_lacks ((Act.Lacks.of_confined (d.conclude_confined w reply _) (by simp)).bind
      fun _ => .pure _)
  case spent =>
    intro position cause reply working _
    exact .of_lacks fun _ _ he => absurd he List.not_mem_nil
  case line =>
    intro lines budget position cause reply working hthread _ ih
    -- the visit asks and stops the loop, or the loop asks after it
    refine (d.visit_asks w q lines position cause reply working).bind (.trivial _) ?_ ?_
    · rintro ⟨moved, move⟩ ⟨rfl, hat, hreplay, rfl, draft, intake, hline⟩
      exact ⟨_, rfl, rfl, hat, hreplay, intake, Script.question?_of_line hthread hline⟩
    · rintro ⟨moved, move⟩ _
      cases move with
      | goOn target => exact ih target moved
      | stop report => exact .of_lacks (.pure _)

/-- The dialog waits at the question at `q`, which was asked last. -/
structure Asked (q : Position) (prompt : String) (message : Message)
    (o : Outcome σ H Report) : Prop where
  /-- The dialog waits. -/
  waiting : o.result = .ok .waiting
  /-- Nothing happened after the question was asked. -/
  last : o.events.getLast? = some (.prompted q prompt message true)
  /-- The thread is that of the question. -/
  thread : o.env.saved.thread = q.thread
  /-- The line last reached is the question. -/
  index : o.env.saved.index = q.index
  /-- The question is not to be asked again. -/
  replay : o.env.saved.replay = false
  /-- A question stands there. -/
  question : ∃ intake, d.script.question? q = some intake
  /-- The settings let a turn visit a line. -/
  visits : d.settings.maxSteps ≠ 0

/-- **A turn that asks a question** leaves the dialog waiting at it. -/
theorem turn_asked {q : Position} {prompt : String} {message : Message} {position : Position}
    {cause : Cause} {reply : Option String} {env : Env σ}
    (hasked : .prompted q prompt message true ∈ (d.turn w position cause reply env).events) :
    d.Asked q prompt message (d.turn w position cause reply env) := by
  have hvisits : .prompted q prompt message true
        ∈ (d.resolve w d.settings.maxSteps position cause reply env.saved env).events →
      d.settings.maxSteps ≠ 0 := by
    intro he hzero
    -- without a budget no line is reached that could ask
    rw [hzero] at he
    have hlacks : Act.Lacks .prompted (d.resolve w 0 position cause reply env.saved) :=
      .of_confined (d.resolve_zero_confined w position cause reply env.saved) (by simp)
    exact hlacks env _ he rfl
  have hloop := d.resolve_asks w q d.settings.maxSteps position cause reply env.saved env
    prompt message
  rcases d.turn_cases w position cause reply env with
    ⟨fault, env', events, hresolve, hturn⟩ | ⟨working, report, env', events, hresolve, hturn⟩
  · rw [hturn] at hasked
    rw [hresolve] at hloop
    obtain ⟨_, _, _, hok, _⟩ := hloop hasked
    cases hok
  · rw [hturn] at hasked ⊢
    rw [hresolve] at hloop hvisits
    obtain ⟨_, _, before, hok, hwaiting, hat, hreplay, hquestion⟩ := hloop hasked
    cases hok
    refine ⟨congrArg Except.ok hwaiting, ?_, ?_, ?_, hreplay, hquestion, hvisits hasked⟩
    · exact List.getLast?_concat
    · exact congrArg Position.thread hat
    · exact congrArg Position.index hat

/-- **A call that asks a question** leaves the dialog waiting at it. -/
theorem serve_asked {q : Position} {prompt : String} {message : Message} {call : Call}
    {env : Env σ} (hasked : .prompted q prompt message true ∈ (d.serve w call env).events) :
    d.Asked q prompt message (d.serve w call env) := by
  rw [serve_eq] at hasked ⊢
  cases htask : call.task env.saved with
  | begin options =>
    rw [htask] at hasked
    have hbegin : d.perform w (.begin options) env = d.turn w ⟨d.startThread options, 0⟩ .begun
        none { env with saved := Progress.start "" options } := d.begin_apply w options env
    rw [hbegin] at hasked ⊢
    exact d.turn_asked w hasked
  | turn cause reply =>
    rw [htask] at hasked
    exact d.turn_asked w hasked
  | nothing result =>
    rw [htask] at hasked
    cases result <;> exact absurd hasked List.not_mem_nil

end Dialog

end Parley
