/-
  Parley.Proofs.Recital
  ─────────────────────
  **A THREAD WITHOUT QUESTIONS IS RECITED ONCE, LINE BY LINE.**

  A line is plain if it asks nothing and leads nowhere but on.  A thread of plain
  lines is recited: its positions are resolved one after the other, and the line at
  each sends its message, if that has any content (`Recital`).

    • `visitAt_plain` — one visit recites one line,
    • `loopAt_recites` — a loop recites as many as its budget allows, and ends the
      dialog after the last,
    • `turn_recited` — so a turn either leaves the next line to the next turn, or
      completes the dialog (`Recited`),
    • `run_recital` — and a run recites the thread from its first line to its last,
      whatever the budget cuts it into.
-/
import Parley.Proofs.Faults
import Parley.Proofs.Waiting

namespace Parley

variable {σ H : Type}

/-- A call that goes on with a started dialog runs a turn from where that stands. -/
theorem Call.exists_turn {call : Call} (hgoes : call.goesOn = true) {saved : Progress}
    (hstarted : saved.isStarted = true) : ∃ cause reply, call.task saved = .turn cause reply := by
  have hbegins : call.begins = false := by
    cases call with
    | begin | beginWith => cases hgoes
    | resume | receive => rfl
  refine (task_cases hbegins hstarted).resolve_right ?_
  rintro ⟨incoming, rfl, hmessage⟩
  rw [show incoming.isMessage = true from hgoes] at hmessage
  cases hmessage

/-! ## §1. Recitals. -/

/-- A line that asks nothing, and leads nowhere but on: a message, or an action that goes on, or
that jumps to a thread which does not exist. -/
inductive Line.Plain (s : Script H) : Line H → Prop
  /-- It only sends a message. -/
  | message (draft : Draft) : Line.Plain s (.message draft)
  /-- It goes on. -/
  | next (draft : Draft) : Line.Plain s (.action draft .next)
  /-- Its jump is ignored. -/
  | ignored (draft : Draft) {thread : String} (hmissing : s.hasThread thread = false) :
      Line.Plain s (.action draft (.jump thread))

namespace Dialog

/-- Lines of a thread are recited, the first of them at an index: the position of each is
resolved, and its message sent if that has any content, before the next. -/
inductive Recital (thread : String) (values : Values) :
    Nat → List (Line H) → List (Event H) → Prop
  /-- No line is left. -/
  | done (i : Nat) : Recital thread values i [] []
  /-- A line is recited, with the words that are drawn for it. -/
  | line {i : Nat} (line : Line H) {rest : List (Line H)} (words : Words)
      {events : List (Event H)} (hrest : Recital thread values (i + 1) rest events) :
      Recital thread values i (line :: rest)
        (.reached ⟨thread, i⟩ :: (bodyOf (some line.draft) values words ++ events))

variable {thread : String} {values : Values} {i : Nat} {lines : List (Line H)}

/-- Recitals one after the other are one. -/
theorem Recital.append {first last : List (Line H)} {events later : List (Event H)}
    (h : Recital thread values i first events)
    (hlast : Recital thread values (i + first.length) last later) :
    Recital thread values i (first ++ last) (events ++ later) := by
  induction h with
  | done i => exact hlast
  | @line i line rest words events _ ih =>
    rw [List.length_cons, Nat.add_left_comm, Nat.add_comm] at hlast
    have hnext := Recital.line line words (ih hlast)
    rw [← List.append_assoc] at hnext
    exact hnext

/-- A recital resolves every position once, in order. -/
theorem Recital.visited_eq {events : List (Event H)} (h : Recital thread values i lines events) :
    visited events = (List.range' i lines.length).map fun j => ⟨thread, j⟩ := by
  induction h with
  | done i => rfl
  | @line i line rest words events _ ih =>
    have hbody : visited (bodyOf (some line.draft) values words : List (Event H)) = [] :=
      visited_eq_nil fun e he => by simp [bodyOf_kind e he]
    rw [visited_reached, visited_append, hbody, ih]
    rfl

/-! ## §2. Visits to plain lines. -/

variable {d : Dialog H} {w : World σ H}

/-- Where no callback is registered for the entry of a thread, entering it does nothing. -/
theorem enterAt_of_free {a : Place σ} (hfree : d.hooks.atEntry a.position.thread = []) :
    d.enterAt w a = ⟨.ok (a.working.arrive a.position, none), a.env, []⟩ := by
  have hrun : d.runEntry w a.position.thread ⟨d.id, a.position, a.working.values⟩ a.env
      = ⟨.ok ⟨d.id, a.position, a.working.values⟩, a.env, []⟩ := by
    unfold runEntry
    rw [hfree]
    rfl
  have hstays : (⟨d.id, a.position, a.working.values⟩ : Handle).redirect? a.position = none :=
    Handle.redirect?_of_eq rfl
  unfold enterAt enter
  split
  · refine (Act.bind_of_ok hrun).trans ?_
    show Outcome.after [] ⟨.ok (_, Handle.redirect? _ a.position), a.env, []⟩ = _
    rw [hstays]
    rfl
  · rfl

/-- A plain line sends its message, and leads on. -/
theorem runLine_plain {line : Line H} (hplain : line.Plain d.script) (step : Step) :
    d.runLine w line step values
      = (sendDraft w line.draft values >>= fun _ => pure .onward) := by
  cases hplain with
  | message draft | next draft => rfl
  | @ignored draft thread hmissing =>
    have hroute : (Directive.jump thread).route d.script step.position = .onward :=
      if_neg (by simp [hmissing])
    show (sendDraft w draft values >>= fun _ => pure (Directive.route _ _ _)) = _
    rw [hroute]
    rfl

/-- Among plain lines there is no question. -/
theorem questionBefore?_of_plain (hplain : ∀ line ∈ lines, line.Plain d.script) (index : Nat) :
    questionBefore? lines index = none := by
  refine Option.eq_none_iff_forall_ne_some.mpr fun intake hquestion => ?_
  obtain ⟨i, draft, _, hline⟩ := questionBefore?_eq_some.mp hquestion
  cases hplain _ (List.mem_of_getElem? hline)

/-- **A visit to a plain line** recites it and goes on, unless its message cannot be sent. -/
theorem visitAt_plain {a : Place σ} {line : Line H}
    (hplain : ∀ line ∈ lines, line.Plain d.script)
    (hfree : d.hooks.atEntry a.position.thread = [])
    (hline : lines[a.position.index]? = some line) :
    (∃ env, d.visitAt w lines a
        = ⟨.ok (a.working.arrive a.position, .goOn a.position.following), env,
            .reached a.position :: bodyOf (some line.draft) a.working.values a.env.words⟩)
      ∨ ∃ fault env m, d.visitAt w lines a
        = ⟨.error fault, env, [.reached a.position, .sent m false]⟩ := by
  have hanswer : d.answerBefore w lines (d.stepOf a) (a.working.arrive a.position) a.env
      = ⟨.ok (a.working.arrive a.position, .onward), a.env, []⟩ := by
    rw [d.answerBefore_of_no_question w (questionBefore?_of_plain hplain _)]
    rfl
  have hvisit := visitAt_of_answered (enterAt_of_free (w := w) hfree) hanswer
  rw [hvisit, d.walk_of_line w (d.stepOf a) hline,
    runLine_plain (hplain line (List.mem_of_getElem? hline)), bind_assoc]
  rcases sendDraft_cases w line.draft (a.working.arrive a.position).values a.env with
    ⟨env, hsend⟩ | ⟨fault, env, m, hsend⟩
  · have honward : d.follow w (d.stepOf a) (a.working.arrive a.position) .onward env
        = ⟨.ok (a.working.arrive a.position, .goOn a.position.following), env, []⟩ := rfl
    rw [Act.bind_of_ok hsend, Act.pure_bind_apply, honward]
    refine .inl ⟨env, ?_⟩
    simp [Outcome.after]
    rfl
  · rw [Act.bind_of_error hsend]
    exact .inr ⟨fault, env, m, rfl⟩

/-! ## §3. Loops that recite. -/

/-- What a loop comes to that recites the lines of a thread from its place on, as many as its
budget allows. -/
structure Recites (w : World σ H) (lines : List (Line H)) (budget : Nat) (a : Place σ)
    (env : Env σ) (events : List (Event H)) : Prop where
  /-- The lines are recited. -/
  recital : Recital a.position.thread a.working.values a.position.index
    ((lines.drop a.position.index).take budget) events
  /-- If the budget ends before the thread does, the next line is left to the next turn. -/
  cut : a.position.index + budget < lines.length →
    a.working.thread = a.position.thread ∨ 0 < budget →
    d.loopAt w budget a
      = ⟨.ok ({ a.working with
          thread := a.position.thread, index := a.position.index + budget, replay := true },
          .waiting), env, events⟩
  /-- If not, the dialog ends after the last. -/
  ended : lines.length ≤ a.position.index + budget → ∃ moved, d.loopAt w budget a
    = ⟨.ok (moved, .complete a.working.values), env,
        events ++ .finished none true :: d.tellings a.working.values⟩

variable {a : Place σ}

/-- Past the last line nothing is left to recite. -/
theorem recites_of_end (hthread : d.script.thread? a.position.thread = some lines)
    (hend : lines.length ≤ a.position.index) (hreply : a.reply = none) (budget : Nat)
    (hserved : ∀ e ∈ (d.loopAt w budget a).events, e.refused = false) :
    ∃ env, d.Recites w lines budget a env [] := by
  have hloop : d.loopAt w budget a = (d.conclude w none a.working.values >>= fun report =>
      pure (a.working, report)) a.env := by
    unfold loopAt
    rw [d.resolve_of_end w hthread hend, hreply]
  have hconcluding := d.conclude_concluding w none a.working.values a.env
  rcases hdone : d.conclude w none a.working.values a.env with ⟨result, env, closing⟩
  rw [hdone] at hconcluding
  cases result with
  | error fault =>
    -- a call of the world would have failed
    obtain ⟨before, e, rfl, hrefuses⟩ := d.conclude_blames w none a.working.values _ _ _ _ hdone
    rw [hloop, Act.bind_of_error hdone] at hserved
    have hrefused := hserved e (by simp)
    rw [hrefuses.refused] at hrefused
    cases hrefused
  | ok report =>
    cases hconcluding
    refine ⟨env, ?_, fun hcut => absurd hcut (by omega), fun _ => ⟨a.working, ?_⟩⟩
    · rw [List.drop_eq_nil_of_le hend, List.take_nil]
      exact .done _
    · rw [hloop, Act.bind_of_ok hdone]
      simp [Outcome.after]

/-- **A loop recites** as many lines as its budget allows, if nothing is refused. -/
theorem loopAt_recites (hthread : d.script.thread? thread = some lines)
    (hplain : ∀ line ∈ lines, line.Plain d.script) (hfree : d.hooks.atEntry thread = [])
    (budget : Nat) :
    ∀ a : Place σ, a.position.thread = thread →
      (a.reply = none ∨ a.position.index < lines.length) →
      (∀ e ∈ (d.loopAt w budget a).events, e.refused = false) →
      ∃ env events, d.Recites w lines budget a env events := by
  -- on the budget; one visit recites the first line, and the loop after it the rest
  induction budget with
  | zero =>
    rintro a rfl hreply hserved
    rcases Nat.lt_or_ge a.position.index lines.length with hin | hend
    · refine ⟨a.env, [], .done _, fun _ hthere => ?_, fun hend => absurd hend (by omega)⟩
      have hthere : a.position.thread = a.working.thread := (hthere.resolve_right (by omega)).symm
      unfold loopAt
      rw [d.resolve_of_spent w hthread hin]
      unfold cutOff
      rw [if_pos hthere, hthere]
      rfl
    · obtain ⟨env, hrecites⟩ := recites_of_end hthread hend (hreply.resolve_right (by omega)) 0
        hserved
      exact ⟨env, [], hrecites⟩
  | succ budget ih =>
    rintro a rfl hreply hserved
    rcases Nat.lt_or_ge a.position.index lines.length with hin | hend
    · have hline := List.getElem?_eq_getElem hin
      rcases visitAt_plain (w := w) hplain hfree hline with
        ⟨env, hvisit⟩ | ⟨fault, env, m, hvisit⟩
      · -- the rest is recited from the next line on
        have hloop : d.loopAt w (budget + 1) a
            = (d.loopAt w budget (.onward a.position.following (a.working.arrive a.position)
                env)).after (.reached a.position
                  :: bodyOf (some lines[a.position.index].draft) a.working.values a.env.words) := by
          rw [d.loopAt_succ w hthread hin]
          exact Act.bind_of_ok hvisit
        have hindex : a.position.following.index + budget = a.position.index + (budget + 1) := by
          show a.position.index + 1 + budget = _
          omega
        rw [hloop] at hserved
        obtain ⟨env', events, hrest⟩ :=
          ih (.onward a.position.following (a.working.arrive a.position) env) rfl (.inl rfl)
            fun e he => hserved e (List.mem_append_right _ he)
        refine ⟨env', .reached a.position :: (bodyOf (some lines[a.position.index].draft)
          a.working.values a.env.words ++ events), ?recital, ?cut, ?ended⟩
        case recital =>
          rw [List.drop_eq_getElem_cons hin, List.take_succ_cons]
          exact .line _ a.env.words hrest.recital
        case cut =>
          intro hcut _
          rw [hloop, hrest.cut (hindex ▸ hcut) (.inl rfl), ← hindex]
          rfl
        case ended =>
          intro hend
          obtain ⟨moved, hrest⟩ := hrest.ended (hindex ▸ hend)
          refine ⟨moved, ?_⟩
          rw [hloop, hrest]
          show (⟨_, _, _ ++ (events ++ _)⟩ : Outcome σ H (Progress × Report)) = _
          rw [← List.append_assoc]
          rfl
      · -- the message of the line would have failed
        have hloop : d.loopAt w (budget + 1) a
            = ⟨.error fault, env, [.reached a.position, .sent m false]⟩ := by
          rw [d.loopAt_succ w hthread hin]
          exact Act.bind_of_error hvisit
        rw [hloop] at hserved
        have hrefused := hserved (.sent m false) (by simp)
        cases hrefused
    · obtain ⟨env, hrecites⟩ := recites_of_end hthread hend (hreply.resolve_right (by omega)) _
        hserved
      exact ⟨env, [], hrecites⟩

/-! ## §4. Turns that recite. -/

/-- The progress of a dialog that was begun with options, once a turn was cut off before a line of
a thread. -/
def partWay (thread : String) (options : Values) (i : Nat) : Progress :=
  { thread, index := i, values := options, options, replay := true }

/-- The turn of a call takes a thread up at a line: the dialog is begun there with options, or
it goes on where a turn was cut off. -/
inductive TakesUp (d : Dialog H) (thread : String) (lines : List (Line H)) (options : Values)
    (t : Turn σ) : Nat → Prop
  /-- It is begun. -/
  | begun (htask : t.call.task t.env.saved = .begin options)
      (hstart : d.startThread options = thread) : TakesUp d thread lines options t 0
  /-- It goes on. -/
  | cut {i : Nat} (hin : i < lines.length) (hgoes : t.call.goesOn = true)
      (hsaved : t.env.saved = partWay thread options i) : TakesUp d thread lines options t i

/-- What comes of a turn that recites lines of a thread, which is begun with options, from one of
them on. -/
structure Recited (d : Dialog H) (thread : String) (lines : List (Line H)) (options : Values)
    (i : Nat) (o : Outcome σ H Report) : Prop where
  /-- It recites as many lines as the budget allows.  If they are the last ones, the host is told
  of the end, without a result, and then every callback for it, once. -/
  events : ∃ recital,
    Recital thread options i ((lines.drop i).take d.settings.maxSteps) recital
      ∧ o.events = recital ++ if i + d.settings.maxSteps < lines.length then []
          else .finished none true :: d.tellings options
  /-- If they are not, it waits, and leaves the line after them to the next turn. -/
  waits : i + d.settings.maxSteps < lines.length → o.result = .ok .waiting
    ∧ o.env.saved = partWay thread options (i + d.settings.maxSteps)
  /-- If they are, it completes the dialog. -/
  completes : lines.length ≤ i + d.settings.maxSteps → o.result = .ok (.complete options)

/-- A thread that can be recited. -/
structure Recitable (d : Dialog H) (name : String) (lines : List (Line H)) : Prop where
  /-- It has a name. -/
  named : name ≠ ""
  /-- Those are its lines. -/
  thread : d.script.thread? name = some lines
  /-- They ask nothing, and lead nowhere but on. -/
  plain : ∀ line ∈ lines, line.Plain d.script
  /-- No callback is registered for its entry. -/
  free : d.hooks.atEntry name = []
  /-- The budget allows a visit. -/
  budget : 0 < d.settings.maxSteps

variable {options : Values}

/-- A turn that takes a thread up sets out at that line, with the options for variables. -/
theorem TakesUp.outset {t : Turn σ} (h : TakesUp d thread lines options t i)
    (hnamed : thread ≠ "") :
    ∃ a, d.outset t.call t.env = some a ∧ a.position = ⟨thread, i⟩
      ∧ a.working.values = options ∧ a.working.options = options
      ∧ (a.reply = none ∨ i < lines.length) := by
  cases h with
  | begun htask hstart =>
    refine ⟨_, d.outset_of_begin htask, ?_, rfl, rfl, .inl rfl⟩
    rw [hstart]
  | cut hin hgoes hsaved =>
    have hstarted : t.env.saved.isStarted = true := by
      rw [hsaved]
      exact bne_iff_ne.mpr hnamed
    obtain ⟨cause, reply, htask⟩ := Call.exists_turn hgoes hstarted
    refine ⟨_, d.outset_of_turn htask, ?_, ?_, ?_, .inr hin⟩
    all_goals
      rw [hsaved]
      rfl

/-- **A turn recites.** -/
theorem turn_recited (hrecitable : d.Recitable thread lines) {t : Turn σ}
    (htakes : TakesUp d thread lines options t i)
    (hserved : ∀ e ∈ (d.outcomeOf w t).events, e.refused = false) :
    d.Recited thread lines options i (d.outcomeOf w t) := by
  obtain ⟨⟨position, cause, reply, working, env⟩, houtset, rfl, rfl, hoptions, hreply⟩ :=
    htakes.outset hrecitable.named
  change working.options = working.values at hoptions
  unfold outcomeOf at hserved ⊢
  rw [d.serve_of_outset w houtset] at hserved ⊢
  rw [Outcome.commit_events] at hserved
  obtain ⟨env', recital, hrecites⟩ := loopAt_recites hrecitable.thread hrecitable.plain
    hrecitable.free d.settings.maxSteps _ rfl hreply hserved
  rcases Nat.lt_or_ge (i + d.settings.maxSteps) lines.length with hcut | hend
  · rw [hrecites.cut hcut (.inr hrecitable.budget)]
    refine ⟨⟨recital, hrecites.recital, ?_⟩, fun _ => ⟨rfl, ?_⟩, fun h => absurd h (by omega)⟩
    · rw [if_pos hcut, List.append_nil]
      rfl
    · show (⟨_, _, working.values, working.options, true⟩ : Progress)
        = ⟨thread, _, working.values, working.values, true⟩
      rw [hoptions]
  · obtain ⟨moved, hloop⟩ := hrecites.ended hend
    rw [hloop]
    refine ⟨⟨recital, hrecites.recital, ?_⟩, fun h => absurd h (by omega), fun _ => rfl⟩
    rw [if_neg (by omega)]
    rfl

/-- A turn that waits leaves the thread to be taken up by the next call, if that goes on. -/
theorem Recited.takesUp {o : Outcome σ H Report} (h : d.Recited thread lines options i o)
    (hcut : i + d.settings.maxSteps < lines.length) {m : Meeting σ}
    (hgoes : m.call.goesOn = true) :
    TakesUp d thread lines options ⟨m.call, m.env o.env.saved⟩ (i + d.settings.maxSteps) :=
  .cut hcut hgoes (h.waits hcut).2

/-! ## §5. Runs that recite. -/

/-- Every turn of a run recites the lines that the turns before it have left, while there are
any. -/
theorem turnsOf_recited (hrecitable : d.Recitable thread lines) {rest : List (Meeting σ)} :
    ∀ {m : Meeting σ} {saved : Progress} {i : Nat},
      TakesUp d thread lines options ⟨m.call, m.env saved⟩ i →
      (∀ m ∈ rest, m.call.goesOn = true) →
      (∀ t ∈ d.turnsOf w saved (m :: rest), ∀ e ∈ (d.outcomeOf w t).events, e.refused = false) →
      ∀ k t, (d.turnsOf w saved (m :: rest))[k]? = some t →
        (k = 0 ∨ i + k * d.settings.maxSteps < lines.length) →
        d.Recited thread lines options (i + k * d.settings.maxSteps) (d.outcomeOf w t) := by
  -- along the run; a turn that does not come to the end of the thread waits before a line of it
  induction rest with
  | nil =>
    intro m saved i htakes _ hserved k t ht _
    obtain ⟨rfl, rfl⟩ : k = 0 ∧ ⟨m.call, m.env saved⟩ = t := by
      simpa [turnsOf, List.getElem?_singleton] using ht
    rw [Nat.zero_mul]
    exact turn_recited hrecitable htakes (hserved _ List.mem_cons_self)
  | cons m' rest ih =>
    intro m saved i htakes hgoes hserved k t ht hk
    unfold turnsOf at hserved ht
    rw [List.forall_mem_cons] at hgoes hserved
    have hfirst := turn_recited hrecitable htakes hserved.1
    cases k with
    | zero =>
      cases ht
      rw [Nat.zero_mul]
      exact hfirst
    | succ k =>
      have hk : i + d.settings.maxSteps + k * d.settings.maxSteps < lines.length := by
        have := hk.resolve_left (Nat.succ_ne_zero k)
        rw [Nat.succ_mul] at this
        omega
      have hnext := ih (hfirst.takesUp (by omega) hgoes.1) hgoes.2 hserved.2 k t ht (.inr hk)
      rwa [Nat.add_assoc, Nat.add_comm d.settings.maxSteps, ← Nat.succ_mul] at hnext

/-- In a run that comes to the end of a thread in its last turn, and not before, the thread is
recited from the line on at which it is taken up, and the dialog ends after that. -/
theorem eventsOf_recital (hrecitable : d.Recitable thread lines) {rest : List (Meeting σ)} :
    ∀ {m : Meeting σ} {saved : Progress} {i : Nat},
      TakesUp d thread lines options ⟨m.call, m.env saved⟩ i →
      (∀ m ∈ rest, m.call.goesOn = true) →
      (∀ t ∈ d.turnsOf w saved (m :: rest), ∀ e ∈ (d.outcomeOf w t).events, e.refused = false) →
      (rest = [] ∨ i + rest.length * d.settings.maxSteps < lines.length) →
      lines.length ≤ i + (rest.length + 1) * d.settings.maxSteps →
      ∃ recital, Recital thread options i (lines.drop i) recital
        ∧ d.eventsOf w (d.turnsOf w saved (m :: rest))
          = recital ++ .finished none true :: d.tellings options := by
  induction rest with
  | nil =>
    intro m saved i htakes _ hserved _ hend
    rw [List.length_nil, Nat.zero_add, Nat.one_mul] at hend
    obtain ⟨recital, hrecital, hevents⟩ :=
      (turn_recited hrecitable htakes (hserved _ List.mem_cons_self)).events
    rw [List.take_of_length_le (by simp; omega)] at hrecital
    rw [if_neg (by omega)] at hevents
    refine ⟨recital, hrecital, ?_⟩
    rw [← hevents]
    exact List.append_nil _
  | cons m' rest ih =>
    intro m saved i htakes hgoes hserved hlast hend
    unfold turnsOf at hserved ⊢
    rw [List.forall_mem_cons] at hgoes hserved
    have hlast := hlast.resolve_left (List.cons_ne_nil m' rest)
    rw [List.length_cons, Nat.succ_mul] at hlast hend
    rw [Nat.add_mul, Nat.one_mul] at hend
    have hcut : i + d.settings.maxSteps < lines.length := by omega
    have hfirst := turn_recited hrecitable htakes hserved.1
    obtain ⟨recital, hrecital, hevents⟩ := hfirst.events
    obtain ⟨later, hlater, hrest⟩ := ih (hfirst.takesUp hcut hgoes.1) hgoes.2 hserved.2
      (.inr (by omega)) (by rw [Nat.add_mul]; omega)
    -- the lines that this turn recites, and those that it leaves
    have hlength : ((lines.drop i).take d.settings.maxSteps).length = d.settings.maxSteps := by
      simp
      omega
    have hboth : Recital thread options i ((lines.drop i).take d.settings.maxSteps
        ++ lines.drop (i + d.settings.maxSteps)) (recital ++ later) :=
      hrecital.append (by rwa [hlength])
    rw [← List.drop_drop, List.take_append_drop] at hboth
    refine ⟨recital ++ later, hboth, ?_⟩
    rw [if_pos hcut, List.append_nil] at hevents
    unfold eventsOf at hrest ⊢
    rw [List.flatMap_cons, hrest, hevents, List.append_assoc]

/-- What comes of a run in which a thread is begun with options, and gone on with until it is
recited. -/
structure RecitedOnce (d : Dialog H) (w : World σ H) (thread : String) (lines : List (Line H))
    (options : Values) (turns : List (Turn σ)) : Prop where
  /-- Its lines are recited, from the first to the last, and then the dialog ends. -/
  recital : ∃ recital, Recital thread options 0 lines recital
    ∧ d.eventsOf w turns = recital ++ .finished none true :: d.tellings options
  /-- So every position is resolved once, in order. -/
  visited : visited (d.eventsOf w turns) = (List.range lines.length).map fun i => ⟨thread, i⟩

/-- **A thread without questions is recited once, whatever the budget.**  Let a dialog begin in a
thread of plain lines, and let it go on from there, with replies or without, and let nothing be
refused.  Then every turn, until the dialog is complete, recites the lines that the turns before it
have left, as many as the budget allows; it waits before the next line if there is one, and
completes the dialog if there is none.  A run that comes to the end of the thread in its last turn
recites every line once, in order, and ends the dialog after that. -/
theorem run_recital (hrecitable : d.Recitable thread lines) {first : Meeting σ}
    {rest : List (Meeting σ)} {saved : Progress} (hbegin : first.call.task saved = .begin options)
    (hstart : d.startThread options = thread) (hgoes : ∀ m ∈ rest, m.call.goesOn = true)
    (hserved : ∀ t ∈ d.turnsOf w saved (first :: rest),
      ∀ e ∈ (d.outcomeOf w t).events, e.refused = false) :
    (∀ k t, (d.turnsOf w saved (first :: rest))[k]? = some t →
        (k = 0 ∨ k * d.settings.maxSteps < lines.length) →
        d.Recited thread lines options (k * d.settings.maxSteps) (d.outcomeOf w t))
      ∧ ((rest = [] ∨ rest.length * d.settings.maxSteps < lines.length) →
        lines.length ≤ (rest.length + 1) * d.settings.maxSteps →
        d.RecitedOnce w thread lines options (d.turnsOf w saved (first :: rest))) := by
  have htakes : TakesUp d thread lines options ⟨first.call, first.env saved⟩ 0 :=
    .begun hbegin hstart
  constructor
  · intro k t ht hk
    have hturns := turnsOf_recited hrecitable htakes hgoes hserved k t ht
    rw [Nat.zero_add] at hturns
    exact hturns hk
  · intro hlast hend
    obtain ⟨recital, hrecital, hevents⟩ := eventsOf_recital hrecitable htakes hgoes hserved
      (by rwa [Nat.zero_add]) (by rwa [Nat.zero_add])
    rw [List.drop_zero] at hrecital
    refine ⟨⟨recital, hrecital, hevents⟩, ?_⟩
    have hclosing : visited (.finished none true :: d.tellings options) = [] := by
      refine visited_eq_nil (List.forall_mem_cons.mpr ⟨by simp [Event.kind], fun e he => ?_⟩)
      have hkind := d.tellings_kinds options e he
      intro h
      rw [h] at hkind
      simp at hkind
    rw [hevents, visited_append, hrecital.visited_eq, hclosing, List.append_nil,
      List.range_eq_range']

/-- Three lines: one that sends something, one with a jump that is ignored, and one that sends
something again. -/
def taleLines : List (Line Routine) :=
  [.message { suggestions := [⟨"Go on", "on"⟩] }, .action {} (.jump "elsewhere"),
    .message { suggestions := [⟨"The end", "end"⟩] }]

/-- A dialog of those lines, with a budget of two, and a callback for its end. -/
def taleDialog : Dialog Routine where
  id := "tale"
  script := Script.empty.addAll (taleLines.map (Addition.line "default"))
  hooks := Hooks.none.onEnd [.record "over"]
  settings := { maxSteps := 2 }

/-- The tale is told in two turns, two lines in the first and one in the second. -/
theorem taleDialog_recital :
    (∀ k t, (taleDialog.turnsOf Stage.world {}
            [beginOn readyStage, replyOn readyStage "on"])[k]? = some t →
        (k = 0 ∨ k * 2 < 3) →
        taleDialog.Recited "default" taleLines .empty (k * 2) (taleDialog.outcomeOf Stage.world t))
      ∧ taleDialog.RecitedOnce Stage.world "default" taleLines .empty
          (taleDialog.turnsOf Stage.world {} [beginOn readyStage, replyOn readyStage "on"]) := by
  have hrecitable : taleDialog.Recitable "default" taleLines := by
    refine ⟨by decide, rfl, ?plain, rfl, by decide⟩
    refine List.forall_mem_cons.mpr ⟨.message _, List.forall_mem_cons.mpr ⟨?_, ?_⟩⟩
    · exact .ignored _ rfl
    · exact List.forall_mem_singleton.mpr (.message _)
  have hserved : ∀ t ∈ taleDialog.turnsOf Stage.world {}
      [beginOn readyStage, replyOn readyStage "on"],
      ∀ e ∈ (taleDialog.outcomeOf Stage.world t).events, e.refused = false := by
    have hnone : ∀ events : List (Event Routine), events.all (fun e => !e.refused) = true →
        ∀ e ∈ events, e.refused = false :=
      fun events hall e he => by simpa using List.all_eq_true.mp hall e he
    exact List.forall_mem_cons.mpr ⟨hnone _ rfl, List.forall_mem_singleton.mpr (hnone _ rfl)⟩
  have hbegin : (beginOn readyStage).call.task {} = .begin .empty := rfl
  have hrecital := run_recital hrecitable hbegin rfl (List.forall_mem_singleton.mpr rfl) hserved
  exact ⟨hrecital.1, hrecital.2 (.inr (by decide)) (by decide)⟩

end Dialog

end Parley
