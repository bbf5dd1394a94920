/-
  Parley.Proofs.Growth
  ────────────────────
  **VARIABLES ONLY ACCUMULATE.**

  Let callbacks change variables by writing them, and nothing else.  Then a
  dialog that goes on keeps its options, and every variable it ever had,
  whatever happens in its turns and whichever of them fail:

    • `Told.kept`, `Told.changed` — what the events of a turn do to a variable,
      by induction from what each does (`Happens.kept`, `Happens.changed`),
    • `turn_accumulates` — a turn changes a variable only if its reply was put
      into it, a callback set it in that turn, or it tells how a directive ended
      the dialog,
    • `run_accumulates` — and so do all turns of a run.
-/
import Parley.Proofs.Credit
import Parley.Proofs.FailedTurn
import Parley.Proofs.Retelling

namespace Parley

variable {σ H : Type}

/-- Callbacks change variables by writing them, one after the other. -/
structure World.SetsOnly (w : World σ H) : Prop where
  /-- So do those for the entry of a thread. -/
  atEntry : ∀ {h handle session s after s'}, w.atEntry h handle session s = (.ok after, s') →
    ∃ writes, after.values = handle.values.insertMany writes
  /-- So do those about a reply. -/
  atReply : ∀ {h reply handle session s after s'},
    w.atReply h reply handle session s = (.ok after, s') →
    ∃ writes, after.values = handle.values.insertMany writes

/-- Whether a callback runs that may change variables. -/
def Event.callsBack : Event H → Bool
  | .entryCall .. | .changeCall .. | .branchCall .. => true
  | _ => false

namespace Dialog

variable (d : Dialog H) (w : World σ H)

/-! ## §1. What events do to a variable. -/

/-- Among the events, which set out from where a turn stands, a callback runs that sets the
variable: where the turn stands by then, it hands another value back than it gets. -/
inductive SetIn (s : Standing σ) (events : List (Event H)) (key : String) : Prop
  | intro {before after : List (Event H)} {e : Event H} {t u : Standing σ}
      (hevents : events = before ++ e :: after) (htold : d.Told w s before t)
      (hcalls : e.callsBack = true) (hhappens : d.Happens w t e u)
      (hset : u.values.get? key ≠ t.values.get? key)

variable {d w} {s t : Standing σ} {e : Event H} {events : List (Event H)} {key : String}

/-- What callbacks hand back keeps every variable they got. -/
theorem contains_handedBack {values : Values} {result : Except Fault Handle}
    (h : ∀ after, result = .ok after → ∃ writes, after.values = values.insertMany writes)
    (hkey : values.contains key = true) : (handedBack values result).contains key = true := by
  -- a callback that fails hands nothing back
  cases result with
  | error fault => exact hkey
  | ok after =>
    obtain ⟨writes, hwrites⟩ := h after rfl
    show after.values.contains key = true
    rw [hwrites]
    exact Table.contains_insertMany writes hkey

/-- **One event** keeps every variable. -/
theorem Happens.kept (hw : w.SetsOnly) (h : d.Happens w s e t)
    (hkey : s.values.contains key = true) : t.values.contains key = true := by
  -- only a reply and the callbacks that hand variables back write any
  cases h with
  | captured => exact Table.contains_insert hkey _ _
  | entryCall hsession hvalues =>
    refine contains_handedBack (fun after hafter => ?_) hkey
    exact hvalues ▸ hw.atEntry (Prod.ext hafter rfl)
  | changeCall hsession hvalues =>
    refine contains_handedBack (fun after hafter => ?_) hkey
    exact hvalues ▸ hw.atReply (Prod.ext hafter rfl)
  | branchCall hsession hvalues =>
    refine contains_handedBack (fun after hafter => ?_) hkey
    exact hvalues ▸ hw.atReply (Prod.ext hafter rfl)
  | _ => exact hkey

/-- **One event** changes a variable only if a reply is put into it, or a callback runs. -/
theorem Happens.changed (h : d.Happens w s e t)
    (hchanged : t.values.get? key ≠ s.values.get? key) :
    (∃ question reply, e = .captured question key reply) ∨ e.callsBack = true := by
  -- a reply changes the one variable it is put into
  cases h with
  | @captured question intake key' hasked hnamed reply =>
    by_cases hkey : key = key'
    · exact .inl ⟨question, reply, by rw [hkey]⟩
    · exact absurd (Table.get?_insert_of_ne _ _ hkey) hchanged
  | entryCall | changeCall | branchCall => exact .inr rfl
  | _ => exact absurd rfl hchanged

/-- **Events** keep every variable. -/
theorem Told.kept (hw : w.SetsOnly) (h : d.Told w s events t)
    (hkey : s.values.contains key = true) : t.values.contains key = true := by
  -- along the events, each from where the one before it leads
  induction h with
  | nil s => exact hkey
  | cons hfirst _ ih => exact ih (hfirst.kept hw hkey)

/-- A variable that a later event sets is set in the whole. -/
theorem SetIn.cons (hfirst : d.Happens w s e t) (h : d.SetIn w t events key) :
    d.SetIn w s (e :: events) key := by
  obtain ⟨hevents, htold, hcalls, hhappens, hset⟩ := h
  exact .intro (by rw [hevents]; rfl) (.cons hfirst htold) hcalls hhappens hset

/-- What happens afterwards does not undo that it was set. -/
theorem SetIn.append (h : d.SetIn w s events key) (more : List (Event H)) :
    d.SetIn w s (events ++ more) key := by
  obtain @⟨before, after, e, t, u, hevents, htold, hcalls, hhappens, hset⟩ := h
  have hmore : events ++ more = before ++ e :: (after ++ more) := by
    rw [hevents, List.append_assoc, List.cons_append]
  exact .intro hmore htold hcalls hhappens hset

/-- **Events** change a variable only if a reply is put into it, or a callback sets it. -/
theorem Told.changed (h : d.Told w s events t)
    (hchanged : t.values.get? key ≠ s.values.get? key) :
    (∃ question reply, .captured question key reply ∈ events) ∨ d.SetIn w s events key := by
  -- along the events: the variable is changed by the first of them, or by a later one
  induction h with
  | nil s => exact absurd rfl hchanged
  | @cons s t u e rest hfirst hrest ih =>
    by_cases hsame : t.values.get? key = s.values.get? key
    · rw [← hsame] at hchanged
      rcases ih hchanged with ⟨question, reply, hmem⟩ | hset
      · exact .inl ⟨question, reply, List.mem_cons_of_mem e hmem⟩
      · exact .inr (hset.cons hfirst)
    · rcases hfirst.changed hsame with ⟨question, reply, rfl⟩ | hcalls
      · exact .inl ⟨question, reply, List.mem_cons_self⟩
      · exact .inr (.intro (List.nil_append _).symm (.nil s) hcalls hfirst hsame)

/-! ## §2. What a turn does to a variable. -/

variable (d w)

/-- Why a call has changed a variable. -/
inductive Changes (call : Call) (env : Env σ) (o : Outcome σ H Report) (key : String) : Prop
  /-- The reply of the call was put into it: it is the one that the question names which the
  turn goes on after. -/
  | replied {cause : Cause} {reply : Option String} {intake : Intake H} {text : String}
      (htask : call.task env.saved = .turn cause reply)
      (hcaptured : d.CapturedIn w env reply o.events intake key text)
  /-- It tells how the dialog was ended: the turn completes it at a place where a directive
  decides that does so. -/
  | ended {start a : Place σ} {n : Nat} {way : List (Event H)} {values : Values}
      (hkey : key = statusKey) (houtset : d.outset call env = some start)
      (hleads : d.Leads w n start way a) (hbudget : n < d.settings.maxSteps)
      (hmarks : d.Marks a values o.env.saved.values)
      (hreport : o.result = .ok (.complete o.env.saved.values))
  /-- A callback that ran in the turn set it. -/
  | set (hset : d.SetIn w ⟨env.world, none, env.saved.values⟩ o.events key)

/-- What a call does to what is saved: the options stay, and variables are added or
changed. -/
structure Accumulates (call : Call) (env : Env σ) (o : Outcome σ H Report) : Prop where
  /-- The options stay. -/
  options : o.env.saved.options = env.saved.options
  /-- No variable is removed. -/
  kept : ∀ key, env.saved.values.contains key = true → o.env.saved.values.contains key = true
  /-- A variable is changed for one of three reasons. -/
  changed : ∀ key, o.env.saved.values.get? key ≠ env.saved.values.get? key →
    d.Changes w call env o key

/-- A reply that a turn puts into a variable is its own, for the question that it goes on
after. -/
theorem turn_capturedIn {env : Env σ} {cause : Cause} {reply : Option String}
    {question : Position} {key text : String}
    (hmem : .captured question key text
      ∈ (d.turn w env.saved.resumePosition cause reply env).events) :
    ∃ intake, d.CapturedIn w env reply
      (d.turn w env.saved.resumePosition cause reply env).events intake key text := by
  rw [turn_eq, Outcome.commit_events] at hmem ⊢
  -- a turn takes no reply, or takes its own to the question it goes on after
  rcases d.resolve_saved w d.settings.maxSteps env.saved.resumePosition cause reply env.saved env
    with hnothing | ⟨lines, intake, key', text', hthread, hquestion, hkey, hreply, hne, hcaptures⟩
  · exact absurd rfl (hnothing.quiet _ hmem)
  · obtain ⟨_, rfl, rfl⟩ := hcaptures.only _ _ _ hmem
    exact ⟨intake, ⟨lines, hthread, hquestion⟩, hkey, ⟨hreply, hne⟩, hcaptures.noted,
      hcaptures.only⟩

/-- What a turn leaves of the variables that some of its events lead to, as for a loop. -/
inductive TurnLeaves (start : Place σ) (o : Outcome σ H Report) (values : Values) : Prop
  /-- They stay. -/
  | same (h : o.env.saved.values = values)
  /-- The dialog ends. -/
  | marked {n : Nat} {a : Place σ} {way : List (Event H)} (hleads : d.Leads w n start way a)
      (hbudget : n < d.settings.maxSteps) (hmarks : d.Marks a values o.env.saved.values)
      (hreport : o.result = .ok (.complete o.env.saved.values))

/-- **A turn saves variables that its events lead to**, whether it succeeds or fails. -/
theorem turn_retold (position : Position) (cause : Cause) (reply : Option String)
    (env : Env σ) :
    ∃ before after s, (d.turn w position cause reply env).events = before ++ after
      ∧ d.Told w ⟨env.world, none, env.saved.values⟩ before s
      ∧ d.TurnLeaves w ⟨position, cause, reply, env.saved, env⟩
          (d.turn w position cause reply env) s.values := by
  obtain ⟨⟨session, values, htold, hanswer⟩, hsaved⟩ :=
    d.loopAt_retold w none d.settings.maxSteps ⟨position, cause, reply, env.saved, env⟩
  unfold loopAt at htold hanswer hsaved
  rcases d.turn_cases w position cause reply env with
    ⟨fault, env', events, hloop, hturn⟩ | ⟨working, report, env', events, hloop, hturn⟩
  · -- a turn that fails saves what its loop saved on the way
    rw [hloop] at hsaved
    rw [hturn]
    rcases hsaved with hsame | ⟨before, after, s, hevents, hbefore, hvalues⟩
    · exact ⟨[], events, _, rfl, .nil _, .same (congrArg Progress.values hsame)⟩
    · exact ⟨before, after, s, hevents, hbefore, .same (congrArg Progress.values hvalues)⟩
  · rw [hloop] at htold hanswer
    rw [hturn]
    refine ⟨events, [], _, (List.append_nil events).symm, htold, ?_⟩
    rcases hanswer (working, report) rfl with hsame | ⟨hleads, hbudget, hmarks, hreport⟩
    · exact .same hsame
    · exact .marked hleads hbudget hmarks (congrArg Except.ok hreport)

/-- A loop keeps the options, and comes to a thread that exists, if to another. -/
theorem resolve_keeps (budget : Nat) (position : Position) (cause : Cause)
    (reply : Option String) (working : Progress) :
    Act.Yields (fun done => done.1.options = working.options
        ∧ (done.1.thread = working.thread ∨ d.script.hasThread done.1.thread = true))
      (d.resolve w budget position cause reply working) := by
  -- along the loop: no thread, its end, no budget, and a visit with what follows it
  refine d.resolve_induct w
    (motive := fun _ _ _ working act => Act.Yields (fun done => done.1.options = working.options
      ∧ (done.1.thread = working.thread ∨ d.script.hasThread done.1.thread = true)) act)
    ?unknown ?ended ?spent ?line budget position cause reply working
  case unknown => exact fun _ _ _ _ => .fail _
  case ended => exact fun _ _ _ _ => .seq fun _ => .pure ⟨rfl, .inl rfl⟩
  case spent =>
    intro position _ _ working _
    have hthread : (cutOff working position).thread = working.thread := by
      unfold cutOff
      split <;> rfl
    exact .answer ⟨cutOff_options working position, .inl hthread⟩
  case line =>
    -- a visit stands in the thread of its position, whatever thread the dialog was in
    intro lines budget position cause reply working hthread hin ih
    refine (d.visit_yields w lines position cause reply working).bind ?_
    rintro ⟨moved, move⟩ ⟨hat, hoptions, _⟩
    have hexists : d.script.hasThread moved.thread = true := by
      have hmoved : moved.thread = position.thread := congrArg Position.thread hat
      show (d.script.threads.get? moved.thread).isSome = true
      rw [hmoved, show d.script.threads.get? position.thread = some lines from hthread]
      rfl
    cases move with
    | goOn target =>
      refine (ih target moved).mono ?_
      rintro done ⟨hkept, hsame | hother⟩
      · exact ⟨hkept.trans hoptions, .inr (hsame ▸ hexists)⟩
      · exact ⟨hkept.trans hoptions, .inr hother⟩
    | stop report => exact .pure ⟨hoptions, .inr hexists⟩

/-- **A turn keeps the options**, and comes to a thread that exists, if to another. -/
theorem turn_keeps (position : Position) (cause : Cause) (reply : Option String)
    (env : Env σ) :
    (d.turn w position cause reply env).env.saved.options = env.saved.options
      ∧ ((d.turn w position cause reply env).env.saved.thread = env.saved.thread
        ∨ d.script.hasThread (d.turn w position cause reply env).env.saved.thread = true) := by
  have hkeeps := d.resolve_keeps w d.settings.maxSteps position cause reply env.saved env
  -- a turn that fails leaves all but the variables as they were
  cases hresult : (d.turn w position cause reply env).result with
  | error fault =>
    obtain ⟨values, hsaved⟩ := d.turn_revalued w hresult
    rw [hsaved]
    exact ⟨rfl, .inl rfl⟩
  | ok report =>
    rcases d.turn_cases w position cause reply env with
      ⟨fault, env', events, _, hturn⟩ | ⟨working, report, env', events, hloop, hturn⟩
    · rw [hturn] at hresult
      cases hresult
    · rw [hloop] at hkeeps
      rw [hturn]
      exact hkeeps (working, report) rfl

variable {d} in
/-- A dialog that has entered a thread stays in one. -/
theorem turn_started (hnamed : d.script.hasThread "" = false) {env : Env σ}
    (hstarted : env.saved.isStarted = true) (position : Position) (cause : Cause)
    (reply : Option String) :
    (d.turn w position cause reply env).env.saved.isStarted = true := by
  refine bne_iff_ne.mpr ?_
  intro hempty
  rcases (d.turn_keeps w position cause reply env).2 with hsame | hexists
  · rw [hempty] at hsame
    exact bne_iff_ne.mp hstarted hsame.symm
  · rw [hempty, hnamed] at hexists
    cases hexists

variable {d w} in
/-- **A turn accumulates variables.** -/
theorem turn_accumulates (hw : w.SetsOnly) {call : Call} {env : Env σ} {cause : Cause}
    {reply : Option String} (htask : call.task env.saved = .turn cause reply) :
    d.Accumulates w call env (d.turn w env.saved.resumePosition cause reply env) := by
  obtain ⟨before, after, s, hevents, htold, hleaves⟩ :=
    d.turn_retold w env.saved.resumePosition cause reply env
  have hoptions := (d.turn_keeps w env.saved.resumePosition cause reply env).1
  -- first the variables that the events lead to, then the mark of an ending, if there is one
  have hchanges : ∀ {key}, s.values.get? key ≠ env.saved.values.get? key →
      d.Changes w call env (d.turn w env.saved.resumePosition cause reply env) key := by
    intro key hchanged
    rcases htold.changed hchanged with ⟨question, text, hmem⟩ | hset
    · have hcaptured : .captured question key text
          ∈ (d.turn w env.saved.resumePosition cause reply env).events := by
        rw [hevents]
        exact List.mem_append_left after hmem
      obtain ⟨intake, hcaptured⟩ := d.turn_capturedIn w hcaptured
      exact .replied htask hcaptured
    · exact .set (hevents ▸ hset.append after)
  cases hleaves with
  | same hsame =>
    refine ⟨hoptions, fun key hkey => ?_, fun key hchanged => ?_⟩
    · rw [hsame]
      exact htold.kept hw hkey
    · rw [hsame] at hchanged
      exact hchanges hchanged
  | marked hleads hbudget hmarks hreport =>
    obtain ⟨ending, hvalues⟩ := hmarks.written
    refine ⟨hoptions, fun key hkey => ?_, fun key hchanged => ?_⟩
    · rw [hvalues]
      exact Table.contains_insert (htold.kept hw hkey) statusKey _
    -- the ending writes one variable, and the others are as the events left them
    · by_cases hkey : key = statusKey
      · exact .ended hkey (d.outset_of_turn htask) hleads hbudget hmarks hreport
      · rw [hvalues, Table.get?_insert_of_ne _ _ hkey] at hchanged
        exact hchanges hchanged

end Dialog

/-! ## §3. Runs. -/

/-- Whether a call begins the dialog, whatever is saved. -/
def Call.begins : Call → Bool
  | .begin _ | .beginWith _ => true
  | .resume _ _ | .receive _ => false

/-- A call that does not begin a started dialog runs a turn, or takes in what is no message. -/
theorem Call.task_cases {call : Call} (hbegins : call.begins = false) {saved : Progress}
    (hstarted : saved.isStarted = true) :
    (∃ cause reply, call.task saved = .turn cause reply)
      ∨ ∃ incoming, call = .receive incoming ∧ incoming.isMessage = false := by
  have hresume : ∀ cause reply, saved.resumeTask cause reply = .turn cause reply :=
    fun cause reply => if_pos hstarted
  cases call with
  | begin | beginWith => cases hbegins
  | resume cause reply => exact .inl ⟨cause, reply, hresume cause reply⟩
  | receive incoming =>
    cases hmessage : incoming.isMessage with
    | false => exact .inr ⟨incoming, rfl, hmessage⟩
    | true =>
      refine .inl ⟨.continued, incoming.text, ?_⟩
      simp only [task, hmessage, if_true]
      exact hresume .continued incoming.text

namespace Dialog

variable {d : Dialog H} {w : World σ H}

/-- What is no message changes nothing, and nothing happens. -/
theorem serve_of_no_message {incoming : Incoming} (hmessage : incoming.isMessage = false)
    (env : Env σ) : d.serve w (.receive incoming) env = ⟨.ok .waiting, env, []⟩ := by
  have htask : (Call.receive incoming).task env.saved = .nothing (.ok .waiting) := by
    simp [Call.task, hmessage]
  exact d.serve_of_nothing w htask

/-- **A call accumulates variables**, and leaves a dialog that has entered a thread in one. -/
theorem serve_accumulates (hnamed : d.script.hasThread "" = false) (hw : w.SetsOnly)
    {call : Call} (hbegins : call.begins = false) {env : Env σ}
    (hstarted : env.saved.isStarted = true) :
    d.Accumulates w call env (d.serve w call env)
      ∧ (d.serve w call env).env.saved.isStarted = true := by
  -- such a call runs a turn, or takes in what is no message
  rcases call.task_cases hbegins hstarted with ⟨cause, reply, htask⟩ | ⟨incoming, rfl, hmessage⟩
  · rw [d.serve_of_turn w htask]
    exact ⟨turn_accumulates hw htask, turn_started w hnamed hstarted _ cause reply⟩
  · rw [serve_of_no_message hmessage]
    exact ⟨⟨rfl, fun _ hkey => hkey, fun _ hchanged => absurd rfl hchanged⟩, hstarted⟩

/-- What a run of calls does that go on with a dialog. -/
structure RunAccumulates (d : Dialog H) (w : World σ H) (saved : Progress)
    (run : List (Meeting σ)) : Prop where
  /-- The options stay. -/
  options : (d.savedAfter w saved run).options = saved.options
  /-- No variable is removed. -/
  kept : ∀ key, saved.values.contains key = true →
    (d.savedAfter w saved run).values.contains key = true
  /-- Each call of the run does no more to what the one before it saved. -/
  each : ∀ t ∈ d.turnsOf w saved run, d.Accumulates w t.call t.env (d.outcomeOf w t)

/-- **Variables only accumulate, and options stay.**  Let callbacks change variables by
writing them alone.  However a started dialog then goes on, and whichever calls fail, its
options stay, none of its variables is ever removed, and each call changes a variable only if
its reply was put into it, a callback set it in that turn, or it tells how a directive ended
the dialog there.  What is no message changes nothing. -/
theorem run_accumulates (hnamed : d.script.hasThread "" = false) (hw : w.SetsOnly)
    {saved : Progress} (hstarted : saved.isStarted = true) {run : List (Meeting σ)}
    (hrun : ∀ m ∈ run, m.call.begins = false) :
    d.RunAccumulates w saved run
      ∧ ∀ incoming env, incoming.isMessage = false →
        d.serve w (.receive incoming) env = ⟨.ok .waiting, env, []⟩ := by
  refine ⟨?_, fun incoming env hmessage => serve_of_no_message hmessage env⟩
  -- along the run; each call leaves a dialog that has entered a thread
  induction run generalizing saved with
  | nil => exact ⟨rfl, fun _ hkey => hkey, fun t ht => absurd ht List.not_mem_nil⟩
  | cons m rest ih =>
    rw [List.forall_mem_cons] at hrun
    obtain ⟨hfirst, hthen⟩ := serve_accumulates hnamed hw hrun.1
      (show (m.env saved).saved.isStarted = true from hstarted)
    have hrest := ih hthen hrun.2
    refine ⟨hrest.options.trans hfirst.options, ?_, ?_⟩
    · exact fun key hkey => hrest.kept key (hfirst.kept key hkey)
    · exact List.forall_mem_cons.mpr ⟨hfirst, hrest.each⟩

end Dialog

/-! ## §4. Callbacks that write variables. -/

namespace Routine

/-- A handle was handed back with variables written. -/
def Wrote (before after : Handle) : Prop :=
  ∃ writes, after.values = before.values.insertMany writes

/-- Routines write variables, if they change any. -/
theorem wrote_closed : Closed Wrote := by
  refine ⟨fun _ => ⟨[], rfl⟩, ?trans, fun _ _ => ⟨[], rfl⟩,
    fun _ key value => ⟨[(key, value)], rfl⟩⟩
  rintro first second third ⟨writes, hwrites⟩ ⟨more, hmore⟩
  exact ⟨writes ++ more, by rw [hmore, hwrites, Table.insertMany_append]⟩

end Routine

/-- The callbacks of a stage write variables, if they change any. -/
theorem Stage.world_setsOnly : Stage.world.SetsOnly :=
  ⟨Stage.perform_closed Routine.wrote_closed, Stage.perform_closed Routine.wrote_closed⟩

namespace Dialog

/-- A guess comes in that cannot be judged, and then something that is no message. -/
def guessRun : List (Meeting Stage) :=
  [replyOn (Stage.new "c") "seven", ⟨.receive (.ofKind .typing), Stage.new "c", ⟨[], 0⟩⟩]

/-- The reply to that dialog, whose callback fails, and what is no message take nothing away. -/
theorem guessDialog_accumulates :
    guessDialog.RunAccumulates Stage.world guessEnv.saved guessRun
      ∧ guessDialog.serve Stage.world (.receive (.ofKind .typing)) guessEnv
        = ⟨.ok .waiting, guessEnv, []⟩ := by
  have hgoes : ∀ m ∈ guessRun, m.call.begins = false := by decide
  have haccumulates := run_accumulates (d := guessDialog) (by decide) Stage.world_setsOnly
    (show guessEnv.saved.isStarted = true from rfl) hgoes
  exact ⟨haccumulates.1, haccumulates.2 (.ofKind .typing) guessEnv rfl⟩

end Dialog

end Parley
