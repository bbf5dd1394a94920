/-
  Parley.Proofs.Retelling
  ───────────────────────
  **THE EVENTS OF A TURN RETELL IT.**

  The events of a turn say what became of the world and of the variables.  They
  can be told again, one after the other (`Happens`): a call on the host changes
  the world, a reply that is put into a variable changes that one, and a
  callback hands other variables back.

    • `Told` — the events lead from where a turn stands to where it then stands,
    • `Retells` — an act does what its events tell, hands on the variables that
      they lead to, and saves variables that they led to on the way,
    • `loopAt_retold` — every loop does so; only a directive that ends the
      dialog writes a variable that no event tells of.
-/
import Parley.Proofs.Asking
import Parley.Proofs.Ending

namespace Parley

variable {σ H α β : Type}

/-- Where a turn stands between two events. -/
structure Standing (σ : Type) where
  /-- The state of the world. -/
  world : σ
  /-- The session made last, if one was. -/
  session : Option Session
  /-- The variables of the turn. -/
  values : Values

/-- The variables after a callback: those it hands back, if it succeeds. -/
def handedBack (values : Values) : Except Fault Handle → Values
  | .ok after => after.values
  | .error _ => values

namespace Dialog

variable (d : Dialog H) (w : World σ H)

/-! ## §1. Events, told one after the other. -/

open Act (succeeded)

/-- What an event leaves where a turn stands. -/
inductive Happens : Standing σ → Event H → Standing σ → Prop
  /-- A position is only resolved. -/
  | reached (s : Standing σ) (position : Position) : Happens s (.reached position) s
  /-- A reply is put into the variable that its question names. -/
  | captured (s : Standing σ) {question : Position} {intake : Intake H} {key : String}
      (hasked : d.script.question? question = some intake) (hkey : intake.key = some key)
      (reply : String) :
      Happens s (.captured question key reply)
        { s with
          values := s.values.insert key
            (.string (d.joined s.values key reply intake.multiple)) }
  /-- Branches are only tried. -/
  | offered (s : Standing σ) (question : Position) (reply : String) :
      Happens s (.offered question reply) s
  /-- The host sends a message. -/
  | sent (s : Standing σ) (message : Message) :
      Happens s (.sent message (succeeded (w.send message s.world).1))
        { s with world := (w.send message s.world).2 }
  /-- The host starts a prompt. -/
  | prompted (s : Standing σ) (question : Position) (prompt : String) (message : Message) :
      Happens s (.prompted question prompt message
          (succeeded (w.prompt prompt message s.world).1))
        { s with world := (w.prompt prompt message s.world).2 }
  /-- The host makes a session. -/
  | spawned (s : Standing σ) :
      Happens s (.spawned (succeeded (w.spawn s.world).1))
        { s with world := (w.spawn s.world).2, session := (w.spawn s.world).1.toOption }
  /-- A callback for the entry of a thread gets the variables and hands others back. -/
  | entryCall (s : Standing σ) {h : H} {handle : Handle} {session : Session}
      (hsession : s.session = some session) (hvalues : handle.values = s.values) :
      Happens s (.entryCall h handle (succeeded (w.atEntry h handle session s.world).1))
        { s with
          world := (w.atEntry h handle session s.world).2
          values := handedBack s.values (w.atEntry h handle session s.world).1 }
  /-- So does one for a changed variable. -/
  | changeCall (s : Standing σ) {h : H} {reply : String} {handle : Handle} {session : Session}
      (hsession : s.session = some session) (hvalues : handle.values = s.values) :
      Happens s (.changeCall h reply handle
          (succeeded (w.atReply h reply handle session s.world).1))
        { s with
          world := (w.atReply h reply handle session s.world).2
          values := handedBack s.values (w.atReply h reply handle session s.world).1 }
  /-- So does that of a branch. -/
  | branchCall (s : Standing σ) {h : H} {reply : String} {handle : Handle} {session : Session}
      (hsession : s.session = some session) (hvalues : handle.values = s.values) :
      Happens s (.branchCall h reply handle
          (succeeded (w.atReply h reply handle session s.world).1))
        { s with
          world := (w.atReply h reply handle session s.world).2
          values := handedBack s.values (w.atReply h reply handle session s.world).1 }
  /-- A callback for the end is told variables. -/
  | endCall (s : Standing σ) {h : H} {told : Values} {session : Session}
      (hsession : s.session = some session) :
      Happens s (.endCall h told (succeeded (w.atEnd h told session s.world).1))
        { s with world := (w.atEnd h told session s.world).2 }
  /-- The host ends the dialog. -/
  | finished (s : Standing σ) (reply : Option String) :
      Happens s (.finished reply (succeeded (w.finish reply s.world).1))
        { s with world := (w.finish reply s.world).2 }
  /-- The host replaces the dialog. -/
  | handedOver (s : Standing σ) (script : String) (options : Values) :
      Happens s (.handedOver script options (succeeded (w.handOver script options s.world).1))
        { s with world := (w.handOver script options s.world).2 }

/-- Events, one after the other, lead from where a turn stands to where it then stands. -/
inductive Told : Standing σ → List (Event H) → Standing σ → Prop
  /-- No event leads nowhere else. -/
  | nil (s : Standing σ) : Told s [] s
  /-- An event happens, and the others after it. -/
  | cons {s t u : Standing σ} {e : Event H} {rest : List (Event H)}
      (hfirst : d.Happens w s e t) (hrest : Told t rest u) : Told s (e :: rest) u

variable {d w} in
/-- Events told in two stretches are told in one. -/
theorem Told.append {s t u : Standing σ} {first last : List (Event H)}
    (hfirst : d.Told w s first t) (hlast : d.Told w t last u) : d.Told w s (first ++ last) u := by
  -- along the first stretch
  induction hfirst with
  | nil s => exact hlast
  | cons hevent _ ih => exact .cons hevent (ih hlast)

variable {d w} in
/-- A single event is told by what it does. -/
theorem Told.single {s t : Standing σ} {e : Event H} (h : d.Happens w s e t) :
    d.Told w s [e] t :=
  .cons h (.nil t)

/-! ## §2. Acts that their events retell. -/

/-- What comes of an act that sets out with a session and variables is what its events
tell. -/
structure Retold (session : Option Session) (values : Values)
    (p : α → Option Session → Values → Prop) (env : Env σ) (o : Outcome σ H α) : Prop where
  /-- They lead to the world that is left, and to a session and variables for the answer. -/
  told : ∃ session' values',
    d.Told w ⟨env.world, session, values⟩ o.events ⟨o.env.world, session', values'⟩
      ∧ ∀ a, o.result = .ok a → p a session' values'
  /-- What is saved stays, or the variables are saved that some of them lead to. -/
  saved : o.env.saved = env.saved ∨ ∃ before after s,
    o.events = before ++ after ∧ d.Told w ⟨env.world, session, values⟩ before s
      ∧ o.env.saved = { env.saved with values := s.values }

/-- An act that sets out with a session and variables does, in every environment, what its
events tell. -/
def Retells (session : Option Session) (values : Values) (act : Act σ H α)
    (p : α → Option Session → Values → Prop) : Prop :=
  ∀ env, d.Retold w session values p env (act env)

variable {d w} {session : Option Session} {values : Values}
  {p : α → Option Session → Values → Prop} {q : β → Option Session → Values → Prop}

section Outcomes

variable {env env' : Env σ} {events : List (Event H)} {fault : Fault}

/-- A failure is retold whatever the answer would have been. -/
theorem Retold.error (h : d.Retold w session values p env ⟨.error fault, env', events⟩) :
    d.Retold w session values q env (⟨.error fault, env', events⟩ : Outcome σ H β) := by
  obtain ⟨⟨session', values', htold, _⟩, hsaved⟩ := h
  exact ⟨⟨session', values', htold, fun b hb => by cases hb⟩, hsaved⟩

/-- What is known of the answer of a retold act may be weakened. -/
theorem Retold.mono {r : α → Option Session → Values → Prop} {o : Outcome σ H α}
    (h : d.Retold w session values p env o)
    (hp : ∀ a session values, o.result = .ok a → p a session values → r a session values) :
    d.Retold w session values r env o := by
  obtain ⟨⟨session', values', htold, hanswer⟩, hsaved⟩ := h
  exact ⟨⟨session', values', htold, fun a ha => hp a _ _ ha (hanswer a ha)⟩, hsaved⟩

/-- Another answer in place of the one that was retold. -/
theorem Retold.answer {a : α} {b : β}
    (h : d.Retold w session values p env ⟨.ok a, env', events⟩)
    (hp : ∀ session values, p a session values → q b session values) :
    d.Retold w session values q env ⟨.ok b, env', events⟩ := by
  obtain ⟨⟨session', values', htold, hanswer⟩, hsaved⟩ := h
  refine ⟨⟨session', values', htold, fun c hc => ?_⟩, hsaved⟩
  cases hc
  exact hp _ _ (hanswer a rfl)

/-- A position is resolved before. -/
theorem Retold.reached {o : Outcome σ H α} (h : d.Retold w session values p env o)
    (position : Position) : d.Retold w session values p env (o.after [.reached position]) := by
  obtain ⟨⟨session', values', htold, hanswer⟩, hsaved⟩ := h
  refine ⟨⟨session', values', .cons (.reached _ position) htold, hanswer⟩, ?_⟩
  refine hsaved.imp_right ?_
  rintro ⟨before, after, s, hevents, hbefore, hvalues⟩
  refine ⟨.reached position :: before, after, s, ?_, .cons (.reached _ position) hbefore, hvalues⟩
  rw [Outcome.after_events, hevents]
  rfl

/-- An answer, and what follows it. -/
theorem Retold.after {a : α} {o : Outcome σ H β}
    (h : d.Retold w session values p env ⟨.ok a, env', events⟩)
    (hnext : ∀ session' values', p a session' values' →
      d.Retold w session' values' q env' o) :
    d.Retold w session values q env (o.after events) := by
  obtain ⟨⟨session', values', htold, hanswer⟩, hsaved⟩ := h
  obtain ⟨⟨session'', values'', hthen, hfinal⟩, hkept⟩ := hnext _ _ (hanswer a rfl)
  refine ⟨⟨session'', values'', htold.append hthen, hfinal⟩, ?_⟩
  -- what was saved stands, unless what follows saves once more
  rcases hkept with hsame | ⟨before, after, s, hevents, hbefore, hvalues⟩
  · rcases hsaved with hnone | ⟨before, after, s, hevents, hbefore, hvalues⟩
    · exact .inl (hsame.trans hnone)
    · refine .inr ⟨before, after ++ o.events, s, ?_, hbefore, hsame.trans hvalues⟩
      change events = _ at hevents
      rw [Outcome.after_events, hevents, List.append_assoc]
  · -- what is saved last counts
    refine .inr ⟨events ++ before, after, s, ?_, htold.append hbefore, ?_⟩
    · rw [Outcome.after_events, hevents, List.append_assoc]
    · change env'.saved = _ ∨ ∃ before after s, _ ∧ _ ∧ env'.saved = _ at hsaved
      rw [Outcome.after_env, hvalues]
      rcases hsaved with hnone | ⟨_, _, _, _, _, hrevalued⟩
      · rw [hnone]
      · rw [hrevalued]

end Outcomes

namespace Retells

/-- An answer is retold by no event. -/
theorem pure {a : α} (h : p a session values) :
    d.Retells w session values (Pure.pure a) p := by
  intro env
  refine ⟨⟨session, values, .nil _, fun b hb => ?_⟩, .inl rfl⟩
  cases hb
  exact h

/-- A failure is retold by no event, and has no answer to speak of. -/
theorem fail (fault : Fault) : d.Retells w session values (Act.fail fault) p :=
  fun _ => ⟨⟨session, values, .nil _, fun _ hb => by cases hb⟩, .inl rfl⟩

/-- A result at hand is retold as the answer or the failure it is. -/
theorem ofExcept (result : Except Fault α) (h : ∀ a, p a session values) :
    d.Retells w session values (Act.ofExcept result) p := by
  cases result with
  | error fault => exact fail fault
  | ok a => exact pure (h a)

/-- A note is retold by its event, whatever the world. -/
theorem note {event : Event H} {values' : Values} {p : Unit → Option Session → Values → Prop}
    (hevent : ∀ world, d.Happens w ⟨world, session, values⟩ event ⟨world, session, values'⟩)
    (h : p () session values') : d.Retells w session values (Act.note event) p :=
  fun env => ⟨⟨session, values', .single (hevent env.world), fun _ _ => h⟩, .inl rfl⟩

/-- A call on the world is retold by its event, if that tells what the world does in each state.
-/
theorem call {event : Bool → Event H} {op : σ → Except Fault α × σ}
    (hevent : ∀ world, ∃ session' values',
      d.Happens w ⟨world, session, values⟩ (event (succeeded (op world).1))
          ⟨(op world).2, session', values'⟩
        ∧ ∀ a, (op world).1 = .ok a → p a session' values') :
    d.Retells w session values (Act.call event op) p := by
  intro env
  obtain ⟨session', values', hhappens, hanswer⟩ := hevent env.world
  exact ⟨⟨session', values', .single hhappens, hanswer⟩, .inl rfl⟩

/-- Saving the variables of the turn is retold: they are those that the events lead to so far. -/
theorem saveValues {p : Unit → Option Session → Values → Prop} (h : p () session values) :
    d.Retells w session values (Act.saveValues values) p :=
  fun _ => ⟨⟨session, values, .nil _, fun _ _ => h⟩, .inr ⟨[], [], _, rfl, .nil _, rfl⟩⟩

/-- A rendering has no event and leaves the variables. -/
theorem render (draft : Draft) (shown : Values) {p : Message → Option Session → Values → Prop}
    (h : ∀ message, p message session values) :
    d.Retells w session values (Act.render draft shown) p :=
  fun _ => ⟨⟨session, values, .nil _, fun message _ => h message⟩, .inl rfl⟩

/-- A call that may fail without ending the turn. -/
theorem attempt {event : Bool → Event H} {op : σ → Except Fault α × σ}
    {p : Except Fault α → Option Session → Values → Prop}
    (hevent : ∀ world, ∃ session' values',
      d.Happens w ⟨world, session, values⟩ (event (succeeded (op world).1))
          ⟨(op world).2, session', values'⟩
        ∧ p (op world).1 session' values') :
    d.Retells w session values (Act.attempt (Act.call event op)) p := by
  intro env
  obtain ⟨session', values', hhappens, hanswer⟩ := hevent env.world
  refine ⟨⟨session', values', .single hhappens, fun result hresult => ?_⟩, .inl rfl⟩
  cases hresult
  exact hanswer

/-- **Sequences are retold**: what follows sets out where the events of the first act lead. -/
theorem bind {act : Act σ H α} {next : α → Act σ H β} (hact : d.Retells w session values act p)
    (hnext : ∀ a session' values', p a session' values' →
      d.Retells w session' values' (next a) q) :
    d.Retells w session values (act >>= next) q := by
  intro env
  have hretold := hact env
  -- a sequence that fails in its first act is retold by that one
  rcases Act.bind_cases act next env with
    ⟨fault, env', events, h, hseq⟩ | ⟨a, env', events, h, hseq⟩
  · rw [h] at hretold
    rw [hseq]
    exact hretold.error
  · rw [h] at hretold
    rw [hseq]
    exact hretold.after fun session' values' hp => hnext a session' values' hp env'

end Retells

/-! ## §3. The parts of a visit. -/

variable (d w) in
/-- Making a session is retold by its event, and leaves the session that was made. -/
theorem spawn_retells (session : Option Session) (values : Values) :
    d.Retells w session values (spawn w) fun made s v => s = some made ∧ v = values :=
  .call fun world => ⟨_, _, .spawned ⟨world, session, values⟩,
    fun made hmade => ⟨by rw [hmade]; rfl, rfl⟩⟩

/-- A batch of callbacks is retold, one call after the other. -/
theorem passAlong_retells {session : Session} {call : H → Handle → Act σ H Handle}
    (hcall : ∀ h handle, d.Retells w (some session) handle.values (call h handle)
      fun after s v => s = some session ∧ v = after.values) :
    ∀ (batch : List H) (handle : Handle),
      d.Retells w (some session) handle.values (passAlong call batch handle)
        fun after s v => s = some session ∧ v = after.values := by
  intro batch
  -- along the batch; a callback gets the variables that the one before handed back
  induction batch with
  | nil => exact fun handle => .pure ⟨rfl, rfl⟩
  | cons h rest ih =>
    intro handle
    refine (hcall h handle).bind ?_
    rintro after _ _ ⟨rfl, rfl⟩
    exact ih after

/-- A batch is retold with the session made for it; what it hands back are the variables its
events lead to. -/
theorem runBatch_retells {call : Session → H → Handle → Act σ H Handle}
    (hcall : ∀ session h handle, d.Retells w (some session) handle.values (call session h handle)
      fun after s v => s = some session ∧ v = after.values)
    (session : Option Session) (batch : List H) (handle : Handle) :
    d.Retells w session handle.values (runBatch w call batch handle)
      fun after _ v => v = after.values := by
  cases batch with
  | nil => exact .pure rfl
  | cons h rest =>
    refine (d.spawn_retells w session handle.values).bind ?_
    -- the session of the calls is the one that the first event tells of
    rintro made _ _ ⟨rfl, rfl⟩ env
    exact (passAlong_retells (hcall made) (h :: rest) handle env).mono
      fun after _ _ _ hafter => hafter.2

variable (d w)

/-- A callback for the entry of a thread is retold by its event. -/
theorem callEntry_retells (session : Session) (h : H) (handle : Handle) :
    d.Retells w (some session) handle.values (callEntry w session h handle)
      fun after s v => s = some session ∧ v = after.values :=
  .call fun world => ⟨_, _, .entryCall ⟨world, some session, handle.values⟩ rfl rfl,
    fun after hafter => ⟨rfl, by rw [hafter]; rfl⟩⟩

/-- A callback for a changed variable is retold by its event. -/
theorem callChange_retells (reply : String) (session : Session) (h : H) (handle : Handle) :
    d.Retells w (some session) handle.values (callChange w reply session h handle)
      fun after s v => s = some session ∧ v = after.values :=
  .call fun world => ⟨_, _, .changeCall ⟨world, some session, handle.values⟩ rfl rfl,
    fun after hafter => ⟨rfl, by rw [hafter]; rfl⟩⟩

/-- The callbacks for the entry of a thread are retold. -/
theorem runEntry_retells (session : Option Session) (thread : String) (handle : Handle) :
    d.Retells w session handle.values (d.runEntry w thread handle)
      fun after _ v => v = after.values :=
  runBatch_retells (d.callEntry_retells w) session _ handle

/-- The callbacks for a changed variable are retold. -/
theorem runChange_retells (session : Option Session) (key reply : String) (handle : Handle) :
    d.Retells w session handle.values (d.runChange w key reply handle)
      fun after _ v => v = after.values :=
  runBatch_retells (d.callChange_retells w reply) session _ handle

/-- The callback of a branch is retold, with the session made for it. -/
theorem runHandler_retells (session : Option Session) (h : H) (reply : String)
    (handle : Handle) :
    d.Retells w session handle.values (runHandler w h reply handle)
      fun decided _ v => v = decided.2 := by
  refine (d.spawn_retells w session handle.values).bind ?_
  rintro made _ _ ⟨rfl, rfl⟩
  refine Retells.bind (p := fun after _ v => v = after.values) (.call fun world =>
    ⟨_, _, .branchCall ⟨world, some made, handle.values⟩ rfl rfl,
      fun after hafter => by rw [hafter]; rfl⟩) ?_
  rintro after _ _ rfl
  exact .pure rfl

/-- The callbacks for the end are retold, and leave the variables alone. -/
theorem tellAll_retells (session : Session) (told values : Values) (batch : List H) :
    d.Retells w (some session) values (tellAll w session told batch)
      fun _ _ v => v = values := by
  -- along the batch; no callback for the end hands anything back
  induction batch with
  | nil => exact .pure rfl
  | cons h rest ih =>
    refine Retells.bind (p := fun _ s v => s = some session ∧ v = values) (.call fun world =>
      ⟨_, _, .endCall ⟨world, some session, values⟩ rfl, fun _ _ => ⟨rfl, rfl⟩⟩) ?_
    rintro _ _ _ ⟨rfl, rfl⟩
    exact ih

/-- The end of a dialog is retold, whether or not it has callbacks. -/
theorem runEnd_retells (session : Option Session) (told values : Values) :
    d.Retells w session values (d.runEnd w told) fun _ _ v => v = values := by
  unfold runEnd
  cases d.hooks.ending with
  | nil => exact .pure rfl
  | cons h rest =>
    refine (d.spawn_retells w session values).bind ?_
    rintro made _ _ ⟨rfl, rfl⟩
    exact d.tellAll_retells w made told _ (h :: rest)

/-- To conclude a dialog is retold: the host ends it, and its callbacks are told. -/
theorem conclude_retells (session : Option Session) (reply : Option String)
    (told values : Values) :
    d.Retells w session values (d.conclude w reply told)
      fun report _ v => report = .complete told ∧ v = values := by
  refine Retells.bind (p := fun _ _ v => v = values) (.call fun world =>
    ⟨_, _, .finished ⟨world, session, values⟩ reply, fun _ _ => rfl⟩) ?_
  rintro _ session' _ rfl
  refine (d.runEnd_retells w session' told _).bind ?_
  rintro _ _ _ rfl
  exact .pure ⟨rfl, rfl⟩

/-- Sending a draft is retold: it leaves the variables alone. -/
theorem sendDraft_retells (session : Option Session) (draft : Draft) (shown values : Values) :
    d.Retells w session values (sendDraft w draft shown) fun _ _ v => v = values := by
  unfold sendDraft
  split
  · refine (Retells.render draft shown (p := fun _ _ v => v = values) fun _ => rfl).bind ?_
    rintro message _ _ rfl
    exact .call fun world => ⟨_, _, .sent ⟨world, _, _⟩ message, fun _ _ => rfl⟩
  · exact .pure rfl

/-- Asking is retold, also where the host refuses the prompt and gets a message. -/
theorem ask_retells (session : Option Session) (draft : Draft) (question : Position)
    (shown values : Values) :
    d.Retells w session values (d.ask w draft question shown) fun _ _ v => v = values := by
  refine (Retells.render draft shown (p := fun _ _ v => v = values) fun _ => rfl).bind ?_
  rintro message session' values rfl
  refine Retells.bind (p := fun _ _ v => v = values) (.attempt fun world =>
    ⟨_, _, .prompted ⟨world, session', values⟩ question d.settings.promptId message, rfl⟩) ?_
  rintro result session'' values rfl
  cases result with
  | ok _ => exact .pure rfl
  | error fault =>
    refine Retells.bind (p := fun _ _ v => v = values) (.call fun world =>
      ⟨_, _, .sent ⟨world, session'', values⟩ _, fun _ _ => rfl⟩) ?_
    rintro _ _ _ rfl
    exact .pure rfl

/-- Running a line is retold: it leaves the variables alone. -/
theorem runLine_retells (session : Option Session) (line : Line H) (step : Step)
    (shown values : Values) :
    d.Retells w session values (d.runLine w line step shown) fun _ _ v => v = values := by
  cases line with
  | question draft intake => exact d.ask_retells w session draft step.position shown values
  | message draft | action draft =>
    refine (d.sendDraft_retells w session draft shown values).bind ?_
    rintro _ _ _ rfl
    exact .pure rfl

/-- The line of a step is retold, whether its reply leads to it or elsewhere. -/
theorem lineRoute_retells (session : Option Session) (lines : List (Line H)) (step : Step)
    (working : Progress) (route : Route) (values : Values) :
    d.Retells w session values (d.lineRoute w lines step working route)
      fun _ _ v => v = values := by
  unfold lineRoute
  split
  · refine (d.runLine_retells w session _ step _ values).bind ?_
    rintro _ _ _ rfl
    exact .pure rfl
  · exact .pure rfl

/-- Entering a thread is retold: the progress has the variables its callbacks lead to. -/
theorem enter_retells (session : Option Session) (previous : String) (step : Step)
    (working : Progress) :
    d.Retells w session working.values (d.enter w previous step working)
      fun entered _ v => v = entered.1.values := by
  unfold enter
  split
  · refine (d.runEntry_retells w session step.position.thread (d.handle working step)).bind ?_
    rintro after _ _ rfl
    exact .pure rfl
  · exact .pure rfl

/-- **Taking a reply is retold**: it is put into its variable, the callbacks hand others back, and
those are saved. -/
theorem takeReply_retells (session : Option Session) {intake : Intake H} {question : Position}
    (hasked : d.script.question? question = some intake) (reply : String) (step : Step)
    (working : Progress) :
    d.Retells w session working.values (d.takeReply w intake question reply step working)
      fun taken _ v => v = taken.1.values := by
  cases hkey : intake.key with
  | none =>
    rw [d.takeReply_of_no_key w hkey]
    exact .pure rfl
  | some key =>
    rw [d.takeReply_of_key w hkey]
    refine Retells.bind (p := fun _ _ v => v = working.values.insert key
        (.string (d.joined working.values key reply intake.multiple)))
      (.note (fun world => .captured ⟨world, session, working.values⟩ hasked hkey reply) rfl) ?_
    -- the callbacks set out with the variables in which the reply stands
    rintro _ session' _ rfl
    refine (d.runChange_retells w session' key reply ⟨d.id, step.position, _⟩).bind ?_
    rintro after _ _ rfl
    refine (Retells.saveValues (p := fun _ _ v => v = after.values) rfl).bind ?_
    rintro _ _ _ rfl
    exact .pure rfl

/-- Choosing a branch is retold: only a callback of one changes the variables. -/
theorem branch_retells (session : Option Session) (intake : Intake H) (question : Position)
    (reply : String) (step : Step) (working : Progress) :
    d.Retells w session working.values (d.branch w intake question reply step working)
      fun chosen _ v => v = chosen.1.values := by
  refine Retells.bind (p := fun _ _ v => v = working.values)
    (.note (fun world => .offered ⟨world, session, working.values⟩ question reply) rfl) ?_
  rintro _ session' _ rfl
  -- no branch, one with a directive, or one with a callback
  split
  · exact .pure rfl
  · exact .pure rfl
  · refine (d.runHandler_retells w session' _ reply (d.handle working step)).bind ?_
    rintro decided _ _ rfl
    exact .pure rfl

/-- Answering is retold, for its question is one of the script. -/
theorem answerBefore_retells (session : Option Session) {lines : List (Line H)} {step : Step}
    (hthread : d.script.thread? step.position.thread = some lines) (working : Progress) :
    d.Retells w session working.values (d.answerBefore w lines step working)
      fun answered _ v => v = answered.1.values := by
  unfold answerBefore
  split
  · rename_i reply intake _ hquestion
    have hasked := Script.question?_of_before hthread hquestion
    refine (d.takeReply_retells w session hasked reply step working).bind ?_
    rintro ⟨taken, redirect⟩ session' _ rfl
    cases redirect with
    | some target => exact .pure rfl
    | none => exact d.branch_retells w session' _ _ _ step taken
  · exact .pure rfl

/-- What a route leaves of the variables: they stay, or it ends the dialog, and how is written
into one. -/
inductive RouteLeaves (values : Values) : Route → Progress × Move → Prop
  /-- They stay. -/
  | same {route : Route} {moved : Progress} {move : Move} (h : moved.values = values) :
      RouteLeaves values route (moved, move)
  /-- The dialog ends. -/
  | marked {ending : Ending} {moved : Progress}
      (h : moved.values = values.insert statusKey (.string ending.name)) :
      RouteLeaves values (.finish ending) (moved, .stop (.complete moved.values))

/-- Following a route is retold, but for the mark that an ending leaves. -/
theorem follow_retells (session : Option Session) (step : Step) (working : Progress)
    (route : Route) :
    d.Retells w session working.values (d.follow w step working route)
      fun moved _ v => RouteLeaves v route moved := by
  cases route with
  | onward =>
    refine Retells.bind (p := fun _ _ v => v = working.values) (.ofExcept step.next
      fun _ => rfl) ?_
    rintro _ _ _ rfl
    exact .pure (.same rfl)
  | restart | suspend | hold => exact .pure (.same rfl)
  | finish ending =>
    refine (d.conclude_retells w session step.reply _ working.values).bind ?_
    rintro _ _ _ ⟨rfl, rfl⟩
    exact .pure (.marked rfl)
  | handOver script thread =>
    refine Retells.bind (p := fun _ _ v => v = working.values) (.call fun world =>
      ⟨_, _, .handedOver ⟨world, session, working.values⟩ script _, fun _ _ => rfl⟩) ?_
    rintro _ _ _ rfl
    exact .pure (.same rfl)

/-! ## §4. Visits and loops. -/

/-- A directive that ends the dialog decides at a place, and how is written into a
variable. -/
inductive Marks (a : Place σ) (values : Values) : Values → Prop
  | intro {lines : List (Line H)} {directive : Directive} {ending : Ending}
      (hthread : d.script.thread? a.position.thread = some lines)
      (hin : a.position.index < lines.length) (hdecides : d.Decides lines a directive)
      (hending : directive.ending? = some ending) :
      Marks a values (values.insert statusKey (.string ending.name))

/-- The mark of an ending is the name of one, in the variable for the status. -/
theorem Marks.written {d : Dialog H} {a : Place σ} {values marked : Values}
    (h : d.Marks a values marked) :
    ∃ ending : Ending, marked = values.insert statusKey (.string ending.name) := by
  obtain @⟨_, _, ending, _, _, _, _⟩ := h
  exact ⟨ending, rfl⟩

/-- What a visit at a place leaves of the variables that its events lead to. -/
def VisitLeaves (a : Place σ) (moved : Progress × Move) (values : Values) : Prop :=
  moved.1.values = values
    ∨ d.Marks a values moved.1.values ∧ moved.2 = .stop (.complete moved.1.values)

/-- **A visit is retold by its events.** -/
theorem visitAt_retold (session : Option Session) {lines : List (Line H)} {a : Place σ}
    (hthread : d.script.thread? a.position.thread = some lines)
    (hin : a.position.index < lines.length) :
    d.Retold w session a.working.values (fun moved _ v => d.VisitLeaves a moved v) a.env
      (d.visitAt w lines a) := by
  have hvisiting := d.visitAt_visiting w lines a
  have henters : d.Retold w session a.working.values
      (fun entered _ v => v = entered.1.values) a.env (d.enterAt w a) :=
    d.enter_retells w session a.working.thread (d.stepOf a) (a.working.arrive a.position) a.env
  have hanswers := fun session entered =>
    d.answerBefore_retells w session (show d.script.thread? (d.stepOf a).position.thread
      = some lines from hthread) entered
  have hruns := fun session answered route =>
    d.lineRoute_retells w session lines (d.stepOf a) answered route answered.values
  generalize d.visitAt w lines a = o at hvisiting ⊢
  -- each part sets out with the variables that the one before it leaves
  cases hvisiting with
  | barred hentry =>
    rw [hentry] at henters
    exact henters.error.reached a.position
  | redirected hentry =>
    rw [hentry] at henters
    exact (henters.answer fun _ _ h => .inl h.symm).reached a.position
  | @unanswered entered env env' fault entry answering hentry hanswer =>
    rw [hentry] at henters
    refine Retold.reached (o := .after entry ⟨.error fault, env', answering⟩)
      (henters.after ?_) a.position
    rintro session₁ _ rfl
    have hanswered := hanswers session₁ entered env
    rw [hanswer] at hanswered
    exact hanswered.error
  | @unrun entered answered route env env' env'' fault entry answering running hentry hanswer
      hline =>
    rw [hentry] at henters
    refine Retold.reached (o := .after entry (.after answering ⟨.error fault, env'', running⟩))
      (henters.after ?_) a.position
    rintro session₁ _ rfl
    have hanswered := hanswers session₁ entered env
    rw [hanswer] at hanswered
    refine hanswered.after ?_
    rintro session₂ _ rfl
    have hran := hruns session₂ answered route env'
    rw [hline] at hran
    exact hran.error
  | @led entered answered route route' env env' env'' entry answering running hentry hanswer
      hline =>
    rw [hentry] at henters
    have hparts : ∀ o : Outcome σ H (Progress × Move),
        o.after (.reached a.position :: (entry ++ (answering ++ running)))
          = (((o.after running).after answering).after entry).after [.reached a.position] := by
      intro o
      simp only [Outcome.after_after, List.singleton_append]
    rw [hparts]
    refine (henters.after ?_).reached a.position
    rintro session₁ _ rfl
    have hanswered := hanswers session₁ entered env
    rw [hanswer] at hanswered
    refine hanswered.after ?_
    rintro session₂ _ rfl
    have hran := hruns session₂ answered route env'
    rw [hline] at hran
    refine hran.after ?_
    rintro session₃ _ rfl
    refine (d.follow_retells w session₃ (d.stepOf a) answered route' env'').mono ?_
    intro moved _ v _ hleaves
    cases hleaves with
    | same hsame => exact .inl hsame
    | @marked ending moved hmarked =>
      obtain ⟨directive, hdecides, hending⟩ := d.decides_of_finish w hin hanswer hline
      have hmarks : d.Marks a v moved.values := by
        rw [hmarked]
        exact .intro hthread hin hdecides hending
      exact .inr ⟨hmarks, rfl⟩

variable {d w} in
/-- On the way of a turn the events lead to the variables of the place it comes to. -/
theorem Leads.retold {n : Nat} {a b : Place σ} {events : List (Event H)}
    (h : d.Leads w n a events b) :
    ∀ session, d.Retold w session a.working.values (fun _ _ v => v = b.working.values) a.env
      (⟨.ok (), b.env, events⟩ : Outcome σ H Unit) := by
  induction h with
  | here a => exact fun session => ⟨⟨session, _, .nil _, fun _ _ => rfl⟩, .inl rfl⟩
  | @visit n a b lines moved target env events later hthread hin hvisit _ ih =>
    intro session
    have hretold := d.visitAt_retold w session hthread hin
    rw [hvisit] at hretold
    refine Retold.after (o := ⟨.ok (), b.env, later⟩) hretold ?_
    rintro session' _ (rfl | ⟨_, hstops⟩)
    · exact ih session'
    · cases hstops

/-- What a loop leaves at the place where it halts. -/
def HaltLeaves (left : Nat) (b : Place σ) (done : Progress × Report) (values : Values) : Prop :=
  done.1.values = values
    ∨ 0 < left ∧ d.Marks b values done.1.values ∧ done.2 = .complete done.1.values

variable {d w} in
/-- What a loop does where it halts is retold. -/
theorem Halts.retold {left : Nat} {b : Place σ} {o : Outcome σ H (Progress × Report)}
    (h : d.Halts w left b o) (session : Option Session) :
    d.Retold w session b.working.values (fun done _ v => d.HaltLeaves left b done v) b.env o := by
  -- no thread, past its end, out of steps, a visit that fails, or one that stops the turn
  cases h with
  | unknown => exact (Retells.fail _ : d.Retells w session _ _ _) b.env
  | ended _ _ _ _ hconclude =>
    subst hconclude
    refine (d.conclude_retells w session b.reply _ b.working.values).bind ?_ b.env
    rintro _ _ _ ⟨_, rfl⟩
    exact .pure (.inl rfl)
  | spent =>
    have hvalues : (cutOff b.working b.position).values = b.working.values := by
      unfold cutOff
      split <;> rfl
    exact (Retells.pure (.inl hvalues) : d.Retells w session _ _ _) b.env
  | failed _ _ hthread hin hvisit =>
    have hretold := d.visitAt_retold w session hthread hin
    rw [hvisit] at hretold
    exact hretold.error
  | stopped left _ hthread hin hvisit =>
    have hretold := d.visitAt_retold w session hthread hin
    rw [hvisit] at hretold
    refine hretold.answer ?_
    rintro _ v (hsame | ⟨hmarks, hstops⟩)
    · exact .inl hsame
    · exact .inr ⟨Nat.succ_pos left, hmarks, Move.stop.inj hstops⟩

/-- What a loop from a place leaves of the variables that its events lead to: they stay, or it
comes to a place where a directive that ends the dialog decides, and completes it there. -/
inductive LoopLeaves (budget : Nat) (a : Place σ) (done : Progress × Report) (values : Values) :
    Prop
  /-- They stay. -/
  | same (h : done.1.values = values)
  /-- The dialog ends. -/
  | marked {n : Nat} {b : Place σ} {way : List (Event H)} (hleads : d.Leads w n a way b)
      (hbudget : n < budget) (hmarks : d.Marks b values done.1.values)
      (hreport : done.2 = .complete done.1.values)

/-- **A loop is retold by its events.** -/
theorem loopAt_retold (session : Option Session) (budget : Nat) (a : Place σ) :
    d.Retold w session a.working.values (fun done _ v => d.LoopLeaves w budget a done v) a.env
      (d.loopAt w budget a) := by
  -- the way of the loop is retold first, then the place where it halts
  obtain ⟨n, left, b, events, o, hsum, hleads, hhalts, hloop⟩ := d.loopAt_course w budget a
  rw [hloop]
  refine (hleads.retold session).after ?_
  rintro session' _ rfl
  refine (hhalts.retold session').mono ?_
  rintro done _ v _ (hsame | ⟨hleft, hmarks, hreport⟩)
  · exact .same hsame
  · exact .marked hleads (by omega) hmarks hreport

end Dialog

end Parley
