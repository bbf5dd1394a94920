/-
  Parley.Proofs.Faults
  ────────────────────
  **WHAT CAN FAIL A CALL.**

  The engine asks the world for much and can be led astray by callbacks; of its
  own accord it does not fail.

    • `Act.Blames` — if an act fails, its last event is a call of the world that
      failed with the same fault; every part of a visit is such an act, so a
      step is never asked twice and no prompt is to blame,
    • `Redirects` — the last events are callbacks that hand a handle on from one
      position to another, as the world answers them where the turn stands then,
    • `visitAt_finds` — a visit goes on to a thread that exists, or is redirected
      by callbacks; directives never lead astray,
    • `serve_blame` — so every failure is one of four.

  Nothing is said of prompts, so a call succeeds whichever of them fail.
-/
import Parley.Proofs.Retelling
import Parley.Stage

namespace Parley

variable {σ H α β : Type}

/-! ## §1. Calls that fail. -/

/-- A call of the world fails with a fault and leaves the world in a state.  The
start of a prompt is no such call. -/
inductive World.Refuses (w : World σ H) : Event H → Fault → σ → Prop
  /-- A message is not delivered. -/
  | sent {message : Message} {s s' : σ} {fault : Fault}
      (h : w.send message s = (.error fault, s')) :
      World.Refuses w (.sent message false) fault s'
  /-- No session is made. -/
  | spawned {s s' : σ} {fault : Fault} (h : w.spawn s = (.error fault, s')) :
      World.Refuses w (.spawned false) fault s'
  /-- A callback for the entry of a thread fails. -/
  | entryCall {callback : H} {handle : Handle} {session : Session} {s s' : σ} {fault : Fault}
      (h : w.atEntry callback handle session s = (.error fault, s')) :
      World.Refuses w (.entryCall callback handle false) fault s'
  /-- A callback for a changed variable fails. -/
  | changeCall {callback : H} {reply : String} {handle : Handle} {session : Session} {s s' : σ}
      {fault : Fault} (h : w.atReply callback reply handle session s = (.error fault, s')) :
      World.Refuses w (.changeCall callback reply handle false) fault s'
  /-- The callback of a branch fails. -/
  | branchCall {callback : H} {reply : String} {handle : Handle} {session : Session} {s s' : σ}
      {fault : Fault} (h : w.atReply callback reply handle session s = (.error fault, s')) :
      World.Refuses w (.branchCall callback reply handle false) fault s'
  /-- A callback for the end fails. -/
  | endCall {callback : H} {values : Values} {session : Session} {s s' : σ} {fault : Fault}
      (h : w.atEnd callback values session s = (.error fault, s')) :
      World.Refuses w (.endCall callback values false) fault s'
  /-- The host does not end the dialog. -/
  | finished {result : Option String} {s s' : σ} {fault : Fault}
      (h : w.finish result s = (.error fault, s')) :
      World.Refuses w (.finished result false) fault s'
  /-- The host does not replace the dialog. -/
  | handedOver {script : String} {options : Values} {s s' : σ} {fault : Fault}
      (h : w.handOver script options s = (.error fault, s')) :
      World.Refuses w (.handedOver script options false) fault s'

/-- Whether an event shows a call that failed, other than the start of a prompt. -/
def Event.refused : Event H → Bool
  | .sent _ ok | .spawned ok | .entryCall _ _ ok | .changeCall _ _ _ ok
  | .branchCall _ _ _ ok | .endCall _ _ ok | .finished _ ok | .handedOver _ _ ok => !ok
  | .reached _ | .captured .. | .offered .. | .prompted .. => false

/-- The event of a call that failed shows it. -/
theorem World.Refuses.refused {w : World σ H} {e : Event H} {fault : Fault} {s : σ}
    (h : w.Refuses e fault s) : e.refused = true := by
  cases h <;> rfl

namespace Act

/-- If the act fails, its last event is a call of the world that failed with the
same fault. -/
def Blames (w : World σ H) (act : Act σ H α) : Prop :=
  ∀ env fault env' events, act env = ⟨.error fault, env', events⟩ →
    ∃ before e, events = before ++ [e] ∧ w.Refuses e fault env'.world

namespace Blames

variable {w : World σ H}

/-- An act that does not fail blames nobody. -/
theorem of_ok {act : Act σ H α} (h : ∀ env, ∃ a, (act env).result = .ok a) : Blames w act := by
  intro env fault env' events hfail
  obtain ⟨a, hok⟩ := h env
  rw [hfail] at hok
  cases hok

/-- An answer fails nowhere. -/
theorem answer (a : α) : Blames w (Act.answer a : Act σ H α) := of_ok fun _ => ⟨a, rfl⟩

theorem pure (a : α) : Blames w (Pure.pure a : Act σ H α) := answer a

/-- Nor does a note. -/
theorem note (event : Event H) : Blames w (Act.note event : Act σ H Unit) :=
  of_ok fun _ => ⟨(), rfl⟩

/-- Nor does saving the values. -/
theorem saveValues (values : Values) : Blames w (Act.saveValues values : Act σ H Unit) :=
  of_ok fun _ => ⟨(), rfl⟩

/-- Nor does a rendering: whatever a template holds, it shows something. -/
theorem render (draft : Draft) (values : Values) :
    Blames w (Act.render draft values : Act σ H Message) :=
  of_ok fun _ => ⟨_, rfl⟩

/-- What is only attempted does not fail. -/
theorem attempt (act : Act σ H α) : Blames w (Act.attempt act) := of_ok fun _ => ⟨_, rfl⟩

/-- A call on the world is itself to blame if it fails. -/
theorem call {event : Bool → Event H} {op : σ → Except Fault α × σ}
    (h : ∀ s fault s', op s = (.error fault, s') → w.Refuses (event false) fault s') :
    Blames w (Act.call event op) := by
  intro env fault env' events hfail
  rcases hop : op env.world with ⟨result, s'⟩
  unfold Act.call at hfail
  rw [hop] at hfail
  cases hfail
  exact ⟨[], event false, rfl, h env.world fault s' hop⟩

/-- **Blame composes**: a sequence fails in its first act or in its second, and each blames a
call. -/
theorem bind {act : Act σ H α} {next : α → Act σ H β} (hact : Blames w act)
    (hnext : ∀ a, Blames w (next a)) : Blames w (act >>= next) := by
  intro env fault env' events hfail
  rcases bind_cases act next env with
    ⟨fault', env₁, first, h, hseq⟩ | ⟨a, env₁, first, h, hseq⟩
  · rw [hseq] at hfail
    cases hfail
    exact hact env fault env' events h
  · rw [hseq] at hfail
    rcases hlast : next a env₁ with ⟨result, env₂, last⟩
    rw [hlast] at hfail
    cases hfail
    -- the call that failed is the last of the second act
    obtain ⟨before, e, rfl, hrefuses⟩ := hnext a env₁ fault _ last hlast
    exact ⟨first ++ before, e, (List.append_assoc first before [e]).symm, hrefuses⟩

end Blames

end Act

namespace Dialog

variable (d : Dialog H) (w : World σ H)

/-! ## §2. Every part of a visit fails by a call alone. -/

/-- Only the host can keep a session from being made. -/
theorem spawn_blames : Act.Blames w (spawn w) := .call fun _ _ _ h => .spawned h

/-- A batch fails in one of its callbacks. -/
theorem passAlong_blames {call : H → Handle → Act σ H Handle}
    (hcall : ∀ h handle, Act.Blames w (call h handle)) :
    ∀ (batch : List H) (handle : Handle), Act.Blames w (passAlong call batch handle) := by
  intro batch
  -- along the batch; the first callback that fails ends it
  induction batch with
  | nil => exact fun handle => .answer handle
  | cons h rest ih => exact fun handle => (hcall h handle).bind ih

/-- A batch fails in its session or in one of its callbacks. -/
theorem runBatch_blames {call : Session → H → Handle → Act σ H Handle}
    (hcall : ∀ session h handle, Act.Blames w (call session h handle)) (batch : List H)
    (handle : Handle) : Act.Blames w (runBatch w call batch handle) := by
  cases batch with
  | nil => exact .answer handle
  | cons h rest =>
    exact (spawn_blames w).bind fun session => passAlong_blames w (hcall session) _ handle

/-- The callbacks for the end fail one by one. -/
theorem tellAll_blames (session : Session) (values : Values) (batch : List H) :
    Act.Blames w (tellAll w session values batch) := by
  induction batch with
  | nil => exact .answer ()
  | cons h rest ih => exact (Act.Blames.call fun _ _ _ h => .endCall h).bind fun _ => ih

/-- To conclude a dialog fails at the host, or in a callback for the end. -/
theorem conclude_blames (result : Option String) (values : Values) :
    Act.Blames w (d.conclude w result values) := by
  refine (Act.Blames.call fun _ _ _ h => .finished h).bind fun _ => ?_
  refine Act.Blames.bind ?_ fun _ => .pure _
  unfold runEnd
  cases d.hooks.ending with
  | nil => exact .answer ()
  | cons h rest =>
    exact (spawn_blames w).bind fun session => tellAll_blames w session values (h :: rest)

/-- Entering a thread fails in its callbacks alone. -/
theorem enter_blames (previous : String) (step : Step) (working : Progress) :
    Act.Blames w (d.enter w previous step working) := by
  unfold enter
  split
  · refine Act.Blames.bind ?_ fun _ => .pure _
    exact runBatch_blames w (fun _ _ _ => .call fun _ _ _ h => .entryCall h) _ _
  · exact .answer _

/-- Taking a reply fails in the callbacks of its variable alone. -/
theorem takeReply_blames (intake : Intake H) (question : Position) (reply : String)
    (step : Step) (working : Progress) :
    Act.Blames w (d.takeReply w intake question reply step working) := by
  cases hkey : intake.key with
  | none =>
    rw [d.takeReply_of_no_key w hkey]
    exact .answer _
  | some key =>
    rw [d.takeReply_of_key w hkey]
    refine (Act.Blames.note _).bind fun _ => ?_
    refine (runBatch_blames w (fun _ _ _ => .call fun _ _ _ h => .changeCall h) _ _).bind ?_
    intro after
    exact (Act.Blames.saveValues _).bind fun _ => .pure _

/-- A branch fails in its callback alone. -/
theorem branch_blames (intake : Intake H) (question : Position) (reply : String) (step : Step)
    (working : Progress) : Act.Blames w (d.branch w intake question reply step working) := by
  refine (Act.Blames.note _).bind fun _ => ?_
  -- no branch, one with a directive, or one with a callback
  split
  · exact .pure _
  · exact .pure _
  · refine Act.Blames.bind ?_ fun _ => .pure _
    refine (spawn_blames w).bind fun session => ?_
    exact (Act.Blames.call fun _ _ _ h => .branchCall h).bind fun _ => .pure _

/-- Answering fails in a callback alone. -/
theorem answerBefore_blames (lines : List (Line H)) (step : Step) (working : Progress) :
    Act.Blames w (d.answerBefore w lines step working) := by
  unfold answerBefore
  split
  · refine (d.takeReply_blames w _ _ _ step working).bind ?_
    rintro ⟨taken, redirect⟩
    cases redirect with
    | some target => exact .pure _
    | none => exact d.branch_blames w _ _ _ step taken
  · exact .answer _

/-- Sending a draft fails at the host alone. -/
theorem sendDraft_blames (draft : Draft) (values : Values) :
    Act.Blames w (sendDraft w draft values) := by
  unfold sendDraft
  split
  · exact (Act.Blames.render draft values).bind fun _ => .call fun _ _ _ h => .sent h
  · exact .answer ()

/-- Asking fails only where the message fails that stands in for the prompt. -/
theorem ask_blames (draft : Draft) (question : Position) (values : Values) :
    Act.Blames w (d.ask w draft question values) := by
  refine (Act.Blames.render draft values).bind fun message => ?_
  -- a prompt that does not start is only an answer to the attempt
  refine (Act.Blames.attempt _).bind fun result => ?_
  cases result with
  | ok _ => exact .pure _
  | error fault => exact (Act.Blames.call fun _ _ _ h => .sent h).bind fun _ => .pure _

/-- A line fails at the host alone. -/
theorem lineRoute_blames (lines : List (Line H)) (step : Step) (working : Progress)
    (route : Route) : Act.Blames w (d.lineRoute w lines step working route) := by
  unfold lineRoute
  split
  · rename_i line _
    refine Act.Blames.bind ?_ fun _ => .pure _
    cases line with
    | question draft intake => exact d.ask_blames w draft step.position working.values
    | message draft => exact (sendDraft_blames w draft working.values).bind fun _ => .pure _
    | action draft directive =>
      exact (sendDraft_blames w draft working.values).bind fun _ => .pure _
  · exact .pure _

/-- A step that was not yet asked for the position after it can be followed along
every route. -/
theorem follow_blames {step : Step} (hfresh : step.continued = false) (working : Progress)
    (route : Route) : Act.Blames w (d.follow w step working route) := by
  cases route with
  | onward =>
    refine Act.Blames.bind (.of_ok fun _ => ?_) fun _ => .pure _
    -- a step is asked for the next position here for the first time
    unfold Step.next
    rw [if_neg (by simp [hfresh])]
    exact ⟨_, rfl⟩
  | restart target => exact .answer _
  | suspend => exact .answer _
  | hold => exact .answer _
  | finish ending => exact (d.conclude_blames w step.reply _).bind fun _ => .pure _
  | handOver script thread =>
    exact (Act.Blames.call fun _ _ _ h => .handedOver h).bind fun _ => .pure _

/-- **A visit fails by a call alone.** -/
theorem visit_blames (lines : List (Line H)) (position : Position) (cause : Cause)
    (reply : Option String) (working : Progress) :
    Act.Blames w (d.visit w lines position cause reply working) := by
  -- part by part, for blame composes
  rw [visit_eq]
  refine (Act.Blames.note _).bind fun _ => ?_
  refine (d.enter_blames w _ _ _).bind ?_
  rintro ⟨entered, redirect⟩
  cases redirect with
  | some target => exact .pure _
  | none =>
    refine (d.answerBefore_blames w lines _ entered).bind ?_
    rintro ⟨answered, route⟩
    refine (d.lineRoute_blames w lines _ answered route).bind ?_
    rintro ⟨led, route'⟩
    -- the visit has just made its step
    exact d.follow_blames w rfl led route'

end Dialog

/-! ## §3. Where callbacks lead. -/

/-- Where a turn stands, a callback gets a handle and hands one back. -/
inductive World.HandsBack (w : World σ H) (s : Standing σ) : Event H → Handle → Handle → Prop
  /-- One for the entry of a thread. -/
  | entryCall {callback : H} {given after : Handle} {session : Session} {s' : σ}
      (hsession : s.session = some session)
      (h : w.atEntry callback given session s.world = (.ok after, s')) :
      World.HandsBack w s (.entryCall callback given true) given after
  /-- One for a changed variable. -/
  | changeCall {callback : H} {reply : String} {given after : Handle} {session : Session}
      {s' : σ} (hsession : s.session = some session)
      (h : w.atReply callback reply given session s.world = (.ok after, s')) :
      World.HandsBack w s (.changeCall callback reply given true) given after
  /-- That of a branch. -/
  | branchCall {callback : H} {reply : String} {given after : Handle} {session : Session}
      {s' : σ} (hsession : s.session = some session)
      (h : w.atReply callback reply given session s.world = (.ok after, s')) :
      World.HandsBack w s (.branchCall callback reply given true) given after

/-- Where a turn stands that sets out at a place. -/
def Place.standing (a : Place σ) : Standing σ := ⟨a.env.world, none, a.working.values⟩

/-- A script has a thread where it has lines for the name, be they none. -/
theorem Script.hasThread_eq (s : Script H) (name : String) :
    s.hasThread name = (s.thread? name).isSome := rfl

namespace Dialog

variable (d : Dialog H) (w : World σ H)

/-- From where a turn stands, callbacks hand a handle on, each to the next, from one
position to another. -/
inductive Passes : Standing σ → Position → List (Event H) → Position → Prop
  /-- Without a callback it stays. -/
  | nil (s : Standing σ) (p : Position) : Passes s p [] p
  /-- A callback gets it there, and hands it on from where it then is. -/
  | cons {s t : Standing σ} {e : Event H} {rest : List (Event H)} {given after : Handle}
      {target : Position} (hhappens : d.Happens w s e t) (hfirst : w.HandsBack s e given after)
      (hrest : Passes t after.position rest target) : Passes s given.position (e :: rest) target

/-- The last events of a turn are callbacks that hand a handle on from one position to
another, from where the turn stands by then. -/
def Redirects (s : Standing σ) (here : Position) (events : List (Event H)) (target : Position) :
    Prop :=
  ∃ before calls t, events = before ++ calls ∧ d.Told w s before t
    ∧ d.Passes w t here calls target

/-- The thread of a position exists, or callbacks lead there. -/
def Finds (s : Standing σ) (here : Position) (events : List (Event H)) (target : Position) :
    Prop :=
  d.script.hasThread target.thread = true ∨ d.Redirects w s here events target

/-- A call that hands a handle back leaves the turn with the variables of that, and
passes it on. -/
def PassesOn (c : Calling σ H) : Prop :=
  ∀ ⦃h handle session world after world'⦄, c.op h handle session world = (.ok after, world') →
    d.Happens w ⟨world, some session, handle.values⟩ (c.event h handle true)
        ⟨world', some session, after.values⟩
      ∧ w.HandsBack ⟨world, some session, handle.values⟩ (c.event h handle true) handle after

/-- Callbacks for the entry of a thread pass the turn on. -/
theorem entering_passesOn : d.PassesOn w w.entering := by
  intro h handle session world after world' hcall
  have hop : w.atEntry h handle session world = (.ok after, world') := hcall
  have hhappens : d.Happens w ⟨world, some session, handle.values⟩ (.entryCall h handle _) _ :=
    .entryCall _ rfl rfl
  rw [hop] at hhappens
  exact ⟨hhappens, .entryCall rfl hop⟩

/-- So do those for a changed variable. -/
theorem changing_passesOn (reply : String) : d.PassesOn w (w.changing reply) := by
  intro h handle session world after world' hcall
  have hop : w.atReply h reply handle session world = (.ok after, world') := hcall
  have hhappens : d.Happens w ⟨world, some session, handle.values⟩
      (.changeCall h reply handle _) _ := .changeCall _ rfl rfl
  rw [hop] at hhappens
  exact ⟨hhappens, .changeCall rfl hop⟩

/-- So do those of branches. -/
theorem branching_passesOn (reply : String) : d.PassesOn w (w.branching reply) := by
  intro h handle session world after world' hcall
  have hop : w.atReply h reply handle session world = (.ok after, world') := hcall
  have hhappens : d.Happens w ⟨world, some session, handle.values⟩
      (.branchCall h reply handle _) _ := .branchCall _ rfl rfl
  rw [hop] at hhappens
  exact ⟨hhappens, .branchCall rfl hop⟩

variable {d w} {s t : Standing σ} {here target : Position} {first events : List (Event H)}

/-- Callbacks still lead there if more has happened before. -/
theorem Redirects.prepend (hfirst : d.Told w s first t) (h : d.Redirects w t here events target) :
    d.Redirects w s here (first ++ events) target := by
  obtain ⟨before, calls, u, rfl, htold, hpasses⟩ := h
  exact ⟨first ++ before, calls, u, (List.append_assoc first before calls).symm,
    hfirst.append htold, hpasses⟩

/-- A position is found as well if more has happened before. -/
theorem Finds.prepend (hfirst : d.Told w s first t) (h : d.Finds w t here events target) :
    d.Finds w s here (first ++ events) target :=
  h.imp_right (Redirects.prepend hfirst)

/-- A relay that succeeds hands its handle on to where that is at the end. -/
theorem PassesOn.passes {c : Calling σ H} (hc : d.PassesOn w c) {session : Session}
    {batch : List H} {handle after : Handle} {env env' : Env σ}
    (h : Relay c session batch handle env ⟨.ok after, env', events⟩) :
    d.Passes w ⟨env.world, some session, handle.values⟩ handle.position events
      after.position := by
  generalize ho : (⟨.ok after, env', events⟩ : Outcome σ H Handle) = o at h
  -- along the relay; a callback gets the handle, and stands where the one before left off
  induction h generalizing events with
  | done =>
    cases ho
    exact .nil _ _
  | failed => cases ho
  | passed hcall _ ih =>
    cases ho
    obtain ⟨hhappens, hback⟩ := hc hcall
    exact .cons hhappens hback (ih rfl)

/-- A batch that succeeds leads to where its handle is at the end. -/
theorem PassesOn.redirects {c : Calling σ H} (hc : d.PassesOn w c) (session : Option Session)
    {batch : List H} {handle after : Handle} {env env' : Env σ}
    (h : Batch w c batch handle env ⟨.ok after, env', events⟩) :
    d.Redirects w ⟨env.world, session, handle.values⟩ handle.position events after.position := by
  cases h with
  | empty => exact ⟨[], [], _, rfl, .nil _, .nil _ _⟩
  | relayed _ hspawn hrelay =>
    have hspawned := Happens.spawned (d := d) (w := w) ⟨env.world, session, handle.values⟩
    rw [hspawn] at hspawned
    exact ⟨[.spawned true], _, _, rfl, .single hspawned, hc.passes hrelay⟩

variable (d w)

/-- The entry of a thread leads elsewhere by its callbacks alone. -/
theorem enter_redirected (session : Option Session) {previous : String} {step : Step}
    {working entered : Progress} {env env' : Env σ}
    (h : d.enter w previous step working env = ⟨.ok (entered, some target), env', events⟩) :
    d.Redirects w ⟨env.world, session, working.values⟩ step.position events target := by
  unfold enter at h
  -- only where a thread is entered do its callbacks run
  split at h
  · have hbatch := d.runEntry_batch w step.position.thread (d.handle working step) env
    rcases hrun : d.runEntry w step.position.thread (d.handle working step) env with
      ⟨result, env'', calls⟩
    rw [hrun] at hbatch
    cases result with
    | error fault =>
      rw [Act.bind_of_error hrun] at h
      cases h
    | ok after =>
      rw [Act.bind_of_ok hrun] at h
      simp only [Act.pure_apply, Outcome.after, List.append_nil, Outcome.mk.injEq,
        Except.ok.injEq, Prod.mk.injEq] at h
      obtain ⟨⟨-, htarget⟩, -, rfl⟩ := h
      obtain ⟨rfl, _⟩ := Handle.of_redirect? htarget
      exact (d.entering_passesOn w).redirects session hbatch
  · cases h

/-- Taking a reply leads elsewhere by its callbacks alone. -/
theorem takeReply_redirected (session : Option Session) {intake : Intake H}
    {question : Position} (hasked : d.script.question? question = some intake) {reply : String}
    {step : Step} {working taken : Progress} {env env' : Env σ}
    (h : d.takeReply w intake question reply step working env
      = ⟨.ok (taken, some target), env', events⟩) :
    d.Redirects w ⟨env.world, session, working.values⟩ step.position events target := by
  cases hkey : intake.key with
  | none =>
    rw [d.takeReply_of_no_key w hkey] at h
    cases h
  | some key =>
    rcases hrun : d.replyBatch w step.position working.values intake key reply env with
      ⟨result, env'', calls⟩
    cases result with
    | error fault =>
      rw [d.takeReply_of_error w hkey hrun] at h
      cases h
    | ok after =>
      rw [d.takeReply_of_ok w hkey hrun] at h
      simp only [Outcome.mk.injEq, Except.ok.injEq, Prod.mk.injEq] at h
      obtain ⟨⟨-, htarget⟩, -, rfl⟩ := h
      obtain ⟨rfl, _⟩ := Handle.of_redirect? htarget
      -- the reply is in the variable before the callbacks run
      have hcaptured := Happens.captured (w := w) ⟨env.world, session, working.values⟩ hasked hkey
        reply
      exact ((d.changing_passesOn w reply).redirects session ((batch_iff w).mpr hrun)).prepend
        (.single hcaptured)

/-- **A directive leads to a thread that exists**, if it stands in one. -/
theorem hasThread_of_route {directive : Directive} {here target : Position}
    (hhere : d.script.hasThread here.thread = true)
    (h : directive.route d.script here = .restart target) :
    d.script.hasThread target.thread = true := by
  cases directive with
  | again =>
    cases h
    exact hhere
  | jump thread =>
    -- a jump is checked against the script before it is obeyed
    simp only [Directive.route] at h
    split at h
    · rename_i hexists
      cases h
      exact hexists
    · cases h
  | _ => cases h

/-- A branch goes on elsewhere by a directive, or by its callback. -/
theorem branch_finds (session : Option Session) {intake : Intake H} {question : Position}
    {reply : String} {step : Step} (hhere : d.script.hasThread step.position.thread = true)
    {working chosen : Progress} {env env' : Env σ}
    (h : d.branch w intake question reply step working env
      = ⟨.ok (chosen, .restart target), env', events⟩) :
    d.Finds w ⟨env.world, session, working.values⟩ step.position events target := by
  -- no branch leads on, a directive leads to a thread, a callback where it moves its handle
  cases hselect : intake.select? reply with
  | none =>
    rw [d.branch_of_unmatched w hselect] at h
    cases h
  | some selected =>
    cases horder : selected.consequence with
    | directive directive =>
      rw [d.branch_of_directive w hselect horder] at h
      simp only [Outcome.mk.injEq, Except.ok.injEq, Prod.mk.injEq] at h
      exact .inl (d.hasThread_of_route hhere h.1.2)
    | handler callback =>
      rcases hrun : runBatch w (w.branching reply).call [callback] (d.handle working step) env
        with ⟨result, env'', calls⟩
      cases result with
      | error fault =>
        rw [d.branch_of_error w hselect horder hrun] at h
        cases h
      | ok after =>
        rw [d.branch_of_ok w hselect horder hrun] at h
        simp only [Outcome.mk.injEq, Except.ok.injEq, Prod.mk.injEq] at h
        obtain ⟨⟨-, hroute⟩, -, rfl⟩ := h
        obtain ⟨rfl, _⟩ := Handle.of_redirect? (Handle.of_routeFrom hroute)
        have hoffered := Happens.offered (d := d) (w := w)
          ⟨env.world, session, working.values⟩ question reply
        exact .inr (((d.branching_passesOn w reply).redirects session
          ((batch_iff w).mpr hrun)).prepend (.single hoffered))

/-- A reply goes on elsewhere by a directive, or by callbacks. -/
theorem answerBefore_finds (session : Option Session) {lines : List (Line H)} {step : Step}
    (hthread : d.script.thread? step.position.thread = some lines)
    {working answered : Progress} {env env' : Env σ}
    (h : d.answerBefore w lines step working env
      = ⟨.ok (answered, .restart target), env', events⟩) :
    d.Finds w ⟨env.world, session, working.values⟩ step.position events target := by
  have hhere : d.script.hasThread step.position.thread = true := by
    rw [Script.hasThread_eq, hthread]
    rfl
  cases hreply : step.reply with
  | none =>
    rw [d.answerBefore_of_no_reply w hreply] at h
    cases h
  | some reply =>
    cases hquestion : questionBefore? lines step.position.index with
    | none =>
      rw [d.answerBefore_of_no_question w hquestion] at h
      cases h
    | some intake =>
      have hasked := Script.question?_of_before hthread hquestion
      rw [d.answerBefore_of_reply w hreply hquestion] at h
      have hretold := d.takeReply_retells w session hasked reply step working env
      rcases htake : d.takeReply w intake { step.position with index := step.position.index - 1 }
        reply step working env with ⟨result, env'', taking⟩
      cases result with
      | error fault =>
        rw [Act.bind_of_error htake] at h
        cases h
      | ok taken =>
        obtain ⟨taken, redirect⟩ := taken
        rw [Act.bind_of_ok htake] at h
        cases redirect with
        | some moved =>
          simp only [afterTaking, Act.pure_apply, Outcome.after, List.append_nil,
            Outcome.mk.injEq, Except.ok.injEq, Prod.mk.injEq, Route.restart.injEq] at h
          obtain ⟨⟨-, rfl⟩, -, rfl⟩ := h
          exact .inr (d.takeReply_redirected w session hasked htake)
        | none =>
          -- the branch sets out with what taking the reply left
          rw [htake] at hretold
          obtain ⟨session', values', htold, hvalues⟩ := hretold.told
          cases hvalues _ rfl
          change (d.branch w intake _ reply step taken env'').after taking = _ at h
          rcases hbranch : d.branch w intake
            { step.position with index := step.position.index - 1 } reply step taken env'' with
            ⟨result, env₃, choosing⟩
          rw [hbranch] at h
          simp only [Outcome.after, Outcome.mk.injEq] at h
          obtain ⟨rfl, -, rfl⟩ := h
          exact (d.branch_finds w session' hhere hbranch).prepend htold

/-! ## §4. Where visits go on. -/

variable {d w} in
/-- A route goes on only to the next line, or to where it says, and brings nothing. -/
theorem Following.goes_on {a : Place σ} {working moved : Progress} {route : Route}
    {env env' : Env σ} {target : Position} {events : List (Event H)}
    (h : d.Following w a working env route ⟨.ok (moved, .goOn target), env', events⟩) :
    events = [] ∧ (target.thread = a.position.thread ∨ route = .restart target) := by
  cases h with
  | onward => exact ⟨rfl, .inl rfl⟩
  | restart target => exact ⟨rfl, .inr rfl⟩
  | @finish ending values _ _ hconclude =>
    -- the end of the dialog stops the turn
    have hstops : Act.Yields (fun moved : Progress × Move => ∀ target, moved.2 ≠ .goOn target)
        (d.conclude w (d.stepOf a).reply values >>= fun report =>
          pure ({ working with values }, .stop report)) :=
      .seq fun _ => .pure fun target h => by cases h
    exact absurd rfl (hstops env (moved, .goOn target) (by rw [hconclude]) target)

variable {w} in
/-- **A visit goes on to a thread that exists, or is redirected by callbacks.** -/
theorem visitAt_finds (session : Option Session) {lines : List (Line H)} {a : Place σ}
    {moved : Progress} {target : Position} {env : Env σ} {events : List (Event H)}
    (hthread : d.script.thread? a.position.thread = some lines)
    (hin : a.position.index < lines.length)
    (h : d.visitAt w lines a = ⟨.ok (moved, .goOn target), env, events⟩) :
    d.Finds w ⟨a.env.world, session, a.working.values⟩ a.position events target := by
  have hhere : d.script.hasThread a.position.thread = true := by
    rw [Script.hasThread_eq, hthread]
    rfl
  have hreached := Told.single
    (Happens.reached (d := d) (w := w) ⟨a.env.world, session, a.working.values⟩ a.position)
  have henters := d.enter_retells w session a.working.thread (d.stepOf a)
    (a.working.arrive a.position) a.env
  have hvisiting := d.visitAt_visiting w lines a
  rw [h] at hvisiting
  generalize ho : (⟨.ok (moved, .goOn target), env, events⟩ : Outcome σ H (Progress × Move)) = o
    at hvisiting
  -- of the ways a visit can go, two go on: a redirect at its entry, and a route
  cases hvisiting with
  | barred => cases ho
  | unanswered => cases ho
  | unrun => cases ho
  | redirected hentry =>
    cases ho
    exact .inr (Redirects.prepend hreached (d.enter_redirected w session hentry))
  | @led entered answered route route' env₁ env₂ env₃ entry answering running hentry hanswer
      hline =>
    have hfollowing := d.follow_following w a answered route' env₃
    rcases hfollow : d.follow w (d.stepOf a) answered route' env₃ with ⟨result, env₄, following⟩
    rw [hfollow] at ho hfollowing
    cases ho
    obtain ⟨rfl, hsame | rfl⟩ := hfollowing.goes_on
    · exact .inl (hsame ▸ hhere)
    · rcases d.lineRoute_cases hin hline with ⟨_, rfl, rfl⟩ | ⟨_, hran⟩
      · -- the reply leads there, with what the entry left
        change d.Retold w session a.working.values _ a.env (d.enterAt w a) at henters
        rw [hentry] at henters
        obtain ⟨session', values', htold, hvalues⟩ := henters.told
        cases hvalues _ rfl
        have hfinds := d.answerBefore_finds w session' (show d.script.thread?
          (d.stepOf a).position.thread = some lines from hthread) hanswer
        rw [List.append_nil, List.append_nil]
        exact Finds.prepend hreached (Finds.prepend htold hfinds)
      · generalize hroute : Route.restart target = route' at hran
        cases hran with
        | asked => cases hroute
        | unasked => cases hroute
        | told => cases hroute
        | ordered => exact .inl (d.hasThread_of_route hhere hroute.symm)

variable {d w} in
/-- Visits lead to a thread that exists, or callbacks redirect the last of them, or
there is none. -/
theorem Leads.finds {n : Nat} {a b : Place σ} {events : List (Event H)}
    (h : d.Leads w n a events b) :
    ∀ session, (b = a ∧ events = []) ∨ ∃ here, d.script.hasThread here.thread = true
      ∧ d.Finds w ⟨a.env.world, session, a.working.values⟩ here events b.position := by
  induction h with
  | here a => exact fun _ => .inl ⟨rfl, rfl⟩
  | @visit n a b lines moved target env events later hthread hin hvisit _ ih =>
    intro session
    refine .inr ?_
    -- the visits after this one set out with what it left
    have hretold := d.visitAt_retold w session hthread hin
    rw [hvisit] at hretold
    obtain ⟨session', values', htold, hleaves⟩ := hretold.told
    have hvalues : moved.values = values' := by
      rcases hleaves _ rfl with hvalues | ⟨_, hstops⟩
      · exact hvalues
      · cases hstops
    rcases ih session' with ⟨rfl, rfl⟩ | ⟨here, hhere, hfinds⟩
    · have hhere : d.script.hasThread a.position.thread = true := by
        rw [Script.hasThread_eq, hthread]
        rfl
      rw [List.append_nil]
      exact ⟨a.position, hhere, d.visitAt_finds session hthread hin hvisit⟩
    · change d.Finds w ⟨env.world, session', moved.values⟩ here later b.position at hfinds
      rw [hvalues] at hfinds
      exact ⟨here, hhere, hfinds.prepend htold⟩

/-! ## §5. What a failure comes from. -/

/-- What a call that fails comes from. -/
inductive Blame (call : Call) (env : Env σ) : Outcome σ H Report → Prop
  /-- Options were given that are no object. -/
  | payload {payload : Json} (hcall : call = .beginWith payload)
      (hpayload : payload.table? = none) :
      Blame call env ⟨.error (.payload "dialog options must be a JSON object"), env, []⟩
  /-- There is no thread where the call sets out. -/
  | start {a : Place σ} (hsets : d.outset call env = some a)
      (hthread : d.script.hasThread a.position.thread = false) :
      Blame call env ⟨.error (.unknownThread a.position.thread), a.env, []⟩
  /-- Callbacks lead from a thread that exists to one that does not. -/
  | redirect {a : Place σ} {here target : Position} {env' : Env σ} {events : List (Event H)}
      (hsets : d.outset call env = some a) (hhere : d.script.hasThread here.thread = true)
      (hredirects : d.Redirects w a.standing here events target)
      (hthread : d.script.hasThread target.thread = false) :
      Blame call env ⟨.error (.unknownThread target.thread), env', events⟩
  /-- A callback or the host fails, but for prompts. -/
  | refused {fault : Fault} {env' : Env σ} {before : List (Event H)} {e : Event H}
      (hrefuses : w.Refuses e fault env'.world) :
      Blame call env ⟨.error fault, env', before ++ [e]⟩

/-- A call fails without a turn only on options that are no object. -/
theorem beginWith_of_task {call : Call} {saved : Progress} {fault : Fault}
    (h : call.task saved = .nothing (.error fault)) :
    ∃ payload, call = .beginWith payload ∧ payload.table? = none
      ∧ fault = .payload "dialog options must be a JSON object" := by
  rcases Call.task_nothing h with ⟨payload, hcall, hpayload, hfault⟩ | ⟨_, _, _, hresult⟩
  · exact ⟨payload, hcall, hpayload, Except.error.inj hfault⟩
  · cases hresult

variable {d w} in
/-- What fails by a call alone, after other events. -/
theorem Blame.of_blames {call : Call} {env env₁ env₂ : Env σ} {act : Act σ H α} {fault : Fault}
    {last : List (Event H)} (hact : Act.Blames w act) (h : act env₁ = ⟨.error fault, env₂, last⟩)
    (events : List (Event H)) : d.Blame w call env ⟨.error fault, env₂, events ++ last⟩ := by
  obtain ⟨before, e, rfl, hrefuses⟩ := hact env₁ fault env₂ last h
  rw [← List.append_assoc]
  exact .refused hrefuses

variable {d w} in
/-- A loop that fails where it halts, after visits that led there. -/
theorem Halts.blame {call : Call} {env env' : Env σ} {start b : Place σ} {n left : Nat}
    {events last : List (Event H)} {fault : Fault} (hsets : d.outset call env = some start)
    (hleads : d.Leads w n start events b) (h : d.Halts w left b ⟨.error fault, env', last⟩) :
    d.Blame w call env ⟨.error fault, env', events ++ last⟩ := by
  generalize ho : (⟨.error fault, env', last⟩ : Outcome σ H (Progress × Report)) = o at h
  cases h with
  | unknown _ _ hthread =>
    cases ho
    have hmissing : d.script.hasThread b.position.thread = false := by
      rw [Script.hasThread_eq, hthread]
      rfl
    rw [List.append_nil]
    -- no directive leads to a thread that is missing
    rcases hleads.finds none with ⟨rfl, rfl⟩ | ⟨here, hhere, hexists | hredirects⟩
    · exact .start hsets hmissing
    · rw [hmissing] at hexists
      cases hexists
    · exact .redirect hsets hhere hredirects hmissing
  | ended _ _ _ _ hconclude =>
    subst ho
    exact .of_blames ((d.conclude_blames w b.reply b.working.values).bind fun _ => .pure _)
      hconclude events
  | spent => cases ho
  | stopped => cases ho
  | @failed left _ lines _ _ _ hthread hin hvisit =>
    cases ho
    exact .of_blames (d.visit_blames w lines b.position b.cause b.reply b.working) hvisit events

/-- **Every failure of a call is to blame on its options, on where it sets out, on
callbacks that lead to no thread, or on a callback or the host that fails.** -/
theorem serve_blame {call : Call} {env : Env σ} {fault : Fault}
    (h : (d.serve w call env).result = .error fault) :
    d.Blame w call env (d.serve w call env) := by
  cases hsets : d.outset call env with
  | none =>
    -- without a turn there can only be a payload to blame
    cases htask : call.task env.saved with
    | begin options =>
      rw [d.outset_of_begin htask] at hsets
      cases hsets
    | turn cause reply =>
      rw [d.outset_of_turn htask] at hsets
      cases hsets
    | nothing result =>
      rw [d.serve_of_nothing w htask] at h ⊢
      cases h
      obtain ⟨payload, hcall, hpayload, rfl⟩ := beginWith_of_task htask
      exact .payload hcall hpayload
  | some a =>
    rw [d.serve_of_outset w hsets] at h ⊢
    obtain ⟨n, left, b, events, o, _, hleads, hhalts, hloop⟩ :=
      d.loopAt_course w d.settings.maxSteps a
    rw [hloop] at h ⊢
    rcases o with ⟨result, env', last⟩
    cases result with
    | error fault' => exact hhalts.blame hsets hleads
    | ok done => cases h

/-! ## §6. Calls that nothing hinders. -/

/-- In the events of a turn, from where it stands, no callback fails, and no call on the
host but for prompts; a callback that moves its handle moves it to a thread of the
script. -/
structure Unhindered (s : Standing σ) (events : List (Event H)) : Prop where
  /-- Nothing fails but prompts. -/
  served : ∀ e ∈ events, e.refused = false
  /-- What a callback hands back, where the turn stands when it is called, leads to a thread
  that exists. -/
  led : ∀ before e after t given back, events = before ++ e :: after → d.Told w s before t →
    w.HandsBack t e given back → back.position ≠ given.position →
    d.script.hasThread back.position.thread = true

variable {d w} in
/-- What happens after some events of an unhindered turn is unhindered. -/
theorem Unhindered.of_append {s t : Standing σ} {before events : List (Event H)}
    (h : d.Unhindered w s (before ++ events)) (htold : d.Told w s before t) :
    d.Unhindered w t events := by
  refine ⟨fun e he => h.served e (List.mem_append_right before he), ?_⟩
  intro first e after u given back hevents hfirst hback hmoved
  refine h.led (before ++ first) e after u given back ?_ (htold.append hfirst) hback hmoved
  rw [hevents, List.append_assoc]

variable {d w} in
/-- Callbacks that lead to threads that exist hand a handle on to one. -/
theorem Unhindered.hasThread_of_passes {s : Standing σ} {here target : Position}
    {calls : List (Event H)} (hfree : d.Unhindered w s calls)
    (hhere : d.script.hasThread here.thread = true) (h : d.Passes w s here calls target) :
    d.script.hasThread target.thread = true := by
  induction h with
  | nil => exact hhere
  | @cons s t e rest given after target hhappens hfirst _ ih =>
    refine ih (Unhindered.of_append (show d.Unhindered w s ([e] ++ rest) from hfree)
      (.single hhappens)) ?_
    by_cases hsame : after.position = given.position
    · rw [hsame]
      exact hhere
    · exact hfree.led [] e rest s given after rfl (.nil s) hfirst hsame

variable {d w} in
/-- **What nothing hinders fails only at its options, or where it sets out.** -/
theorem Blame.of_unhindered {call : Call} {env : Env σ} {o : Outcome σ H Report} {a : Place σ}
    (hsets : d.outset call env = some a) (h : d.Blame w call env o)
    (hfree : d.Unhindered w a.standing o.events) :
    (∃ payload, call = .beginWith payload) ∨ d.script.hasThread a.position.thread = false := by
  cases h with
  | payload hcall _ => exact .inl ⟨_, hcall⟩
  | start hsets' hthread =>
    rw [hsets] at hsets'
    cases hsets'
    exact .inr hthread
  | redirect hsets' hhere hredirects hthread =>
    rw [hsets] at hsets'
    cases hsets'
    obtain ⟨before, calls, t, rfl, htold, hpasses⟩ := hredirects
    have hexists := (hfree.of_append htold).hasThread_of_passes hhere hpasses
    rw [hthread] at hexists
    cases hexists
  | @refused fault env' before e hrefuses =>
    have hserved := hfree.served e (List.mem_append_right before List.mem_cons_self)
    rw [hrefuses.refused] at hserved
    cases hserved

/-- A call that sets out at a thread that does not exist fails. -/
theorem serve_of_missing {call : Call} {env : Env σ} {a : Place σ}
    (hsets : d.outset call env = some a)
    (hthread : d.script.hasThread a.position.thread = false) :
    (d.serve w call env).result = .error (.unknownThread a.position.thread) := by
  have hnone : d.script.thread? a.position.thread = none := by
    rw [Script.hasThread_eq] at hthread
    simpa using hthread
  rw [d.serve_of_outset w hsets, Outcome.commit_result]
  unfold loopAt
  rw [d.resolve_of_unknown w hnone]
  rfl

variable {w} in
/-- A call that sets out at a thread and is not hindered succeeds. -/
theorem serve_of_unhindered {call : Call} {env : Env σ} {a : Place σ}
    (hsets : d.outset call env = some a)
    (hthread : d.script.hasThread a.position.thread = true)
    (hcall : ∀ payload, call ≠ .beginWith payload)
    (hfree : d.Unhindered w a.standing (d.serve w call env).events) :
    ∃ report, (d.serve w call env).result = .ok report := by
  cases hresult : (d.serve w call env).result with
  | ok report => exact ⟨report, rfl⟩
  | error fault =>
    rcases (d.serve_blame w hresult).of_unhindered hsets hfree with
      ⟨payload, hpayload⟩ | hmissing
    · exact absurd hpayload (hcall payload)
    · rw [hthread] at hmissing
      cases hmissing

/-- **Only callbacks, the host and a start that does not exist fail a call.**  Every
failure is blamed, and neither a step that is asked twice nor a prompt nor the
jump of a directive is ever to blame.  A dialog that stands in a thread goes on
with success, and one begins with success exactly if its thread exists, as long as
nothing but prompts fails and callbacks lead to threads of the script, whatever
jumps that has. -/
theorem failures_blamed :
    (∀ call env fault, (d.serve w call env).result = .error fault →
        d.Blame w call env (d.serve w call env))
      ∧ (∀ cause reply env, env.saved.isStarted = true →
        d.script.hasThread env.saved.thread = true →
        d.Unhindered w ⟨env.world, none, env.saved.values⟩ (d.resume w cause reply env).events →
        ∃ report, (d.resume w cause reply env).result = .ok report)
      ∧ ∀ options env, d.Unhindered w ⟨env.world, none, options⟩ (d.begin w options env).events →
        ((∃ report, (d.begin w options env).result = .ok report)
          ↔ d.script.hasThread (d.startThread options) = true) := by
  refine ⟨fun call env fault => d.serve_blame w, ?resume, ?begin⟩
  case resume =>
    intro cause reply env hstarted hthread hfree
    have htask : (Call.resume cause reply).task env.saved = .turn cause reply := by
      simp only [Call.task, Progress.resumeTask, hstarted, if_true]
    exact d.serve_of_unhindered (d.outset_of_turn htask) hthread
      (fun payload h => by cases h) hfree
  case begin =>
    intro options env hfree
    have hsets := d.outset_of_begin (show (Call.begin options).task env.saved = .begin options
      from rfl)
    -- a begin that succeeds has found its thread; one that finds it is not hindered
    constructor
    · rintro ⟨report, hreport⟩
      cases hthread : d.script.hasThread (d.startThread options) with
      | true => rfl
      | false =>
        have hfails : (d.begin w options env).result = .error (.unknownThread _) :=
          d.serve_of_missing w hsets hthread
        rw [hreport] at hfails
        cases hfails
    · intro hthread
      exact d.serve_of_unhindered hsets hthread (fun payload h => by cases h) hfree

/-- A dialog with a prompt that nobody registers, a jump to a thread that does not
exist, and a callback that leads elsewhere. -/
def detourDialog : Dialog Routine where
  id := "detour"
  script := ((((Script.empty.ask {} (.handled "guess" [])).addAction "default" {}
    (.jump "nowhere")).addAction "default" {} (.jump "a")).addMessage "a" {}).addMessage "b" {}
  hooks := Hooks.none.onEntry "a" [.goto "b"]

/-- The dialog is about to run its first line again. -/
def detourEnv : Env Stage :=
  ⟨Stage.new "c", ⟨[], 0⟩, { thread := "default", replay := true }⟩

/-- What happens when the dialog begins, and when it goes on. -/
def detourEvents : List (Event Routine) :=
  [.reached ⟨"default", 0⟩, .prompted ⟨"default", 0⟩ detourDialog.settings.promptId {} false,
    .sent (.ofText detourDialog.settings.failureText) true, .reached ⟨"default", 1⟩,
    .reached ⟨"default", 2⟩, .reached ⟨"a", 0⟩, .spawned true,
    .entryCall [.goto "b"] ⟨"detour", ⟨"a", 0⟩, .empty⟩ true, .reached ⟨"b", 0⟩,
    .finished none true]

/-- That dialog goes on and begins with success, though its prompt is refused and its jump leads
nowhere; options that are no object fail. -/
theorem detourDialog_succeeds :
    (detourDialog.resume Stage.world .continued none detourEnv).events = detourEvents
      ∧ (∃ report,
        (detourDialog.resume Stage.world .continued none detourEnv).result = .ok report)
      ∧ (∃ report, (detourDialog.begin Stage.world .empty detourEnv).result = .ok report)
      ∧ detourDialog.Blame Stage.world (.beginWith .null) detourEnv
        (detourDialog.serve Stage.world (.beginWith .null) detourEnv) := by
  have hresume : (detourDialog.resume Stage.world .continued none detourEnv).events = detourEvents :=
    rfl
  have hbegin : (detourDialog.begin Stage.world .empty detourEnv).events = detourEvents := rfl
  have hfree : ∀ s, detourDialog.Unhindered Stage.world s detourEvents := by
    refine fun s => ⟨by simp [detourEvents, Event.refused], ?_⟩
    intro before e after t given back hevents _ hback _
    have he : e ∈ detourEvents := by
      rw [hevents]
      simp
    -- the one callback leads to a thread that exists
    cases hback with
    | entryCall _ h =>
      obtain ⟨rfl, rfl⟩ : _ ∧ _ := by simpa [detourEvents] using he
      cases h
      rfl
    | changeCall => simp [detourEvents] at he
    | branchCall => simp [detourEvents] at he
  obtain ⟨hblamed, hgoes, hbegins⟩ := detourDialog.failures_blamed Stage.world
  refine ⟨hresume, hgoes .continued none detourEnv rfl rfl (hresume ▸ hfree _), ?_, ?_⟩
  · exact (hbegins .empty detourEnv (hbegin ▸ hfree _)).mpr rfl
  · exact hblamed (.beginWith .null) detourEnv _ rfl

end Dialog

end Parley
