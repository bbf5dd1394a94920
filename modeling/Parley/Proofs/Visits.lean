/-
  Parley.Proofs.Visits
  ────────────────────
  **WHERE THE PARTS OF A VISIT LEAD.**

  A visit is made of a few parts (`Visiting`).  What each can come to is said
  once, as a relation with one constructor for every way it can go:

    • `Answered` — the route that a reply leads along,
    • `Ran` — the route that a line leads along, and what it brings,
    • `Following` — what a route comes to.

  Callbacks may hand back any handle.  `World.RedirectsTo` names the positions
  that they lead to.
-/
import Parley.Proofs.Asking
import Parley.Proofs.Course

namespace Parley

variable {σ H α : Type}

/-! ## §1. Where callbacks lead. -/

/-- The callbacks hand a handle back where they got it, or at a position with
the property. -/
structure World.RedirectsTo (w : World σ H) (led : Position → Prop) : Prop where
  /-- Those for the entry of a thread do. -/
  atEntry : ∀ {h handle session s after s'},
    w.atEntry h handle session s = (.ok after, s') →
      after.position = handle.position ∨ led after.position
  /-- Those about a reply do. -/
  atReply : ∀ {h reply handle session s after s'},
    w.atReply h reply handle session s = (.ok after, s') →
      after.position = handle.position ∨ led after.position

/-- Of any position nothing is claimed, so every world redirects to such. -/
theorem World.redirectsTo_any (w : World σ H) : w.RedirectsTo fun _ => True :=
  ⟨fun _ => .inr trivial, fun _ => .inr trivial⟩

/-- Where callbacks lead may be described more loosely. -/
theorem World.RedirectsTo.mono {w : World σ H} {led led' : Position → Prop}
    (h : w.RedirectsTo led) (hled : ∀ p, led p → led' p) : w.RedirectsTo led' :=
  ⟨fun hafter => (h.atEntry hafter).imp_right (hled _),
    fun hafter => (h.atReply hafter).imp_right (hled _)⟩

namespace Act

/-- Whatever a call answers has the property, if every answer of the world does. -/
theorem Yields.call {p : α → Prop} {event : Bool → Event H} {op : σ → Except Fault α × σ}
    (h : ∀ s a s', op s = (.ok a, s') → p a) : Yields p (Act.call event op) := by
  intro env a ha
  rcases hop : op env.world with ⟨result, s'⟩
  unfold Act.call at ha
  rw [hop] at ha
  exact h env.world a s' (by rw [hop]; exact congrArg (·, s') ha)

/-- What an act yields may be described more loosely. -/
theorem Yields.mono {p q : α → Prop} {act : Act σ H α} (h : Yields p act)
    (hpq : ∀ a, p a → q a) : Yields q act :=
  fun env a ha => hpq a (h env a ha)

end Act

namespace Dialog

variable (d : Dialog H) (w : World σ H) {led : Position → Prop}

/-- **A batch leads where one of its callbacks does**, or nowhere. -/
theorem passAlong_redirects {call : H → Handle → Act σ H Handle}
    (hcall : ∀ h handle, Act.Yields
      (fun after => after.position = handle.position ∨ led after.position) (call h handle)) :
    ∀ (batch : List H) (handle : Handle), Act.Yields
      (fun after => after.position = handle.position ∨ led after.position)
      (passAlong call batch handle) := by
  intro batch
  -- along the batch; the last callback that moves the handle decides
  induction batch with
  | nil => exact fun handle => .answer (.inl rfl)
  | cons h rest ih =>
    intro handle
    refine (hcall h handle).bind ?_
    intro after hafter
    refine (ih after).mono ?_
    rintro last (hsame | hled)
    · rw [hsame]
      exact hafter
    · exact .inr hled

/-- The same of a batch with the session made for it. -/
theorem runBatch_redirects {call : Session → H → Handle → Act σ H Handle}
    (hcall : ∀ session h handle, Act.Yields
      (fun after => after.position = handle.position ∨ led after.position)
      (call session h handle)) (batch : List H) (handle : Handle) :
    Act.Yields (fun after => after.position = handle.position ∨ led after.position)
      (runBatch w call batch handle) := by
  cases batch with
  | nil => exact .answer (.inl rfl)
  | cons h rest => exact .seq fun session => passAlong_redirects (hcall session) _ _

variable {w} in
/-- The entry of a thread leads nowhere else, or where a callback leads. -/
theorem enterAt_redirects (hw : w.RedirectsTo led) {a : Place σ} {entered : Progress}
    {target : Position} {env : Env σ} {entry : List (Event H)}
    (h : d.enterAt w a = ⟨.ok (entered, some target), env, entry⟩) : led target := by
  have hyields : Act.Yields (fun entered : Progress × Option Position =>
      ∀ target, entered.2 = some target → led target)
      (d.enter w a.working.thread (d.stepOf a) (a.working.arrive a.position)) := by
    unfold enter
    split
    · refine (runBatch_redirects w (fun session h handle =>
        .call fun s after s' hafter => hw.atEntry hafter) _ _).bind ?_
      intro after hafter
      refine .pure fun target htarget => ?_
      -- a handle that was moved has not been left where it was
      obtain ⟨rfl, hne⟩ := Handle.of_redirect? htarget
      exact hafter.resolve_left hne
    · exact .answer fun target htarget => by cases htarget
  unfold enterAt at h
  exact hyields a.env (entered, some target) (by rw [h]) target rfl

/-! ## §2. Where a reply leads. -/

/-- The reply at a place selects a branch of the question before it, and that
orders a directive. -/
def Chooses (lines : List (Line H)) (a : Place σ) (directive : Directive) : Prop :=
  ∃ reply intake branch, a.reply = some reply ∧ reply ≠ ""
    ∧ questionBefore? lines a.position.index = some intake
    ∧ intake.select? reply = some branch ∧ branch.consequence = .directive directive

/-- The routes that the reply at a place can lead along. -/
inductive Answered (led : Position → Prop) (lines : List (Line H)) (a : Place σ) :
    Route → Prop
  /-- On to the line: a directive that the reply chooses, if any, says so. -/
  | onward (h : ∀ directive, Chooses lines a directive →
      directive.route d.script a.position = .onward) : Answered led lines a .onward
  /-- Where a callback leads. -/
  | moved {target : Position} (h : led target) : Answered led lines a (.restart target)
  /-- Where the directive says that the reply chooses. -/
  | ordered {directive : Directive} (h : Chooses lines a directive) :
      Answered led lines a (directive.route d.script a.position)

variable {w} in
/-- Taking a reply leads nowhere else, or where a callback leads. -/
theorem takeReply_redirects (hw : w.RedirectsTo led) (intake : Intake H) (question : Position)
    (reply : String) (step : Step) (working : Progress) :
    Act.Yields (fun taken : Progress × Option Position =>
        ∀ target, taken.2 = some target → led target)
      (d.takeReply w intake question reply step working) := by
  cases hkey : intake.key with
  | none =>
    rw [d.takeReply_of_no_key w hkey]
    exact .answer fun target htarget => by cases htarget
  | some key =>
    rw [d.takeReply_of_key w hkey]
    refine .seq fun _ => ?_
    refine (runBatch_redirects w (fun session h handle =>
      .call fun s after s' hafter => hw.atReply hafter) _ _).bind ?_
    intro after hafter
    refine .seq fun _ => .pure fun target htarget => ?_
    obtain ⟨rfl, hne⟩ := Handle.of_redirect? htarget
    exact hafter.resolve_left hne

variable {w} in
/-- **Choosing a branch leads onward, where a callback leads, or where the directive says.** -/
theorem branch_answered (hw : w.RedirectsTo led) {lines : List (Line H)} {a : Place σ}
    {intake : Intake H} {reply : String} (hreply : a.reply = some reply) (hne : reply ≠ "")
    (hquestion : questionBefore? lines a.position.index = some intake) (question : Position)
    (working : Progress) :
    Act.Yields (fun chosen => d.Answered led lines a chosen.2)
      (d.branch w intake question reply (d.stepOf a) working) := by
  -- any directive that is chosen is that of the branch selected here
  have hchosen : ∀ {directive}, Chooses lines a directive →
      (intake.select? reply).map Branch.consequence = some (.directive directive) := by
    rintro directive ⟨reply', intake', branch, hreply', _, hquestion', hbranch, horder⟩
    rw [hreply] at hreply'
    rw [hquestion] at hquestion'
    cases hreply'
    cases hquestion'
    rw [hbranch, Option.map_some, horder]
  refine .seq fun _ => ?_
  -- no branch, one with a directive, or one with a callback
  cases hselect : (intake.select? reply).map Branch.consequence with
  | none =>
    refine .pure (.onward fun directive h => ?_)
    rw [hchosen h] at hselect
    cases hselect
  | some consequence =>
    cases consequence with
    | directive directive =>
      obtain ⟨branch, hbranch, horder⟩ := Option.map_eq_some_iff.mp hselect
      exact .pure (.ordered ⟨reply, intake, branch, hreply, hne, hquestion, hbranch, horder⟩)
    | handler h =>
      have hnone : ∀ directive, ¬ Chooses lines a directive := by
        intro directive hdirective
        rw [hchosen hdirective] at hselect
        cases hselect
      have hruns : Act.Yields (fun decided : Route × Values =>
          d.Answered led lines a decided.1)
          (runHandler w h reply (d.handle working (d.stepOf a))) := by
        refine .seq fun session => ?_
        refine (Act.Yields.call (p := fun after : Handle =>
          after.position = a.position ∨ led after.position)
          fun s after s' hafter => hw.atReply hafter).bind ?_
        intro after hafter
        refine .pure ?_
        rw [show (d.handle working (d.stepOf a)).position = a.position from rfl]
        cases htarget : after.redirect? a.position with
        | none => exact .onward fun directive h => absurd h (hnone directive)
        | some target =>
          obtain ⟨rfl, hmoved⟩ := Handle.of_redirect? htarget
          exact .moved (hafter.resolve_left hmoved)
      exact hruns.bind fun _ hdecided => .pure hdecided

variable {w} in
/-- **Where a reply leads.** -/
theorem answerBefore_answered (hw : w.RedirectsTo led) (lines : List (Line H)) (a : Place σ)
    (working : Progress) :
    Act.Yields (fun answered => d.Answered led lines a answered.2)
      (d.answerBefore w lines (d.stepOf a) working) := by
  cases hreply : (d.stepOf a).reply with
  | none =>
    rw [d.answerBefore_of_no_reply w hreply]
    refine .answer (.onward ?_)
    rintro directive ⟨reply, _, _, hgiven, hne, _⟩
    have hsome : (d.stepOf a).reply = some reply := reply_of_some hgiven hne
    rw [hsome] at hreply
    cases hreply
  | some reply =>
    obtain ⟨hgiven, hne⟩ := given_of_reply hreply
    have hgiven : a.reply = some reply := hgiven
    cases hquestion : questionBefore? lines a.position.index with
    | none =>
      rw [d.answerBefore_of_no_question w hquestion]
      refine .answer (.onward ?_)
      rintro directive ⟨_, _, _, _, _, hquestion', _⟩
      rw [hquestion] at hquestion'
      cases hquestion'
    | some intake =>
      rw [d.answerBefore_of_reply w hreply hquestion]
      refine (d.takeReply_redirects hw intake _ reply (d.stepOf a) working).bind ?_
      rintro ⟨taken, redirect⟩ hredirect
      cases redirect with
      | some target => exact .pure (.moved (hredirect target rfl))
      | none => exact d.branch_answered hw hgiven hne hquestion _ taken

/-! ## §3. Where a line leads. -/

/-- The routes that the line at a place can lead along, with what it brings. -/
inductive Ran (lines : List (Line H)) (a : Place σ) : Route → List (Event H) → Prop
  /-- A question is asked. -/
  | asked {draft : Draft} {intake : Intake H} {message : Message}
      (hline : lines[a.position.index]? = some (.question draft intake)) :
      Ran lines a .suspend [.prompted a.position d.settings.promptId message true]
  /-- A question is not asked, and the user is told so. -/
  | unasked {draft : Draft} {intake : Intake H} {message : Message} {ok : Bool}
      (hline : lines[a.position.index]? = some (.question draft intake)) :
      Ran lines a .onward [.prompted a.position d.settings.promptId message false,
        .sent (.ofText d.settings.failureText) ok]
  /-- A message is sent, if it has any content. -/
  | told {draft : Draft} {events : List (Event H)}
      (hline : lines[a.position.index]? = some (.message draft))
      (hevents : ∀ e ∈ events, e.kind = .sent) : Ran lines a .onward events
  /-- A message is sent, if it has any content, and a directive obeyed. -/
  | ordered {draft : Draft} {directive : Directive} {events : List (Event H)}
      (hline : lines[a.position.index]? = some (.action draft directive))
      (hevents : ∀ e ∈ events, e.kind = .sent) :
      Ran lines a (directive.route d.script a.position) events

/-- **Where a line leads.** -/
theorem runLine_ran {lines : List (Line H)} {a : Place σ} {line : Line H}
    (hline : lines[a.position.index]? = some line) (values : Values) {env env' : Env σ}
    {route : Route} {running : List (Event H)}
    (h : d.runLine w line (d.stepOf a) values env = ⟨.ok route, env', running⟩) :
    d.Ran lines a route running := by
  have hsends : ∀ draft (next : Unit → Act σ H Route),
      ((sendDraft w draft values >>= next) env).events = running →
      (∀ u env, (next u env).events = []) → ∀ e ∈ running, e.kind = .sent := by
    intro draft next hrunning hnext e he
    have hkinds := (sendDraft_confined w draft values).events env
    rcases Act.bind_cases (sendDraft w draft values) next env with
      ⟨_, _, _, hsend, hseq⟩ | ⟨u, env'', _, hsend, hseq⟩
    · rw [hseq] at hrunning
      rw [hsend] at hkinds
      exact List.mem_singleton.mp (hkinds e (hrunning ▸ he))
    · rw [hseq, Outcome.after_events, hnext, List.append_nil] at hrunning
      rw [hsend] at hkinds
      exact List.mem_singleton.mp (hkinds e (hrunning ▸ he))
  -- a message, a question and an action send in their own ways
  cases line with
  | question draft intake =>
    have hask : d.ask w draft a.position values env = ⟨.ok route, env', running⟩ := h
    rcases d.ask_cases w draft a.position values env with
      ⟨message, env'', hcase⟩ | ⟨result, env'', message, ok, hcase, honward⟩
    · rw [hcase] at hask
      cases hask
      exact .asked hline
    · rw [hcase] at hask
      cases hask
      cases honward route rfl
      exact .unasked hline
  | message draft =>
    have hroute : Act.Yields (fun route : Route => route = .onward)
        (d.runLine w (.message draft) (d.stepOf a) values) := .seq fun _ => .pure rfl
    cases hroute env route (by rw [h])
    exact .told hline (hsends draft _ (congrArg Outcome.events h) fun _ _ => rfl)
  | action draft directive =>
    have hroute : Act.Yields (fun route => route = directive.route d.script a.position)
        (d.runLine w (.action draft directive) (d.stepOf a) values) := .seq fun _ => .pure rfl
    cases hroute env route (by rw [h])
    exact .ordered hline (hsends draft _ (congrArg Outcome.events h) fun _ _ => rfl)

variable {w} in
/-- The route that a visit follows: that of its reply, if that is not onward, and
else that of its line. -/
theorem lineRoute_cases {lines : List (Line H)} {a : Place σ}
    (hin : a.position.index < lines.length) {answered : Progress} {route route' : Route}
    {env env' : Env σ} {running : List (Event H)}
    (h : d.lineRoute w lines (d.stepOf a) answered route env
      = ⟨.ok (answered, route'), env', running⟩) :
    (route ≠ .onward ∧ route' = route ∧ running = [])
      ∨ (route = .onward ∧ d.Ran lines a route' running) := by
  -- a reply that leads elsewhere passes its route on
  by_cases hroute : route = .onward
  · subst hroute
    have hline : lines[(d.stepOf a).position.index]? = some (lines[a.position.index]) :=
      List.getElem?_eq_getElem hin
    rw [d.lineRoute_of_line w hline] at h
    rcases hrun : d.runLine w lines[a.position.index] (d.stepOf a) answered.values env with
      ⟨result, env'', running'⟩
    cases result with
    | error fault =>
      rw [Act.bind_of_error hrun] at h
      cases h
    | ok ran =>
      rw [Act.bind_of_ok hrun] at h
      simp only [Act.pure_apply, Outcome.after, List.append_nil, Outcome.mk.injEq,
        Except.ok.injEq, Prod.mk.injEq, true_and] at h
      obtain ⟨rfl, rfl, rfl⟩ := h
      exact .inr ⟨rfl, d.runLine_ran w hline answered.values hrun⟩
  · rw [d.lineRoute_of_ne w hroute] at h
    cases h
    exact .inl ⟨hroute, rfl, rfl⟩

/-! ## §4. What a route comes to. -/

/-- What a route from a place comes to. -/
inductive Following (a : Place σ) (working : Progress) (env : Env σ) :
    Route → Outcome σ H (Progress × Move) → Prop
  /-- The next line. -/
  | onward : Following a working env .onward
      ⟨.ok (working, .goOn { a.position with index := a.position.index + 1 }), env, []⟩
  /-- Another position. -/
  | restart (target : Position) :
      Following a working env (.restart target) ⟨.ok (working, .goOn target), env, []⟩
  /-- The dialog waits for a reply. -/
  | suspend : Following a working env .suspend ⟨.ok (working, .stop .waiting), env, []⟩
  /-- The dialog waits, and this line is run again. -/
  | hold : Following a working env .hold
      ⟨.ok ({ working with replay := true }, .stop .waiting), env, []⟩
  /-- The dialog ends; how is written into a variable. -/
  | finish (ending : Ending) {values : Values} {o : Outcome σ H (Progress × Move)}
      (hvalues : values = working.values.insert statusKey (.string ending.name))
      (hconclude : (d.conclude w (d.stepOf a).reply values >>= fun report =>
        pure ({ working with values }, .stop report)) env = o) :
      Following a working env (.finish ending) o
  /-- The dialog is replaced. -/
  | handedOver (script : String) (thread : Option String) {options : Values} {env' : Env σ} :
      Following a working env (.handOver script thread)
        ⟨.ok (working, .stop .replaced), env', [.handedOver script options true]⟩
  /-- The host does not replace the dialog. -/
  | refused (script : String) (thread : Option String) {options : Values} {fault : Fault}
      {env' : Env σ} :
      Following a working env (.handOver script thread)
        ⟨.error fault, env', [.handedOver script options false]⟩

/-- What a hand-over from a step comes to. -/
theorem follow_handOver (step : Step) (working : Progress) (script : String)
    (thread : Option String) (env : Env σ) :
    ∃ world, (d.follow w step working (.handOver script thread) env
        = ⟨.ok (working, .stop .replaced), { env with world },
            [.handedOver script (handOverOptions thread working.values) true]⟩)
      ∨ ∃ fault, d.follow w step working (.handOver script thread) env
        = ⟨.error fault, { env with world },
            [.handedOver script (handOverOptions thread working.values) false]⟩ := by
  have hfollow : d.follow w step working (.handOver script thread)
      = (Act.call (.handedOver script (handOverOptions thread working.values))
          (w.handOver script (handOverOptions thread working.values)) >>= fun _ =>
        pure (working, .stop .replaced)) := rfl
  rw [hfollow]
  rcases Act.call_cases (H := H)
      (.handedOver script (handOverOptions thread working.values))
      (w.handOver script (handOverOptions thread working.values)) env with
    ⟨fault, world, hcall⟩ | ⟨_, world, hcall⟩
  · exact ⟨world, .inr ⟨fault, Act.bind_of_error hcall⟩⟩
  · exact ⟨world, .inl (Act.bind_of_ok hcall)⟩

/-- **What a route comes to.** -/
theorem follow_following (a : Place σ) (working : Progress) (route : Route) (env : Env σ) :
    d.Following w a working env route (d.follow w (d.stepOf a) working route env) := by
  cases route with
  | onward => exact .onward
  | restart target => exact .restart target
  | suspend => exact .suspend
  | hold => exact .hold
  | finish ending => exact .finish ending rfl rfl
  | handOver script thread =>
    obtain ⟨world, hfollow | ⟨fault, hfollow⟩⟩ :=
      d.follow_handOver w (d.stepOf a) working script thread env
    · rw [hfollow]
      exact .handedOver script thread
    · rw [hfollow]
      exact .refused script thread

end Dialog

end Parley
