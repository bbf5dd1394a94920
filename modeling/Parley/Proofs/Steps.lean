/-
  Parley.Proofs.Steps
  ───────────────────
  **WHAT ONE VISIT TO A LINE DOES.**

  One lemma of each sort for every function of a visit:

    • `…_confined` — which events it can bring, and that it saves nothing;
      putting a reply into a variable is the one part that saves, and is
      described exactly (`takeReply_of_ok`, `takeReply_of_error`),
    • `branch_of_…` — what choosing a branch comes to, for each way it can go,
    • `…_yields` — how the progress it hands on differs from the one it got:
      before a route is followed only in the variables.

  `visit_eq` cuts a visit into those parts; `stay` is all of it but that its
  position is reached.
-/
import Parley.Proofs.Callbacks

namespace Parley

variable {σ H : Type}

/-! ## §1. Progress that differs in the variables. -/

namespace Progress

/-- The second progress is the first up to the variables. -/
def Revalued (p q : Progress) : Prop := ∃ values, q = { p with values }

/-- Progress differs from itself in no more than its variables. -/
theorem Revalued.refl (p : Progress) : Revalued p p := ⟨p.values, rfl⟩

/-- Two changes of the variables are one. -/
theorem Revalued.trans {p q r : Progress} (hpq : Revalued p q) (hqr : Revalued q r) :
    Revalued p r := by
  obtain ⟨_, rfl⟩ := hpq
  obtain ⟨values, rfl⟩ := hqr
  exact ⟨values, rfl⟩

/-- The progress of a dialog that arrives at a position. -/
def arrive (p : Progress) (position : Position) : Progress :=
  { p with thread := position.thread, index := position.index, replay := false }

/-- The line last reached. -/
def position (p : Progress) : Position := ⟨p.thread, p.index⟩

/-- The position that the next turn begins with. -/
def resumePosition (p : Progress) : Position := ⟨p.thread, p.resumeIndex⟩

end Progress

namespace Dialog

variable (d : Dialog H) (w : World σ H)

/-! ## §2. Replies. -/

/-- The visit to a position with what the user sent. -/
def stepAt (position : Position) (cause : Cause) (reply : Option String) : Step :=
  { dialog := d.id, position, cause, given := reply }

/-- A text that is not empty is the reply of the step it is given to. -/
theorem reply_of_some {s : Step} {text : String} (hgiven : s.given = some text)
    (hne : text ≠ "") : s.reply = some text := by
  unfold Step.reply
  rw [hgiven]
  simp [hne]

/-- The reply of a step is the text given to it, and is not empty. -/
theorem given_of_reply {s : Step} {text : String} (h : s.reply = some text) :
    s.given = some text ∧ text ≠ "" := by
  unfold Step.reply at h
  obtain ⟨hgiven, hne⟩ := Option.filter_eq_some_iff.mp h
  exact ⟨hgiven, by simpa using hne⟩

/-- A question before a line stands one line before it. -/
theorem questionBefore?_eq_some {lines : List (Line H)} {index : Nat} {intake : Intake H} :
    questionBefore? lines index = some intake
      ↔ ∃ i draft, index = i + 1 ∧ lines[i]? = some (.question draft intake) := by
  -- no line stands before the first one
  cases index with
  | zero => simp [questionBefore?]
  | succ i =>
    show lines[i]?.bind Line.intake? = some intake ↔ _
    cases hline : lines[i]? with
    | none => simp [hline]
    | some line => cases line <;> simp [hline, Line.intake?]

/-- A reply to a question that names no variable is put nowhere. -/
theorem takeReply_of_no_key {intake : Intake H} (hkey : intake.key = none)
    (question : Position) (reply : String) (step : Step) (working : Progress) :
    d.takeReply w intake question reply step working = .answer (working, none) := by
  unfold takeReply
  rw [hkey]

/-- The callbacks for the reply `text` to the question before a position, with
the variables in which the reply stands by then. -/
def replyBatch (position : Position) (values : Values) (intake : Intake H)
    (key text : String) : Act σ H Handle :=
  d.runChange w key text ⟨d.id, position,
    values.insert key (.string (d.joined values key text intake.multiple))⟩

/-- Taking a reply, cut into its parts: the reply is noted, the callbacks of its variable run, and
what they leave is saved and handed on. -/
theorem takeReply_of_key {intake : Intake H} {key : String} (hkey : intake.key = some key)
    (question : Position) (reply : String) (step : Step) (working : Progress) :
    d.takeReply w intake question reply step working
      = (Act.note (.captured question key reply) >>= fun _ =>
          d.replyBatch w step.position working.values intake key reply >>= fun after =>
            Act.saveValues after.values >>= fun _ =>
              pure ({ working with values := after.values }, after.redirect? step.position)) := by
  unfold takeReply
  rw [hkey]
  rfl

/-- A reply whose callbacks succeed is saved with what they left. -/
theorem takeReply_of_ok {intake : Intake H} {key : String} (hkey : intake.key = some key)
    {question : Position} {reply : String} {step : Step} {working : Progress}
    {env env' : Env σ} {after : Handle} {events : List (Event H)}
    (hrun : d.replyBatch w step.position working.values intake key reply env
      = ⟨.ok after, env', events⟩) :
    d.takeReply w intake question reply step working env
      = ⟨.ok ({ working with values := after.values }, after.redirect? step.position),
          { env' with saved := { env'.saved with values := after.values } },
          .captured question key reply :: events⟩ := by
  rw [d.takeReply_of_key w hkey, Act.note_bind_apply, Act.bind_of_ok hrun,
    Act.saveValues_bind_apply]
  simp [Outcome.after]

/-- A reply whose callbacks fail is not saved. -/
theorem takeReply_of_error {intake : Intake H} {key : String} (hkey : intake.key = some key)
    {question : Position} {reply : String} {step : Step} {working : Progress}
    {env env' : Env σ} {fault : Fault} {events : List (Event H)}
    (hrun : d.replyBatch w step.position working.values intake key reply env
      = ⟨.error fault, env', events⟩) :
    d.takeReply w intake question reply step working env
      = ⟨.error fault, env', .captured question key reply :: events⟩ := by
  rw [d.takeReply_of_key w hkey, Act.note_bind_apply, Act.bind_of_error hrun]
  rfl

/-- A reply that no branch is for leads on to the line. -/
theorem branch_of_unmatched {intake : Intake H} {reply : String}
    (hbranch : intake.select? reply = none) (question : Position) (step : Step)
    (working : Progress) (env : Env σ) :
    d.branch w intake question reply step working env
      = ⟨.ok (working, .onward), env, [.offered question reply]⟩ := by
  unfold branch
  rw [Act.note_bind_apply, hbranch]
  rfl

section Branches

variable {intake : Intake H} {reply : String} {chosen : Branch H}
  (hbranch : intake.select? reply = some chosen)

include hbranch

/-- A branch with a directive leads where that does. -/
theorem branch_of_directive {directive : Directive}
    (horder : chosen.consequence = .directive directive) (question : Position) (step : Step)
    (working : Progress) (env : Env σ) :
    d.branch w intake question reply step working env
      = ⟨.ok (working, directive.route d.script step.position), env,
          [.offered question reply]⟩ := by
  unfold branch
  rw [Act.note_bind_apply, hbranch, Option.map_some, horder]
  rfl

variable {callback : H} (horder : chosen.consequence = .handler callback)

include horder

/-- A branch with a callback leads where that moves its handle, and leaves the variables of it. -/
theorem branch_of_handler (question : Position) (step : Step) (working : Progress) :
    d.branch w intake question reply step working
      = (Act.note (.offered question reply) >>= fun _ =>
          runBatch w (w.branching reply).call [callback] (d.handle working step) >>= fun after =>
            pure ({ working with values := after.values }, after.routeFrom step.position)) := by
  unfold branch
  rw [hbranch, Option.map_some, horder]
  refine bind_congr fun _ => ?_
  show (runHandler w callback reply (d.handle working step) >>= _) = _
  rw [runHandler_eq, bind_assoc]
  rfl

variable {question : Position} {step : Step} {working : Progress} {env env' : Env σ}
  {events : List (Event H)}

/-- A callback that succeeds decides the branch. -/
theorem branch_of_ok {after : Handle}
    (hrun : runBatch w (w.branching reply).call [callback] (d.handle working step) env
      = ⟨.ok after, env', events⟩) :
    d.branch w intake question reply step working env
      = ⟨.ok ({ working with values := after.values }, after.routeFrom step.position), env',
          .offered question reply :: events⟩ := by
  rw [d.branch_of_handler w hbranch horder, Act.note_bind_apply, Act.bind_of_ok hrun]
  simp [Outcome.after]

/-- A callback that fails decides nothing. -/
theorem branch_of_error {fault : Fault}
    (hrun : runBatch w (w.branching reply).call [callback] (d.handle working step) env
      = ⟨.error fault, env', events⟩) :
    d.branch w intake question reply step working env
      = ⟨.error fault, env', .offered question reply :: events⟩ := by
  rw [d.branch_of_handler w hbranch horder, Act.note_bind_apply, Act.bind_of_error hrun]
  rfl

end Branches

/-- Without a reply there is nothing to answer. -/
theorem answerBefore_of_no_reply {step : Step} (hreply : step.reply = none)
    (lines : List (Line H)) (working : Progress) :
    d.answerBefore w lines step working = .answer (working, .onward) := by
  unfold answerBefore
  rw [hreply]

/-- Nor is there where no question stands before the line. -/
theorem answerBefore_of_no_question {lines : List (Line H)} {step : Step}
    (hquestion : questionBefore? lines step.position.index = none) (working : Progress) :
    d.answerBefore w lines step working = .answer (working, .onward) := by
  unfold answerBefore
  rw [hquestion]
  -- whether there is a reply or not
  cases step.reply <;> rfl

/-- Where a reply leads that was taken: elsewhere, or where a branch says. -/
def afterTaking (intake : Intake H) (question : Position) (reply : String) (step : Step)
    (taken : Progress × Option Position) : Act σ H (Progress × Route) :=
  match taken.2 with
  | some target => pure (taken.1, .restart target)
  | none => d.branch w intake question reply step taken.1

/-- A reply to a question is taken, and unless that leads elsewhere a branch is
chosen for it. -/
theorem answerBefore_of_reply {lines : List (Line H)} {step : Step} {reply : String}
    {intake : Intake H} (hreply : step.reply = some reply)
    (hquestion : questionBefore? lines step.position.index = some intake)
    (working : Progress) :
    d.answerBefore w lines step working
      = (d.takeReply w intake { step.position with index := step.position.index - 1 } reply
            step working >>=
          d.afterTaking w intake { step.position with index := step.position.index - 1 } reply
            step) := by
  unfold answerBefore
  rw [hreply, hquestion]
  rfl

/-- A reply that was taken and led nowhere else is answered by its branch. -/
theorem answerBefore_of_taken {lines : List (Line H)} {step : Step} {reply : String}
    {intake : Intake H} (hreply : step.reply = some reply)
    (hquestion : questionBefore? lines step.position.index = some intake)
    {working taken : Progress} {env env' : Env σ} {taking : List (Event H)}
    (htaken : d.takeReply w intake { step.position with index := step.position.index - 1 } reply
      step working env = ⟨.ok (taken, none), env', taking⟩) :
    d.answerBefore w lines step working env
      = (d.branch w intake { step.position with index := step.position.index - 1 } reply step
          taken env').after taking := by
  rw [d.answerBefore_of_reply w hreply hquestion, Act.bind_of_ok htaken]
  rfl

/-- Where a step leads whose reply leads along a route: if that is onward, its
own line decides. -/
def lineRoute (lines : List (Line H)) (step : Step) (working : Progress) (route : Route) :
    Act σ H (Progress × Route) :=
  match route, lines[step.position.index]? with
  | .onward, some line =>
    d.runLine w line step working.values >>= fun route => pure (working, route)
  | route, _ => pure (working, route)

/-- A step is its reply, and then its line if the reply leads onward. -/
theorem runStep_eq (lines : List (Line H)) (step : Step) (working : Progress) :
    d.runStep w lines step working
      = (d.answerBefore w lines step working >>= fun answered =>
          d.lineRoute w lines step answered.1 answered.2) := rfl

/-- The line of a step is run where the reply leads onward to it. -/
theorem lineRoute_of_line {lines : List (Line H)} {step : Step} {line : Line H}
    (hline : lines[step.position.index]? = some line) (working : Progress) :
    d.lineRoute w lines step working .onward
      = (d.runLine w line step working.values >>= fun route => pure (working, route)) := by
  unfold lineRoute
  rw [hline]

/-- A reply that leads anywhere else keeps its route, and the line is not run. -/
theorem lineRoute_of_ne {route : Route} (hroute : route ≠ .onward) (lines : List (Line H))
    (step : Step) (working : Progress) :
    d.lineRoute w lines step working route = pure (working, route) := by
  unfold lineRoute
  split
  · exact absurd rfl hroute
  · rfl

/-- The way from a step whose reply leads along a route. -/
def walk (lines : List (Line H)) (step : Step) (working : Progress) (route : Route) :
    Act σ H (Progress × Move) :=
  d.lineRoute w lines step working route >>= fun led => d.follow w step led.1 led.2

/-- The way to the line of a step: it is run, and its route is followed. -/
theorem walk_of_line {lines : List (Line H)} (step : Step) {line : Line H}
    (hline : lines[step.position.index]? = some line) (working : Progress) :
    d.walk w lines step working .onward
      = (d.runLine w line step working.values >>= fun route => d.follow w step working route) := by
  unfold walk
  rw [d.lineRoute_of_line w hline, bind_assoc]
  rfl

/-! ## §3. The events of each part. -/

/-- Sending a draft brings a sent message at most. -/
theorem sendDraft_confined (draft : Draft) (values : Values) :
    Act.Confined [.sent] (sendDraft w draft values : Act σ H Unit) := by
  unfold sendDraft
  -- an empty draft is not sent
  split
  · refine (Act.Confined.render draft values).bind ?_
    intro message
    exact .call _ fun _ => List.mem_singleton.mpr rfl
  · exact .answer ()

/-- Asking brings a prompt, and a sent message in its place if that is refused. -/
theorem ask_confined (draft : Draft) (question : Position) (values : Values) :
    Act.Confined [.prompted, .sent] (d.ask w draft question values) := by
  refine (Act.Confined.render draft values).bind ?_
  intro message
  refine (Act.Confined.attempt (.call _ fun _ => by simp [Event.kind])).bind ?_
  intro result
  -- a prompt that the host refuses is sent as a message
  cases result with
  | ok _ => exact .pure _
  | error fault =>
    refine (Act.Confined.call _ fun _ => by simp [Event.kind]).bind ?_
    intro _
    exact .pure _

/-- A line of any sort sends or prompts, and nothing else. -/
theorem runLine_confined (line : Line H) (step : Step) (values : Values) :
    Act.Confined [.prompted, .sent] (d.runLine w line step values) := by
  cases line with
  | message draft =>
    exact ((sendDraft_confined w draft values).mono (by simp)).bind fun _ => .pure _
  | question draft intake => exact d.ask_confined w draft step.position values
  | action draft directive =>
    exact ((sendDraft_confined w draft values).mono (by simp)).bind fun _ => .pure _

theorem lineRoute_confined (lines : List (Line H)) (step : Step) (working : Progress)
    (route : Route) :
    Act.Confined [.prompted, .sent] (d.lineRoute w lines step working route) := by
  unfold lineRoute
  split
  · exact (d.runLine_confined w _ step _).bind fun _ => .pure _
  · exact .pure _

/-- The kinds of events that choosing a branch can bring. -/
def branchKinds : List EventKind := [.offered, .spawned, .branchCall]

/-- Choosing a branch brings that branches are tried, and the callback of the one chosen. -/
theorem branch_confined (intake : Intake H) (question : Position) (reply : String)
    (step : Step) (working : Progress) :
    Act.Confined branchKinds (d.branch w intake question reply step working) := by
  refine (Act.Confined.note (by simp [Event.kind, branchKinds])).bind ?_
  intro _
  -- no branch, one with a directive, or one with a callback
  split
  · exact .pure _
  · exact .pure _
  · refine ((runHandler_confined w _ reply _).mono (by simp [branchKinds])).bind ?_
    rintro ⟨route, values⟩
    exact .pure _

/-- To conclude a dialog is to finish it at the host and run the callbacks for its end. -/
theorem conclude_confined (result : Option String) (values : Values) :
    Act.Confined [.finished, .spawned, .endCall] (d.conclude w result values) := by
  refine (Act.Confined.call _ fun _ => by simp [Event.kind]).bind ?_
  intro _
  refine ((d.runEnd_confined w values).mono (by simp)).bind ?_
  intro _
  exact .pure _

/-- Entering a thread brings the callbacks for its entry. -/
theorem enter_confined (previous : String) (step : Step) (working : Progress) :
    Act.Confined [.spawned, .entryCall] (d.enter w previous step working) := by
  unfold enter
  split
  · refine (d.runEntry_confined w _ _).bind ?_
    intro after
    exact .pure _
  · exact .answer _

/-- The kinds of events that a route can bring. -/
def routeKinds : List EventKind := [.finished, .spawned, .endCall, .handedOver]

/-- Following a route brings an event only where it ends the dialog or hands it over. -/
theorem follow_confined (step : Step) (working : Progress) (route : Route) :
    Act.Confined routeKinds (d.follow w step working route) := by
  cases route with
  | onward =>
    refine (Act.Confined.ofExcept step.next).bind ?_
    rintro ⟨target, _⟩
    exact .pure _
  | restart target => exact .answer _
  | suspend => exact .answer _
  | hold => exact .answer _
  | finish ending =>
    refine ((d.conclude_confined w step.reply _).mono (by simp [routeKinds])).bind ?_
    intro report
    exact .pure _
  | handOver script thread =>
    refine (Act.Confined.call _ fun _ => by simp [Event.kind, routeKinds]).bind ?_
    intro _
    exact .pure _

/-- The way from a step sends or prompts, and then brings what its route does. -/
theorem walk_confined (lines : List (Line H)) (step : Step) (working : Progress)
    (route : Route) :
    Act.Confined (.prompted :: .sent :: routeKinds) (d.walk w lines step working route) := by
  refine ((d.lineRoute_confined w lines step working route).mono (by simp)).bind ?_
  rintro ⟨led, route⟩
  exact (d.follow_confined w step led route).mono (by simp)

/-- The callbacks for a reply bring their session and their calls. -/
theorem replyBatch_confined (position : Position) (values : Values) (intake : Intake H)
    (key text : String) :
    Act.Confined [.spawned, .changeCall] (d.replyBatch w position values intake key text) :=
  d.runChange_confined w key text _

/-- The kinds of events that putting a reply into a variable can bring. -/
def takingKinds : List EventKind := [.captured, .spawned, .changeCall]

/-- Taking a reply brings no event but those of a reply that is put into a variable. -/
theorem takeReply_lacks {kind : EventKind} (hkind : kind ∉ takingKinds) (intake : Intake H)
    (question : Position) (reply : String) (step : Step) (working : Progress) :
    Act.Lacks kind (d.takeReply w intake question reply step working) := by
  -- what is saved on the way is no event, so the parts lack the kind one by one
  cases hkey : intake.key with
  | none =>
    rw [d.takeReply_of_no_key w hkey]
    exact .pure _
  | some key =>
    rw [d.takeReply_of_key w hkey]
    have hnote : Event.kind (.captured question key reply : Event H) ≠ kind := by
      intro h
      exact hkind (h ▸ List.mem_cons_self)
    refine (Act.Lacks.note hnote).bind ?_
    intro _
    refine (Act.Lacks.of_confined (d.replyBatch_confined w _ _ _ _ _)
      fun h => hkind (List.mem_cons_of_mem _ h)).bind ?_
    intro after
    exact (Act.Lacks.saveValues after.values).bind fun _ => .pure _

/-- Answering brings no event but those of the reply and of a branch. -/
theorem answerBefore_lacks {kind : EventKind} (hkind : kind ∉ takingKinds ++ branchKinds)
    (lines : List (Line H)) (step : Step) (working : Progress) :
    Act.Lacks kind (d.answerBefore w lines step working) := by
  unfold answerBefore
  split
  · refine (d.takeReply_lacks w (fun h => hkind (List.mem_append_left _ h)) _ _ _ step
      working).bind ?_
    rintro ⟨taken, redirect⟩
    -- a branch is chosen only if no callback leads elsewhere
    cases redirect with
    | some target => exact .pure _
    | none =>
      exact .of_confined (d.branch_confined w _ _ _ step taken)
        fun h => hkind (List.mem_append_right _ h)
  · exact .pure _

/-! ## §4. What each part hands on. -/

/-- Taking a reply changes nothing of the progress but the variables. -/
theorem takeReply_yields (intake : Intake H) (question : Position) (reply : String)
    (step : Step) (working : Progress) :
    Act.Yields (fun taken => working.Revalued taken.1)
      (d.takeReply w intake question reply step working) := by
  cases hkey : intake.key with
  | none =>
    rw [d.takeReply_of_no_key w hkey]
    exact .answer (.refl working)
  | some key =>
    rw [d.takeReply_of_key w hkey]
    -- of what the callbacks hand back only the variables go into the progress
    refine .seq ?_
    intro _
    refine .seq ?_
    intro after
    refine .seq ?_
    intro _
    exact .pure ⟨after.values, rfl⟩

/-- Choosing a branch changes nothing of the progress but the variables. -/
theorem branch_yields (intake : Intake H) (question : Position) (reply : String)
    (step : Step) (working : Progress) :
    Act.Yields (fun chosen => working.Revalued chosen.1)
      (d.branch w intake question reply step working) := by
  refine .seq ?_
  intro _
  -- only a branch with a callback can change any
  split
  · exact .pure (.refl working)
  · exact .pure (.refl working)
  · refine .seq ?_
    rintro ⟨route, values⟩
    exact .pure ⟨values, rfl⟩

/-- Answering changes nothing of the progress but the variables. -/
theorem answerBefore_yields (lines : List (Line H)) (step : Step) (working : Progress) :
    Act.Yields (fun answered => working.Revalued answered.1)
      (d.answerBefore w lines step working) := by
  unfold answerBefore
  split
  · refine (d.takeReply_yields w _ _ _ step working).bind ?_
    rintro ⟨taken, redirect⟩ htaken
    cases redirect with
    | some target => exact .pure htaken
    | none =>
      intro env chosen hchosen
      exact htaken.trans (d.branch_yields w _ _ _ step taken env chosen hchosen)
  · exact .answer (.refl working)

/-- Running a line leaves the progress as it is. -/
theorem lineRoute_yields (lines : List (Line H)) (step : Step) (working : Progress)
    (route : Route) :
    Act.Yields (fun led => led.1 = working) (d.lineRoute w lines step working route) := by
  unfold lineRoute
  split
  · exact .seq fun _ => .pure rfl
  · exact .pure rfl

/-- Entering a thread changes nothing of the progress but the variables. -/
theorem enter_yields (previous : String) (step : Step) (working : Progress) :
    Act.Yields (fun entered => working.Revalued entered.1)
      (d.enter w previous step working) := by
  unfold enter
  split
  · refine .seq ?_
    intro after
    exact .pure ⟨after.values, rfl⟩
  · exact .answer (.refl working)

/-- The second progress stands where the first does and has its options. -/
structure Stays (working : Progress) (moved : Progress × Move) : Prop where
  /-- The line last reached stays. -/
  position : moved.1.position = working.position
  /-- The options stay. -/
  options : moved.1.options = working.options
  /-- The line is to be run again only if the turn stops there. -/
  replay : ∀ target, moved.2 = .goOn target → moved.1.replay = working.replay

/-- Following a route, the dialog stays at its line with its options. -/
theorem follow_yields (step : Step) (working : Progress) (route : Route) :
    Act.Yields (Stays working) (d.follow w step working route) := by
  cases route with
  | onward => exact .seq fun _ => .pure ⟨rfl, rfl, fun _ _ => rfl⟩
  | restart target => exact .answer ⟨rfl, rfl, fun _ _ => rfl⟩
  | suspend => exact .answer ⟨rfl, rfl, fun _ _ => rfl⟩
  | hold => exact .answer ⟨rfl, rfl, fun _ h => by cases h⟩
  | finish ending => exact .seq fun _ => .pure ⟨rfl, rfl, fun _ _ => rfl⟩
  | handOver script thread => exact .seq fun _ => .pure ⟨rfl, rfl, fun _ _ => rfl⟩

/-- On the way from a step the dialog stays at its line with its options. -/
theorem walk_yields (lines : List (Line H)) (step : Step) (working : Progress)
    (route : Route) :
    Act.Yields (Stays working) (d.walk w lines step working route) := by
  refine (d.lineRoute_yields w lines step working route).bind ?_
  rintro ⟨led, route⟩ rfl
  exact d.follow_yields w step led route

/-! ## §5. Visits. -/

/-- A visit, cut into its parts: the callbacks for the entry of a thread, where
the reply leads, and the way from there. -/
theorem visit_eq (lines : List (Line H)) (position : Position) (cause : Cause)
    (reply : Option String) (working : Progress) :
    d.visit w lines position cause reply working
      = (Act.note (.reached position) >>= fun _ =>
          d.enter w working.thread (d.stepAt position cause reply) (working.arrive position)
            >>= fun entered =>
              match entered.2 with
              | some target => pure (entered.1, .goOn target)
              | none =>
                d.answerBefore w lines (d.stepAt position cause reply) entered.1
                  >>= fun answered =>
                    d.walk w lines (d.stepAt position cause reply) answered.1 answered.2) := by
  show (Act.note (.reached position) >>= fun _ => _) = _
  refine bind_congr fun _ => ?_
  show (d.enter w _ _ _ >>= fun entered => _) = _
  -- a redirect of an entry callback ends the visit; else step and route are cut apart
  refine bind_congr ?_
  rintro ⟨entered, redirect⟩
  cases redirect with
  | some target => rfl
  | none =>
    show (d.runStep w lines _ entered >>= _) = _
    rw [runStep_eq, bind_assoc]
    rfl

/-- What a visit does once its position is reached. -/
def stay (lines : List (Line H)) (position : Position) (cause : Cause) (reply : Option String)
    (working : Progress) : Act σ H (Progress × Move) :=
  d.enter w working.thread (d.stepAt position cause reply) (working.arrive position)
    >>= fun entered =>
      match entered.2 with
      | some target => pure (entered.1, .goOn target)
      | none =>
        d.answerBefore w lines (d.stepAt position cause reply) entered.1
          >>= fun answered =>
            d.walk w lines (d.stepAt position cause reply) answered.1 answered.2

/-- A visit resolves its position, and then does the rest. -/
theorem visit_eq_stay (lines : List (Line H)) (position : Position) (cause : Cause)
    (reply : Option String) (working : Progress) :
    d.visit w lines position cause reply working
      = (Act.note (.reached position) >>= fun _ =>
          d.stay w lines position cause reply working) :=
  d.visit_eq w lines position cause reply working

/-- **A visit hands on the progress of a dialog that stands at its line.** -/
theorem visit_yields (lines : List (Line H)) (position : Position) (cause : Cause)
    (reply : Option String) (working : Progress) :
    Act.Yields (Stays (working.arrive position))
      (d.visit w lines position cause reply working) := by
  rw [visit_eq]
  refine .seq ?_
  intro _
  refine (d.enter_yields w _ _ _).bind ?_
  rintro ⟨entered, redirect⟩ ⟨values, rfl⟩
  cases redirect with
  | some target => exact .pure ⟨rfl, rfl, fun _ _ => rfl⟩
  | none =>
    refine (d.answerBefore_yields w lines _ _).bind ?_
    rintro ⟨answered, route⟩ ⟨values', rfl⟩
    intro env moved hmoved
    -- each part may change the variables again, and no part before the route anything else
    have hstays := d.walk_yields w lines _ _ route env moved hmoved
    exact ⟨hstays.position, hstays.options, hstays.replay⟩

/-- Once its position is reached, a visit resolves no other. -/
theorem stay_lacks (lines : List (Line H)) (position : Position) (cause : Cause)
    (reply : Option String) (working : Progress) :
    Act.Lacks .reached (d.stay w lines position cause reply working) := by
  refine (Act.Lacks.of_confined (d.enter_confined w _ _ _) (by simp)).bind ?_
  -- part by part: the entry callbacks, the reply, and the way from there
  rintro ⟨entered, redirect⟩
  cases redirect with
  | some target => exact .pure _
  | none =>
    refine (d.answerBefore_lacks w (by simp [takingKinds, branchKinds]) lines _ entered).bind ?_
    rintro ⟨answered, route⟩
    exact .of_confined (d.walk_confined w lines _ answered route) (by simp [routeKinds])

/-- A visit resolves its position and no other. -/
theorem visit_visited (lines : List (Line H)) (position : Position) (cause : Cause)
    (reply : Option String) (working : Progress) (env : Env σ) :
    visited (d.visit w lines position cause reply working env).events = [position] := by
  rw [visit_eq_stay, Act.note_bind_apply]
  show visited ([.reached position] ++ _) = _
  rw [visited_append, visited_reached, visited_nil, List.singleton_append]
  -- its position is resolved by the first event, and no part after it brings another
  exact congrArg (position :: ·) ((d.stay_lacks w _ _ _ _ _).visited_eq_nil env)

/-- The kinds of events that a visit without a reply can bring. -/
def quietKinds : List EventKind :=
  [.reached, .sent, .prompted, .spawned, .entryCall, .endCall, .finished, .handedOver]

/-- **A visit that no reply decides** puts nothing into a variable, tries no
branch, and saves nothing. -/
theorem visit_confined_of_unanswered {lines : List (Line H)} {position : Position}
    {cause : Cause} {reply : Option String}
    (hanswer : ∀ working, d.answerBefore w lines (d.stepAt position cause reply) working
      = .answer (working, .onward))
    (working : Progress) :
    Act.Confined quietKinds (d.visit w lines position cause reply working) := by
  rw [visit_eq]
  refine (Act.Confined.note (by simp [Event.kind, quietKinds])).bind ?_
  intro _
  refine ((d.enter_confined w _ _ _).mono (by simp [quietKinds])).bind ?_
  rintro ⟨entered, redirect⟩
  cases redirect with
  | some target => exact .pure _
  | none =>
    -- the only part that could have to do with a reply answers at once
    show Act.Confined quietKinds (d.answerBefore w lines _ entered >>= _)
    rw [hanswer]
    refine (Act.Confined.answer _).bind ?_
    rintro ⟨answered, route⟩
    exact (d.walk_confined w lines _ answered route).mono (by simp [routeKinds, quietKinds])

/-- The kinds of events that a visit can bring whose question names no
variable. -/
def keylessKinds : List EventKind := .offered :: .branchCall :: quietKinds

/-- Past the first line of a thread no callback for its entry runs. -/
theorem enter_of_later {step : Step} (hlater : step.position.index ≠ 0) (previous : String)
    (working : Progress) : d.enter w previous step working = .answer (working, none) := by
  unfold enter
  rw [if_neg fun h => hlater h.1]

/-- Where a visit leads whose reply was taken: along the route of the reply, or
if that is onward where its own line says. -/
def settle (lines : List (Line H)) (intake : Intake H) (question : Position)
    (reply : String) (step : Step) (taken : Progress × Option Position) :
    Act σ H (Progress × Move) :=
  d.afterTaking w intake question reply step taken >>= fun answered =>
    d.walk w lines step answered.1 answered.2

/-- A reply whose callbacks lead elsewhere starts there: no branch is tried, no line is run. -/
theorem settle_of_redirect (lines : List (Line H)) (intake : Intake H) (question : Position)
    (reply : String) (step : Step) (taken : Progress) (target : Position) :
    d.settle w lines intake question reply step (taken, some target)
      = d.walk w lines step taken (.restart target) :=
  pure_bind _ _

/-- Where the callbacks lead nowhere, a branch is chosen and its route taken. -/
theorem settle_of_no_redirect (lines : List (Line H)) (intake : Intake H)
    (question : Position) (reply : String) (step : Step) (taken : Progress) :
    d.settle w lines intake question reply step (taken, none)
      = (d.branch w intake question reply step taken >>= fun answered =>
          d.walk w lines step answered.1 answered.2) := rfl

/-- What follows a reply that was taken puts nothing into a variable by itself and saves nothing.
-/
theorem settle_confined (lines : List (Line H)) (intake : Intake H) (question : Position)
    (reply : String) (step : Step) (taken : Progress × Option Position) :
    Act.Confined keylessKinds (d.settle w lines intake question reply step taken) := by
  refine Act.Confined.bind ?_ ?_
  · unfold afterTaking
    split
    · exact .pure _
    · exact (d.branch_confined w _ _ _ _ _).mono
        (by simp [branchKinds, keylessKinds, quietKinds])
  · rintro ⟨answered, route⟩
    exact (d.walk_confined w lines _ answered route).mono
      (by simp [routeKinds, keylessKinds, quietKinds])

/-- **A visit with a reply to a question** takes the reply before anything
else. -/
theorem visit_of_reply {lines : List (Line H)} {position : Position} {text : String}
    {intake : Intake H} (hne : text ≠ "")
    (hquestion : questionBefore? lines position.index = some intake) (cause : Cause)
    (working : Progress) :
    d.visit w lines position cause (some text) working
      = (Act.note (.reached position) >>= fun _ =>
          d.takeReply w intake { position with index := position.index - 1 } text
              (d.stepAt position cause (some text)) (working.arrive position) >>=
            d.settle w lines intake { position with index := position.index - 1 } text
              (d.stepAt position cause (some text))) := by
  have hreply : (d.stepAt position cause (some text)).reply = some text :=
    reply_of_some rfl hne
  -- the line of a question comes before this one, so no thread is entered here
  have hlater : (d.stepAt position cause (some text)).position.index ≠ 0 := by
    obtain ⟨i, draft, hindex, _⟩ := questionBefore?_eq_some.mp hquestion
    show position.index ≠ 0
    omega
  rw [visit_eq, d.enter_of_later w hlater]
  refine bind_congr fun _ => ?_
  show (pure _ >>= _) = _
  rw [pure_bind]
  show (d.answerBefore w lines _ _ >>= _) = _
  rw [d.answerBefore_of_reply w hreply hquestion, bind_assoc]
  rfl

end Dialog

end Parley
