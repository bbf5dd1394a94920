/-
  Parley.Proofs.Redirects
  ───────────────────────
  **WHERE CALLBACKS LEAD.**

  Where a batch of callbacks leads is told at its end, from where its handle is
  then.  From what the callbacks did (`Deed`) it follows what the engine makes of
  that:

    • `Consults` — the moments in which a visit comes to a batch of callbacks,
    • `Consults.visitAt_eq` — the visit runs them, and heeds the handle that they
      hand back,
    • `serve_acknowledges` — the call goes to the thread that was moved to last, or
      goes on; or it fails, and nothing that they did is left.

  A batch for the entry of a thread stands at the first line of it, so callbacks
  that leave that thread and come back lead nowhere.  Any other batch stands at a
  later line, and a move to its own thread begins that again.
-/
import Parley.Proofs.Deeds

namespace Parley

variable {σ H : Type}

/-! ## §1. Visits. -/

/-- The position before one. -/
def Position.preceding (p : Position) : Position := { p with index := p.index - 1 }

/-- What surrounds a turn once callbacks have left the variables as they are: those for a changed
variable have them saved. -/
def Errand.kept (values : Values) (env : Env σ) : Errand H → Env σ
  | change .. => { env with saved := { env.saved with values } }
  | entry _ | branch .. => env

/-- The variables that callbacks leave are saved, if it is time for that. -/
def Errand.keep (values : Values) : Errand H → Act σ H Unit
  | change .. => .saveValues values
  | entry _ | branch .. => pure ()

/-- Keeping the variables brings no event and cannot fail. -/
theorem Errand.keep_apply (errand : Errand H) (values : Values) (env : Env σ) :
    errand.keep values env = ⟨.ok (), errand.kept values env, []⟩ := by
  cases errand <;> rfl

/-- A visit at the moment in which it comes to a batch of callbacks. -/
structure Consultation (σ H : Type) where
  /-- The lines of the thread. -/
  lines : List (Line H)
  /-- The place of the visit. -/
  place : Place σ
  /-- What the callbacks are called for. -/
  errand : Errand H
  /-- The progress by then. -/
  working : Progress
  /-- What surrounds the turn by then. -/
  env : Env σ
  /-- What has happened in the visit by then. -/
  before : List (Event H)

namespace Dialog

variable (d : Dialog H) (w : World σ H)

/-- The handle that the first callback gets. -/
def handleOf (c : Consultation σ H) : Handle := ⟨d.id, c.place.position, c.working.values⟩

/-- The moments in which a visit comes to a batch of callbacks. -/
inductive Consults : Consultation σ H → Prop
  /-- It enters a thread. -/
  | entry {lines : List (Line H)} {a : Place σ}
      (henters : Enters a.working.thread a.position) :
      Consults ⟨lines, a, .entry a.position.thread, a.working.arrive a.position, a.env,
        [.reached a.position]⟩
  /-- It has put the reply to the question before its line into a variable. -/
  | change {lines : List (Line H)} {a : Place σ} {intake : Intake H} {key reply : String}
      (hreply : a.reply = some reply) (hne : reply ≠ "")
      (hquestion : questionBefore? lines a.position.index = some intake)
      (hkey : intake.key = some key) :
      Consults ⟨lines, a, .change intake key reply,
        d.capture (a.working.arrive a.position) key reply intake.multiple, a.env,
        [.reached a.position, .captured a.position.preceding key reply]⟩
  /-- It has taken the reply, which led nowhere else, and chosen a branch that has a
  callback. -/
  | branch {lines : List (Line H)} {a : Place σ} {intake : Intake H} {reply : String}
      {branch : Branch H} {callback : H} {taken : Progress} {env : Env σ}
      {events : List (Event H)}
      (hreply : a.reply = some reply) (hne : reply ≠ "")
      (hquestion : questionBefore? lines a.position.index = some intake)
      (htaken : d.takeReply w intake a.position.preceding reply (d.stepOf a)
        (a.working.arrive a.position) a.env = ⟨.ok (taken, none), env, events⟩)
      (hselect : intake.select? reply = some branch)
      (hcallback : branch.consequence = .handler callback) :
      Consults ⟨lines, a, .branch callback reply, taken, env,
        .reached a.position :: (events ++ [.offered a.position.preceding reply])⟩

/-- How a visit goes on after callbacks that lead nowhere else: from the entry of a thread to the
reply, from there to a branch for it, and from there to its line. -/
def goOn (c : Consultation σ H) (working : Progress) : Act σ H (Progress × Move) :=
  match c.errand with
  | .entry _ =>
    d.answerBefore w c.lines (d.stepOf c.place) working >>= fun answered =>
      d.walk w c.lines (d.stepOf c.place) answered.1 answered.2
  | .change intake _ reply =>
    d.branch w intake c.place.position.preceding reply (d.stepOf c.place) working >>=
      fun answered => d.walk w c.lines (d.stepOf c.place) answered.1 answered.2
  | .branch _ _ => d.walk w c.lines (d.stepOf c.place) working .onward

/-- What a visit does with the handle that a batch hands back. -/
def heed (c : Consultation σ H) (after : Handle) : Act σ H (Progress × Move) :=
  c.errand.keep after.values >>= fun _ =>
    match after.redirect? c.place.position with
    | some target => pure ({ c.working with values := after.values }, .goOn target)
    | none => d.goOn w c { c.working with values := after.values }

variable {d w}

/-- The callbacks for the entry of a thread are called at its first line, others at a later
one. -/
theorem Consults.index {c : Consultation σ H} (h : d.Consults w c) :
    c.errand.isEntry = true ↔ c.place.position.index = 0 := by
  have hlater : ∀ {lines : List (Line H)} {index intake},
      questionBefore? lines index = some intake → index ≠ 0 := by
    intro lines index intake hquestion
    obtain ⟨i, _, rfl, _⟩ := questionBefore?_eq_some.mp hquestion
    exact Nat.succ_ne_zero i
  cases h with
  | entry henters => simp [Errand.isEntry, henters.1]
  | change _ _ hquestion | branch _ _ hquestion => simp [Errand.isEntry, hlater hquestion]

/-- A visit whose callbacks have led elsewhere does not come to its line. -/
theorem walk_restart (lines : List (Line H)) (step : Step) (working : Progress)
    (target : Position) :
    d.walk w lines step working (.restart target) = pure (working, .goOn target) :=
  pure_bind _ _

variable {lines : List (Line H)} {intake : Intake H} {question : Position} {reply : String}
  {step : Step} {working : Progress}

/-- A visit that puts a reply into a variable goes where its callbacks lead, or to a branch. -/
theorem settle_of_key {key : String} (hkey : intake.key = some key) :
    (d.takeReply w intake question reply step working >>=
        d.settle w lines intake question reply step)
      = (Act.note (.captured question key reply) >>= fun _ =>
          d.replyBatch w step.position working.values intake key reply >>= fun after =>
            Act.saveValues after.values >>= fun _ =>
              match after.redirect? step.position with
              | some target => pure ({ working with values := after.values }, .goOn target)
              | none =>
                d.branch w intake question reply step { working with values := after.values } >>=
                  fun answered => d.walk w lines step answered.1 answered.2) := by
  rw [d.takeReply_of_key w hkey]
  simp only [bind_assoc, pure_bind]
  refine bind_congr fun _ => bind_congr fun after => bind_congr fun _ => ?_
  cases after.redirect? step.position with
  | some target => rw [settle_of_redirect, walk_restart]
  | none => rw [settle_of_no_redirect]

/-- A visit whose reply has a branch with a callback goes where that leads, or to its line. -/
theorem walk_of_handler {chosen : Branch H} {callback : H}
    (hselect : intake.select? reply = some chosen)
    (hcallback : chosen.consequence = .handler callback) :
    (d.branch w intake question reply step working >>= fun answered =>
        d.walk w lines step answered.1 answered.2)
      = (Act.note (.offered question reply) >>= fun _ =>
          (Errand.branch callback reply).run d w (d.handle working step) >>= fun after =>
            match after.redirect? step.position with
            | some target => pure ({ working with values := after.values }, .goOn target)
            | none => d.walk w lines step { working with values := after.values } .onward) := by
  rw [d.branch_of_handler w hselect hcallback]
  simp only [bind_assoc, pure_bind]
  refine bind_congr fun _ => bind_congr fun after => ?_
  unfold Handle.routeFrom
  cases after.redirect? step.position with
  | some target => exact walk_restart lines step _ target
  | none => rfl

/-- **A visit that comes to a batch of callbacks** runs them, and heeds the handle that they hand
back. -/
theorem Consults.visitAt_eq {c : Consultation σ H} (h : d.Consults w c) :
    d.visitAt w c.lines c.place
      = ((c.errand.run d w (d.handleOf c) >>= d.heed w c) c.env).after c.before := by
  cases h with
  | @entry lines a henters =>
    -- the entry of a thread is the first thing in a visit
    unfold visitAt
    rw [visit_eq, Act.note_bind_apply]
    unfold enter
    rw [if_pos (show (d.stepAt a.position a.cause a.reply).position.index = 0
      ∧ a.working.thread ≠ (d.stepAt a.position a.cause a.reply).position.thread from henters),
      bind_assoc]
    rfl
  | @change lines a intake key reply hreply hne hquestion hkey =>
    -- after a question no thread is entered, and the reply is taken first
    obtain ⟨position, cause, _, working, env⟩ := a
    cases hreply
    have hvisit : d.visit w lines position cause (some reply) working = _ :=
      d.visit_of_reply w hne hquestion cause working
    rw [settle_of_key hkey] at hvisit
    show d.visit w lines position cause (some reply) working env = _
    rw [hvisit, Act.note_bind_apply, Act.note_bind_apply, Outcome.after_after]
    rfl
  | @branch lines a intake reply branch callback taken env events hreply hne hquestion htaken
      hselect hcallback =>
    -- what came of taking the reply is in the progress and the events by then
    obtain ⟨position, cause, _, working, env₀⟩ := a
    cases hreply
    have hvisit : d.visit w lines position cause (some reply) working = _ :=
      d.visit_of_reply w hne hquestion cause working
    show d.visit w lines position cause (some reply) working env₀ = _
    rw [hvisit, Act.note_bind_apply]
    refine (congrArg (Outcome.after _) (Act.bind_of_ok htaken)).trans ?_
    rw [settle_of_no_redirect, walk_of_handler hselect hcallback, Act.note_bind_apply,
      Outcome.after_after, Outcome.after_after]
    rfl

/-! ## §2. Calls. -/

variable (d w) in
/-- In a call, after some events, the turn comes to a batch of callbacks at a line, with `left`
lines of its budget for what follows that. -/
structure ComesTo (call : Call) (env : Env σ) (past : List (Event H)) (left : Nat)
    (c : Consultation σ H) : Prop where
  /-- Visits lead to the place. -/
  path : ∃ start n, d.outset call env = some start ∧ d.Leads w n start past c.place
    ∧ n + (left + 1) = d.settings.maxSteps
  /-- There is a line. -/
  thread : d.script.thread? c.place.position.thread = some c.lines
  /-- It is one of those. -/
  line : c.place.position.index < c.lines.length
  /-- The visit to it comes to the callbacks. -/
  consults : d.Consults w c

/-- The progress of a turn after callbacks that did all that. -/
def progressAfter (d : Dialog H) (c : Consultation σ H) (made : List Deed) : Progress :=
  { c.working with values := ((d.handleOf c).perform made).values }

variable (d w) in
/-- What a call comes to in which a batch of callbacks did what the outcome says. -/
structure Acknowledges (call : Call) (env : Env σ) (past : List (Event H)) (left : Nat)
    (c : Consultation σ H) (o : Outcome σ H (List Deed)) : Prop where
  /-- The callbacks are in the order of registration. -/
  order : ∀ made, d.hooks = .registered made → c.errand.callbacks d = c.errand.registeredIn made
  /-- They run in that order, each with the handle that the world handed back to the one before, up
  to the first that fails. -/
  batch : Batch w (c.errand.calling w) (c.errand.callbacks d) (d.handleOf c) c.env
    ⟨o.result.map (d.handleOf c).perform, o.env, o.events⟩
  /-- While they run nothing is saved. -/
  saved : o.env.saved = c.env.saved
  /-- If one fails, the call fails there, and nothing that they did is saved. -/
  failed : ∀ fault, o.result = .error fault →
    d.serve w call env = ⟨.error fault, o.env, past ++ (c.before ++ o.events)⟩
  /-- If none fails, a variable holds what was written into it last, and what it held before if
  nothing was. -/
  holds : ∀ made, o.result = .ok made → ∀ key,
    (d.progressAfter c made).values.get? key
      = (lastWrite? made key).or (c.working.values.get? key)
  /-- The turn goes to the start of the thread that was moved to last; but not after callbacks for
  the entry of that thread. -/
  restarts : ∀ made thread, o.result = .ok made → lastGoto? made = some thread →
    (c.errand.isEntry = true → thread ≠ c.place.position.thread) →
    d.serve w call env
      = (d.loopAt w left (.onward ⟨thread, 0⟩ (d.progressAfter c made)
          (c.errand.kept (d.progressAfter c made).values o.env))).commit.after
            (past ++ (c.before ++ o.events))
  /-- In that case, and if nothing was moved, the visit goes on. -/
  goesOn : ∀ made, o.result = .ok made →
    (∀ thread, lastGoto? made = some thread →
      c.errand.isEntry = true ∧ thread = c.place.position.thread) →
    d.serve w call env
      = (((d.goOn w c (d.progressAfter c made) >>= d.pursue w left)
          (c.errand.kept (d.progressAfter c made).values o.env)).commit).after
            (past ++ (c.before ++ o.events))

/-- Where callbacks have led elsewhere, that is where the turn goes on. -/
theorem heed_of_redirect {c : Consultation σ H} {after : Handle} {target : Position}
    (hredirect : after.redirect? c.place.position = some target) (env : Env σ) :
    d.heed w c after env = ⟨.ok ({ c.working with values := after.values }, .goOn target),
      c.errand.kept after.values env, []⟩ := by
  unfold heed
  rw [hredirect, Act.bind_of_ok (c.errand.keep_apply after.values env)]
  rfl

/-- Where callbacks have led nowhere, the visit goes on with what they left. -/
theorem heed_of_no_redirect {c : Consultation σ H} {after : Handle}
    (hredirect : after.redirect? c.place.position = none) (env : Env σ) :
    d.heed w c after env = d.goOn w c { c.working with values := after.values }
      (c.errand.kept after.values env) := by
  unfold heed
  rw [hredirect, Act.bind_of_ok (c.errand.keep_apply after.values env)]
  rfl

/-- A turn that comes to a batch of callbacks runs them, and heeds the handle that they hand
back. -/
theorem ComesTo.serve_eq {call : Call} {env : Env σ} {past : List (Event H)} {left : Nat}
    {c : Consultation σ H} (h : d.ComesTo w call env past left c) :
    d.serve w call env
      = ((c.errand.run d w (d.handleOf c) >>= d.heed w c >>= d.pursue w left)
          c.env).commit.after (past ++ c.before) := by
  obtain ⟨start, n, houtset, hleads, hbudget⟩ := h.path
  have hvisit : d.visit w c.lines c.place.position c.place.cause c.place.reply c.place.working
      c.place.env = _ := h.consults.visitAt_eq
  rw [d.serve_of_outset w houtset, ← hbudget, hleads.loopAt_eq, d.loopAt_succ w h.thread h.line,
    Act.bind_of_after hvisit, Outcome.after_after, Outcome.commit_after]

/-- Where the handle leads at the end of a batch: to the thread that was moved to last, unless the
batch is for the entry of that. -/
theorem Consults.redirect?_eq_some {c : Consultation σ H} (h : d.Consults w c)
    {made : List Deed} {thread : String} (hlast : lastGoto? made = some thread)
    (hleft : c.errand.isEntry = true → thread ≠ c.place.position.thread) :
    ((d.handleOf c).perform made).redirect? c.place.position = some ⟨thread, 0⟩ := by
  refine Handle.redirect?_perform (h := d.handleOf c) hlast fun hback => ?_
  have hback : (⟨thread, 0⟩ : Position) = c.place.position := hback
  -- past the first line of a thread, even its own start is elsewhere
  have hentry : c.errand.isEntry = true := h.index.mpr (congrArg Position.index hback).symm
  exact hleft hentry (congrArg Position.thread hback)

/-- It leads nowhere else if nothing was moved, or if a batch for the entry of a thread came back to
that. -/
theorem Consults.redirect?_eq_none {c : Consultation σ H} (h : d.Consults w c)
    {made : List Deed} (hback : ∀ thread, lastGoto? made = some thread →
      c.errand.isEntry = true ∧ thread = c.place.position.thread) :
    ((d.handleOf c).perform made).redirect? c.place.position = none := by
  refine Handle.redirect?_perform_eq_none (h := d.handleOf c) fun thread hlast => ?_
  obtain ⟨hentry, rfl⟩ := hback thread hlast
  show (⟨c.place.position.thread, 0⟩ : Position) = c.place.position
  rw [← h.index.mp hentry]

/-- **The call heeds what a batch of callbacks did.**  It goes to the thread that the callbacks
moved to last, or goes on if that is the thread which they are called for the entry of, or if they
moved nowhere; and it finds in the variables what they wrote last.  If one of them fails, it fails,
and nothing that they did is left. -/
theorem serve_acknowledges {deeds : H → Option String → Handle → Session → σ → List Deed}
    (hdoes : w.Does deeds) {call : Call} {env : Env σ} {past : List (Event H)} {left : Nat}
    {c : Consultation σ H} (h : d.ComesTo w call env past left c) :
    d.Acknowledges w call env past left c
      (c.errand.allDeeds d w deeds (d.handleOf c) c.env) := by
  have hrun := c.errand.run_eq (d := d) hdoes (d.handleOf c)
  have hserve := h.serve_eq
  have hbatch := c.errand.run_batch d w (d.handleOf c) c.env
  have hsaved := (c.errand.run_confined d w (d.handleOf c)).saved c.env
  -- the handle that the batch hands back, as all that its callbacks did to the one it got
  rw [hrun, Act.bind_pure_apply] at hbatch hsaved
  rw [hrun, bind_assoc, bind_assoc] at hserve
  simp only [pure_bind] at hserve
  rcases hdeeds : c.errand.allDeeds d w deeds (d.handleOf c) c.env with ⟨result, env', events⟩
  rw [hdeeds] at hbatch hsaved
  refine ⟨fun made hhooks => Errand.callbacks_eq hhooks c.errand, hbatch, hsaved, ?failed, ?holds,
    ?restarts, ?goesOn⟩
  case failed =>
    rintro fault rfl
    rw [hserve, Act.bind_of_error hdeeds, ← List.append_assoc]
    rfl
  case holds =>
    intro made _ key
    exact (d.handleOf c).get?_perform made key
  case restarts =>
    rintro made thread rfl hlast hleft
    have hheed := heed_of_redirect (d := d) (w := w) (h.consults.redirect?_eq_some hlast hleft) env'
    rw [hserve, Act.bind_of_ok hdeeds, Act.bind_of_ok hheed, Outcome.commit_after,
      Outcome.after_nil, Outcome.after_after, List.append_assoc]
    rfl
  case goesOn =>
    rintro made rfl hback
    have hheed := heed_of_no_redirect (d := d) (w := w) (h.consults.redirect?_eq_none hback) env'
    rw [hserve, Act.bind_of_ok hdeeds, Act.bind_of_after (hheed.trans (Outcome.after_nil _).symm),
      Outcome.commit_after, Outcome.after_nil, Outcome.after_after, List.append_assoc]
    rfl

/-- A dialog that asks in its main thread.  Two callbacks for the entry of that lead to another
thread and back; one about the reply leads to the main thread. -/
def roundDialog : Dialog Routine where
  id := "round"
  script := (Script.empty.addQuestion "default" {} (.capture "name")).addMessage "default" {}
  hooks := .registered [
    .entry "default" [.set "seen" (.bool true), .goto "cellar"],
    .change "name" [.copy "name" "seen", .goto "default"],
    .entry "default" [.ifVar "seen" (.bool true) [.goto "default"]]]

/-- What surrounds a call. -/
def roundEnv (saved : Progress) : Env Stage := ⟨Stage.new "c", ⟨[], 0⟩, saved⟩

/-- It begins, and comes to the callbacks for the entry of its main thread. -/
def roundEntry : Consultation Stage Routine where
  lines := [.question {} (.capture "name"), .message {}]
  place := ⟨⟨"default", 0⟩, .begun, none, .start "" .empty, roundEnv (.start "" .empty)⟩
  errand := .entry "default"
  working := .start "default" .empty
  env := roundEnv (.start "" .empty)
  before := [.reached ⟨"default", 0⟩]

/-- It gets a reply, and comes to the callback about that. -/
def roundChange : Consultation Stage Routine where
  lines := roundEntry.lines
  place := ⟨⟨"default", 1⟩, .continued, some "Ann", .start "default" .empty,
    roundEnv (.start "default" .empty)⟩
  errand := .change (.capture "name") "name" "Ann"
  working := {
    thread := "default", index := 1, values := Table.empty.insert "name" (.string "Ann") }
  env := roundEnv (.start "default" .empty)
  before := [.reached ⟨"default", 1⟩, .captured ⟨"default", 0⟩ "name" "Ann"]

/-- The callbacks for the entry leave the main thread and come back, and lead nowhere; the one about
the reply leads to the thread in which it is called. -/
theorem roundDialog_acknowledges :
    (roundDialog.Acknowledges Stage.world (.begin .empty) (roundEnv {}) [] 255 roundEntry
        (roundEntry.errand.allDeeds roundDialog Stage.world Routine.deeds
          (roundDialog.handleOf roundEntry) roundEntry.env)
      ∧ (roundEntry.errand.allDeeds roundDialog Stage.world Routine.deeds
          (roundDialog.handleOf roundEntry) roundEntry.env).result
        = .ok [.set "seen" (.bool true), .goto "cellar", .goto "default"])
    ∧ roundDialog.Acknowledges Stage.world (.resume .continued (some "Ann"))
        (roundEnv (.start "default" .empty)) [] 255 roundChange
        (roundChange.errand.allDeeds roundDialog Stage.world Routine.deeds
          (roundDialog.handleOf roundChange) roundChange.env)
      ∧ (roundChange.errand.allDeeds roundDialog Stage.world Routine.deeds
          (roundDialog.handleOf roundChange) roundChange.env).result
        = .ok [.set "seen" (.string "Ann"), .goto "default"] := by
  have hentry : roundDialog.ComesTo Stage.world (.begin .empty) (roundEnv {}) [] 255 roundEntry :=
    ⟨⟨_, 0, rfl, .here _, rfl⟩, rfl, by decide, .entry (by decide)⟩
  have hchange : roundDialog.ComesTo Stage.world (.resume .continued (some "Ann"))
      (roundEnv (.start "default" .empty)) [] 255 roundChange :=
    ⟨⟨_, 0, rfl, .here _, rfl⟩, rfl, by decide, .change rfl (by decide) rfl rfl⟩
  exact ⟨⟨serve_acknowledges Stage.world_does hentry, rfl⟩,
    serve_acknowledges Stage.world_does hchange, rfl⟩

end Dialog

end Parley
