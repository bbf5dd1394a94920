/-
  Parley.Proofs.Replies
  ─────────────────────
  **A REPLY GOES TO THE QUESTION THAT WAS ASKED LAST.**

  A turn that asks a question leaves the dialog waiting at it.  The next turn
  takes the reply at the line after the question, and it does so in one order,
  each part in the environment that the one before it left:

      reached   — the line after the question is resolved,
      captured  — the reply is put into the variable of the question, if it
                  names one, and the callbacks for that run (`Taking`),
      offered   — unless they led elsewhere, the branch that the question
                  selects for the reply decides (`Choosing`),
      the rest  — whatever the turn then does, it puts nothing more into a
                  variable and tries no more branches (`Rest`).

  What callbacks hand back is what the world answers (`Batch`), so it is not
  open where they lead or which variables they leave.  If the question is the
  last line of its thread, the reply ends the dialog instead.
-/
import Parley.Proofs.Asking
import Parley.Stage

namespace Parley

variable {σ H : Type}

/-- The position of the next line. -/
def Position.following (p : Position) : Position := { p with index := p.index + 1 }

namespace Dialog

variable (d : Dialog H) (w : World σ H)

/-! ## §1. What a reply brings. -/

/-- The text that a variable holds once a reply was put into it. -/
inductive Joining (values : Values) (key reply : String) (multiple : Bool) : String → Prop
  /-- Replies are joined, and the variable showed something: the reply comes
  after it and the separator. -/
  | onto {held : String} (hmultiple : multiple = true)
      (hheld : values.shown? key = some held) (hne : held ≠ "") :
      Joining values key reply multiple (held ++ d.settings.separator ++ reply)
  /-- Otherwise the reply stands alone. -/
  | alone (h : multiple = true → ∀ held, values.shown? key = some held → held = "") :
      Joining values key reply multiple reply

/-- The reply to the question at `q` is taken in an environment.  The answer is the
variables and where the callbacks led, if elsewhere. -/
inductive Taking (q : Position) (intake : Intake H) (reply : String) (values : Values)
    (env : Env σ) : Outcome σ H (Values × Option Position) → Prop
  /-- The question names no variable. -/
  | unnamed (hkey : intake.key = none) : Taking q intake reply values env ⟨.ok (values, none), env, []⟩
  /-- The reply is put into the variable, and exactly the callbacks for that
  variable run, with the reply; one fails, or no session is made for them. -/
  | failed {key text : String} {fault : Fault} {env' : Env σ} {events : List (Event H)}
      (hkey : intake.key = some key)
      (hjoining : d.Joining values key reply intake.multiple text)
      (hbatch : Batch w (w.changing reply) (d.hooks.atChange key)
        ⟨d.id, q.following, values.insert key (.string text)⟩ env
        ⟨.error fault, env', events⟩) :
      Taking q intake reply values env ⟨.error fault, env', .captured q key reply :: events⟩
  /-- The reply is put into the variable, and exactly the callbacks for that
  variable run, with the reply, and succeed.  The variables that they hand back are
  saved. -/
  | done {key text : String} {after : Handle} {env' : Env σ} {events : List (Event H)}
      (hkey : intake.key = some key)
      (hjoining : d.Joining values key reply intake.multiple text)
      (hbatch : Batch w (w.changing reply) (d.hooks.atChange key)
        ⟨d.id, q.following, values.insert key (.string text)⟩ env ⟨.ok after, env', events⟩) :
      Taking q intake reply values env
        ⟨.ok (after.values, after.redirect? q.following),
          { env' with saved := { env'.saved with values := after.values } },
          .captured q key reply :: events⟩

/-- The branch that the question at `q` selects for the reply decides, in an
environment.  The answer is the variables and the route. -/
inductive Choosing (q : Position) (intake : Intake H) (reply : String) (values : Values)
    (env : Env σ) : Outcome σ H (Values × Route) → Prop
  /-- No branch is selected. -/
  | unmatched (hbranch : intake.select? reply = none) :
      Choosing q intake reply values env ⟨.ok (values, .onward), env, []⟩
  /-- The branch orders a directive. -/
  | ordered {branch : Branch H} {directive : Directive}
      (hbranch : intake.select? reply = some branch)
      (horder : branch.consequence = .directive directive) :
      Choosing q intake reply values env
        ⟨.ok (values, directive.route d.script q.following), env, []⟩
  /-- A callback is to decide, and fails, or no session is made for it. -/
  | failed {branch : Branch H} {callback : H} {fault : Fault} {env' : Env σ}
      {events : List (Event H)} (hbranch : intake.select? reply = some branch)
      (horder : branch.consequence = .handler callback)
      (hbatch : Batch w (w.branching reply) [callback] ⟨d.id, q.following, values⟩ env
        ⟨.error fault, env', events⟩) :
      Choosing q intake reply values env ⟨.error fault, env', events⟩
  /-- A callback decides: where it moved the handle to, or if it did not on to
  the line after the question. -/
  | decided {branch : Branch H} {callback : H} {after : Handle} {env' : Env σ}
      {events : List (Event H)} (hbranch : intake.select? reply = some branch)
      (horder : branch.consequence = .handler callback)
      (hbatch : Batch w (w.branching reply) [callback] ⟨d.id, q.following, values⟩ env
        ⟨.ok after, env', events⟩) :
      Choosing q intake reply values env
        ⟨.ok (after.values, after.routeFrom q.following), env', events⟩

/-- What is left of a turn when a step leads along a route. -/
def remainder (budget : Nat) (lines : List (Line H)) (step : Step) (working : Progress)
    (route : Route) : Act σ H (Progress × Report) :=
  d.walk w lines step working route >>= d.pursue w budget

/-- The rest of a turn, once its reply has led somewhere: it is what the engine
does in the environment that is left by then, and it has nothing to do with a
reply. -/
structure Rest (act : Act σ H (Progress × Report)) (env : Env σ)
    (o : Outcome σ H (Progress × Report)) : Prop where
  /-- It is what the engine does. -/
  leads : act env = o
  /-- Nothing is put into a variable, no branch is tried, and none of the
  callbacks for that run. -/
  quiet : ∀ e ∈ o.events, e.kind ∈ quietKinds

/-- The turn that takes the reply to the question at `q`, which has a line after
it, in an environment. -/
inductive Answering (budget : Nat) (lines : List (Line H)) (q : Position) (intake : Intake H)
    (reply : String) (step : Step) (working : Progress) (env : Env σ) :
    Outcome σ H Report → Prop
  /-- The callbacks for the reply fail, and with them the turn. -/
  | untaken {fault : Fault} {env' : Env σ} {taking : List (Event H)}
      (htaking : d.Taking w q intake reply working.values env ⟨.error fault, env', taking⟩) :
      Answering budget lines q intake reply step working env
        ⟨.error fault, env', .reached q.following :: taking⟩
  /-- The callbacks for the reply lead elsewhere: the turn goes on there, and no
  branch is tried. -/
  | redirected {values : Values} {target : Position} {env' : Env σ} {taking : List (Event H)}
      {rest : Outcome σ H (Progress × Report)}
      (htaking : d.Taking w q intake reply working.values env
        ⟨.ok (values, some target), env', taking⟩)
      (hrest : Rest (d.resolve w budget target .advanced none { working with values }) env'
        rest) :
      Answering budget lines q intake reply step working env
        (rest.commit.after (.reached q.following :: taking))
  /-- The callback of the branch fails, and with it the turn. -/
  | undecided {values : Values} {fault : Fault} {env' env'' : Env σ}
      {taking choosing : List (Event H)}
      (htaking : d.Taking w q intake reply working.values env
        ⟨.ok (values, none), env', taking⟩)
      (hchoosing : d.Choosing w q intake reply values env' ⟨.error fault, env'', choosing⟩) :
      Answering budget lines q intake reply step working env
        ⟨.error fault, env'', .reached q.following :: taking ++ .offered q reply :: choosing⟩
  /-- The branch decides what the rest of the turn is. -/
  | decided {values values' : Values} {route : Route} {env' env'' : Env σ}
      {taking choosing : List (Event H)} {rest : Outcome σ H (Progress × Report)}
      (htaking : d.Taking w q intake reply working.values env
        ⟨.ok (values, none), env', taking⟩)
      (hchoosing : d.Choosing w q intake reply values env'
        ⟨.ok (values', route), env'', choosing⟩)
      (hrest : Rest (d.remainder w budget lines step { working with values := values' } route)
        env'' rest) :
      Answering budget lines q intake reply step working env
        (rest.commit.after
          (.reached q.following :: taking ++ .offered q reply :: choosing))

/-- The turn that is given a reply past the end of a thread: the dialog ends
with the reply, and nothing but callbacks for the end runs. -/
structure EndedByReply (reply : String) (values : Values) (o : Outcome σ H Report) :
    Prop where
  /-- The host is told the reply first, and then the callbacks for the end. -/
  told : ∃ ok rest, o.events = .finished (some reply) ok :: rest
    ∧ ∀ e ∈ rest, e.kind ∈ [EventKind.spawned, .endCall]
  /-- A success reports the variables as they were. -/
  report : ∀ report, o.result = .ok report → report = .complete values

/-! ## §2. The parts of an answering turn. -/

variable {d} in
/-- What a variable is to hold is the reply, alone or joined to what it shows. -/
theorem joined_joining {values : Values} {key reply : String} {multiple : Bool} :
    d.Joining values key reply multiple (d.joined values key reply multiple) := by
  unfold joined
  cases hshown : values.shown? key with
  | none => exact .alone fun _ held hheld => by rw [hshown] at hheld; cases hheld
  | some held =>
    -- joined if replies are and there is something to join to, else alone
    by_cases hjoins : multiple = true ∧ held ≠ ""
    · show d.Joining values key reply multiple (if _ then _ else _)
      rw [if_pos hjoins]
      exact .onto hjoins.1 hshown hjoins.2
    · show d.Joining values key reply multiple (if _ then _ else _)
      rw [if_neg hjoins]
      refine .alone ?_
      intro hmultiple held' hheld
      rw [hshown] at hheld
      cases hheld
      exact Decidable.not_not.mp fun hne => hjoins ⟨hmultiple, hne⟩

variable {d} in
/-- A variable holds nothing else once a reply was put into it. -/
theorem Joining.joined_eq {values : Values} {key reply text : String} {multiple : Bool}
    (h : d.Joining values key reply multiple text) :
    d.joined values key reply multiple = text := by
  unfold joined
  cases h with
  | onto hmultiple hheld hne => simp [hheld, hmultiple, hne]
  | alone h =>
    cases hshown : values.shown? key with
    | none => rfl
    | some held =>
      refine if_neg ?_
      rintro ⟨hmultiple, hne⟩
      exact hne (h hmultiple held hshown)

/-- A reply is taken with the callbacks for the variable of its question, as the
engine runs them. -/
theorem Taking.of_ok {q : Position} {intake : Intake H} {reply key : String} {values : Values}
    {env env' : Env σ} {after : Handle} {events : List (Event H)} (hkey : intake.key = some key)
    (hrun : d.replyBatch w q.following values intake key reply env
      = ⟨.ok after, env', events⟩) :
    d.Taking w q intake reply values env
      ⟨.ok (after.values, after.redirect? q.following),
        { env' with saved := { env'.saved with values := after.values } },
        .captured q key reply :: events⟩ :=
  .done hkey joined_joining ((batch_iff w).mpr hrun)

/-- **Taking a reply** goes as `Taking` says. -/
theorem takeReply_taking (q : Position) (intake : Intake H) (reply : String) (cause : Cause)
    (given : Option String) (working : Progress) (env : Env σ) :
    (∃ fault env' events,
        d.takeReply w intake q reply (d.stepAt q.following cause given) working env
            = ⟨.error fault, env', events⟩
          ∧ d.Taking w q intake reply working.values env ⟨.error fault, env', events⟩)
      ∨ ∃ values redirect env' events,
        d.takeReply w intake q reply (d.stepAt q.following cause given) working env
            = ⟨.ok ({ working with values }, redirect), env', events⟩
          ∧ d.Taking w q intake reply working.values env
            ⟨.ok (values, redirect), env', events⟩ := by
  -- the callbacks are called only for a question that names a variable
  cases hkey : intake.key with
  | none =>
    rw [d.takeReply_of_no_key w hkey]
    exact .inr ⟨working.values, none, env, [], rfl, .unnamed hkey⟩
  | some key =>
    rcases hrun : d.replyBatch w q.following working.values intake key reply env with
      ⟨result, env', events⟩
    cases result with
    | error fault =>
      have htake : d.takeReply w intake q reply (d.stepAt q.following cause given) working env
          = ⟨.error fault, env', .captured q key reply :: events⟩ :=
        d.takeReply_of_error w hkey hrun
      exact .inl ⟨fault, env', _, htake, .failed hkey joined_joining ((batch_iff w).mpr hrun)⟩
    | ok after =>
      have htake : d.takeReply w intake q reply (d.stepAt q.following cause given) working env
          = ⟨.ok ({ working with values := after.values }, after.redirect? q.following),
              { env' with saved := { env'.saved with values := after.values } },
              .captured q key reply :: events⟩ :=
        d.takeReply_of_ok w hkey hrun
      exact .inr ⟨after.values, _, _, _, htake, .of_ok d w hkey hrun⟩

variable {d w} in
/-- A reply is taken in no other way. -/
theorem Taking.takeReply_eq {q : Position} {intake : Intake H} {reply : String}
    {working : Progress} {values : Values} {redirect : Option Position} {env env' : Env σ}
    {events : List (Event H)}
    (h : d.Taking w q intake reply working.values env ⟨.ok (values, redirect), env', events⟩)
    (cause : Cause) (given : Option String) :
    d.takeReply w intake q reply (d.stepAt q.following cause given) working env
      = ⟨.ok ({ working with values }, redirect), env', events⟩ := by
  cases h with
  | unnamed hkey =>
    rw [d.takeReply_of_no_key w hkey]
    rfl
  | done hkey hjoining hbatch =>
    rw [← hjoining.joined_eq] at hbatch
    exact d.takeReply_of_ok w hkey ((batch_iff w).mp hbatch)

variable {d w} in
/-- Taking a reply draws no words. -/
theorem Taking.words {q : Position} {intake : Intake H} {reply : String} {values : Values}
    {env : Env σ} {o : Outcome σ H (Values × Option Position)}
    (h : d.Taking w q intake reply values env o) : o.env.words = env.words := by
  cases h with
  | unnamed => rfl
  | failed _ _ hbatch => exact hbatch.words
  | done _ _ hbatch => exact hbatch.words

variable {d w} in
/-- Taking a reply brings it into the variable, and the calls of the callbacks for that. -/
theorem Taking.kinds {q : Position} {intake : Intake H} {reply : String} {values : Values}
    {env : Env σ} {o : Outcome σ H (Values × Option Position)}
    (h : d.Taking w q intake reply values env o) : ∀ e ∈ o.events, e.kind ∈ takingKinds := by
  have hcalls : ∀ {key handle} {o : Outcome σ H Handle},
      Batch w (w.changing reply) (d.hooks.atChange key) handle env o →
      ∀ e ∈ o.events, e.kind ∈ takingKinds := fun hbatch e he =>
    (by decide : [EventKind.spawned, .changeCall] ⊆ takingKinds)
      (hbatch.kinds (fun _ _ _ => rfl) e he)
  cases h with
  | unnamed => exact fun _ he => absurd he List.not_mem_nil
  | failed _ _ hbatch => exact List.forall_mem_cons.mpr ⟨List.mem_cons_self, hcalls hbatch⟩
  | done _ _ hbatch => exact List.forall_mem_cons.mpr ⟨List.mem_cons_self, hcalls hbatch⟩

/-- **Choosing a branch** goes as `Choosing` says, after one event for it. -/
theorem branch_choosing (q : Position) (intake : Intake H) (reply : String) (cause : Cause)
    (given : Option String) (working : Progress) (env : Env σ) :
    (∃ fault env' events,
        d.branch w intake q reply (d.stepAt q.following cause given) working env
            = ⟨.error fault, env', .offered q reply :: events⟩
          ∧ d.Choosing w q intake reply working.values env ⟨.error fault, env', events⟩)
      ∨ ∃ values route env' events,
        d.branch w intake q reply (d.stepAt q.following cause given) working env
            = ⟨.ok ({ working with values }, route), env', .offered q reply :: events⟩
          ∧ d.Choosing w q intake reply working.values env
            ⟨.ok (values, route), env', events⟩ := by
  -- which branch wins is settled before any callback is called
  cases hbranch : intake.select? reply with
  | none =>
    exact .inr ⟨working.values, .onward, env, [], d.branch_of_unmatched w hbranch _ _ _ _,
      .unmatched hbranch⟩
  | some branch =>
    cases horder : branch.consequence with
    | directive directive =>
      exact .inr ⟨working.values, directive.route d.script q.following, env, [],
        d.branch_of_directive w hbranch horder _ _ _ _, .ordered hbranch horder⟩
    | handler callback =>
      rcases hrun : runBatch w (w.branching reply).call [callback]
        ⟨d.id, q.following, working.values⟩ env with ⟨result, env', events⟩
      have hbatch := (batch_iff w).mpr hrun
      cases result with
      | error fault =>
        exact .inl ⟨fault, env', events, d.branch_of_error w hbranch horder hrun,
          .failed hbranch horder hbatch⟩
      | ok after =>
        exact .inr ⟨after.values, after.routeFrom q.following, env', events,
          d.branch_of_ok w hbranch horder hrun, .decided hbranch horder hbatch⟩

/-! ## §3. Turns that answer. -/

/-- What the engine does is the rest of a turn, if it cannot bring such events. -/
theorem Rest.of_confined {act : Act σ H (Progress × Report)}
    (hact : Act.Confined quietKinds act) (env : Env σ) : Rest act env (act env) :=
  ⟨rfl, hact.events env⟩

/-- What is left of a turn puts no reply into a variable and offers none. -/
theorem remainder_confined (budget : Nat) (lines : List (Line H)) (step : Step)
    (working : Progress) (route : Route) :
    Act.Confined quietKinds (d.remainder w budget lines step working route) :=
  ((d.walk_confined w lines step working route).mono (by simp [routeKinds, quietKinds])).bind
    (d.pursue_confined w budget)

/-- **A loop with a reply to a question** goes as `Answering` says. -/
theorem resolve_answering {lines : List (Line H)} {q : Position} {intake : Intake H}
    (hthread : d.script.thread? q.thread = some lines) (hin : q.index + 1 < lines.length)
    (hquestion : d.script.question? q = some intake) {reply : String} (hne : reply ≠ "")
    (budget : Nat) (cause : Cause) (working : Progress) (env : Env σ) :
    d.Answering w budget lines q intake reply (d.stepAt q.following cause (some reply))
      (working.arrive q.following) env
      (d.resolve w (budget + 1) q.following cause (some reply) working env).commit := by
  have hbefore : questionBefore? lines q.following.index = some intake := by
    unfold Script.question? at hquestion
    rw [hthread] at hquestion
    exact hquestion
  have hhere : d.script.thread? q.following.thread = some lines := hthread
  have hround : d.resolve w (budget + 1) q.following cause (some reply) working
      = (d.visit w lines q.following cause (some reply) working >>= d.pursue w budget) :=
    d.resolve_of_line w hhere hin budget cause (some reply) working
  have hvisit : d.visit w lines q.following cause (some reply) working
      = (Act.note (.reached q.following) >>= fun _ =>
          d.takeReply w intake q reply (d.stepAt q.following cause (some reply))
              (working.arrive q.following) >>=
            d.settle w lines intake q reply (d.stepAt q.following cause (some reply))) :=
    d.visit_of_reply w hne hbefore cause working
  -- the parts of the turn in their order, each from where the one before left off
  rw [hround, hvisit, bind_assoc, Act.note_bind_apply, bind_assoc, Outcome.commit_after]
  rcases d.takeReply_taking w q intake reply cause (some reply) (working.arrive q.following) env
    with ⟨fault, env', taking, htake, htaking⟩ | ⟨values, redirect, env', taking, htake, htaking⟩
  · rw [Act.bind_of_error htake]
    exact .untaken htaking
  · rw [Act.bind_of_ok htake, Outcome.commit_after, Outcome.after_after]
    cases redirect with
    | some target =>
      -- a restart neither runs the line nor tries a branch
      have hgoes : (d.settle w lines intake q reply (d.stepAt q.following cause (some reply))
            ({ working.arrive q.following with values }, some target) >>= d.pursue w budget)
          = d.resolve w budget target .advanced none
              { working.arrive q.following with values } := by
        rw [settle_of_redirect]
        rfl
      rw [hgoes]
      exact .redirected htaking (.of_confined (d.resolve_confined w budget target .advanced
        { working.arrive q.following with values }) env')
    | none =>
      rw [settle_of_no_redirect, bind_assoc]
      rcases d.branch_choosing w q intake reply cause (some reply)
          { working.arrive q.following with values } env' with
        ⟨fault, env'', choosing, hbranch, hchoosing⟩
          | ⟨values', route, env'', choosing, hbranch, hchoosing⟩
      · rw [Act.bind_of_error hbranch]
        exact .undecided htaking hchoosing
      · rw [Act.bind_of_ok hbranch, Outcome.commit_after, Outcome.after_after]
        exact .decided htaking hchoosing (.of_confined (d.remainder_confined w budget lines
          (d.stepAt q.following cause (some reply))
          { working.arrive q.following with values := values' } route) env'')

/-- **A loop with a reply past the end of a thread** ends the dialog with it. -/
theorem resolve_endedByReply {lines : List (Line H)} {position : Position}
    (hthread : d.script.thread? position.thread = some lines)
    (hend : lines.length ≤ position.index) (reply : String) (budget : Nat) (cause : Cause)
    (working : Progress) (env : Env σ) :
    (∃ ok rest, (d.resolve w budget position cause (some reply) working env).events
        = .finished (some reply) ok :: rest
      ∧ ∀ e ∈ rest, e.kind ∈ [EventKind.spawned, .endCall])
    ∧ ∀ report,
        (d.resolve w budget position cause (some reply) working env).result.map Prod.snd
          = .ok report → report = .complete working.values := by
  rw [d.resolve_of_end w hthread hend]
  unfold conclude
  rcases Act.call_cases (H := H) (.finished (some reply)) (w.finish (some reply)) env with
    ⟨fault, world, hfinish⟩ | ⟨_, world, hfinish⟩
  · -- the host fails to end the dialog, and nothing else is tried
    rw [Act.bind_of_error (Act.bind_of_error hfinish)]
    exact ⟨⟨false, [], rfl, by simp⟩, fun report h => by cases h⟩
  · rw [bind_assoc, Act.bind_of_ok hfinish, bind_assoc]
    have hevents := (d.runEnd_confined w working.values).events { env with world }
    rcases hrun : d.runEnd w working.values { env with world } with ⟨result, env', events⟩
    rw [hrun] at hevents
    cases result with
    | error fault =>
      rw [Act.bind_of_error hrun]
      exact ⟨⟨true, events, rfl, hevents⟩, fun report h => by cases h⟩
    | ok _ =>
      rw [Act.bind_of_ok hrun]
      refine ⟨⟨true, events, by simp, hevents⟩, ?_⟩
      intro report hreport
      cases hreport
      rfl

/-! ## §4. Questions and their replies. -/

/-- With this progress saved, a reply in the next turn, whatever the world has
come to by then, goes to the question at `q` among the lines of its thread. -/
structure TakesReply (saved : Progress) (lines : List (Line H)) (q : Position)
    (intake : Intake H) : Prop where
  /-- If a line follows the question, the reply is taken there. -/
  answered : q.index + 1 < lines.length → ∀ cause reply world words, reply ≠ "" →
    d.Answering w (d.settings.maxSteps - 1) lines q intake reply
      (d.stepAt q.following cause (some reply)) (saved.arrive q.following)
      ⟨world, words, saved⟩ (d.resume w cause (some reply) ⟨world, words, saved⟩)
  /-- If none does, the reply ends the dialog. -/
  ended : q.index + 1 = lines.length → ∀ cause reply world words, reply ≠ "" →
    EndedByReply reply saved.values (d.resume w cause (some reply) ⟨world, words, saved⟩)

variable {d w} in
/-- A dialog that waits at a question takes the next reply for it. -/
theorem Asked.takesReply {q : Position} {prompt : String} {message : Message}
    {o : Outcome σ H Report} (h : d.Asked q prompt message o)
    (hnamed : d.script.hasThread "" = false) {lines : List (Line H)} {intake : Intake H}
    (hthread : d.script.thread? q.thread = some lines)
    (hquestion : d.script.question? q = some intake) :
    d.TakesReply w o.env.saved lines q intake := by
  have hposition : o.env.saved.position = q := by
    unfold Progress.position
    rw [h.thread, h.index]
  have hin : q.index < lines.length := by
    unfold Script.question? at hquestion
    rw [hthread, Option.bind_some] at hquestion
    obtain ⟨line, hline, _⟩ := Option.bind_eq_some_iff.mp hquestion
    exact (List.getElem?_eq_some_iff.mp hline).1
  have hstarted : o.env.saved.isStarted = true := by
    have hline : d.script.HasLine o.env.saved.position := hposition ▸ ⟨lines, hthread, hin⟩
    exact hline.isStarted hnamed
  have hresume : o.env.saved.resumePosition = q.following := by
    unfold Progress.resumePosition Progress.resumeIndex
    rw [h.replay, h.thread, h.index]
    rfl
  have hturn : ∀ cause reply world words,
      d.resume w cause (some reply) ⟨world, words, o.env.saved⟩
        = d.turn w q.following cause (some reply) ⟨world, words, o.env.saved⟩ := by
    intro cause reply world words
    have hhere : (⟨world, words, o.env.saved⟩ : Env σ).saved.isStarted = true := hstarted
    rw [← hresume, d.resume_of_started w hhere]
  constructor
  · intro hlater cause reply world words hne
    obtain ⟨budget, hbudget⟩ := Nat.exists_eq_succ_of_ne_zero h.visits
    rw [hturn, turn_eq, hbudget]
    exact d.resolve_answering w hthread hlater hquestion hne budget cause o.env.saved _
  · intro hlast cause reply world words _
    have hend : lines.length ≤ q.following.index := Nat.le_of_eq hlast.symm
    have hhere : d.script.thread? q.following.thread = some lines := hthread
    have hloop := d.resolve_endedByReply w hhere hend reply d.settings.maxSteps cause o.env.saved
      ⟨world, words, o.env.saved⟩
    rw [hturn, turn_eq]
    refine ⟨?_, ?_⟩
    · rw [Outcome.commit_events]
      exact hloop.1
    · rw [Outcome.commit_result]
      exact hloop.2

/-- **A question and its reply.**  If a call asks a question with success, it
leaves the dialog waiting there, and whatever the world has come to by the next
turn, a reply in that turn goes to the question: it is put into the variable of
the question, the callbacks for that run, the branch that the question selects
decides, and the rest of the turn has nothing to do with a reply; after the last
line of a thread it ends the dialog. -/
theorem reply_to_asked (hnamed : d.script.hasThread "" = false) {q : Position}
    {prompt : String} {message : Message} {call : Call} {env : Env σ}
    (hasked : .prompted q prompt message true ∈ (d.serve w call env).events) :
    d.Asked q prompt message (d.serve w call env)
      ∧ ∃ lines intake, d.script.thread? q.thread = some lines
        ∧ d.script.question? q = some intake
        ∧ d.TakesReply w (d.serve w call env).env.saved lines q intake := by
  have hwaits := d.serve_asked w hasked
  obtain ⟨intake, hquestion⟩ := hwaits.question
  obtain ⟨lines, hthread, _⟩ := Option.bind_eq_some_iff.mp hquestion
  exact ⟨hwaits, lines, intake, hthread, hquestion,
    hwaits.takesReply hnamed hthread hquestion⟩

/-- A dialog that asks for a color, calls back about it, and jumps on green.  The callback
leads elsewhere on blue, which a branch is for as well. -/
def colorDialog : Dialog Routine where
  id := "color"
  script := (((Script.empty.ask {}
      { key := some "color", branches := [
        .matching .string "green" (· == "green") (.directive (.jump "lawn")),
        .matching .string "blue" (· == "blue") (.directive (.jump "lawn"))] }).say
          {}).addMessage "lawn" {}).addMessage "pond" {}
  hooks := Hooks.none.onChange "color" [.setReply "seen", .ifReply "blue" [.goto "pond"]]

/-- The dialog is about to begin. -/
def colorEnv : Env Stage := ⟨(Stage.new "c").register "colloquy_text_prompt", ⟨[], 0⟩, {}⟩

/-- The color is asked for, and a reply in the next turn goes to that question. -/
theorem colorDialog_reply :
    colorDialog.Asked ⟨"default", 0⟩ "colloquy_text_prompt" {}
        (colorDialog.serve Stage.world (.begin .empty) colorEnv)
      ∧ ∃ lines intake, colorDialog.script.thread? "default" = some lines
        ∧ colorDialog.script.question? ⟨"default", 0⟩ = some intake
        ∧ colorDialog.TakesReply Stage.world
            (colorDialog.serve Stage.world (.begin .empty) colorEnv).env.saved lines
            ⟨"default", 0⟩ intake := by
  have hasked : .prompted ⟨"default", 0⟩ "colloquy_text_prompt" {} true
      ∈ (colorDialog.serve Stage.world (.begin .empty) colorEnv).events := .tail _ (.head _)
  exact colorDialog.reply_to_asked Stage.world (by decide) hasked

/-- A green reply leads to the lawn, where its branch jumps; a blue one to the pond, where the
callback leads, and no branch is tried. -/
example :
    visited (colorDialog.resume Stage.world .continued (some "green")
        { colorEnv with saved := { thread := "default" } }).events
      = [⟨"default", 1⟩, ⟨"lawn", 0⟩]
    ∧ visited (colorDialog.resume Stage.world .continued (some "blue")
        { colorEnv with saved := { thread := "default" } }).events
      = [⟨"default", 1⟩, ⟨"pond", 0⟩] := by
  decide

end Dialog

end Parley
