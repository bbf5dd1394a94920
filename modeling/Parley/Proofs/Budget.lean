/-
  Parley.Proofs.Budget
  ────────────────────
  **A TURN THAT RUNS OUT OF LINES, AND THE TURN AFTER IT.**

  A turn that has visited as many lines as its budget says stops before the
  next one.  Had the budget been larger, it would have gone on there:

    • `resolve_round` — one visit of a loop does not depend on the budget,
    • `resolve_split` — so a loop with budget `n` either is the loop with any
      larger budget, or it is cut off, and the larger one is this loop and then
      the loop that begins where it was cut off.

  What is saved names a thread and a line, and whether that line is still to be
  run.  It can name the next position only if that is in the thread of the line
  visited last (`cutOff_resumption`): then the next turn goes on exactly as the
  longer turn would have.  A jump to another thread is lost otherwise; the next
  turn goes on after the line that jumped.
-/
import Parley.Proofs.Turns
import Parley.Stage

namespace Parley

variable {σ H : Type}

namespace Dialog

variable (d : Dialog H) (w : World σ H)

/-! ## §1. One visit, whatever the budget. -/

/-- **One round of a loop.**  With a budget of at least one line a loop comes to
the same whatever is left of the budget, or it visits its position and goes on
as the loop from another one. -/
theorem resolve_round (position : Position) (cause : Cause) (reply : Option String)
    (working : Progress) (env : Env σ) :
    (∃ o, ∀ m, d.resolve w (m + 1) position cause reply working env = o)
      ∨ ∃ target moved env' events, d.script.HasLine position
        ∧ moved.position = position ∧ moved.replay = false ∧ visited events = [position]
        ∧ ∀ m, d.resolve w (m + 1) position cause reply working env
            = (d.resolve w m target .advanced none moved env').after events := by
  by_cases hline : d.script.HasLine position
  · -- the visit is the same with every budget; only what follows it is not
    obtain ⟨lines, hthread, hin⟩ := hline
    have hyields := d.visit_yields w lines position cause reply working env
    have hvisited := d.visit_visited w lines position cause reply working env
    rcases hvisit : d.visit w lines position cause reply working env with
      ⟨result, env', events⟩
    rw [hvisit] at hyields hvisited
    cases result with
    | error fault =>
      refine .inl ⟨⟨.error fault, env', events⟩, ?_⟩
      intro m
      rw [d.resolve_of_line w hthread hin, Act.bind_of_error hvisit]
    | ok moved =>
      obtain ⟨moved, move⟩ := moved
      cases move with
      | stop report =>
        refine .inl ⟨⟨.ok (moved, report), env', events ++ []⟩, ?_⟩
        intro m
        rw [d.resolve_of_line w hthread hin, Act.bind_of_ok hvisit]
        rfl
      | goOn target =>
        have hstays := hyields (moved, .goOn target) rfl
        refine .inr ⟨target, moved, env', events, ⟨lines, hthread, hin⟩, hstays.position,
          hstays.replay target rfl, hvisited, ?_⟩
        intro m
        rw [d.resolve_of_line w hthread hin, Act.bind_of_ok hvisit]
        rfl
  · refine .inl ⟨d.resolve w 0 position cause reply working env, ?_⟩
    intro m
    rw [d.resolve_of_no_line w hline]

/-! ## §2. Loops that are cut off. -/

/-- With budget `n` the loop is cut off before `next`, with the progress
`stopped`; with a larger budget it goes on there. -/
structure CutBefore (n : Nat) (loop : Nat → Act σ H (Progress × Report)) (env : Env σ)
    (next : Position) (stopped : Progress) (env' : Env σ) (events : List (Event H)) :
    Prop where
  /-- There is a line at the next position. -/
  line : d.script.HasLine next
  /-- The progress stands at a line. -/
  stands : d.script.HasLine stopped.position
  /-- That line is not to be run again. -/
  done : stopped.replay = false
  /-- The loop waits. -/
  waits : loop n env = ⟨.ok (cutOff stopped next, .waiting), env', events⟩
  /-- With a larger budget it goes on. -/
  goesOn : ∀ c, loop (n + c) env
    = (d.resolve w c next .advanced none stopped env').after events

variable {d w} in
/-- A visit before a loop that is cut off, which takes one line of the budget. -/
theorem CutBefore.after_round {n : Nat} {loop : Nat → Act σ H (Progress × Report)}
    {target next : Position} {moved stopped : Progress} {env env' env'' : Env σ}
    {events events' : List (Event H)}
    (hround : ∀ m, loop (m + 1) env
      = (d.resolve w m target .advanced none moved env').after events)
    (hcut : d.CutBefore w n (fun n => d.resolve w n target .advanced none moved) env' next
      stopped env'' events') :
    d.CutBefore w (n + 1) loop env next stopped env'' (events ++ events') := by
  refine ⟨hcut.line, hcut.stands, hcut.done, ?_, ?_⟩
  · rw [hround, hcut.waits]
    rfl
  · intro c
    rw [Nat.add_right_comm, hround, hcut.goesOn, Outcome.after_after]

/-- A loop without a reply, and the loops with larger budgets. -/
theorem resolve_split_none (n : Nat) :
    ∀ (position : Position) (working : Progress) (env : Env σ),
      d.script.HasLine working.position → working.replay = false →
      (∀ c, d.resolve w (n + c) position .advanced none working env
          = d.resolve w n position .advanced none working env)
        ∨ ∃ next stopped env' events,
          d.CutBefore w n (fun n => d.resolve w n position .advanced none working) env next
            stopped env' events
          ∧ stopped.position = (visited events).getLast?.getD working.position := by
  -- on the budget; the progress handed on stands at the line visited last
  induction n with
  | zero =>
    intro position working env hstands hdone
    by_cases hline : d.script.HasLine position
    · -- nothing is left of the budget, and there is a line to visit
      refine .inr ⟨position, working, env, [], ⟨hline, hstands, hdone, ?_, ?_⟩, rfl⟩
      · obtain ⟨lines, hthread, hin⟩ := hline
        show d.resolve w 0 position .advanced none working env = _
        rw [d.resolve_of_spent w hthread hin]
        rfl
      · intro c
        rw [Nat.zero_add, Outcome.after_nil]
    · -- there is no line to visit, whatever is left
      refine .inl fun c => ?_
      rw [d.resolve_of_no_line w hline]
  | succ n ih =>
    intro position working env _ _
    rcases d.resolve_round w position .advanced none working env with
      ⟨o, hsame⟩ | ⟨target, moved, env', events, hline, hat, hdone, hvisited, hround⟩
    · refine .inl fun c => ?_
      rw [Nat.add_right_comm, hsame, hsame]
    · rcases ih target moved env' (hat ▸ hline) hdone with
        hsame | ⟨next, stopped, env'', events', hcut, hlast⟩
      · refine .inl fun c => ?_
        rw [Nat.add_right_comm, hround, hround, hsame]
      · refine .inr ⟨next, stopped, env'', events ++ events', hcut.after_round hround, ?_⟩
        rw [visited_append, hvisited, List.singleton_append, List.getLast?_cons,
          Option.getD_some, hlast, hat]

/-- **A loop, and the loops with larger budgets.**  Either they come to the
same, or the loop is cut off, after it visited the line it stands at. -/
theorem resolve_split (n : Nat) (position : Position) (cause : Cause) (reply : Option String)
    (working : Progress) (env : Env σ) :
    (∀ c, d.resolve w (n + 1 + c) position cause reply working env
        = d.resolve w (n + 1) position cause reply working env)
      ∨ ∃ next stopped env' events,
        d.CutBefore w (n + 1) (fun n => d.resolve w n position cause reply working) env next
          stopped env' events
        ∧ (visited events).getLast? = some stopped.position := by
  rcases d.resolve_round w position cause reply working env with
    ⟨o, hsame⟩ | ⟨target, moved, env', events, hline, hat, hdone, hvisited, hround⟩
  · refine .inl fun c => ?_
    rw [Nat.add_right_comm, hsame, hsame]
  · rcases d.resolve_split_none w n target moved env' (hat ▸ hline) hdone with
      hsame | ⟨next, stopped, env'', events', hcut, hlast⟩
    · refine .inl fun c => ?_
      rw [Nat.add_right_comm, hround, hround, hsame]
    · refine .inr ⟨next, stopped, env'', events ++ events', hcut.after_round hround, ?_⟩
      rw [visited_append, hvisited, List.singleton_append, List.getLast?_cons, hlast, hat]

/-! ## §3. The position that a turn begins with. -/

/-- A loop that may visit a line resolves the position it begins with first, if
there is a line. -/
theorem resolve_visits {position : Position} (hline : d.script.HasLine position) (n : Nat)
    (cause : Cause) (reply : Option String) (working : Progress) (env : Env σ) :
    ∃ rest, visited (d.resolve w (n + 1) position cause reply working env).events
      = position :: rest := by
  obtain ⟨lines, hthread, hin⟩ := hline
  rw [d.resolve_of_line w hthread hin]
  have hvisited := d.visit_visited w lines position cause reply working env
  rcases Act.bind_cases (d.visit w lines position cause reply working) (d.pursue w n) env
    with ⟨fault, env', events, hvisit, hseq⟩ | ⟨moved, env', events, hvisit, hseq⟩
  · rw [hvisit] at hvisited
    rw [hseq]
    exact ⟨[], hvisited⟩
  · rw [hvisit] at hvisited
    refine ⟨visited (d.pursue w n moved env').events, ?_⟩
    rw [hseq, Outcome.after_events, visited_append,
      show visited events = [position] from hvisited]
    rfl

/-- A loop resolves no position before the one it begins with. -/
theorem resolve_first (n : Nat) {position p : Position} {cause : Cause}
    {reply : Option String} {working : Progress} {env : Env σ}
    (hfirst : (visited (d.resolve w n position cause reply working env).events).head? = some p) :
    p = position := by
  have hzero : visited (d.resolve w 0 position cause reply working env).events = [] :=
    (Act.Lacks.of_confined (d.resolve_zero_confined w position cause reply working)
      (by simp)).visited_eq_nil env
  by_cases hline : d.script.HasLine position
  · cases n with
    | zero =>
      rw [hzero] at hfirst
      cases hfirst
    | succ n =>
      obtain ⟨rest, hvisited⟩ := d.resolve_visits w hline n cause reply working env
      rw [hvisited] at hfirst
      cases hfirst
      rfl
  · rw [d.resolve_of_no_line w hline, hzero] at hfirst
    cases hfirst

/-! ## §4. Dialogs with other budgets. -/

/-- The dialog with another budget. -/
def withBudget (n : Nat) : Dialog H :=
  { d with settings := { d.settings with maxSteps := n } }

/-- With its own budget it is the same dialog. -/
theorem withBudget_self : d.withBudget d.settings.maxSteps = d := rfl

/-- A loop is given its budget; what the settings say does not count. -/
theorem resolve_withBudget (k n : Nat) (position : Position) (cause : Cause)
    (reply : Option String) (working : Progress) :
    (d.withBudget k).resolve w n position cause reply working
      = d.resolve w n position cause reply working := by
  have hzero : ∀ position cause reply working,
      (d.withBudget k).resolve w 0 position cause reply working
        = d.resolve w 0 position cause reply working := by
    intro position cause reply working
    unfold resolve
    rfl
  -- on the budget that is given; the two dialogs have the same visits
  induction n generalizing position cause reply working with
  | zero => exact hzero position cause reply working
  | succ n ih =>
    by_cases hline : d.script.HasLine position
    · obtain ⟨lines, hthread, hin⟩ := hline
      rw [(d.withBudget k).resolve_of_line w hthread hin, d.resolve_of_line w hthread hin]
      show (d.visit w lines position cause reply working >>= _) = _
      refine bind_congr ?_
      rintro ⟨moved, move⟩
      cases move with
      | goOn target => exact ih target .advanced none moved
      | stop report => rfl
    · rw [(d.withBudget k).resolve_of_no_line w hline, d.resolve_of_no_line w hline, hzero]

/-- A turn with another budget is a loop with that budget. -/
theorem turn_withBudget (n : Nat) (position : Position) (cause : Cause)
    (reply : Option String) (env : Env σ) :
    (d.withBudget n).turn w position cause reply env
      = (d.resolve w n position cause reply env.saved env).commit := by
  rw [turn_eq, resolve_withBudget]
  rfl

/-- **A call runs a loop with the budget**, from a position and progress that do
not depend on it, or it does nothing. -/
theorem serve_withBudget (call : Call) (env : Env σ) :
    (∃ position cause reply saved, ∀ n, (d.withBudget n).serve w call env
        = (d.resolve w n position cause reply saved { env with saved }).commit)
      ∨ ∃ result, ∀ n, (d.withBudget n).serve w call env = ⟨result, env, []⟩ := by
  cases htask : call.task env.saved with
  | begin options =>
    refine .inl ⟨⟨d.startThread options, 0⟩, .begun, none, Progress.start "" options, ?_⟩
    intro n
    rw [serve_eq, htask]
    show (d.withBudget n).begin w options env = _
    rw [begin_apply]
    exact d.turn_withBudget w n _ _ _ _
  | turn cause reply =>
    refine .inl ⟨env.saved.resumePosition, cause, reply, env.saved, ?_⟩
    intro n
    rw [serve_eq, htask]
    exact d.turn_withBudget w n env.saved.resumePosition cause reply env
  | nothing result =>
    refine .inr ⟨result, ?_⟩
    intro n
    rw [serve_eq, htask]
    cases result <;> rfl

/-! ## §5. The turn after a turn that was cut off. -/

/-- The position that the next turn begins with, after one that was cut off
before `next`. -/
theorem cutOff_resumePosition {stopped : Progress} (hdone : stopped.replay = false)
    (next : Position) :
    (cutOff stopped next).resumePosition
      = if next.thread = stopped.thread then next
        else ⟨stopped.thread, stopped.index + 1⟩ := by
  unfold cutOff
  by_cases hsame : next.thread = stopped.thread
  · rw [if_pos hsame, if_pos hsame]
    show (⟨stopped.thread, next.index⟩ : Position) = next
    rw [← hsame]
  · rw [if_neg hsame, if_neg hsame]
    show (⟨stopped.thread, if stopped.replay = true then _ else _⟩ : Position) = _
    rw [hdone]
    rfl

/-- From where a loop was cut off the next loop does what the longer loop would
have done, if the position is in the same thread. -/
theorem resolve_cutOff {next : Position} {stopped : Progress}
    (hline : d.script.HasLine next) (hsame : next.thread = stopped.thread) (n : Nat)
    (cause : Cause) :
    d.resolve w (n + 1) next cause none (cutOff stopped next)
      = d.resolve w (n + 1) next .advanced none stopped := by
  obtain ⟨lines, hthread, hin⟩ := hline
  rw [d.resolve_of_line w hthread hin, d.resolve_of_line w hthread hin]
  unfold cutOff
  rw [if_pos hsame]
  -- a visit looks at the thread it came from and overwrites the rest
  rfl

/-- A turn in two parts: what happens in the first and in the second is what
happens in the whole, which ends as the second does. -/
structure InTwo (first second whole : Outcome σ H Report) : Prop where
  /-- The same happens, in the same order. -/
  events : whole.events = first.events ++ second.events
  /-- The results are the same. -/
  result : whole.result = second.result
  /-- After a success everything left behind is the same. -/
  env : ∀ report, whole.result = .ok report → whole.env = second.env

/-- What a turn that was cut off before `next` comes to, after it visited the
line at `last`. -/
structure CutTurn (call : Call) (env : Env σ) (next last : Position)
    (o : Outcome σ H Report) : Prop where
  /-- The dialog waits. -/
  waiting : o.result = .ok .waiting
  /-- The line visited last. -/
  visitedLast : (visited o.events).getLast? = some last
  /-- The next turn goes on at the next position, if that is in the thread of
  the line visited last; else it goes on after that line. -/
  resumes : o.env.saved.resumePosition
    = if next.thread = last.thread then next else ⟨last.thread, last.index + 1⟩
  /-- The next turn, in whatever surroundings, resolves the next position first
  if and only if that is in the thread of the line visited last. -/
  firstIff : ∀ cause reply world words,
    (visited (d.resume w cause reply ⟨world, words, o.env.saved⟩).events).head? = some next
      ↔ next.thread = last.thread
  /-- If it is, the turn and the next one without a reply, with any budget, are
  the turn with both budgets. -/
  inTwo : next.thread = last.thread → ∀ n cause, InTwo o
    ((d.withBudget (n + 1)).resume w cause none o.env)
    ((d.withBudget (d.settings.maxSteps + (n + 1))).serve w call env)

variable {d w} in
/-- A turn whose loop was cut off before `next` is one that was cut off there. -/
theorem CutBefore.cutTurn {n : Nat} {loop : Nat → Act σ H (Progress × Report)}
    {env₀ env env' : Env σ} {next : Position} {stopped : Progress} {events : List (Event H)}
    (hcut : d.CutBefore w n loop env₀ next stopped env' events)
    (hlast : (visited events).getLast? = some stopped.position)
    (hnamed : d.script.hasThread "" = false) (hbudget : 0 < d.settings.maxSteps)
    {call : Call} (hserve : ∀ c, (d.withBudget (d.settings.maxSteps + c)).serve w call env
      = ((d.resolve w c next .advanced none stopped env').commit).after events) :
    d.CutTurn w call env next stopped.position
      ⟨.ok .waiting, { env' with saved := cutOff stopped next }, events⟩ := by
  have hresumes := cutOff_resumePosition hcut.done next
  have hstarted : (cutOff stopped next).isStarted = true :=
    (d.cutOff_hasLine hcut.stands hcut.line).isStarted hnamed
  refine ⟨rfl, hlast, hresumes, ?_, ?_⟩
  · intro cause reply world words
    obtain ⟨b, hb⟩ := Nat.exists_eq_succ_of_ne_zero (Nat.ne_of_gt hbudget)
    have hturn := d.resume_of_started w
      (show (⟨world, words, cutOff stopped next⟩ : Env σ).saved.isStarted = true from hstarted)
      cause reply
    rw [hturn, turn_eq, Outcome.commit_events, hresumes]
    -- the next turn resolves the position it begins with, and no other before it
    by_cases hsame : next.thread = stopped.thread
    · rw [if_pos hsame, hb]
      obtain ⟨rest, hvisited⟩ := d.resolve_visits w hcut.line b cause reply
        (cutOff stopped next) ⟨world, words, cutOff stopped next⟩
      rw [hvisited]
      exact ⟨fun _ => hsame, fun _ => rfl⟩
    · rw [if_neg hsame]
      refine ⟨fun hfirst => ?_, fun h => absurd h hsame⟩
      have hnext := d.resolve_first w d.settings.maxSteps hfirst
      rw [hnext]
      rfl
  · intro hsame m cause
    change next.thread = stopped.thread at hsame
    -- both parts come to loops from `next` that differ in what is saved
    have hapart := (d.resolve_confined w (m + 1) next .advanced stopped).apart env'
      (cutOff stopped next)
    have hsecond : (d.withBudget (m + 1)).resume w cause none
          { env' with saved := cutOff stopped next }
        = ((d.resolve w (m + 1) next .advanced none stopped env').withSaved
            (cutOff stopped next)).commit := by
      have hturn := (d.withBudget (m + 1)).resume_of_started w
        (show { env' with saved := cutOff stopped next }.saved.isStarted = true from hstarted)
        cause none
      rw [if_pos hsame] at hresumes
      rw [hturn, turn_withBudget, ← hapart, ← d.resolve_cutOff w hcut.line hsame m cause]
      show (d.resolve w (m + 1) (cutOff stopped next).resumePosition _ _ _ _).commit = _
      rw [hresumes]
    rw [hsecond, hserve]
    refine ⟨?_, ?_, ?_⟩
    · simp only [Outcome.after_events, Outcome.commit_events, Outcome.withSaved_events]
    · simp only [Outcome.after_result, Outcome.commit_result, Outcome.withSaved_result]
    · -- if the second part fails the first is still saved, so successes alone agree
      intro report hreport
      rw [Outcome.after_result, Outcome.commit_result] at hreport
      cases hdone : (d.resolve w (m + 1) next .advanced none stopped env').result with
      | error fault =>
        rw [hdone] at hreport
        cases hreport
      | ok done => rw [Outcome.commit_withSaved hdone, Outcome.after_env]

/-- **Where a turn goes on that was cut off.**  If a turn with one more line in
its budget would have gone on at `next`, the dialog waits.  The next turn
resolves that position first if and only if it is in the thread of the line
visited last; then it goes on as a turn with a larger budget would have, and
otherwise it goes on after the line visited last. -/
theorem cutOff_resumption (hnamed : d.script.hasThread "" = false)
    (hbudget : 0 < d.settings.maxSteps) {call : Call} {env : Env σ} {next : Position}
    {rest : List (Event H)}
    (hcut : ((d.withBudget (d.settings.maxSteps + 1)).serve w call env).events
      = (d.serve w call env).events ++ .reached next :: rest) :
    ∃ last, d.CutTurn w call env next last (d.serve w call env) := by
  obtain ⟨b, hb⟩ := Nat.exists_eq_succ_of_ne_zero (Nat.ne_of_gt hbudget)
  have hself : d.serve w call env = (d.withBudget d.settings.maxSteps).serve w call env := by
    rw [withBudget_self]
  rcases d.serve_withBudget w call env with
    ⟨position, cause, reply, saved, hserve⟩ | ⟨result, hserve⟩
  · rcases d.resolve_split w b position cause reply saved { env with saved } with
      hsame | ⟨next', stopped, env', events, hcutBefore, hlast⟩
    · -- the larger budget makes no difference, so it cannot bring another event
      rw [hself, hserve, hserve, hb, hsame] at hcut
      simp at hcut
    · have hturn : d.serve w call env
          = ⟨.ok .waiting, { env' with saved := cutOff stopped next' }, events⟩ := by
        rw [hself, hserve, hb, hcutBefore.waits]
        rfl
      have hlonger : ∀ c, (d.withBudget (d.settings.maxSteps + c)).serve w call env
          = ((d.resolve w c next' .advanced none stopped env').commit).after events := by
        intro c
        rw [hserve, hb, ← Outcome.commit_after]
        exact congrArg Outcome.commit (hcutBefore.goesOn c)
      -- the longer turn goes on with what the loop resolves first after the cut
      have hnext : next = next' := by
        rw [hlonger, hturn, Outcome.after_events, Outcome.commit_events] at hcut
        have hevents := List.append_cancel_left hcut
        have hfirst : (visited (d.resolve w 1 next' .advanced none stopped env').events).head?
            = some next := by
          rw [hevents]
          rfl
        exact d.resolve_first w 1 hfirst
      subst hnext
      rw [hturn]
      exact ⟨stopped.position, hcutBefore.cutTurn hlast hnamed hbudget hlonger⟩
  · rw [hself, hserve, hserve] at hcut
    cases hcut

/-- A dialog with two messages, and a budget of one line. -/
def tickDialog : Dialog Routine where
  id := "tick"
  script := (Script.empty.say {}).say {}
  settings := { maxSteps := 1 }

/-- A dialog is about to begin. -/
def freshEnv : Env Stage := ⟨Stage.new "c", ⟨[], 0⟩, {}⟩

/-- Its first turn is cut off before the second line, with which the next one begins. -/
theorem tickDialog_resumption :
    ∃ last, tickDialog.CutTurn Stage.world (.begin .empty) freshEnv ⟨"default", 1⟩ last
      (tickDialog.serve Stage.world (.begin .empty) freshEnv) := by
  have hcut : ((tickDialog.withBudget 2).serve Stage.world (.begin .empty) freshEnv).events
      = (tickDialog.serve Stage.world (.begin .empty) freshEnv).events
        ++ .reached ⟨"default", 1⟩ :: [.finished none true] := rfl
  exact tickDialog.cutOff_resumption Stage.world (by decide) (by decide) hcut

/-- A dialog that jumps to another thread, and a budget of one line. -/
def jumpDialog : Dialog Routine where
  id := "jump"
  script := ((Script.empty.addAction "default" {} (.jump "b")).say {}).addMessage "b" {}
  settings := { maxSteps := 1 }

/-- The turn is cut off before the start of the thread jumped to, where a turn
with a larger budget goes on; the next turn goes on at another line. -/
theorem jumpDialog_loses_jump :
    jumpDialog.script.hasThread "" = false ∧ jumpDialog.settings.validate = .ok ()
      ∧ ((jumpDialog.withBudget 2).serve Stage.world (.begin .empty) freshEnv).events
        = (jumpDialog.serve Stage.world (.begin .empty) freshEnv).events
          ++ .reached ⟨"b", 0⟩ :: [.finished none true]
      ∧ visited (jumpDialog.resume Stage.world .continued none
          (jumpDialog.serve Stage.world (.begin .empty) freshEnv).env).events
        = [⟨"default", 1⟩] :=
  ⟨rfl, rfl, rfl, rfl⟩

end Dialog

end Parley
