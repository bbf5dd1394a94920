/-
  Parley.Proofs.EmptyReply
  ────────────────────────
  **AN EMPTY REPLY IS NO REPLY.**

  A visit takes what the user sent for a reply only if it is not empty, and
  nothing else in it looks at what was sent:

    • `visit_empty` — so a visit with the empty text is a visit with none,
    • `turn_empty` — so is a turn that does not begin past the last line of its
      thread,
    • `turn_of_end` — a turn that begins there is the end of the dialog, of which
      the host is told with whatever was sent,
    • `resume_empty` — so the two ways to go on with a dialog differ at most in
      what the host is told at its end.
-/
import Parley.Proofs.FailedBegin
import Parley.Proofs.Twins

namespace Parley

variable {σ H : Type}

/-- It makes no difference to the world, but for what `R` allows, which of two replies it is
told when a dialog ends in a state. -/
structure World.EndsAlike (w : World σ H) (R : σ → σ → Prop) (reply reply' : Option String)
    (s : σ) : Prop where
  /-- It takes the end alike. -/
  result : (w.finish reply s).1 = (w.finish reply' s).1
  /-- It comes into related states. -/
  states : R (w.finish reply s).2 (w.finish reply' s).2
  /-- In related states sessions are made alike. -/
  spawn : Agree R w.spawn w.spawn
  /-- In related states callbacks for the end do the same. -/
  atEnd : ∀ h values session, Agree R (w.atEnd h values session) (w.atEnd h values session)

namespace Dialog

variable (d : Dialog H) (w : World σ H)

/-! ## §1. What a visit sees of what the user sent. -/

section Visits

variable {position : Position} {cause : Cause} {given given' : Option String}

/-- Of what was sent, only the reply can lead anywhere. -/
theorem answerBefore_congr
    (h : (d.stepAt position cause given).reply = (d.stepAt position cause given').reply)
    (lines : List (Line H)) (working : Progress) :
    d.answerBefore w lines (d.stepAt position cause given) working
      = d.answerBefore w lines (d.stepAt position cause given') working := by
  unfold answerBefore
  rw [h]
  rfl

/-- Of what was sent, only the reply can be told to the host. -/
theorem follow_congr
    (h : (d.stepAt position cause given).reply = (d.stepAt position cause given').reply)
    (working : Progress) (route : Route) :
    d.follow w (d.stepAt position cause given) working route
      = d.follow w (d.stepAt position cause given') working route := by
  cases route with
  | finish ending =>
    unfold follow
    rw [h]
  | _ => rfl

/-- **A visit sees the reply alone** of what the user sent. -/
theorem visit_congr
    (h : (d.stepAt position cause given).reply = (d.stepAt position cause given').reply)
    (lines : List (Line H)) (working : Progress) :
    d.visit w lines position cause given working
      = d.visit w lines position cause given' working := by
  have henter : ∀ previous arrived,
      d.enter w previous (d.stepAt position cause given) arrived
        = d.enter w previous (d.stepAt position cause given') arrived := fun _ _ => rfl
  rw [visit_eq, visit_eq]
  refine bind_congr fun _ => ?_
  rw [henter]
  refine bind_congr ?_
  rintro ⟨entered, redirect⟩
  cases redirect with
  | some target => rfl
  | none =>
    show (d.answerBefore w lines (d.stepAt position cause given) entered >>= _) = _
    rw [d.answerBefore_congr w h]
    refine bind_congr ?_
    rintro ⟨answered, route⟩
    -- the line is run at its position, whatever was sent
    show (d.lineRoute w lines (d.stepAt position cause given') answered route >>= fun led =>
      d.follow w (d.stepAt position cause given) led.1 led.2) = _
    refine bind_congr ?_
    rintro ⟨led, route'⟩
    exact d.follow_congr w h led route'

end Visits

/-- A visit with the empty text is a visit with none. -/
theorem visit_empty (lines : List (Line H)) (position : Position) (cause : Cause)
    (working : Progress) :
    d.visit w lines position cause (some "") working
      = d.visit w lines position cause none working :=
  d.visit_congr w rfl lines working

/-! ## §2. Turns. -/

/-- **A turn with the empty text** is a turn with none, if it does not begin past the last
line of its thread. -/
theorem turn_empty {position : Position}
    (hshort : ∀ lines, d.script.thread? position.thread = some lines →
      position.index < lines.length) (cause : Cause) :
    d.turn w position cause (some "") = d.turn w position cause none := by
  have hloop : ∀ budget working, d.resolve w budget position cause (some "") working
      = d.resolve w budget position cause none working := by
    intro budget working
    cases hthread : d.script.thread? position.thread with
    | none => rw [d.resolve_of_unknown w hthread, d.resolve_of_unknown w hthread]
    | some lines =>
      have hin := hshort lines hthread
      cases budget with
      | zero => rw [d.resolve_of_spent w hthread hin, d.resolve_of_spent w hthread hin]
      | succ budget =>
        rw [d.resolve_of_line w hthread hin, d.resolve_of_line w hthread hin, visit_empty]
  funext env
  rw [turn_eq, turn_eq, hloop]

/-- **A turn that begins past the last line** of its thread is the end of the dialog, with
the variables as they are and with whatever was sent. -/
theorem turn_of_end {position : Position} {lines : List (Line H)}
    (hthread : d.script.thread? position.thread = some lines)
    (hend : lines.length ≤ position.index) (cause : Cause) (reply : Option String)
    (env : Env σ) :
    d.turn w position cause reply env = d.conclude w reply env.saved.values env := by
  rw [turn_eq, d.resolve_of_end w hthread hend]
  have hsaved := (d.conclude_confined w reply env.saved.values).saved env
  rcases h : d.conclude w reply env.saved.values env with ⟨result, env', events⟩
  rw [h] at hsaved
  cases result with
  | error fault =>
    rw [Act.bind_of_error h]
    rfl
  | ok report =>
    -- what is saved at the end of the turn was saved before
    rw [Act.bind_of_ok h]
    change env'.saved = env.saved at hsaved
    simp [Outcome.commit, Outcome.after, ← hsaved]

/-- Two outcomes of the end of a dialog, of which the host was told with different replies:
all else is the same, and the states of the world are related. -/
structure ToldApart (R : σ → σ → Prop) (reply reply' : Option String)
    (o o' : Outcome σ H Report) : Prop where
  /-- The results are the same. -/
  result : o.result = o'.result
  /-- The same is saved, and the world is left alike. -/
  env : o.env.Matches R o'.env
  /-- The same happens once the host was told. -/
  events : ∃ ok rest, o.events = .finished reply ok :: rest
    ∧ o'.events = .finished reply' ok :: rest

variable {w} in
/-- A world that takes two replies alike brings about the same end with them. -/
theorem conclude_toldApart {R : σ → σ → Prop} {reply reply' : Option String} {env : Env σ}
    (halike : w.EndsAlike R reply reply' env.world) (values : Values) :
    ToldApart R reply reply' (d.conclude w reply values env)
      (d.conclude w reply' values env) := by
  obtain ⟨hresult, hstates, hspawn, hatEnd⟩ := halike
  rcases hfinish : w.finish reply env.world with ⟨result, world⟩
  rcases hfinish' : w.finish reply' env.world with ⟨result', world'⟩
  rw [hfinish, hfinish'] at hresult hstates
  change result = result' at hresult
  subst hresult
  have hleft : Env.Matches R { env with world } { env with world := world' } := ⟨hstates, rfl⟩
  have htold : (Act.call (.finished reply) (w.finish reply) : Act σ H Unit) env
      = ⟨result, { env with world }, [.finished reply (Act.succeeded result)]⟩ := by
    unfold Act.call
    rw [hfinish]
  have htold' : (Act.call (.finished reply') (w.finish reply') : Act σ H Unit) env
      = ⟨result, { env with world := world' }, [.finished reply' (Act.succeeded result)]⟩ := by
    unfold Act.call
    rw [hfinish']
  unfold conclude
  cases result with
  | error fault =>
    rw [Act.bind_of_error htold, Act.bind_of_error htold']
    exact ⟨rfl, hleft, false, [], rfl, rfl⟩
  | ok _ =>
    -- what follows is the same in both
    have hrest : Act.Twins R Eq
        (d.runEnd w values >>= fun _ => (pure (.complete values) : Act σ H Report))
        (d.runEnd w values >>= fun _ => pure (.complete values)) :=
      (d.runEnd_twins .eq hspawn hatEnd values).bind .eq fun _ => .pure .eq _
    obtain ⟨hdone, henv, hevents⟩ := hrest _ _ hleft
    rw [Act.bind_of_ok htold, Act.bind_of_ok htold']
    exact ⟨hdone, henv, true, _, rfl, congrArg (Event.finished reply' true :: ·) hevents.symm⟩

/-! ## §3. Going on with a dialog. -/

/-- The next turn of a dialog begins past the last line of its thread. -/
def PastEnd (saved : Progress) : Prop :=
  saved.isStarted = true ∧ ∃ lines, d.script.thread? saved.thread = some lines
    ∧ lines.length ≤ saved.resumeIndex

/-- Going on with the empty text, against going on with none in the same surroundings. -/
structure EmptyAsNone (cause : Cause) (env : Env σ) : Prop where
  /-- It is the same, unless the turn begins past the last line of its thread. -/
  same : ¬ d.PastEnd env.saved → d.resume w cause (some "") env = d.resume w cause none env
  /-- If it does, the dialog ends, and what was sent is told to the host. -/
  ended : d.PastEnd env.saved → ∀ reply,
    d.resume w cause reply env = d.conclude w reply env.saved.values env
  /-- Then nothing else differs, if the two make no difference to the world. -/
  told : d.PastEnd env.saved → ∀ R, w.EndsAlike R (some "") none env.world →
    ToldApart R (some "") none (d.resume w cause (some "") env) (d.resume w cause none env)
  /-- Either way the empty text is put into no variable and tried on no branch, and no
  callback is called about it. -/
  unheeded : ∀ e ∈ (d.resume w cause (some "") env).events,
    e.kind ∉ [EventKind.captured, .changeCall, .offered, .branchCall]

/-- Going on without a reply puts nothing into a variable and tries no branch. -/
theorem resume_quiet (cause : Cause) (env : Env σ) :
    ∀ e ∈ (d.resume w cause none env).events, e.kind ∈ quietKinds := by
  cases hstarted : env.saved.isStarted with
  | true =>
    rw [d.resume_of_started w hstarted, turn_eq, Outcome.commit_events]
    exact (d.resolve_confined w _ _ cause env.saved).events env
  | false =>
    rw [d.resume_of_unstarted w hstarted]
    exact (d.begin_unheeding w env.saved.options env).quiet

/-- **An empty reply is no reply.**  For every dialog, world, saved progress and cause, going
on with the empty text is going on with none: with the same result or fault, the same
progress saved, and the same events.  Only where the turn begins past the last line of its
thread is the host told of the end with the empty text, and that is all that differs.  In no
case does the empty text lead to anything. -/
theorem resume_empty (cause : Cause) (env : Env σ) : d.EmptyAsNone w cause env := by
  have hquiet : ∀ kind ∈ quietKinds,
      kind ∉ [EventKind.captured, .changeCall, .offered, .branchCall] := by decide
  have hending : [EventKind.finished, .spawned, .endCall] ⊆ quietKinds := by decide
  have hended : d.PastEnd env.saved → ∀ reply,
      d.resume w cause reply env = d.conclude w reply env.saved.values env := by
    rintro ⟨hstarted, lines, hthread, hend⟩ reply
    have hpast : lines.length ≤ env.saved.resumePosition.index := hend
    rw [d.resume_of_started w hstarted]
    exact d.turn_of_end w hthread hpast cause reply env
  have hsame : ¬ d.PastEnd env.saved →
      d.resume w cause (some "") env = d.resume w cause none env := by
    intro hshort
    cases hstarted : env.saved.isStarted with
    | false => rw [d.resume_of_unstarted w hstarted, d.resume_of_unstarted w hstarted]
    | true =>
      rw [d.resume_of_started w hstarted, d.resume_of_started w hstarted, d.turn_empty w]
      intro lines hthread
      exact Nat.lt_of_not_le fun hend => hshort ⟨hstarted, lines, hthread, hend⟩
  refine ⟨hsame, hended, ?told, ?unheeded⟩
  case told =>
    intro hpast R halike
    rw [hended hpast, hended hpast]
    exact d.conclude_toldApart halike env.saved.values
  case unheeded =>
    intro e he
    by_cases hpast : d.PastEnd env.saved
    · rw [hended hpast] at he
      have hkind := (d.conclude_confined w (some "") env.saved.values).events env e he
      exact hquiet _ (hending hkind)
    · rw [hsame hpast] at he
      exact hquiet _ (d.resume_quiet w cause env e he)

/-- Past its only question, a dialog that is sent the empty text tells the host so. -/
example :
    let d : Dialog Routine := { id := "last", script := Script.empty.ask {} (.capture "name") }
    let env : Env Stage := ⟨Stage.new "c", ⟨[], 0⟩, { thread := "default" }⟩
    (d.resume Stage.world .continued (some "") env).events = [.finished (some "") true]
      ∧ (d.resume Stage.world .continued none env).events = [.finished none true] :=
  ⟨rfl, rfl⟩

end Dialog

end Parley
