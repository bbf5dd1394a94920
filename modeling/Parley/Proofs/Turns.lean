/-
  Parley.Proofs.Turns
  ───────────────────
  **WHAT A TURN DOES.**

  A turn is a budgeted loop of visits.  Each round is one of four
  (`resolve_of_…`), and what a visit does carries over to the loop by induction
  on the budget:

    • `resolve_confined` — without a reply nothing is saved on the way,
    • `resolve_yields` — the progress handed on stands at a line of the script,
    • `resolve_saved` — what is saved on the way is the reply of the turn with
      what its callbacks left, and nothing else.

  A run is a sequence of calls of a host, each in whatever surroundings the
  host has brought about by then (`Meeting`).
-/
import Parley.Proofs.Steps

namespace Parley

variable {σ H α : Type}

/-- A position is that of a line of the script. -/
def Script.HasLine (s : Script H) (p : Position) : Prop :=
  ∃ lines, s.thread? p.thread = some lines ∧ p.index < lines.length

/-- A dialog that stands at a line has entered a thread, if no thread has the
empty name. -/
theorem Script.HasLine.isStarted {s : Script H} {p : Progress} (h : s.HasLine p.position)
    (hnamed : s.hasThread "" = false) : p.isStarted = true := by
  obtain ⟨lines, hthread, _⟩ := h
  have hne : p.thread ≠ "" := by
    intro hempty
    have hexists : s.hasThread "" = true := by
      show (s.threads.get? "").isSome = true
      rw [← hempty, show s.threads.get? p.thread = some lines from hthread]
      rfl
    rw [hnamed] at hexists
    cases hexists
  simpa [Progress.isStarted] using hne

namespace Outcome

/-- The outcome of a turn, from that of its loop: the progress that a loop hands
on is saved. -/
def commit (o : Outcome σ H (Progress × Report)) : Outcome σ H Report :=
  match o.result with
  | .error fault => ⟨.error fault, o.env, o.events⟩
  | .ok (working, report) => ⟨.ok report, { o.env with saved := working }, o.events⟩

/-- The turn fails if its loop does. -/
@[simp] theorem commit_result (o : Outcome σ H (Progress × Report)) :
    o.commit.result = o.result.map Prod.snd := by
  unfold commit
  cases o.result <;> rfl

/-- Saving brings no event. -/
@[simp] theorem commit_events (o : Outcome σ H (Progress × Report)) :
    o.commit.events = o.events := by
  unfold commit
  cases o.result <;> rfl

/-- A loop whose progress is saved with success has succeeded, and its progress is what is
saved. -/
theorem exists_of_commit_ok {o : Outcome σ H (Progress × Report)} {report : Report}
    (hok : o.commit.result = .ok report) :
    ∃ moved, o.result = .ok (moved, report) ∧ o.commit.env.saved = moved := by
  unfold commit at hok ⊢
  cases hresult : o.result with
  | error fault =>
    rw [hresult] at hok
    cases hok
  | ok done =>
    rw [hresult] at hok
    cases hok
    exact ⟨done.1, rfl, rfl⟩

/-- A loop that fails saves nothing at its end. -/
theorem commit_saved_of_error {o : Outcome σ H (Progress × Report)} {fault : Fault}
    (hfault : o.commit.result = .error fault) : o.commit.env.saved = o.env.saved := by
  unfold commit at hfault ⊢
  cases hresult : o.result with
  | error fault => rfl
  | ok done =>
    rw [hresult] at hfault
    cases hfault

/-- What was saved before a success does not count. -/
theorem commit_withSaved {o : Outcome σ H (Progress × Report)} {done : Progress × Report}
    (hok : o.result = .ok done) (saved : Progress) : (o.withSaved saved).commit = o.commit := by
  unfold commit withSaved
  rw [hok]

/-- It does not matter for saving what happened before. -/
theorem commit_after (events : List (Event H)) (o : Outcome σ H (Progress × Report)) :
    (o.after events).commit = o.commit.after events := by
  unfold commit after
  cases o.result <;> rfl

end Outcome

namespace Dialog

variable (d : Dialog H) (w : World σ H)

/-! ## §1. One round of the loop. -/

/-- The loop after a visit: it goes on without the reply, or stops. -/
def pursue (budget : Nat) (moved : Progress × Move) : Act σ H (Progress × Report) :=
  match moved.2 with
  | .goOn target => d.resolve w budget target .advanced none moved.1
  | .stop report => pure (moved.1, report)

/-- A thread that the script does not have is an error. -/
theorem resolve_of_unknown {position : Position}
    (hthread : d.script.thread? position.thread = none) (budget : Nat) (cause : Cause)
    (reply : Option String) (working : Progress) :
    d.resolve w budget position cause reply working
      = .fail (.unknownThread position.thread) := by
  unfold resolve
  rw [hthread]

/-- Past the end of its thread the dialog ends. -/
theorem resolve_of_end {position : Position} {lines : List (Line H)}
    (hthread : d.script.thread? position.thread = some lines)
    (hend : lines.length ≤ position.index) (budget : Nat) (cause : Cause)
    (reply : Option String) (working : Progress) :
    d.resolve w budget position cause reply working
      = (d.conclude w reply working.values >>= fun report => pure (working, report)) := by
  unfold resolve
  rw [hthread]
  simp only [hend, if_true]

/-- At a line for which the budget is spent, the turn waits. -/
theorem resolve_of_spent {position : Position} {lines : List (Line H)}
    (hthread : d.script.thread? position.thread = some lines)
    (hin : position.index < lines.length) (cause : Cause) (reply : Option String)
    (working : Progress) :
    d.resolve w 0 position cause reply working
      = .answer (cutOff working position, .waiting) := by
  unfold resolve
  rw [hthread]
  simp only [Nat.not_le.mpr hin, if_false]

/-- Any other line is visited, and the loop goes on from there. -/
theorem resolve_of_line {position : Position} {lines : List (Line H)}
    (hthread : d.script.thread? position.thread = some lines)
    (hin : position.index < lines.length) (budget : Nat) (cause : Cause)
    (reply : Option String) (working : Progress) :
    d.resolve w (budget + 1) position cause reply working
      = (d.visit w lines position cause reply working >>= d.pursue w budget) := by
  conv => lhs; unfold resolve
  rw [hthread]
  simp only [Nat.not_le.mpr hin, if_false]
  rfl

/-- Where there is no line, the budget does not count. -/
theorem resolve_of_no_line {position : Position} (hnone : ¬ d.script.HasLine position)
    (budget : Nat) (cause : Cause) (reply : Option String) (working : Progress) :
    d.resolve w budget position cause reply working
      = d.resolve w 0 position cause reply working := by
  cases hthread : d.script.thread? position.thread with
  | none => rw [d.resolve_of_unknown w hthread, d.resolve_of_unknown w hthread]
  | some lines =>
    have hend : lines.length ≤ position.index :=
      Nat.not_lt.mp fun hin => hnone ⟨lines, hthread, hin⟩
    rw [d.resolve_of_end w hthread hend, d.resolve_of_end w hthread hend]

/-- **Induction over the rounds of a loop.**  The rest of a loop after a visit
is again a loop, without the reply. -/
theorem resolve_induct
    {motive : Position → Cause → Option String → Progress → Act σ H (Progress × Report) → Prop}
    (unknown : ∀ position cause reply working,
      motive position cause reply working (.fail (.unknownThread position.thread)))
    (ended : ∀ position cause reply working,
      motive position cause reply working
        (d.conclude w reply working.values >>= fun report => pure (working, report)))
    (spent : ∀ position cause reply working, d.script.HasLine position →
      motive position cause reply working (.answer (cutOff working position, .waiting)))
    (line : ∀ lines budget position cause reply working,
      d.script.thread? position.thread = some lines → position.index < lines.length →
      (∀ target moved, motive target .advanced none moved
        (d.resolve w budget target .advanced none moved)) →
      motive position cause reply working
        (d.visit w lines position cause reply working >>= d.pursue w budget))
    (budget : Nat) :
    ∀ position cause reply working,
      motive position cause reply working
        (d.resolve w budget position cause reply working) := by
  have hzero : ∀ position cause reply working,
      motive position cause reply working (d.resolve w 0 position cause reply working) := by
    intro position cause reply working
    cases hthread : d.script.thread? position.thread with
    | none =>
      rw [d.resolve_of_unknown w hthread]
      exact unknown position cause reply working
    | some lines =>
      rcases Nat.lt_or_ge position.index lines.length with hin | hend
      · rw [d.resolve_of_spent w hthread hin]
        exact spent position cause reply working ⟨lines, hthread, hin⟩
      · rw [d.resolve_of_end w hthread hend]
        exact ended position cause reply working
  -- the budget goes down by one line from round to round
  induction budget with
  | zero => exact hzero
  | succ budget ih =>
    intro position cause reply working
    by_cases hline : d.script.HasLine position
    · -- a visit, and then a loop with a smaller budget
      obtain ⟨lines, hthread, hin⟩ := hline
      rw [d.resolve_of_line w hthread hin]
      exact line lines budget position cause reply working hthread hin
        fun target moved => ih target .advanced none moved
    · rw [d.resolve_of_no_line w hline]
      exact hzero position cause reply working

/-- Without a visit nothing happens but the end of the dialog. -/
theorem resolve_zero_confined (position : Position) (cause : Cause) (reply : Option String)
    (working : Progress) :
    Act.Confined [.finished, .spawned, .endCall]
      (d.resolve w 0 position cause reply working) := by
  cases hthread : d.script.thread? position.thread with
  | none =>
    rw [d.resolve_of_unknown w hthread]
    exact .fail _
  | some lines =>
    rcases Nat.lt_or_ge position.index lines.length with hin | hend
    · rw [d.resolve_of_spent w hthread hin]
      exact .answer _
    · rw [d.resolve_of_end w hthread hend]
      exact (d.conclude_confined w reply _).bind fun _ => .pure _

/-! ## §2. The loop without a reply, and where it ends. -/

/-- **A loop without a reply saves nothing**, and nothing in it has to do with a
reply. -/
theorem resolve_confined (budget : Nat) (position : Position) (cause : Cause)
    (working : Progress) :
    Act.Confined quietKinds (d.resolve w budget position cause none working) := by
  refine d.resolve_induct w
    (motive := fun _ _ reply _ act => reply = none → Act.Confined quietKinds act)
    ?unknown ?ended ?spent ?line budget position cause none working rfl
  -- the loop has no reply to begin with, and no round after the first has one
  case unknown => exact fun _ _ _ _ _ => .fail _
  case ended =>
    intro position cause reply working _
    exact ((d.conclude_confined w reply _).mono (by simp [quietKinds])).bind fun _ => .pure _
  case spent => exact fun _ _ _ _ _ _ => .answer _
  case line =>
    intro lines budget position cause reply working _ _ ih hreply
    subst hreply
    refine (d.visit_confined_of_unanswered w (d.answerBefore_of_no_reply w rfl lines)
      working).bind ?_
    rintro ⟨moved, move⟩
    cases move with
    | goOn target => exact ih target moved rfl
    | stop report => exact .pure _

/-- After the first visit a loop has nothing to do with the reply. -/
theorem pursue_confined (budget : Nat) (moved : Progress × Move) :
    Act.Confined quietKinds (d.pursue w budget moved) := by
  obtain ⟨moved, move⟩ := moved
  cases move with
  | goOn target => exact d.resolve_confined w budget target .advanced moved
  | stop report => exact .pure _

/-- Where a turn is cut off, its progress still stands at a line. -/
theorem cutOff_hasLine {working : Progress} {position : Position}
    (hworking : d.script.HasLine working.position) (hposition : d.script.HasLine position) :
    d.script.HasLine (cutOff working position).position := by
  unfold cutOff
  split
  · -- the line not yet visited takes the place of the one visited last
    rename_i hsame
    rw [show Progress.position { working with index := position.index, replay := true }
        = position by rw [Progress.position, ← hsame]]
    exact hposition
  · exact hworking

/-- Cutting a turn off leaves the options. -/
theorem cutOff_options (working : Progress) (position : Position) :
    (cutOff working position).options = working.options := by
  unfold cutOff
  split <;> rfl

/-- **The progress that a loop hands on stands at a line**, if the one it got
does. -/
theorem resolve_yields (budget : Nat) (position : Position) (cause : Cause)
    (reply : Option String) {working : Progress}
    (hworking : d.script.HasLine working.position) :
    Act.Yields (fun done => d.script.HasLine done.1.position
        ∧ done.1.options = working.options)
      (d.resolve w budget position cause reply working) := by
  refine d.resolve_induct w
    (motive := fun _ _ _ working act => d.script.HasLine working.position →
      Act.Yields (fun done => d.script.HasLine done.1.position
        ∧ done.1.options = working.options) act)
    ?unknown ?ended ?spent ?line budget position cause reply working hworking
  -- a visit stands at its own position, which is that of a line
  case unknown => exact fun _ _ _ _ _ => .fail _
  case ended => exact fun _ _ _ _ hworking => .seq fun _ => .pure ⟨hworking, rfl⟩
  case spent =>
    intro position cause reply working hposition hworking
    exact .answer ⟨d.cutOff_hasLine hworking hposition, cutOff_options working position⟩
  case line =>
    intro lines budget position cause reply working hthread hin ih _
    refine (d.visit_yields w lines position cause reply working).bind ?_
    rintro ⟨moved, move⟩ ⟨hat, hoptions, _⟩
    have hmoved : d.script.HasLine moved.position := hat ▸ ⟨lines, hthread, hin⟩
    cases move with
    | goOn target =>
      show Act.Yields _ (d.resolve w budget target .advanced none moved)
      rw [← show moved.options = working.options from hoptions]
      exact ih target moved hmoved
    | stop report => exact .pure ⟨hmoved, hoptions⟩

/-- A loop that has a line to spend, and a line to spend it on, ends at a line
wherever it began. -/
theorem resolve_yields_of_line {position : Position} (hposition : d.script.HasLine position)
    (budget : Nat) (cause : Cause) (reply : Option String) (working : Progress) :
    Act.Yields (fun done => d.script.HasLine done.1.position)
      (d.resolve w (budget + 1) position cause reply working) := by
  obtain ⟨lines, hthread, hin⟩ := hposition
  rw [d.resolve_of_line w hthread hin]
  refine (d.visit_yields w lines position cause reply working).bind ?_
  rintro ⟨moved, move⟩ ⟨hat, _, _⟩
  have hmoved : d.script.HasLine moved.position := hat ▸ ⟨lines, hthread, hin⟩
  cases move with
  | goOn target =>
    intro env done hdone
    exact (d.resolve_yields w budget target .advanced none hmoved env done hdone).1
  | stop report => exact .pure hmoved

/-! ## §3. What a turn saves on its way. -/

/-- No reply is put into a variable, and nothing is saved. -/
structure SavesNothing (env : Env σ) (o : Outcome σ H α) : Prop where
  /-- What was saved stays. -/
  saved : o.env.saved = env.saved
  /-- No reply is put into a variable. -/
  quiet : ∀ e ∈ o.events, e.kind ≠ .captured

/-- The reply `text` to the question before a position is put into the variable
`key`, and what is saved is what the callbacks for that leave, if they succeed. -/
structure Captures (position : Position) (values : Values) (env : Env σ)
    (intake : Intake H) (key text : String) (o : Outcome σ H α) : Prop where
  /-- The reply is put into its variable, and the callbacks run at once. -/
  noted : ∃ first last, o.events = first
    ++ .captured { position with index := position.index - 1 } key text
      :: (d.replyBatch w position values intake key text env).events ++ last
  /-- Nothing else is put into a variable. -/
  only : ∀ question k t, .captured question k t ∈ o.events →
    question = { position with index := position.index - 1 } ∧ k = key ∧ t = text
  /-- If the callbacks fail, what was saved stays. -/
  failed : ∀ fault,
    (d.replyBatch w position values intake key text env).result = .error fault →
    o.env.saved = env.saved
  /-- If they succeed, their variables are saved. -/
  kept : ∀ after,
    (d.replyBatch w position values intake key text env).result = .ok after →
    o.env.saved = { env.saved with values := after.values }

/-- What brings no reply into a variable saves nothing. -/
theorem SavesNothing.of_confined {kinds : List EventKind} {act : Act σ H α}
    (hact : Act.Confined kinds act) (hkinds : .captured ∉ kinds) (env : Env σ) :
    SavesNothing env (act env) := by
  refine ⟨hact.saved env, ?_⟩
  intro e he hkind
  exact hkinds (hkind ▸ hact.events env e he)

/-- Two things that save nothing, one after the other, save nothing. -/
theorem SavesNothing.bind {β : Type} {env : Env σ} {act : Act σ H α} {next : α → Act σ H β}
    (h : SavesNothing env (act env)) (hnext : ∀ a env, SavesNothing env (next a env)) :
    SavesNothing env ((act >>= next) env) := by
  rcases Act.bind_cases act next env with
    ⟨fault, env', events, hact, hseq⟩ | ⟨a, env', events, hact, hseq⟩
  · rw [hact] at h
    rw [hseq]
    exact ⟨h.saved, h.quiet⟩
  · rw [hact] at h
    rw [hseq]
    refine ⟨(hnext a env').saved.trans h.saved, ?_⟩
    intro e he
    rcases List.mem_append.mp he with he | he
    · exact h.quiet e he
    · exact (hnext a env').quiet e he

variable {d w} in
/-- Events of other kinds before it change nothing. -/
theorem Captures.after {position : Position} {values : Values} {env : Env σ}
    {intake : Intake H} {key text : String} {o : Outcome σ H α}
    (h : d.Captures w position values env intake key text o) {events : List (Event H)}
    (hevents : ∀ e ∈ events, e.kind ≠ .captured) :
    d.Captures w position values env intake key text (o.after events) := by
  obtain ⟨first, last, hnoted⟩ := h.noted
  refine ⟨⟨events ++ first, last, ?_⟩, ?_, h.failed, h.kept⟩
  · rw [Outcome.after_events, hnoted]
    simp only [List.append_assoc]
  intro question k t he
  rcases List.mem_append.mp he with he | he
  · exact absurd rfl (hevents _ he)
  · exact h.only question k t he

variable {d w} in
/-- Acts that save nothing change nothing after it. -/
theorem Captures.bind {β : Type} {position : Position} {values : Values} {env : Env σ}
    {intake : Intake H} {key text : String} {act : Act σ H α} {next : α → Act σ H β}
    (h : d.Captures w position values env intake key text (act env))
    (hnext : ∀ a env, SavesNothing env (next a env)) :
    d.Captures w position values env intake key text ((act >>= next) env) := by
  rcases Act.bind_cases act next env with
    ⟨fault, env', events, hact, hseq⟩ | ⟨a, env', events, hact, hseq⟩
  · rw [hact] at h
    rw [hseq]
    exact ⟨h.noted, h.only, h.failed, h.kept⟩
  · rw [hact] at h
    rw [hseq]
    have hquiet := hnext a env'
    obtain ⟨first, last, hnoted⟩ := h.noted
    refine ⟨⟨first, last ++ (next a env').events, ?_⟩, ?_, ?_, ?_⟩
    · rw [Outcome.after_events, show events = _ from hnoted]
      simp only [List.append_assoc]
    · intro question k t he
      rcases List.mem_append.mp he with he | he
      · exact h.only question k t he
      · exact absurd rfl (hquiet.quiet _ he)
    · intro fault hfault
      exact hquiet.saved.trans (h.failed fault hfault)
    · intro after hafter
      exact hquiet.saved.trans (h.kept after hafter)

/-- Taking a reply to a question with a variable captures it. -/
theorem takeReply_captures {intake : Intake H} {key : String}
    (hkey : intake.key = some key) (position : Position) (cause : Cause) (text : String)
    (working : Progress) (env : Env σ) :
    d.Captures w position working.values env intake key text
      (d.takeReply w intake { position with index := position.index - 1 } text
        (d.stepAt position cause (some text)) working env) := by
  have hconfined := d.replyBatch_confined w position working.values intake key text
  have hsaved := hconfined.saved env
  have hevents := hconfined.events env
  rcases hrun : d.replyBatch w position working.values intake key text env with
    ⟨result, env', events⟩
  rw [hrun] at hsaved hevents
  have hnoted : ∃ first last : List (Event H),
      .captured { position with index := position.index - 1 } key text :: events
        = first ++ .captured { position with index := position.index - 1 } key text
          :: (d.replyBatch w position working.values intake key text env).events ++ last := by
    refine ⟨[], [], ?_⟩
    rw [hrun, List.append_nil, List.nil_append]
  have honly : ∀ question k t,
      .captured question k t ∈
        (.captured { position with index := position.index - 1 } key text :: events :
          List (Event H)) →
      question = { position with index := position.index - 1 } ∧ k = key ∧ t = text := by
    intro question k t he
    rcases List.mem_cons.mp he with he | he
    · cases he
      exact ⟨rfl, rfl, rfl⟩
    · exact absurd (hevents _ he) (by simp [Event.kind])
  cases result with
  | error fault =>
    -- nothing is saved before all callbacks have run
    rw [d.takeReply_of_error w hkey hrun]
    refine ⟨hnoted, honly, fun _ _ => hsaved, ?_⟩
    intro after hafter
    rw [hrun] at hafter
    cases hafter
  | ok after =>
    rw [d.takeReply_of_ok w hkey hrun]
    refine ⟨hnoted, honly, ?_, ?_⟩
    · intro fault hfault
      rw [hrun] at hfault
      cases hfault
    · intro after' hafter
      rw [hrun] at hafter
      cases hafter
      show { env'.saved with values := after.values } = _
      rw [show env'.saved = env.saved from hsaved]

/-- **What a visit saves**: nothing, or the reply to the question before it. -/
theorem visit_saved (lines : List (Line H)) (position : Position) (cause : Cause)
    (reply : Option String) (working : Progress) (env : Env σ) :
    SavesNothing env (d.visit w lines position cause reply working env)
      ∨ ∃ intake key text, questionBefore? lines position.index = some intake
        ∧ intake.key = some key ∧ reply = some text ∧ text ≠ ""
        ∧ d.Captures w position working.values env intake key text
            (d.visit w lines position cause reply working env) := by
  cases hreply : (d.stepAt position cause reply).reply with
  | none =>
    -- an empty reply is none
    have hanswer := d.answerBefore_of_no_reply w hreply lines
    exact .inl (.of_confined (d.visit_confined_of_unanswered w hanswer working)
      (by simp [quietKinds]) env)
  | some text =>
    obtain ⟨rfl, hne⟩ := given_of_reply hreply
    cases hquestion : questionBefore? lines position.index with
    | none =>
      have hanswer : ∀ working, d.answerBefore w lines (d.stepAt position cause text) working
          = .answer (working, .onward) := d.answerBefore_of_no_question w hquestion
      exact .inl (.of_confined (d.visit_confined_of_unanswered w hanswer working)
        (by simp [quietKinds]) env)
    | some intake =>
      have hsettle := d.settle_confined w lines intake
        { position with index := position.index - 1 } text (d.stepAt position cause text)
      rw [d.visit_of_reply w hne hquestion]
      cases hkey : intake.key with
      | none =>
        -- the reply only decides where the dialog goes
        rw [d.takeReply_of_no_key w hkey]
        have hvisit : Act.Confined keylessKinds (Act.note (.reached position) >>= fun _ =>
            Act.answer (working.arrive position, none) >>= d.settle w lines intake
              { position with index := position.index - 1 } text
              (d.stepAt position cause text)) :=
          (Act.Confined.note (by simp [Event.kind, keylessKinds, quietKinds])).bind
            fun _ => (Act.Confined.answer _).bind hsettle
        exact .inl (.of_confined hvisit (by simp [keylessKinds, quietKinds]) env)
      | some key =>
        -- the reply is captured, and what settles the visit saves nothing more
        refine .inr ⟨intake, key, text, rfl, hkey, rfl, hne, ?_⟩
        rw [Act.note_bind_apply]
        refine Captures.after ?_ (by simp [Event.kind])
        have htaken := d.takeReply_captures w hkey position cause text
          (working.arrive position) env
        refine htaken.bind ?_
        intro taken env'
        exact .of_confined (hsettle taken) (by simp [keylessKinds, quietKinds]) env'

/-- **What a loop saves on its way**: nothing, or the reply of the turn to the
question before its first position. -/
theorem resolve_saved (budget : Nat) (position : Position) (cause : Cause)
    (reply : Option String) (working : Progress) (env : Env σ) :
    SavesNothing env (d.resolve w budget position cause reply working env)
      ∨ ∃ lines intake key text, d.script.thread? position.thread = some lines
        ∧ questionBefore? lines position.index = some intake
        ∧ intake.key = some key ∧ reply = some text ∧ text ≠ ""
        ∧ d.Captures w position working.values env intake key text
            (d.resolve w budget position cause reply working env) := by
  have hzero : SavesNothing env (d.resolve w 0 position cause reply working env) :=
    .of_confined (d.resolve_zero_confined w position cause reply working) (by simp) env
  by_cases hline : d.script.HasLine position
  · cases budget with
    | zero => exact .inl hzero
    | succ budget =>
      obtain ⟨lines, hthread, hin⟩ := hline
      rw [d.resolve_of_line w hthread hin]
      -- what follows the first visit has nothing to do with the reply
      have hrest : ∀ moved env, SavesNothing env (d.pursue w budget moved env) :=
        fun moved => .of_confined (d.pursue_confined w budget moved) (by simp [quietKinds])
      rcases d.visit_saved w lines position cause reply working env with
        hnothing | ⟨intake, key, text, hquestion, hkey, hreply, hne, hcaptures⟩
      · exact .inl (hnothing.bind hrest)
      · exact .inr ⟨lines, intake, key, text, hthread, hquestion, hkey, hreply, hne,
          hcaptures.bind hrest⟩
  · rw [d.resolve_of_no_line w hline]
    exact .inl hzero

/-- On its way a loop saves only variables. -/
theorem resolve_revalued (budget : Nat) (position : Position) (cause : Cause)
    (reply : Option String) (working : Progress) (env : Env σ) :
    env.saved.Revalued (d.resolve w budget position cause reply working env).env.saved := by
  rcases d.resolve_saved w budget position cause reply working env with
    hnothing | ⟨_, intake, key, text, _, _, _, _, _, hcaptures⟩
  · exact hnothing.saved ▸ .refl env.saved
  · cases hrun : (d.replyBatch w position working.values intake key text env).result with
    | error fault => exact hcaptures.failed fault hrun ▸ .refl env.saved
    | ok after => exact ⟨after.values, hcaptures.kept after hrun⟩

/-! ## §4. Turns. -/

/-- **A turn is a loop whose progress is saved.** -/
theorem turn_eq (position : Position) (cause : Cause) (reply : Option String) (env : Env σ) :
    d.turn w position cause reply env
      = (d.resolve w d.settings.maxSteps position cause reply env.saved env).commit := by
  show (Act.saved >>= _) env = _
  rw [Act.saved_bind_apply]
  rcases h : d.resolve w d.settings.maxSteps position cause reply env.saved env with
    ⟨result, env', events⟩
  cases result with
  | error fault =>
    rw [Act.bind_of_error h]
    rfl
  | ok done =>
    rw [Act.bind_of_ok h]
    simp [Outcome.after, Outcome.commit]

/-- The two ways a turn can go. -/
theorem turn_cases (position : Position) (cause : Cause) (reply : Option String)
    (env : Env σ) :
    (∃ fault env' events,
        d.resolve w d.settings.maxSteps position cause reply env.saved env
            = ⟨.error fault, env', events⟩
          ∧ d.turn w position cause reply env = ⟨.error fault, env', events⟩)
      ∨ (∃ working report env' events,
        d.resolve w d.settings.maxSteps position cause reply env.saved env
            = ⟨.ok (working, report), env', events⟩
          ∧ d.turn w position cause reply env
            = ⟨.ok report, { env' with saved := working }, events⟩) := by
  rw [turn_eq]
  rcases d.resolve w d.settings.maxSteps position cause reply env.saved env with
    ⟨result, env', events⟩
  cases result with
  | error fault => exact .inl ⟨fault, env', events, rfl, rfl⟩
  | ok done => exact .inr ⟨done.1, done.2, env', events, rfl, rfl⟩

/-- A turn that fails saves variables at most. -/
theorem turn_revalued {position : Position} {cause : Cause} {reply : Option String}
    {env : Env σ} {fault : Fault}
    (hfault : (d.turn w position cause reply env).result = .error fault) :
    env.saved.Revalued (d.turn w position cause reply env).env.saved := by
  have hsaved := d.resolve_revalued w d.settings.maxSteps position cause reply env.saved env
  rcases d.turn_cases w position cause reply env with
    ⟨fault', env', events, hloop, hturn⟩ | ⟨working, report, env', events, _, hturn⟩
  · rw [hloop] at hsaved
    rw [hturn]
    exact hsaved
  · rw [hturn] at hfault
    cases hfault

/-- To begin is to save a fresh progress, and to run a turn from the first line. -/
theorem begin_apply (options : Values) (env : Env σ) :
    d.begin w options env
      = d.turn w ⟨d.startThread options, 0⟩ .begun none
          { env with saved := Progress.start "" options } := by
  show (Act.save _ >>= _) env = _
  rw [Act.save_bind_apply]

/-- A dialog that has entered a thread goes on. -/
theorem resume_of_started {env : Env σ} (hstarted : env.saved.isStarted = true)
    (cause : Cause) (result : Option String) :
    d.resume w cause result env = d.turn w env.saved.resumePosition cause result env := by
  show (Act.saved >>= _) env = _
  rw [Act.saved_bind_apply, if_pos hstarted]
  rfl

/-- A dialog that has entered no thread is begun again. -/
theorem resume_of_unstarted {env : Env σ} (hstarted : env.saved.isStarted = false)
    (cause : Cause) (result : Option String) :
    d.resume w cause result env = d.begin w env.saved.options env := by
  show (Act.saved >>= _) env = _
  rw [Act.saved_bind_apply, if_neg (by simp [hstarted])]

/-- The text of a message is the result that the dialog goes on with. -/
theorem receive_of_message {incoming : Incoming} (h : incoming.isMessage = true) :
    d.receive w incoming = d.resume w .continued incoming.text :=
  if_pos h

end Dialog

/-! ## §5. Runs. -/

/-- What a host can call. -/
inductive Call where
  /-- Begin the dialog. -/
  | begin (options : Values)
  /-- Begin the dialog with options from a payload. -/
  | beginWith (payload : Json)
  /-- Go on after the line last reached. -/
  | resume (cause : Cause) (result : Option String)
  /-- Hand over what arrived from a channel. -/
  | receive (incoming : Incoming)

/-- What a call does. -/
def Dialog.serve (d : Dialog H) (w : World σ H) : Call → Act σ H Report
  | .begin options => d.begin w options
  | .beginWith payload => d.beginWith w payload
  | .resume cause result => d.resume w cause result
  | .receive incoming => d.receive w incoming

/-- Whether a call that succeeds has run a turn: every call has but the arrival
of something that is no message. -/
def Call.runsTurn : Call → Bool
  | .begin _ | .beginWith _ | .resume _ _ => true
  | .receive incoming => incoming.isMessage

/-- What a call comes to. -/
inductive Task where
  /-- The dialog begins. -/
  | begin (options : Values)
  /-- A turn runs from where the dialog stands. -/
  | turn (cause : Cause) (reply : Option String)
  /-- Nothing is done. -/
  | nothing (result : Except Fault Report)

/-- Going on is a turn, or a begin if no thread has been entered. -/
def Progress.resumeTask (saved : Progress) (cause : Cause) (reply : Option String) : Task :=
  if saved.isStarted then .turn cause reply else .begin saved.options

/-- What a call comes to, which depends on what is saved alone. -/
def Call.task (saved : Progress) : Call → Task
  | .begin options => .begin options
  | .beginWith payload =>
    match payload.table? with
    | some options => .begin options
    | none => .nothing (.error (.payload "dialog options must be a JSON object"))
  | .resume cause reply => saved.resumeTask cause reply
  | .receive incoming =>
    if incoming.isMessage then saved.resumeTask .continued incoming.text
    else .nothing (.ok .waiting)

namespace Dialog

variable (d : Dialog H) (w : World σ H)

/-- Do what a call comes to. -/
def perform : Task → Act σ H Report
  | .begin options => d.begin w options
  | .turn cause reply => fun env => d.turn w env.saved.resumePosition cause reply env
  | .nothing result => .ofExcept result

/-- Going on with a dialog does what the saved progress asks for. -/
theorem resume_eq (cause : Cause) (reply : Option String) (env : Env σ) :
    d.resume w cause reply env = d.perform w (env.saved.resumeTask cause reply) env := by
  unfold Progress.resumeTask
  cases hstarted : env.saved.isStarted with
  | true =>
    rw [d.resume_of_started w hstarted]
    rfl
  | false =>
    rw [d.resume_of_unstarted w hstarted]
    rfl

/-- **A call does what it comes to.** -/
theorem serve_eq (call : Call) (env : Env σ) :
    d.serve w call env = d.perform w (call.task env.saved) env := by
  cases call with
  | begin options => rfl
  | beginWith payload =>
    simp only [serve, beginWith, Call.task]
    cases payload.table? <;> rfl
  | resume cause reply => exact d.resume_eq w cause reply env
  | receive incoming =>
    simp only [serve, receive, Call.task]
    cases incoming.isMessage with
    | true => exact d.resume_eq w .continued incoming.text env
    | false => rfl

/-- A call that comes to a beginning begins. -/
theorem serve_of_begin {call : Call} {env : Env σ} {options : Values}
    (htask : call.task env.saved = .begin options) :
    d.serve w call env = d.begin w options env := by
  rw [serve_eq, htask]
  rfl

/-- A call that comes to a turn runs it from where the dialog stands. -/
theorem serve_of_turn {call : Call} {env : Env σ} {cause : Cause} {reply : Option String}
    (htask : call.task env.saved = .turn cause reply) :
    d.serve w call env = d.turn w env.saved.resumePosition cause reply env := by
  rw [serve_eq, htask]
  rfl

/-- Any other call does nothing but give its result. -/
theorem serve_of_nothing {call : Call} {env : Env σ} {result : Except Fault Report}
    (htask : call.task env.saved = .nothing result) :
    d.serve w call env = ⟨result, env, []⟩ := by
  rw [serve_eq, htask]
  cases result <;> rfl

end Dialog

/-- A turn runs from where a dialog stands only if that has entered a thread. -/
theorem Call.isStarted_of_task {call : Call} {saved : Progress} {cause : Cause}
    {reply : Option String} (h : call.task saved = .turn cause reply) :
    saved.isStarted = true := by
  have hresume : ∀ cause' reply', saved.resumeTask cause' reply' = .turn cause reply →
      saved.isStarted = true := by
    intro cause' reply' hturn
    unfold Progress.resumeTask at hturn
    split at hturn
    · assumption
    · cases hturn
  cases call with
  | begin options => cases h
  | beginWith payload =>
    simp only [task] at h
    split at h <;> cases h
  | resume cause' reply' => exact hresume cause' reply' h
  | receive incoming =>
    simp only [task] at h
    split at h
    · exact hresume .continued incoming.text h
    · cases h

/-- **A call does nothing** only if it is to begin the dialog with options that are no object, or
if it takes in what is no message. -/
theorem Call.task_nothing {call : Call} {saved : Progress} {result : Except Fault Report}
    (h : call.task saved = .nothing result) :
    (∃ payload, call = .beginWith payload ∧ payload.table? = none
        ∧ result = .error (.payload "dialog options must be a JSON object"))
      ∨ ∃ incoming, call = .receive incoming ∧ incoming.isMessage = false
        ∧ result = .ok .waiting := by
  have hresume : ∀ cause reply, saved.resumeTask cause reply ≠ .nothing result := by
    intro cause reply hnothing
    unfold Progress.resumeTask at hnothing
    split at hnothing <;> cases hnothing
  cases call with
  | begin options => cases h
  | beginWith payload =>
    simp only [task] at h
    split at h
    · cases h
    · rename_i hpayload
      cases h
      exact .inl ⟨payload, rfl, hpayload, rfl⟩
  | resume cause reply => exact absurd h (hresume cause reply)
  | receive incoming =>
    simp only [task] at h
    split at h
    · exact absurd h (hresume .continued incoming.text)
    · rename_i hmessage
      cases h
      exact .inr ⟨incoming, rfl, eq_false_of_ne_true hmessage, rfl⟩

/-- A call that should run a turn and does nothing fails. -/
theorem Call.error_of_task {call : Call} {saved : Progress}
    {result : Except Fault Report} (h : call.task saved = .nothing result)
    (hturn : call.runsTurn = true) : ∃ fault, result = .error fault := by
  rcases Call.task_nothing h with ⟨payload, rfl, _, rfl⟩ | ⟨incoming, rfl, hmessage, _⟩
  · exact ⟨_, rfl⟩
  · rw [show incoming.isMessage = true from hturn] at hmessage
    cases hmessage

/-- A call, and the surroundings it is made in: the world has come into any
state since the call before, and any words are drawn. -/
structure Meeting (σ : Type) where
  /-- The call. -/
  call : Call
  /-- The state of the world. -/
  world : σ
  /-- The random words to come. -/
  words : Words

/-- The environment of a call, with what the calls before it saved. -/
def Meeting.env (m : Meeting σ) (saved : Progress) : Env σ := ⟨m.world, m.words, saved⟩

/-- What is saved after a run of calls, each of which finds what the one before
saved, whether that succeeded or failed. -/
def Dialog.savedAfter (d : Dialog H) (w : World σ H) : Progress → List (Meeting σ) → Progress
  | saved, [] => saved
  | saved, m :: rest =>
    Dialog.savedAfter d w (d.serve w m.call (m.env saved)).env.saved rest

end Parley
