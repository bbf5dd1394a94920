/-
  Parley.Proofs.Attention
  ───────────────────────
  **THE QUESTION THAT A DIALOG LISTENS FOR.**

  Which question a reply goes to is nowhere kept: it is the one just before the
  line that the turn begins with.  That is the right one as long as the nearest
  question above that line is the one asked last (`Attends`), and the loop keeps
  it so.  Here a question counts as asked once its prompt is called, whether that
  starts or fails.

    • `visitAt_routed` — the routes that a visit can follow, with the prompts that it
      calls (`Routed`),
    • `visitAt_settled` — a visit that goes on leads to a line below the question
      asked last, or right back to it, to ask it again (`Settled`),
    • `serve_left` — so does a turn that succeeds leave the dialog, unless it
      ends before a question is asked that it has come to (`Skips`).
-/
import Parley.Proofs.Budget
import Parley.Proofs.Ending
import Parley.Proofs.Replies
import Parley.Proofs.Unspent

namespace Parley

variable {σ H : Type}

/-! ## §1. The nearest question above a line. -/

namespace Script

variable (s : Script H)

/-- The nearest question above a line of a thread. -/
def questionAbove? (thread : String) : Nat → Option Position
  | 0 => none
  | i + 1 =>
    if (s.question? ⟨thread, i⟩).isSome then some ⟨thread, i⟩ else questionAbove? thread i

/-- The nearest question above a position. -/
def above? (p : Position) : Option Position := s.questionAbove? p.thread p.index

variable {s}

/-- No question stands above the first line of a thread. -/
theorem above?_of_first {p : Position} (h : p.index = 0) : s.above? p = none := by
  unfold above?
  rw [h]
  rfl

/-- The nearest question above the next line is the one here, or else the one above here. -/
theorem above?_following (p : Position) :
    s.above? p.following = if (s.question? p).isSome then some p else s.above? p := rfl

/-- A line that takes no reply is no question. -/
theorem question?_eq_none_of_line {p : Position} {lines : List (Line H)} {line : Line H}
    (hthread : s.thread? p.thread = some lines) (hline : lines[p.index]? = some line)
    (hnone : line.intake? = none) : s.question? p = none := by
  unfold question?
  rw [hthread, Option.bind_some, hline, Option.bind_some, hnone]

end Script

/-- The dialog attends, at a position, to the question asked last: no other is the
nearest above. -/
def Attends (s : Script H) (p : Position) (last : Option Position) : Prop :=
  ∀ q, s.above? p = some q → last = some q

/-- Where no question stands above, the dialog attends to any. -/
theorem Attends.of_none {s : Script H} {p : Position} (h : s.above? p = none)
    (last : Option Position) : Attends s p last := by
  intro q hq
  rw [h] at hq
  cases hq

/-- Below a line that is no question the same question is the nearest. -/
theorem Attends.following {s : Script H} {p : Position} {last : Option Position}
    (h : Attends s p last) (hnone : s.question? p = none) : Attends s p.following last := by
  intro q hq
  rw [Script.above?_following, hnone] at hq
  exact h q hq

/-- Below a question the nearest is that one. -/
theorem Attends.following_of_question {s : Script H} {p : Position}
    (h : (s.question? p).isSome) : Attends s p.following (some p) := by
  intro q hq
  rw [Script.above?_following, if_pos h] at hq
  exact hq

/-! ## §2. Calls of prompts. -/

/-- The question whose prompt is called, and whether that succeeds. -/
def Event.promptCall? : Event H → Option (Position × Bool)
  | .prompted question _ _ ok => some (question, ok)
  | _ => none

/-- The calls of prompts, in order. -/
def promptCalls (events : List (Event H)) : List (Position × Bool) :=
  events.filterMap Event.promptCall?

/-- The calls of a trace in two parts are those of the parts, in order. -/
@[simp] theorem promptCalls_append (first last : List (Event H)) :
    promptCalls (first ++ last) = promptCalls first ++ promptCalls last :=
  List.filterMap_append

/-- A position that is resolved is no call of a prompt. -/
@[simp] theorem promptCalls_reached (p : Position) (events : List (Event H)) :
    promptCalls (.reached p :: events) = promptCalls events := rfl

/-- Without a prompt there is no call of one. -/
theorem promptCalls_eq_nil {events : List (Event H)} (h : ∀ e ∈ events, e.kind ≠ .prompted) :
    promptCalls events = [] := by
  refine List.filterMap_eq_nil_iff.mpr fun e he => ?_
  cases e with
  | prompted => exact absurd rfl (h _ he)
  | _ => rfl

/-- The question whose prompt was called last: in the calls, or before them. -/
def lastCalled (last : Option Position) (calls : List (Position × Bool)) : Option Position :=
  (calls.getLast?.map Prod.fst).or last

/-- Without a call the last one stays. -/
@[simp] theorem lastCalled_nil (last : Option Position) : lastCalled last [] = last := rfl

/-- Of calls in two parts the second ones count, if there are any. -/
theorem lastCalled_append (last : Option Position) (first second : List (Position × Bool)) :
    lastCalled last (first ++ second) = lastCalled (lastCalled last first) second := by
  unfold lastCalled
  rw [List.getLast?_append]
  cases second.getLast? <;> rfl

namespace Dialog

variable (d : Dialog H) (w : World σ H)

/-! ## §3. The routes of a visit. -/

/-- Callbacks that move their handle move it where no question stands above, such as
to the start of a thread. -/
def LeadsClear : Prop := w.RedirectsTo fun p => d.script.above? p = none

/-- The routes that a visit can follow, with the prompts that it calls. -/
inductive Routed (a : Place σ) : Route → List (Position × Bool) → Prop
  /-- Where no question stands above. -/
  | away {target : Position} (h : d.script.above? target = none) :
      Routed a (.restart target) []
  /-- To the next line, after its question was not asked. -/
  | unasked (h : (d.script.question? a.position).isSome) :
      Routed a .onward [(a.position, false)]
  /-- To the next line, after one that is no question. -/
  | onward (h : d.script.question? a.position = none) : Routed a .onward []
  /-- To the line before, because this one says so, which is no question, or the
  reply. -/
  | back (h : d.script.question? a.position = none ∨ a.reply ≠ none) :
      Routed a (.restart { a.position with index := a.position.index - 1 }) []
  /-- Nowhere, after its question was asked. -/
  | asked (h : (d.script.question? a.position).isSome) :
      Routed a .suspend [(a.position, true)]
  /-- Nowhere, because this line says so, which is no question, or the reply. -/
  | held (h : d.script.question? a.position = none ∨ a.reply ≠ none) : Routed a .hold []
  /-- To the end of the dialog. -/
  | finish (ending : Ending) : Routed a (.finish ending) []
  /-- To another dialog. -/
  | handOver (script : String) (thread : Option String) :
      Routed a (.handOver script thread) []

/-- A directive leads along such a route, where the line is no question; or where
the reply chooses it, unless it leads on to the line. -/
theorem routed_of_directive {a : Place σ} {directive : Directive}
    (h : d.script.question? a.position = none
      ∨ a.reply ≠ none ∧ directive.route d.script a.position ≠ .onward) :
    d.Routed a (directive.route d.script a.position) [] := by
  have honward : directive.route d.script a.position = .onward →
      d.script.question? a.position = none :=
    fun hroute => h.elim (fun hnone => hnone) fun hreply => absurd hroute hreply.2
  cases directive with
  | next => exact .onward (honward rfl)
  | complete => exact .finish .completed
  | stop => exact .finish .canceled
  | timeout => exact .finish .timeout
  | handOver script thread => exact .handOver script thread
  | again => exact .back (h.imp_right fun hreply => hreply.1)
  | hold => exact .held (h.imp_right fun hreply => hreply.1)
  | jump thread =>
    change d.Routed a (if d.script.hasThread thread then .restart ⟨thread, 0⟩ else .onward) []
    by_cases hthread : d.script.hasThread thread = true
    · rw [if_pos hthread]
      exact .away (Script.above?_of_first rfl)
    · rw [if_neg hthread]
      exact .onward (honward (if_neg hthread))

variable {d w} in
/-- **The route of a visit**: that of its reply, or that of its line. -/
theorem LeadsClear.routed (hclear : d.LeadsClear w) {lines : List (Line H)} {a : Place σ}
    (hthread : d.script.thread? a.position.thread = some lines)
    (hin : a.position.index < lines.length) {entered answered : Progress}
    {route route' : Route} {env env' env'' : Env σ} {answering running : List (Event H)}
    (hanswer : d.answerBefore w lines (d.stepOf a) entered env
      = ⟨.ok (answered, route), env', answering⟩)
    (hline : d.lineRoute w lines (d.stepOf a) answered route env'
      = ⟨.ok (answered, route'), env'', running⟩) :
    d.Routed a route' (promptCalls running) := by
  have hanswered := d.answerBefore_answered hclear lines a entered env (answered, route)
    (by rw [hanswer])
  change d.Answered _ lines a route at hanswered
  have hsent : ∀ {events : List (Event H)}, (∀ e ∈ events, e.kind = .sent) →
      promptCalls events = [] := fun h =>
    promptCalls_eq_nil fun e he hkind => by rw [h e he] at hkind; cases hkind
  rcases d.lineRoute_cases hin hline with ⟨hne, rfl, rfl⟩ | ⟨_, hran⟩
  · -- the reply decides
    cases hanswered with
    | onward _ => exact absurd rfl hne
    | moved hled => exact .away hled
    | ordered hchosen =>
      obtain ⟨reply, _, _, hreply, _⟩ := hchosen
      exact d.routed_of_directive (.inr ⟨by rw [hreply]; simp, hne⟩)
  · -- the line decides
    cases hran with
    | asked hquestion =>
      exact .asked (by rw [Script.question?_of_line hthread hquestion]; rfl)
    | unasked hquestion =>
      exact .unasked (by rw [Script.question?_of_line hthread hquestion]; rfl)
    | told hmessage hevents =>
      rw [hsent hevents]
      exact .onward (Script.question?_eq_none_of_line hthread hmessage rfl)
    | ordered haction hevents =>
      rw [hsent hevents]
      exact d.routed_of_directive
        (.inl (Script.question?_eq_none_of_line hthread haction rfl))

/-- No prompt is called in an act without such events. -/
theorem promptCalls_of_lacks {α : Type} {act : Act σ H α} (h : Act.Lacks .prompted act)
    {env env' : Env σ} {result : Except Fault α} {events : List (Event H)}
    (hact : act env = ⟨result, env', events⟩) : promptCalls events = [] := by
  have hevents := h env
  rw [hact] at hevents
  exact promptCalls_eq_nil hevents

variable {d} in
/-- The entry of a thread calls no prompt. -/
theorem promptCalls_of_entry {a : Place σ} {result : Except Fault (Progress × Option Position)}
    {env : Env σ} {entry : List (Event H)} (hentry : d.enterAt w a = ⟨result, env, entry⟩) :
    promptCalls entry = [] :=
  promptCalls_of_lacks (.of_confined (d.enter_confined w _ _ _) (by simp)) hentry

variable {d w} in
/-- **A visit that succeeds** follows a route, which its prompts go with, from a
progress that stands at its line. -/
theorem LeadsClear.visitAt_routed (hclear : d.LeadsClear w) {lines : List (Line H)}
    {a : Place σ} (hthread : d.script.thread? a.position.thread = some lines)
    (hin : a.position.index < lines.length) {moved : Progress} {move : Move} {env : Env σ}
    {events : List (Event H)} (hvisit : d.visitAt w lines a = ⟨.ok (moved, move), env, events⟩) :
    ∃ working route env' tail, d.Routed a route (promptCalls events)
      ∧ working.position = a.position ∧ working.replay = false
      ∧ d.Following w a working env' route ⟨.ok (moved, move), env, tail⟩ := by
  have henters := d.enter_yields w a.working.thread (d.stepOf a)
    (a.working.arrive a.position) a.env
  change ∀ b, (d.enterAt w a).result = .ok b → _ at henters
  have hvisiting := d.visitAt_visiting w lines a
  rw [hvisit] at hvisiting
  generalize hwhole : (⟨.ok (moved, move), env, events⟩ : Outcome σ H (Progress × Move)) = o
    at hvisiting
  -- of the ways a visit can go, two succeed: a redirect at its entry, and a route
  cases hvisiting with
  | barred => cases hwhole
  | unanswered => cases hwhole
  | unrun => cases hwhole
  | @redirected entered target env' entry hentry =>
    cases hwhole
    rw [hentry] at henters
    obtain ⟨values, hentered⟩ := henters _ rfl
    have hentered : moved = { a.working.arrive a.position with values } := hentered
    refine ⟨moved, .restart target, env, [], ?_, by rw [hentered]; rfl, by rw [hentered]; rfl,
      .restart target⟩
    rw [promptCalls_reached, promptCalls_of_entry w hentry]
    exact .away (enterAt_redirects d hclear hentry)
  | @led entered answered route route' env₁ env₂ env₃ entry answering running hentry hanswer
      hline =>
    rw [hentry] at henters
    obtain ⟨values, hentered⟩ := henters _ rfl
    have hentered : entered = { a.working.arrive a.position with values } := hentered
    obtain ⟨values', hanswered⟩ := d.answerBefore_yields w lines (d.stepOf a) entered env₁
      (answered, route) (by rw [hanswer])
    have hanswered : answered = { entered with values := values' } := hanswered
    have hfollowing := d.follow_following w a answered route' env₃
    rcases hfollow : d.follow w (d.stepOf a) answered route' env₃ with ⟨result, env', tail⟩
    rw [hfollow] at hfollowing hwhole
    cases hwhole
    refine ⟨answered, route', env₃, tail, ?_, by rw [hanswered, hentered]; rfl,
      by rw [hanswered, hentered]; rfl, hfollowing⟩
    -- a prompt is called by the line alone
    have hanswering : promptCalls answering = [] := promptCalls_of_lacks
      (d.answerBefore_lacks w (by simp [takingKinds, branchKinds]) lines _ _) hanswer
    have htail : promptCalls tail = [] := promptCalls_of_lacks
      (.of_confined (d.follow_confined w _ _ _) (by simp [routeKinds])) hfollow
    rw [promptCalls_append, promptCalls_reached, promptCalls_append, promptCalls_append,
      promptCalls_of_entry w hentry, hanswering, htail, List.nil_append, List.nil_append,
      List.append_nil]
    exact hclear.routed hthread hin hanswer hline

/-- Ending the dialog stops a visit. -/
theorem conclude_stops {reply : Option String} {working moved : Progress} {values : Values}
    {move : Move} {env env' : Env σ} {events : List (Event H)}
    (h : (d.conclude w reply values >>= fun report =>
        pure ({ working with values }, Move.stop report)) env
      = ⟨.ok (moved, move), env', events⟩) :
    moved = { working with values } ∧ move = .stop (.complete values) := by
  have hconcluding := d.conclude_concluding w reply values env
  rcases hdone : d.conclude w reply values env with ⟨result, env₁, closing⟩
  rw [hdone] at hconcluding
  cases result with
  | error fault =>
    rw [Act.bind_of_error hdone] at h
    cases h
  | ok report =>
    rw [Act.bind_of_ok hdone] at h
    cases h
    cases hconcluding
    exact ⟨rfl, rfl⟩

/-! ## §4. Places where the dialog attends to the question asked last. -/

/-- The loop is at a place below the question asked last; or right at that question
again, and it will ask it. -/
def Ready (a : Place σ) (last : Option Position) : Prop :=
  Attends d.script a.position last
    ∨ last = some a.position ∧ a.reply = none ∧ a.working.thread = a.position.thread
      ∧ (d.script.question? a.position).isSome

/-- If the turn ended with this progress, the next would begin below the question
asked last, or right after a question that the turn has come to. -/
def Stands (working : Progress) (last : Option Position) : Prop :=
  working.isStarted = false ∨ Attends d.script working.resumePosition last
    ∨ working.replay = false ∧ (d.script.question? working.position).isSome

/-- The loop is at a place where both hold. -/
structure Settled (a : Place σ) (last : Option Position) : Prop where
  /-- It is below the question asked last, or right at it. -/
  ready : d.Ready a last
  /-- So is its progress, or it is right after a question. -/
  stands : d.Stands a.working last

/-- Progress that is done with its line goes on at the next. -/
theorem resumePosition_of_done {p : Progress} (h : p.replay = false) :
    p.resumePosition = p.position.following := by
  unfold Progress.resumePosition Progress.resumeIndex
  rw [h]
  rfl

variable {d} in
/-- Only a question that will be asked is not below the one asked last. -/
theorem Ready.attends {a : Place σ} {last : Option Position} (h : d.Ready a last)
    (hline : d.script.question? a.position = none ∨ a.reply ≠ none) :
    Attends d.script a.position last := by
  rcases h with hready | ⟨_, hreply, _, hsome⟩
  · exact hready
  · rcases hline with hnone | hline
    · rw [hnone] at hsome
      cases hsome
    · exact absurd hreply hline

variable {d} in
/-- Progress that is done with the line of a place stands below the question asked
last, or right after the one of this line. -/
theorem Ready.stands {a : Place σ} {last : Option Position} (h : d.Ready a last)
    {moved : Progress} (hat : moved.position = a.position) (hdone : moved.replay = false) :
    d.Stands moved last := by
  cases hquestion : d.script.question? a.position with
  | none =>
    refine .inr (.inl ?_)
    rw [resumePosition_of_done hdone, hat]
    exact (h.attends (.inl hquestion)).following hquestion
  | some intake =>
    refine .inr (.inr ⟨hdone, ?_⟩)
    rw [hat, hquestion]
    rfl

variable {d} in
/-- Right above a line below the question asked last stands that question, or a line
below it. -/
theorem ready_before {p : Position} {last : Option Position} {moved : Progress} {env : Env σ}
    (h : Attends d.script p last) (hthread : moved.thread = p.thread) :
    d.Ready (.onward { p with index := p.index - 1 } moved env) last := by
  -- the first line of a thread is its own line before
  cases hindex : p.index with
  | zero => exact .inl (.of_none (Script.above?_of_first rfl) _)
  | succ i =>
    show d.Ready (.onward ⟨p.thread, i⟩ moved env) last
    have hbelow : p = Position.following ⟨p.thread, i⟩ := by
      unfold Position.following
      rw [← hindex]
    rw [hbelow] at h
    cases hquestion : d.script.question? ⟨p.thread, i⟩ with
    | none =>
      refine .inl fun q hq => h q ?_
      rw [Script.above?_following, hquestion]
      exact hq
    | some intake =>
      -- it is the question asked last, and without a reply it will be asked again
      refine .inr ⟨h ⟨p.thread, i⟩ ?_, rfl, hthread, ?_⟩
      · rw [Script.above?_following, hquestion]
        rfl
      · show (d.script.question? ⟨p.thread, i⟩).isSome
        rw [hquestion]
        rfl

variable {d w} in
/-- **A visit that goes on leads to a settled place**, if it is at one, or calls a
prompt. -/
theorem LeadsClear.visitAt_settled (hclear : d.LeadsClear w) {lines : List (Line H)}
    {a : Place σ} (hthread : d.script.thread? a.position.thread = some lines)
    (hin : a.position.index < lines.length) {moved : Progress} {target : Position} {env : Env σ}
    {events : List (Event H)}
    (hvisit : d.visitAt w lines a = ⟨.ok (moved, .goOn target), env, events⟩)
    {last : Option Position} (h : d.Settled a last ∨ promptCalls events ≠ []) :
    d.Settled (.onward target moved env) (lastCalled last (promptCalls events)) := by
  obtain ⟨working, route, env', tail, hrouted, hat, hdone, hfollowing⟩ :=
    hclear.visitAt_routed hthread hin hvisit
  have hgoes : moved = working ∧ (route = .onward ∧ target = a.position.following
      ∨ route = .restart target) := by
    cases hfollowing with
    | onward => exact ⟨rfl, .inl ⟨rfl, rfl⟩⟩
    | restart => exact ⟨rfl, .inr rfl⟩
    | finish ending _ hconclude => cases (d.conclude_stops w hconclude).2
  obtain ⟨rfl, hroute⟩ := hgoes
  have hresume : moved.resumePosition = a.position.following := by
    rw [resumePosition_of_done hdone, hat]
  generalize promptCalls events = calls at h hrouted ⊢
  have hready : calls = [] → d.Ready a last := by
    rintro rfl
    exact (h.resolve_right fun hcalls => hcalls rfl).ready
  -- to the next line, or to where the route says
  rcases hroute with ⟨rfl, rfl⟩ | rfl
  · cases hrouted with
    | unasked hquestion =>
      have hbelow := Attends.following_of_question hquestion
      have hnext : Attends d.script moved.resumePosition (some a.position) := by
        rw [hresume]
        exact hbelow
      exact ⟨.inl hbelow, .inr (.inl hnext)⟩
    | onward hnone =>
      exact ⟨.inl (((hready rfl).attends (.inl hnone)).following hnone),
        (hready rfl).stands hat hdone⟩
  · cases hrouted with
    | away hclear => exact ⟨.inl (.of_none hclear _), (hready rfl).stands hat hdone⟩
    | back hback =>
      have hthread : moved.thread = a.position.thread := congrArg Position.thread hat
      exact ⟨ready_before ((hready rfl).attends hback) hthread, (hready rfl).stands hat hdone⟩

variable {d w} in
/-- **A way leads to a settled place**, if it sets out from one, or calls a prompt. -/
theorem LeadsClear.leads_settled (hclear : d.LeadsClear w) {n : Nat} {a b : Place σ}
    {events : List (Event H)} (hleads : d.Leads w n a events b) :
    ∀ {last : Option Position}, d.Settled a last ∨ promptCalls events ≠ [] →
      d.Settled b (lastCalled last (promptCalls events)) := by
  -- along the way; it is settled from the first prompt on that is called
  induction hleads with
  | here a =>
    intro last h
    exact h.resolve_right fun hcalls => hcalls rfl
  | @visit n a b lines moved target env events later hthread hin hvisit _ ih =>
    intro last h
    rw [promptCalls_append, lastCalled_append]
    refine ih ?_
    by_cases hlater : promptCalls later = []
    · rw [promptCalls_append, hlater, List.append_nil] at h
      exact .inl (hclear.visitAt_settled hthread hin hvisit h)
    · exact .inr hlater

/-! ## §5. Where a turn leaves the dialog. -/

/-- A turn is cut off: with one more line in its budget it would go on. -/
def CutsOff (call : Call) (env : Env σ) : Prop :=
  ∃ next rest, ((d.withBudget (d.settings.maxSteps + 1)).serve w call env).events
    = (d.serve w call env).events ++ .reached next :: rest

/-- The next turn begins below the question asked last, or begins the dialog anew. -/
def Left (saved : Progress) (last : Option Position) : Prop :=
  saved.isStarted = false ∨ Attends d.script saved.resumePosition last

/-- What a turn saves and reports skips a question: the turn is over before that is
asked, and the next turn takes no notice. -/
inductive Skips (cut : Prop) (last : Option Position) (saved : Progress) (report : Report) :
    Prop
  /-- The turn is cut off where it has gone back to the question asked last, to ask it
  again. -/
  | again (hcut : cut) (hreplay : saved.replay = true) (hlast : last = some saved.position)
  /-- The turn is cut off or ends the dialog, and leaves it at a question that is not
  the one asked last. -/
  | past (hover : cut ∨ report.status ≠ .waiting) (hreplay : saved.replay = false)
      (hquestion : (d.script.question? saved.position).isSome)
      (hlast : last ≠ some saved.position)

variable {d} in
/-- What counts as being cut off may be more. -/
theorem Skips.imp {cut cut' : Prop} {last : Option Position} {saved : Progress}
    {report : Report} (h : d.Skips cut last saved report) (hcut : cut → cut') :
    d.Skips cut' last saved report := by
  cases h with
  | again hcut' hreplay hlast => exact .again (hcut hcut') hreplay hlast
  | past hover hreplay hquestion hlast =>
    exact .past (hover.imp_left hcut) hreplay hquestion hlast

variable {d} in
/-- Progress below the question asked last is left so; right after a question it is
too, if that was asked last. -/
theorem Stands.left {cut : Prop} {last : Option Position} {saved : Progress}
    {report : Report} (h : d.Stands saved last) (hover : cut ∨ report.status ≠ .waiting) :
    d.Left saved last ∨ d.Skips cut last saved report := by
  rcases h with hunstarted | hattends | ⟨hdone, hquestion⟩
  · exact .inl (.inl hunstarted)
  · exact .inl (.inr hattends)
  · by_cases hlast : last = some saved.position
    · refine .inl (.inr ?_)
      rw [hlast, resumePosition_of_done hdone]
      exact .following_of_question hquestion
    · exact .inr (.past hover hdone hquestion hlast)

variable {d} in
/-- Where a turn is cut off. -/
theorem Settled.left_of_cut {b : Place σ} {last : Option Position} (h : d.Settled b last)
    {cut : Prop} (hcut : cut) :
    d.Left (cutOff b.working b.position) last
      ∨ d.Skips cut last (cutOff b.working b.position) .waiting := by
  unfold cutOff
  by_cases hsame : b.position.thread = b.working.thread
  · rw [if_pos hsame]
    have hhere : Progress.position { b.working with index := b.position.index, replay := true }
        = b.position := by
      unfold Progress.position
      rw [← hsame]
    rcases h.ready with hattends | ⟨hlast, _⟩
    · exact .inl (.inr (hhere ▸ hattends))
    · -- the next turn takes the line of the question without its reply
      exact .inr (.again hcut rfl (hhere ▸ hlast))
  · -- a jump to another thread is lost
    rw [if_neg hsame]
    exact h.stands.left (.inl hcut)

variable {d w} in
/-- Where a visit stops the turn. -/
theorem LeadsClear.visitAt_left (hclear : d.LeadsClear w) {lines : List (Line H)}
    {b : Place σ} (hthread : d.script.thread? b.position.thread = some lines)
    (hin : b.position.index < lines.length) {moved : Progress} {report : Report} {env : Env σ}
    {events : List (Event H)}
    (hvisit : d.visitAt w lines b = ⟨.ok (moved, .stop report), env, events⟩)
    {last : Option Position} (h : d.Settled b last ∨ promptCalls events ≠ []) (cut : Prop) :
    d.Left moved (lastCalled last (promptCalls events))
      ∨ d.Skips cut (lastCalled last (promptCalls events)) moved report := by
  obtain ⟨working, route, env', tail, hrouted, hat, hdone, hfollowing⟩ :=
    hclear.visitAt_routed hthread hin hvisit
  generalize promptCalls events = calls at h hrouted ⊢
  have hready : calls = [] → d.Ready b last := by
    rintro rfl
    exact (h.resolve_right fun hcalls => hcalls rfl).ready
  -- a turn that waits is left where it attends; one that is over, where it stands
  cases hfollowing with
  | suspend =>
    cases hrouted with
    | asked hquestion =>
      refine .inl (.inr ?_)
      rw [resumePosition_of_done hdone, hat]
      exact .following_of_question hquestion
  | hold =>
    cases hrouted with
    | held hline =>
      have hattends := (hready rfl).attends hline
      rw [← hat] at hattends
      exact .inl (.inr hattends)
  | handedOver script thread =>
    cases hrouted with
    | handOver => exact ((hready rfl).stands hat hdone).left (.inr (by simp [Report.replaced]))
  | @finish ending values _ hvalues hconclude =>
    cases hrouted with
    | finish =>
      obtain ⟨rfl, hmove⟩ := d.conclude_stops w hconclude
      cases hmove
      have hstands : d.Stands { working with values } last := (hready rfl).stands hat hdone
      exact hstands.left (.inr (by simp [Report.complete]))

variable {d w} in
/-- **Where a loop halts with success**, it leaves the dialog so. -/
theorem LeadsClear.halts_left (hclear : d.LeadsClear w) {left : Nat} {b : Place σ}
    {o : Outcome σ H (Progress × Report)} (hhalts : d.Halts w left b o) {saved : Progress}
    {report : Report} (hok : o.result = .ok (saved, report)) {last : Option Position}
    (h : d.Settled b last ∨ promptCalls o.events ≠ []) :
    d.Left saved (lastCalled last (promptCalls o.events))
      ∨ d.Skips (left = 0 ∧ d.script.HasLine b.position)
          (lastCalled last (promptCalls o.events)) saved report := by
  -- out of steps, a visit that stops the turn, or the end of a thread
  cases hhalts with
  | unknown => cases hok
  | failed => cases hok
  | spent b hline =>
    cases hok
    exact (h.resolve_right fun hcalls => hcalls rfl).left_of_cut ⟨rfl, hline⟩
  | stopped _ b hthread hin hvisit =>
    cases hok
    exact hclear.visitAt_left hthread hin hvisit h _
  | ended _ b hthread hend hconclude =>
    have hquiet : promptCalls o.events = [] := promptCalls_eq_nil fun e he hkind => by
      have hmem := ((d.conclude_confined w b.reply b.working.values).bind
        fun report => .pure (b.working, report)).events b.env e (hconclude ▸ he)
      rw [hkind] at hmem
      simp at hmem
    have hcompletes : saved = b.working ∧ report.status = .complete := by
      have hconcluding := d.conclude_concluding w b.reply b.working.values b.env
      subst hconclude
      rcases hdone : d.conclude w b.reply b.working.values b.env with ⟨result, env, closing⟩
      rw [hdone] at hconcluding
      cases result with
      | error fault =>
        rw [Act.bind_of_error hdone] at hok
        cases hok
      | ok report =>
        rw [Act.bind_of_ok hdone] at hok
        cases hok
        cases hconcluding
        exact ⟨rfl, rfl⟩
    obtain ⟨rfl, hstatus⟩ := hcompletes
    rw [hquiet] at h ⊢
    exact (h.resolve_right fun hcalls => hcalls rfl).stands.left (.inr (by simp [hstatus]))

variable {d w} in
/-- A turn whose visits have used up the budget before a line is cut off. -/
theorem Leads.cutsOff {call : Call} {env : Env σ} {start b : Place σ} {events : List (Event H)}
    (houtset : d.outset call env = some start)
    (hleads : d.Leads w d.settings.maxSteps start events b)
    (hline : d.script.HasLine b.position) : d.CutsOff w call env := by
  obtain ⟨hshort, hlong⟩ := d.serve_of_spent w houtset hleads hline
  obtain ⟨lines, hthread, hin⟩ := hline
  obtain ⟨tail, hvisit, _⟩ := d.visitAt_events w lines b
  obtain ⟨later, hround, _⟩ := d.loopAt_round w hthread hin 0
  refine ⟨b.position, tail ++ later, ?_⟩
  rw [hlong 1, hshort, loopAt_withBudget, hround, hvisit]
  rfl

variable {d w} in
/-- **Where a turn that succeeds leaves the dialog**: below the question asked last, if
it sets out from such a place or calls a prompt; or the turn skips a question. -/
theorem LeadsClear.serve_left (hclear : d.LeadsClear w) {call : Call} {env : Env σ}
    {start : Place σ} (houtset : d.outset call env = some start) {last : Option Position}
    (h : d.Settled start last ∨ promptCalls (d.serve w call env).events ≠ []) {report : Report}
    (hok : (d.serve w call env).result = .ok report) :
    d.Left (d.serve w call env).env.saved
        (lastCalled last (promptCalls (d.serve w call env).events))
      ∨ d.Skips (d.CutsOff w call env)
          (lastCalled last (promptCalls (d.serve w call env).events))
          (d.serve w call env).env.saved report := by
  obtain ⟨n, left, b, events, o, hsum, hleads, hhalts, hloop⟩ :=
    d.loopAt_course w d.settings.maxSteps start
  have hcut : left = 0 ∧ d.script.HasLine b.position → d.CutsOff w call env := by
    rintro ⟨rfl, hline⟩
    rw [Nat.add_zero] at hsum
    rw [hsum] at hleads
    exact hleads.cutsOff houtset hline
  have hserve : d.serve w call env = o.commit.after events := by
    rw [d.serve_of_outset w houtset, hloop, Outcome.commit_after]
  rw [hserve] at h hok ⊢
  simp only [Outcome.after_events, Outcome.after_result, Outcome.after_env,
    Outcome.commit_events, promptCalls_append, lastCalled_append] at h hok ⊢
  -- the way there is settled at its end, or a prompt is called where it halts
  have hsettled : d.Settled b (lastCalled last (promptCalls events)) ∨ promptCalls o.events ≠ [] := by
    by_cases hhere : promptCalls o.events = []
    · rw [hhere, List.append_nil] at h
      exact .inl (hclear.leads_settled hleads h)
    · exact .inr hhere
  obtain ⟨moved, hresult, hsaved⟩ := Outcome.exists_of_commit_ok hok
  rw [hsaved]
  exact (hclear.halts_left hhalts hresult hsettled).imp_right fun hskips => hskips.imp hcut

end Dialog

end Parley
