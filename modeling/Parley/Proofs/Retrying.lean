/-
  Parley.Proofs.Retrying
  ──────────────────────
  **A REPLY THAT IS SENT AGAIN AFTER A FAILURE.**

  A turn that fails keeps its reply and nothing else, if the reply was put into a
  variable.  So a user who sends the same reply again finds the dialog where it was,
  with the reply already in that variable:

    • `outcomeOf_stored` — what a turn comes to whose reply is put into a variable,
    • `savedAfter_retries` — what failures with the same reply leave: the variable
      has taken it once for each of them,
    • `run_retried` — so if the variable holds one reply, the retry is the turn that
      the first try would have been; if it joins replies, the retry finds one copy of
      the reply for each failure, and adds another.
-/
import Parley.Proofs.EmptyReply
import Parley.Proofs.Waiting

namespace Parley

variable {σ H : Type}

namespace Dialog

variable (d : Dialog H) (w : World σ H)

/-! ## §1. Turns that store their reply. -/

/-- A dialog that is to go on after a question, the reply to which is put into a variable that has
no callbacks. -/
structure Stores (lines : List (Line H)) (intake : Intake H) (key : String)
    (saved : Progress) : Prop where
  /-- It has entered a thread. -/
  started : saved.isStarted = true
  /-- Those are the lines of that. -/
  thread : d.script.thread? saved.thread = some lines
  /-- It goes on after the question. -/
  question : questionBefore? lines saved.resumeIndex = some intake
  /-- The question names the variable. -/
  named : intake.key = some key
  /-- No callback is registered for it. -/
  free : d.hooks.atChange key = []

/-- The progress of a dialog once replies are put into a variable, one after the other. -/
def collecting (saved : Progress) (key : String) (multiple : Bool) (texts : List String) :
    Progress :=
  { saved with values := d.collect key multiple saved.values texts }

/-- What is left of a turn once its reply is put into a variable: the branch of the reply, the
line, and what follows, with the variables as they are then. -/
def afterStoring (lines : List (Line H)) (intake : Intake H) (reply : String) (cause : Cause)
    (saved : Progress) (values : Values) : Act σ H (Progress × Report) :=
  d.settle w lines intake ⟨saved.thread, saved.resumeIndex - 1⟩ reply
      (d.stepAt saved.resumePosition cause (some reply))
      ({ saved.arrive saved.resumePosition with values }, none)
    >>= d.pursue w (d.settings.maxSteps - 1)

/-- What a turn comes to whose reply is put into a variable: the variables with the reply in them
are saved at once, and the rest of the turn goes on with them. -/
def storing (lines : List (Line H)) (intake : Intake H) (key reply : String) (cause : Cause)
    (values : Values) (env : Env σ) : Outcome σ H Report :=
  (d.afterStoring w lines intake reply cause env.saved values
      { env with saved := { env.saved with values } }).commit.after
    [.reached env.saved.resumePosition,
      .captured ⟨env.saved.thread, env.saved.resumeIndex - 1⟩ key reply]

variable {d w} {lines : List (Line H)} {intake : Intake H} {key reply : String}

/-- A dialog still is to go on after the question once replies were collected. -/
theorem Stores.collecting {saved : Progress} (h : d.Stores lines intake key saved)
    (texts : List String) :
    d.Stores lines intake key (d.collecting saved key intake.multiple texts) :=
  ⟨h.started, h.thread, h.question, h.named, h.free⟩

/-- Replies are collected one after the other. -/
theorem collecting_append (saved : Progress) (multiple : Bool) (first last : List String) :
    d.collecting saved key multiple (first ++ last)
      = d.collecting (d.collecting saved key multiple first) key multiple last := by
  unfold collecting
  rw [collect_append]

/-- A turn with a reply is one from where the dialog is to go on. -/
theorem outcomeOf_of_text {t : Turn σ} (hstores : d.Stores lines intake key t.env.saved)
    (htext : t.call.text? = some reply) :
    ∃ cause, t.call.onward? = some (cause, some reply)
      ∧ d.outcomeOf w t = d.turn w t.env.saved.resumePosition cause (some reply) t.env := by
  obtain ⟨cause, honward⟩ := Call.exists_onward_of_text htext
  refine ⟨cause, honward, ?_⟩
  unfold outcomeOf
  rw [d.serve_of_onward w honward, d.resume_of_started w hstores.started]

/-- The reply is put into the variable, and the variables are saved; no callback has a say in
them. -/
theorem takeReply_stored {env : Env σ} (hstores : d.Stores lines intake key env.saved)
    (reply : String) (cause : Cause) :
    d.takeReply w intake ⟨env.saved.thread, env.saved.resumeIndex - 1⟩ reply
        (d.stepAt env.saved.resumePosition cause (some reply))
        (env.saved.arrive env.saved.resumePosition) env
      = ⟨.ok ({ env.saved.arrive env.saved.resumePosition with
            values := d.collect key intake.multiple env.saved.values [reply] }, none),
          { env with saved := { env.saved with
              values := d.collect key intake.multiple env.saved.values [reply] } },
          [.captured ⟨env.saved.thread, env.saved.resumeIndex - 1⟩ key reply]⟩ := by
  have hbatch : d.replyBatch w (d.stepAt env.saved.resumePosition cause (some reply)).position
        (env.saved.arrive env.saved.resumePosition).values intake key reply env
      = ⟨.ok ⟨d.id, env.saved.resumePosition,
          d.collect key intake.multiple env.saved.values [reply]⟩, env, []⟩ := by
    unfold replyBatch runChange
    rw [hstores.free]
    rfl
  have hstays : (⟨d.id, env.saved.resumePosition,
      d.collect key intake.multiple env.saved.values [reply]⟩ : Handle).redirect?
        env.saved.resumePosition = none := Handle.redirect?_of_eq rfl
  rw [← hstays]
  exact d.takeReply_of_ok w hstores.named hbatch

/-- **A turn puts its reply into the variable**, if a line follows the question. -/
theorem outcomeOf_stored {t : Turn σ} (hstores : d.Stores lines intake key t.env.saved)
    (htext : t.call.text? = some reply) (hin : t.env.saved.resumeIndex < lines.length)
    (hbudget : 0 < d.settings.maxSteps) :
    ∃ cause, t.call.onward? = some (cause, some reply)
      ∧ d.outcomeOf w t = d.storing w lines intake key reply cause
          (d.collect key intake.multiple t.env.saved.values [reply]) t.env := by
  obtain ⟨cause, honward, hturn⟩ := outcomeOf_of_text (w := w) hstores htext
  refine ⟨cause, honward, ?_⟩
  obtain ⟨budget, hsteps⟩ := Nat.exists_eq_succ_of_ne_zero (Nat.ne_of_gt hbudget)
  have htaken := takeReply_stored (w := w) hstores reply cause
  have hround : d.resolve w (budget + 1) t.env.saved.resumePosition cause (some reply) t.env.saved
      = (d.visit w lines t.env.saved.resumePosition cause (some reply) t.env.saved
          >>= d.pursue w budget) := d.resolve_of_line w hstores.thread hin budget _ _ _
  have hvisit := d.visit_of_reply w (Call.text?_ne htext)
    (show questionBefore? lines t.env.saved.resumePosition.index = some intake
      from hstores.question) cause t.env.saved
  have hloop : d.resolve w (budget + 1) t.env.saved.resumePosition cause (some reply) t.env.saved
        t.env
      = ((d.takeReply w intake ⟨t.env.saved.thread, t.env.saved.resumeIndex - 1⟩ reply
            (d.stepAt t.env.saved.resumePosition cause (some reply))
            (t.env.saved.arrive t.env.saved.resumePosition) >>= fun taken =>
          d.settle w lines intake ⟨t.env.saved.thread, t.env.saved.resumeIndex - 1⟩ reply
            (d.stepAt t.env.saved.resumePosition cause (some reply)) taken
            >>= d.pursue w budget) t.env).after [.reached t.env.saved.resumePosition] := by
    rw [hround, hvisit, bind_assoc, Act.note_bind_apply, bind_assoc]
    rfl
  unfold storing afterStoring
  rw [hturn, turn_eq, hsteps, hloop, Act.bind_of_ok htaken, Outcome.after_after,
    Outcome.commit_after]
  rfl

/-- After a reply was put into its variable no other is in the same turn. -/
theorem afterStoring_confined (lines : List (Line H)) (intake : Intake H) (reply : String)
    (cause : Cause) (saved : Progress) (values : Values) :
    Act.Confined keylessKinds (d.afterStoring w lines intake reply cause saved values) :=
  (d.settle_confined w lines intake _ reply _ _).bind fun moved =>
    (d.pursue_confined w _ moved).mono (by simp [quietKinds, keylessKinds])

/-! ## §2. What failures with the same reply leave. -/

/-- A turn that may visit no line does not fail before one. -/
theorem budget_of_failure {t : Turn σ} (hstores : d.Stores lines intake key t.env.saved)
    (htext : t.call.text? = some reply) (hin : t.env.saved.resumeIndex < lines.length)
    {fault : Fault} (hfault : (d.outcomeOf w t).result = .error fault) :
    0 < d.settings.maxSteps := by
  refine Nat.pos_of_ne_zero fun hzero => ?_
  obtain ⟨cause, _, hturn⟩ := outcomeOf_of_text (w := w) hstores htext
  have hspent : d.resolve w 0 t.env.saved.resumePosition cause (some reply) t.env.saved
      = .answer (cutOff t.env.saved t.env.saved.resumePosition, .waiting) :=
    d.resolve_of_spent w hstores.thread hin _ _ _
  rw [hturn, turn_eq, hzero, hspent] at hfault
  cases hfault

/-- What a failure leaves: the reply in its variable, if a line follows the question. -/
theorem saved_of_failure {t : Turn σ} (hstores : d.Stores lines intake key t.env.saved)
    (htext : t.call.text? = some reply) {fault : Fault}
    (hfault : (d.outcomeOf w t).result = .error fault) :
    (d.outcomeOf w t).env.saved
      = if t.env.saved.resumeIndex < lines.length then
          d.collecting t.env.saved key intake.multiple [reply]
        else t.env.saved := by
  split
  · rename_i hin
    have hbudget := budget_of_failure hstores htext hin hfault
    obtain ⟨cause, _, hstored⟩ := outcomeOf_stored (w := w) hstores htext hin hbudget
    have hkept := (afterStoring_confined (d := d) (w := w) lines intake reply cause t.env.saved
      (d.collect key intake.multiple t.env.saved.values [reply])).saved
        { t.env with saved := { t.env.saved with
          values := d.collect key intake.multiple t.env.saved.values [reply] } }
    rw [hstored] at hfault ⊢
    exact (Outcome.commit_saved_of_error hfault).trans hkept
  · rename_i hout
    obtain ⟨cause, _, hturn⟩ := outcomeOf_of_text (w := w) hstores htext
    have hend : d.outcomeOf w t = d.conclude w (some reply) t.env.saved.values t.env :=
      hturn.trans (d.turn_of_end w hstores.thread (Nat.not_lt.mp hout) cause (some reply) t.env)
    rw [hend]
    exact (d.conclude_confined w _ _).saved t.env

/-- **Failures with the same reply** leave it in its variable, once for each, if a line follows the
question. -/
theorem savedAfter_retries {run : List (Meeting σ)}
    (hreplies : ∀ m ∈ run, m.call.text? = some reply) :
    ∀ {saved : Progress}, d.Stores lines intake key saved →
      (∀ t ∈ d.turnsOf w saved run, ∃ fault, (d.outcomeOf w t).result = .error fault) →
      d.savedAfter w saved run
        = if saved.resumeIndex < lines.length then
            d.collecting saved key intake.multiple (List.replicate run.length reply)
          else saved := by
  -- along the run; each failure leaves the dialog where the next one finds it
  induction run with
  | nil =>
    intro saved _ _
    split <;> rfl
  | cons m rest ih =>
    intro saved hstores hfails
    rw [List.forall_mem_cons] at hreplies
    unfold turnsOf at hfails
    rw [List.forall_mem_cons] at hfails
    obtain ⟨⟨fault, hfault⟩, hrest⟩ := hfails
    have hfirst := saved_of_failure (t := ⟨m.call, m.env saved⟩) hstores hreplies.1 hfault
    show d.savedAfter w (d.outcomeOf w ⟨m.call, m.env saved⟩).env.saved rest = _
    change _ = if saved.resumeIndex < lines.length then
      d.collecting saved key intake.multiple [reply] else saved at hfirst
    by_cases hin : saved.resumeIndex < lines.length
    · rw [if_pos hin] at hfirst ⊢
      rw [hfirst] at hrest ⊢
      have hin' : (d.collecting saved key intake.multiple [reply]).resumeIndex < lines.length :=
        hin
      rw [ih hreplies.2 (hstores.collecting [reply]) hrest, if_pos hin', ← collecting_append]
      rfl
    · rw [if_neg hin] at hfirst ⊢
      rw [hfirst] at hrest ⊢
      rw [ih hreplies.2 hstores hrest, if_neg hin]

/-- One copy more of a reply. -/
theorem collect_copy (saved : Progress) (n : Nat) :
    d.collect key intake.multiple
        (d.collecting saved key intake.multiple (List.replicate n reply)).values [reply]
      = d.collect key intake.multiple saved.values (List.replicate (n + 1) reply) := by
  rw [List.replicate_succ', collect_append]
  rfl

/-- The reply of a turn after such failures is put into the variable once more. -/
theorem outcomeOf_retry {saved : Progress} (hstores : d.Stores lines intake key saved)
    (hin : saved.resumeIndex < lines.length) (hbudget : 0 < d.settings.maxSteps) {m : Meeting σ}
    (htext : m.call.text? = some reply) (n : Nat) :
    ∃ cause, m.call.onward? = some (cause, some reply)
      ∧ d.outcomeOf w ⟨m.call, m.env (d.collecting saved key intake.multiple
          (List.replicate n reply))⟩
        = d.storing w lines intake key reply cause
            (d.collect key intake.multiple saved.values (List.replicate (n + 1) reply))
            (m.env saved) := by
  obtain ⟨cause, honward, hstored⟩ := outcomeOf_stored (w := w)
    (t := ⟨m.call, m.env (d.collecting saved key intake.multiple (List.replicate n reply))⟩)
    (hstores.collecting _) htext hin hbudget
  refine ⟨cause, honward, ?_⟩
  rw [← collect_copy]
  exact hstored

/-- The reply is to that question. -/
theorem Stores.asked {saved : Progress} (h : d.Stores lines intake key saved) :
    d.script.question? ⟨saved.thread, saved.resumeIndex - 1⟩ = some intake := by
  obtain ⟨i, draft, hindex, hline⟩ := questionBefore?_eq_some.mp h.question
  rw [hindex]
  exact Script.question?_of_line h.thread hline

/-- Events after a reply was put into a variable leave it there, if no callback is among them. -/
theorem Told.held {s s' : Standing σ} {p q : Position} {rest : List (Event H)}
    (htold : d.Told w s (.reached p :: .captured q key reply :: rest) s')
    (hasked : d.script.question? q = some intake)
    (hrest : ∀ e ∈ rest, e.kind ≠ .captured ∧ e.callsBack = false) :
    s'.values.get? key = (d.collect key intake.multiple s.values [reply]).get? key := by
  obtain _ | ⟨hreached, htold⟩ := htold
  cases hreached
  obtain _ | ⟨hcaptured, htold⟩ := htold
  cases hcaptured with
  | captured hasked' =>
    rw [hasked] at hasked'
    cases hasked'
    refine Classical.byContradiction fun hchanged => ?_
    rcases htold.changed hchanged with ⟨question, text, hmem⟩ | ⟨hsplit, _, hcalls, _, _⟩
    · exact (hrest _ hmem).1 rfl
    · rw [(hrest _ (by rw [hsplit]; simp)).2] at hcalls
      cases hcalls

/-- In a call that succeeds nothing but a callback changes the variable after the reply is put into
it, unless the variable tells how the dialog ended. -/
theorem held_of_uncalled {t : Turn σ} (hstores : d.Stores lines intake key t.env.saved)
    (htext : t.call.text? = some reply) {cause : Cause}
    (hstored : d.outcomeOf w t = d.storing w lines intake key reply cause
      (d.collect key intake.multiple t.env.saved.values [reply]) t.env)
    {report : Report} (hok : (d.outcomeOf w t).result = .ok report)
    (huncalled : ∀ e ∈ (d.outcomeOf w t).events, e.callsBack = false) (hkey : key ≠ statusKey) :
    (d.outcomeOf w t).env.saved.values.get? key
      = (d.collect key intake.multiple t.env.saved.values [reply]).get? key := by
  obtain ⟨rest, hevents, hquiet⟩ : ∃ rest, (d.outcomeOf w t).events
        = .reached t.env.saved.resumePosition
          :: .captured ⟨t.env.saved.thread, t.env.saved.resumeIndex - 1⟩ key reply :: rest
      ∧ ∀ e ∈ rest, e.kind ∈ keylessKinds := by
    rw [hstored]
    unfold storing
    rw [Outcome.after_events, Outcome.commit_events]
    exact ⟨_, rfl, (afterStoring_confined lines intake reply cause _ _).events _⟩
  have hrest : ∀ e ∈ rest, e.kind ≠ .captured ∧ e.callsBack = false := by
    intro e he
    refine ⟨fun hkind => ?_, huncalled e (by rw [hevents]; simp [he])⟩
    have hkinds := hquiet e he
    rw [hkind] at hkinds
    simp [keylessKinds, quietKinds] at hkinds
  obtain ⟨cause', _, hturn⟩ := outcomeOf_of_text (w := w) hstores htext
  rw [hturn] at hok hevents ⊢
  rcases d.turn_cases w t.env.saved.resumePosition cause' (some reply) t.env with
    ⟨fault, env, events, _, hdone⟩ | ⟨working, report', env, events, hloop, hdone⟩
  · rw [hdone] at hok
    cases hok
  · -- the events of the turn lead to the variables that it leaves
    rw [hdone] at hevents ⊢
    obtain ⟨⟨session, values, htold, hleaves⟩, _⟩ := d.loopAt_retold w none d.settings.maxSteps
      ⟨t.env.saved.resumePosition, cause', some reply, t.env.saved, t.env⟩
    unfold loopAt at htold hleaves
    rw [hloop] at htold hleaves
    change events = _ at hevents
    subst hevents
    have hheld := htold.held hstores.asked hrest
    show working.values.get? key = _
    rcases hleaves _ rfl with hvalues | ⟨_, _, hmarks, _⟩
    · rw [show working.values = values from hvalues]
      exact hheld
    · obtain ⟨ending, hvalues⟩ := hmarks.written
      rw [show working.values = _ from hvalues, Table.get?_insert_of_ne _ _ hkey]
      exact hheld

/-! ## §3. The retry that succeeds. -/

/-- The text that a variable holds which joins replies, once a reply was put into it `n` times: what
it showed before, if it showed anything, and the copies, with separators between them. -/
def copies (d : Dialog H) (shown? : Option String) (n : Nat) (reply : String) : String :=
  d.settings.separator.intercalate
    ((shown?.filter (· ≠ "")).toList ++ List.replicate n reply)

/-- Replies that were put into a variable have written that, and nothing else. -/
theorem collect_eq_insert {values : Values} (multiple : Bool) {texts : List String} {held : String}
    (hne : texts ≠ [])
    (hheld : (d.collect key multiple values texts).get? key = some (.string held)) :
    d.collect key multiple values texts = values.insert key (.string held) := by
  have hwritten : ∃ text, d.collect key multiple values texts
      = values.insert key (.string text) := by
    clear hheld
    -- along the replies; what the first one wrote is written over
    induction texts generalizing values with
    | nil => exact absurd rfl hne
    | cons first rest ih =>
      show ∃ text, d.collect key multiple (values.insert key _) rest = _
      cases rest with
      | nil => exact ⟨_, rfl⟩
      | cons second rest =>
        obtain ⟨text, htext⟩ := @ih (values.insert key (.string _)) (List.cons_ne_nil _ _)
        exact ⟨text, htext.trans (Table.insert_insert _ _ _ _)⟩
  obtain ⟨text, htext⟩ := hwritten
  rw [htext, Table.get?_insert_self] at hheld
  cases hheld
  exact htext

/-- A variable that holds one reply holds it, however often it is put into it. -/
theorem collect_replicate_of_single (values : Values) {n : Nat} (hn : n ≠ 0) (reply : String) :
    d.collect key false values (List.replicate n reply) = values.insert key (.string reply) := by
  refine collect_eq_insert false (by simpa using hn) (collect_of_single ?_)
  rw [List.getLast?_replicate, if_neg hn]

/-- A variable that joins replies holds a copy for each time. -/
theorem collect_replicate_of_multiple (values : Values) {n : Nat} (hn : n ≠ 0)
    (hreply : reply ≠ "") :
    d.collect key true values (List.replicate n reply)
      = values.insert key (.string (d.copies (values.shown? key) n reply)) := by
  refine collect_eq_insert true (by simpa using hn) (collect_of_multiple (by simpa using hn) ?_)
  intro text htext
  rw [List.eq_of_mem_replicate htext]
  exact hreply

variable (d w) in
/-- What comes of a run of failures with a reply, and of a call with that reply after it. -/
structure Retried (lines : List (Line H)) (intake : Intake H) (key reply : String)
    (saved : Progress) (run : List (Meeting σ)) (m : Meeting σ) : Prop where
  /-- The reply is put into the variable if a line follows the question. -/
  stored : (∃ question, .captured question key reply
      ∈ (d.outcomeOf w ⟨m.call, m.env (d.savedAfter w saved run)⟩).events)
    ↔ saved.resumeIndex < lines.length
  /-- If the variable holds one reply, the call is, in its result, in all that it leaves and in all
  that happens, the one that it would have been without the failures. -/
  single : intake.multiple = false →
    d.outcomeOf w ⟨m.call, m.env (d.savedAfter w saved run)⟩
      = d.outcomeOf w ⟨m.call, m.env saved⟩
  /-- If the reply is not put into it, the failures leave no trace. -/
  unstored : lines.length ≤ saved.resumeIndex → d.savedAfter w saved run = saved
  /-- If the variable joins replies, the failures leave as many copies in it. -/
  joined : intake.multiple = true → saved.resumeIndex < lines.length →
    d.savedAfter w saved run
      = { saved with
          values := saved.values.insert key
            (.string (d.copies (saved.values.shown? key) run.length reply)) }
  /-- Then the call saves one copy more in it, and goes on with that. -/
  holds : intake.multiple = true → saved.resumeIndex < lines.length →
    ∃ cause, m.call.onward? = some (cause, some reply)
      ∧ d.outcomeOf w ⟨m.call, m.env (d.savedAfter w saved run)⟩
        = d.storing w lines intake key reply cause
            (saved.values.insert key
              (.string (d.copies (saved.values.shown? key) (run.length + 1) reply)))
            (m.env saved)
  /-- If it succeeds and no callback runs in it, that is what the variable holds in the end, unless
  it tells how the dialog ended. -/
  kept : intake.multiple = true → saved.resumeIndex < lines.length → key ≠ statusKey →
    ∀ report, (d.outcomeOf w ⟨m.call, m.env (d.savedAfter w saved run)⟩).result = .ok report →
    (∀ e ∈ (d.outcomeOf w ⟨m.call, m.env (d.savedAfter w saved run)⟩).events,
      e.callsBack = false) →
    (d.outcomeOf w ⟨m.call, m.env (d.savedAfter w saved run)⟩).env.saved.values.get? key
      = some (.string (d.copies (saved.values.shown? key) (run.length + 1) reply))

/-- **A reply can be sent again after failures.**  Let a dialog be about to go on after a question
that names a variable without callbacks, and let turns with the same reply fail one after the other,
wherever they do.  If the variable holds one reply, the next call with that reply does what it would
have done at first, in the same surroundings.  If it joins replies and the reply is put into it, the
call finds a copy of the reply there for each failure, after what the variable showed before, and
adds another. -/
theorem run_retried {saved : Progress} (hstores : d.Stores lines intake key saved)
    {run : List (Meeting σ)} (hne : run ≠ [])
    (hreplies : ∀ m ∈ run, m.call.text? = some reply)
    (hfails : ∀ t ∈ d.turnsOf w saved run, ∃ fault, (d.outcomeOf w t).result = .error fault)
    {m : Meeting σ} (hreply : m.call.text? = some reply) :
    d.Retried w lines intake key reply saved run m := by
  have hafter := savedAfter_retries hreplies hstores hfails
  have hlength : run.length ≠ 0 := by simpa using hne
  rcases Nat.lt_or_ge saved.resumeIndex lines.length with hin | hout
  · obtain ⟨first, rest, rfl⟩ := List.exists_cons_of_ne_nil hne
    obtain ⟨fault, hfault⟩ := hfails _ List.mem_cons_self
    have hbudget := budget_of_failure (t := ⟨first.call, first.env saved⟩) hstores
      (hreplies first List.mem_cons_self) hin hfault
    -- the call as it would have been at first, and as it is after the failures
    obtain ⟨cause, honward, hfresh⟩ := outcomeOf_retry (w := w) hstores hin hbudget hreply 0
    obtain ⟨cause', honward', hretry⟩ :=
      outcomeOf_retry (w := w) hstores hin hbudget hreply (first :: rest).length
    rw [if_pos hin] at hafter
    rw [honward] at honward'
    cases honward'
    refine ⟨⟨fun _ => hin, fun _ => ⟨⟨saved.thread, saved.resumeIndex - 1⟩, ?stored⟩⟩, ?single,
      fun h => absurd h (by omega), ?joined, ?holds, ?kept⟩
    case stored =>
      rw [hafter, hretry]
      exact List.mem_append_left _ (by simp [Meeting.env])
    case single =>
      intro hsingle
      rw [hsingle] at hafter hfresh hretry
      rw [collect_replicate_of_single _ (by omega)] at hfresh hretry
      rw [hafter, hretry, ← hfresh]
      rfl
    case joined =>
      intro hmultiple _
      rw [hafter, hmultiple]
      unfold collecting
      rw [collect_replicate_of_multiple _ hlength (Call.text?_ne hreply)]
    case holds =>
      intro hmultiple _
      refine ⟨cause, honward, ?_⟩
      rw [hafter, hretry, hmultiple,
        collect_replicate_of_multiple _ (Nat.succ_ne_zero _) (Call.text?_ne hreply)]
    case kept =>
      intro hmultiple _ hkey report hok huncalled
      rw [hafter] at hok huncalled ⊢
      obtain ⟨cause'', _, hstored⟩ := outcomeOf_stored (w := w) (t := ⟨m.call, m.env
        (d.collecting saved key intake.multiple (List.replicate (first :: rest).length reply))⟩)
        (hstores.collecting _) hreply hin hbudget
      refine (held_of_uncalled (hstores.collecting _) hreply hstored hok huncalled hkey).trans ?_
      show (d.collect key intake.multiple (d.collecting saved key intake.multiple
        (List.replicate (first :: rest).length reply)).values [reply]).get? key = _
      rw [collect_copy, hmultiple,
        collect_replicate_of_multiple _ (Nat.succ_ne_zero _) (Call.text?_ne hreply),
        Table.get?_insert_self]
  · -- the reply ends the dialog, and is put into no variable
    rw [if_neg (by omega)] at hafter
    refine ⟨⟨?_, fun h => absurd h (by omega)⟩, fun _ => by rw [hafter], fun _ => hafter,
      fun _ h => absurd h (by omega), fun _ h => absurd h (by omega),
      fun _ h => absurd h (by omega)⟩
    rintro ⟨question, hmem⟩
    rw [hafter] at hmem
    obtain ⟨cause, _, hturn⟩ := outcomeOf_of_text (w := w) (t := ⟨m.call, m.env saved⟩) hstores
      hreply
    rw [hturn, d.turn_of_end w hstores.thread hout] at hmem
    have hkind := (d.conclude_confined w _ _).events _ _ hmem
    simp [Event.kind] at hkind

/-- The same color comes in twice, and each time the offer after it cannot be sent. -/
def hamperedRun : List (Meeting Stage) :=
  [replyOn (readyStage.startTurn [(.send, 0)]) "blue",
    replyOn (readyStage.startTurn [(.send, 0)]) "blue"]

/-- A color that failed twice is held three times once it comes through. -/
theorem paletteDialog_retried :
    (∃ intake, questionBefore? paletteLines 1 = some intake
        ∧ paletteDialog.Retried Stage.world paletteLines intake "colors" "blue" paletteProgress
          hamperedRun (replyOn readyStage "blue"))
      ∧ (paletteDialog.outcomeOf Stage.world ⟨(replyOn readyStage "blue").call,
          (replyOn readyStage "blue").env
            (paletteDialog.savedAfter Stage.world paletteProgress hamperedRun)⟩).env.saved.values
        = Table.empty.insert "colors" (.string "red, blue, blue, blue") := by
  refine ⟨⟨_, rfl, ?_⟩, rfl⟩
  refine run_retried ⟨rfl, rfl, rfl, rfl, rfl⟩ (by decide) ?replies ?fails rfl
  case replies => exact List.forall_mem_cons.mpr ⟨rfl, List.forall_mem_singleton.mpr rfl⟩
  case fails =>
    exact List.forall_mem_cons.mpr ⟨⟨_, rfl⟩, List.forall_mem_singleton.mpr ⟨_, rfl⟩⟩

end Dialog

end Parley
