/-
  Parley.Proofs.Wording
  ─────────────────────
  **RANDOM WORDS CHOOSE WORDINGS, AND NOTHING ELSE.**

  A line with several texts is worded by random words.  Let the world take every
  message alike whatever its text (`World.BlindToText`), and run the same calls
  with other words:

    • `Draft.render_cases` — a message is worded otherwise only if its draft has
      several texts and suggests no replies, and then by another of its texts,
    • `visit_parallel`, `resolve_parallel` — a visit and a loop go the same way,
      and their events are the same but for such wordings of their lines,
    • `keptRun_sameButWording` — so do runs of calls: the results, the progress
      saved and the calls on the world are the same throughout.
-/
import Parley.Proofs.Persistence
import Parley.Proofs.Rendering
import Parley.Proofs.Steps
import Parley.Proofs.Twins

namespace Parley

variable {σ H α : Type}

/-! ## §1. Messages worded otherwise. -/

/-- A message without its text. -/
def Message.withoutText (m : Message) : Message := { m with text := "" }

namespace Draft

/-- Two messages made of a draft that has several texts and suggests no replies: each with one
of its texts, and with the same variables. -/
structure Rewords (draft : Draft) (m m' : Message) : Prop where
  /-- The draft has several texts. -/
  several : 2 ≤ draft.texts.length
  /-- The draft suggests no replies. -/
  plain : draft.suggestions = []
  /-- The messages differ in which of its texts they have. -/
  texts : ∃ values, ∃ text ∈ draft.texts, ∃ text' ∈ draft.texts,
    m = draft.message values (some text) ∧ m' = draft.message values (some text')

/-- Messages worded otherwise differ in their texts alone. -/
theorem Rewords.withoutText {draft : Draft} {m m' : Message} (h : draft.Rewords m m') :
    m.withoutText = m'.withoutText := by
  -- one draft and the same values, so only the text can differ
  obtain ⟨values, text, _, text', _, rfl, rfl⟩ := h.texts
  rfl

/-- **What other words make of a draft**: the same message, or one worded otherwise. -/
theorem render_cases (draft : Draft) (values : Values) (words words' : Words) :
    (draft.render values words).1 = (draft.render values words').1
      ∨ draft.Rewords (draft.render values words).1 (draft.render values words').1 := by
  show draft.message values (draft.variant words).1
      = draft.message values (draft.variant words').1
    ∨ draft.Rewords (draft.message values (draft.variant words).1)
      (draft.message values (draft.variant words').1)
  by_cases hplain : draft.suggestions = []
  · by_cases hne : draft.texts = []
    · -- there is no text to choose
      left
      unfold variant
      rw [hne]
    · obtain ⟨i, hi, htext⟩ := variant_of_plain hplain hne words
      obtain ⟨i', hi', htext'⟩ := variant_of_plain hplain hne words'
      rw [htext, htext']
      by_cases hseveral : 2 ≤ draft.texts.length
      · right
        rw [List.getElem?_eq_getElem hi, List.getElem?_eq_getElem hi']
        exact ⟨hseveral, hplain, values, _, List.getElem_mem hi, _, List.getElem_mem hi', rfl, rfl⟩
      · -- the only text is chosen in both
        left
        rw [show i = i' by omega]
  · left
    rw [variant_of_suggestions hplain, variant_of_suggestions hplain]

end Draft

/-! ## §2. Events worded otherwise. -/

/-- An event that is the same but for the wording of a delivery, which is that of a draft. -/
inductive Event.Rewords (draft? : Option Draft) : Event H → Event H → Prop
  /-- The same happens. -/
  | same (e : Event H) : Rewords draft? e e
  /-- A message is sent, worded otherwise. -/
  | sent {draft : Draft} {m m' : Message} (hdraft : draft? = some draft)
      (hwording : draft.Rewords m m') (ok : Bool) : Rewords draft? (.sent m ok) (.sent m' ok)
  /-- A question is asked, worded otherwise. -/
  | prompted {draft : Draft} {m m' : Message} (hdraft : draft? = some draft)
      (hwording : draft.Rewords m m') (question : Position) (prompt : String) (ok : Bool) :
      Rewords draft? (.prompted question prompt m ok) (.prompted question prompt m' ok)

/-- What the line at a position sends. -/
def Script.draftAt? (s : Script H) (p : Position) : Option Draft :=
  ((s.thread? p.thread).bind fun lines => lines[p.index]?).map Line.draft

/-- Events that are the same one by one, but for the wordings of lines: what is worded
otherwise is what the line sends at the position reached last. -/
inductive Parallel (s : Script H) : Option Position → List (Event H) → List (Event H) → Prop
  /-- Nothing happens. -/
  | nil (here : Option Position) : Parallel s here [] []
  /-- The same happens, but for its wording, and then the rest. -/
  | cons {here : Option Position} {e e' : Event H} {rest rest' : List (Event H)}
      (hfirst : Event.Rewords (here.bind s.draftAt?) e e')
      (hrest : Parallel s (e.reached?.or here) rest rest') :
      Parallel s here (e :: rest) (e' :: rest')

namespace Parallel

variable {s : Script H} {here : Option Position} {events events' : List (Event H)}

/-- What happens is parallel to itself, wherever it starts. -/
theorem refl (s : Script H) (events : List (Event H)) :
    ∀ here, Parallel s here events events := by
  induction events with
  | nil => exact .nil
  | cons e rest ih => exact fun here => .cons (.same e) (ih _)

/-- Parallel events stay so, with others after them that are parallel from any position. -/
theorem append (h : Parallel s here events events') {more more' : List (Event H)}
    (hmore : ∀ here, Parallel s here more more') :
    Parallel s here (events ++ more) (events' ++ more') := by
  -- along the first events; where they lead, the others are parallel too
  induction h with
  | nil here => exact hmore here
  | cons hfirst _ ih => exact .cons hfirst ih

/-- Events compare if they do wherever they happen. -/
theorem comparison (s : Script H) :
    Comparison fun events events' : List (Event H) => ∀ here, Parallel s here events events' :=
  ⟨fun events => refl s events, fun hfirst hlast here => (hfirst here).append hlast⟩

/-- Events at one position compare if each is worded as the line there may be. -/
theorem of_forall₂ (h : List.Forall₂ (Event.Rewords (here.bind s.draftAt?)) events events')
    (hquiet : ∀ e ∈ events, e.kind ≠ .reached) : Parallel s here events events' := by
  induction h with
  | nil => exact .nil here
  | cons hfirst _ ih =>
    rw [List.forall_mem_cons] at hquiet
    refine .cons hfirst ?_
    rw [Event.reached?_eq_none hquiet.1, Option.none_or]
    exact ih hquiet.2

end Parallel

/-! ## §3. Worlds that do not read. -/

/-- The world takes every message alike whatever its text, in states that `R` relates; and
callbacks do not tell such states apart. -/
structure World.BlindToText (w : World σ H) (R : σ → σ → Prop) : Prop where
  /-- Messages are delivered alike. -/
  send : ∀ m m' : Message, m.withoutText = m'.withoutText → Agree R (w.send m) (w.send m')
  /-- Prompts start alike. -/
  prompt : ∀ (name : String) (m m' : Message), m.withoutText = m'.withoutText →
    Agree R (w.prompt name m) (w.prompt name m')
  /-- Sessions are made alike. -/
  spawn : Agree R w.spawn w.spawn
  /-- The dialog is ended alike. -/
  finish : ∀ result, Agree R (w.finish result) (w.finish result)
  /-- The dialog is replaced alike. -/
  handOver : ∀ script options, Agree R (w.handOver script options) (w.handOver script options)
  /-- Callbacks for the entry of a thread do the same. -/
  atEntry : ∀ h handle session, Agree R (w.atEntry h handle session) (w.atEntry h handle session)
  /-- Callbacks about a reply do the same. -/
  atReply : ∀ h reply handle session,
    Agree R (w.atReply h reply handle session) (w.atReply h reply handle session)
  /-- Callbacks for the end do the same. -/
  atEnd : ∀ h values session, Agree R (w.atEnd h values session) (w.atEnd h values session)

namespace Dialog

variable (d : Dialog H) {w : World σ H} {R : σ → σ → Prop}

/-! ## §4. Parts of a visit that send nothing. -/

section Quiet

variable {E : List (Event H) → List (Event H) → Prop} (hE : Comparison E)
  (hw : w.BlindToText R)

include hE hw

/-- Entering a thread sends nothing, so it goes the same way. -/
theorem enter_twins (previous : String) (step : Step) (working : Progress) :
    Act.Twins R E (d.enter w previous step working) (d.enter w previous step working) := by
  unfold enter
  split
  · refine (runBatch_twins hE hw.spawn ?_ _ _).bind hE fun after => .pure hE _
    exact fun session h handle => .same hE (hw.atEntry h handle session)
  · exact .answer hE _

/-- The callback of a branch does the same, for it cannot tell the states apart. -/
theorem runHandler_twins (h : H) (reply : String) (handle : Handle) :
    Act.Twins R E (runHandler w h reply handle) (runHandler w h reply handle) := by
  have hmade : Act.Twins R E (spawn w) (spawn w) := .same hE hw.spawn
  refine hmade.bind hE fun session => ?_
  exact (Act.Twins.same hE (hw.atReply h reply handle session)).bind hE fun after => .pure hE _

/-- Taking a reply sends nothing, so it goes the same way. -/
theorem takeReply_twins (intake : Intake H) (question : Position) (reply : String)
    (step : Step) (working : Progress) :
    Act.Twins R E (d.takeReply w intake question reply step working)
      (d.takeReply w intake question reply step working) := by
  cases hkey : intake.key with
  | none =>
    rw [d.takeReply_of_no_key w hkey]
    exact .answer hE _
  | some key =>
    rw [d.takeReply_of_key w hkey]
    refine (Act.Twins.note hE _).bind hE fun _ => ?_
    refine Act.Twins.bind hE (runBatch_twins hE hw.spawn ?_ _ _) fun after => ?_
    · exact fun session h handle => .same hE (hw.atReply h reply handle session)
    · exact (Act.Twins.saveValues hE after.values).bind hE fun _ => .pure hE _

/-- A branch is chosen by the reply, so the same one. -/
theorem branch_twins (intake : Intake H) (question : Position) (reply : String)
    (step : Step) (working : Progress) :
    Act.Twins R E (d.branch w intake question reply step working)
      (d.branch w intake question reply step working) := by
  refine (Act.Twins.note hE _).bind hE fun _ => ?_
  -- no branch, one with a directive, or one with a callback
  split
  · exact .pure hE _
  · exact .pure hE _
  · exact (runHandler_twins hE hw _ reply _).bind hE fun _ => .pure hE _

/-- Answering goes the same way. -/
theorem answerBefore_twins (lines : List (Line H)) (step : Step) (working : Progress) :
    Act.Twins R E (d.answerBefore w lines step working)
      (d.answerBefore w lines step working) := by
  unfold answerBefore
  split
  · refine (d.takeReply_twins hE hw _ _ _ step working).bind hE ?_
    rintro ⟨taken, redirect⟩
    cases redirect with
    | some target => exact .pure hE _
    | none => exact d.branch_twins hE hw _ _ _ step taken
  · exact .answer hE _

/-- The dialog is ended the same way. -/
theorem conclude_twins (result : Option String) (values : Values) :
    Act.Twins R E (d.conclude w result values) (d.conclude w result values) := by
  refine (Act.Twins.same hE (hw.finish result)).bind hE fun _ => ?_
  exact (d.runEnd_twins hE hw.spawn hw.atEnd values).bind hE fun _ => .pure hE _

/-- A route is followed the same way. -/
theorem follow_twins (step : Step) (working : Progress) (route : Route) :
    Act.Twins R E (d.follow w step working route) (d.follow w step working route) := by
  cases route with
  | onward => exact (Act.Twins.ofExcept hE step.next).bind hE fun _ => .pure hE _
  | restart target => exact .answer hE _
  | suspend => exact .answer hE _
  | hold => exact .answer hE _
  | finish ending => exact (d.conclude_twins hE hw step.reply _).bind hE fun _ => .pure hE _
  | handOver script thread =>
    exact (Act.Twins.same hE (hw.handOver script _)).bind hE fun _ => .pure hE _

end Quiet

/-! ## §5. What a line sends. -/

/-- One thing happens, worded as a draft may be. -/
theorem single_rewords {draft? : Option Draft} {e e' : Event H}
    (h : Event.Rewords draft? e e') : List.Forall₂ (Event.Rewords draft?) [e] [e'] :=
  .cons h .nil

/-- Events may be compared one by one, up to the wording of one draft. -/
theorem rewordings (draft? : Option Draft) :
    Comparison (List.Forall₂ (Event.Rewords (H := H) draft?)) :=
  .forall₂ .same

variable (hw : w.BlindToText R)

include hw

/-- A draft is sent in both runs, worded as it may be. -/
theorem sendDraft_twins (draft : Draft) (values : Values) :
    Act.Twins R (List.Forall₂ (Event.Rewords (some draft)))
      (sendDraft w draft values : Act σ H Unit) (sendDraft w draft values) := by
  unfold sendDraft
  split
  · refine .render_bind draft values fun words words' => ?_
    rcases draft.render_cases values words words' with hsame | hwording
    · rw [hsame]
      exact .same (rewordings _) (hw.send _ _ rfl)
    · exact .call (hw.send _ _ hwording.withoutText)
        fun ok => single_rewords (.sent rfl hwording ok)
  · exact .answer (rewordings _) ()

/-- A question is asked in both runs, worded as it may be. -/
theorem ask_twins (draft : Draft) (question : Position) (values : Values) :
    Act.Twins R (List.Forall₂ (Event.Rewords (some draft)))
      (d.ask w draft question values) (d.ask w draft question values) := by
  refine .render_bind draft values fun words words' => ?_
  refine Act.Twins.bind (rewordings _) (.attempt ?_) fun result => ?_
  · rcases draft.render_cases values words words' with hsame | hwording
    · rw [hsame]
      exact .same (rewordings _) (hw.prompt _ _ _ rfl)
    · exact .call (hw.prompt _ _ _ hwording.withoutText)
        fun ok => single_rewords (.prompted rfl hwording question _ ok)
  -- the prompt starts in both runs, or in neither
  · cases result with
    | ok _ => exact .pure (rewordings _) _
    | error fault =>
      -- the user is told of the failure in fixed words
      exact (Act.Twins.same (rewordings _) (hw.send _ _ rfl)).bind (rewordings _)
        fun _ => .pure (rewordings _) _

/-- A line is run in both runs, worded as its draft may be. -/
theorem runLine_twins (line : Line H) (step : Step) (values : Values) :
    Act.Twins R (List.Forall₂ (Event.Rewords (some line.draft)))
      (d.runLine w line step values) (d.runLine w line step values) := by
  cases line with
  | message draft =>
    exact (sendDraft_twins hw draft values).bind (rewordings _) fun _ => .pure (rewordings _) _
  | question draft intake => exact d.ask_twins hw draft step.position values
  | action draft directive =>
    exact (sendDraft_twins hw draft values).bind (rewordings _) fun _ => .pure (rewordings _) _

/-- Where the reply leads on to the line, that is run in both runs. -/
theorem lineRoute_twins (lines : List (Line H)) (step : Step) (working : Progress)
    (route : Route) :
    Act.Twins R
      (List.Forall₂ (Event.Rewords (lines[step.position.index]?.map Line.draft)))
      (d.lineRoute w lines step working route) (d.lineRoute w lines step working route) := by
  -- any other route runs no line, and so words nothing
  by_cases honward : route = .onward
  · subst honward
    cases hline : lines[step.position.index]? with
    | none =>
      unfold lineRoute
      rw [hline]
      exact .pure (rewordings _) _
    | some line =>
      rw [d.lineRoute_of_line w hline]
      exact (d.runLine_twins hw line step working.values).bind (rewordings _)
        fun _ => .pure (rewordings _) _
  · rw [d.lineRoute_of_ne w honward]
    exact .pure (rewordings _) _

/-! ## §6. Visits and loops. -/

/-- Once its position is reached, a visit words what it sends as its line may be. -/
theorem stay_twins (lines : List (Line H)) (position : Position) (cause : Cause)
    (reply : Option String) (working : Progress) :
    Act.Twins R (List.Forall₂ (Event.Rewords (lines[position.index]?.map Line.draft)))
      (d.stay w lines position cause reply working)
      (d.stay w lines position cause reply working) := by
  have hE := rewordings (H := H) (lines[position.index]?.map Line.draft)
  -- part by part; only the line has words to choose
  refine (d.enter_twins hE hw _ _ _).bind hE ?_
  rintro ⟨entered, redirect⟩
  cases redirect with
  | some target => exact .pure hE _
  | none =>
    refine (d.answerBefore_twins hE hw lines _ entered).bind hE ?_
    rintro ⟨answered, route⟩
    refine (d.lineRoute_twins hw lines (d.stepAt position cause reply) answered route).bind hE ?_
    rintro ⟨led, route⟩
    exact d.follow_twins hE hw _ led route

/-- **A visit** goes the same way with other words, and what it sends is worded as its line
may be. -/
theorem visit_parallel {lines : List (Line H)} {position : Position}
    (hthread : d.script.thread? position.thread = some lines) (cause : Cause)
    (reply : Option String) (working : Progress) :
    Act.Twins R (fun events events' => ∀ here, Parallel d.script here events events')
      (d.visit w lines position cause reply working)
      (d.visit w lines position cause reply working) := by
  have hdraft : d.script.draftAt? position = lines[position.index]?.map Line.draft := by
    unfold Script.draftAt?
    rw [hthread]
    rfl
  intro env env' henv
  obtain ⟨hresult, hleft, hevents⟩ :=
    d.stay_twins hw lines position cause reply working env env' henv
  rw [visit_eq_stay, Act.note_bind_apply, Act.note_bind_apply]
  refine ⟨hresult, hleft, fun here => .cons (.same _) (.of_forall₂ ?_ ?_)⟩
  · -- from here on the position is the one last reached
    show List.Forall₂ (Event.Rewords (d.script.draftAt? position)) _ _
    rw [hdraft]
    exact hevents
  · exact d.stay_lacks w lines position cause reply working env

/-- **A loop** goes the same way with other words. -/
theorem resolve_parallel (budget : Nat) (position : Position) (cause : Cause)
    (reply : Option String) (working : Progress) :
    Act.Twins R (fun events events' => ∀ here, Parallel d.script here events events')
      (d.resolve w budget position cause reply working)
      (d.resolve w budget position cause reply working) := by
  have hE := Parallel.comparison d.script
  refine d.resolve_induct w
    (motive := fun _ _ _ _ act =>
      Act.Twins R (fun events events' => ∀ here, Parallel d.script here events events') act act)
    ?unknown ?ended ?spent ?line budget position cause reply working
  case unknown => exact fun _ _ _ _ => .fail hE _
  case ended =>
    intro _ _ reply working
    exact (d.conclude_twins hE hw reply working.values).bind hE fun _ => .pure hE _
  case spent => exact fun _ _ _ _ _ => .answer hE _
  case line =>
    intro lines budget position cause reply working hthread _ ih
    refine (d.visit_parallel hw hthread cause reply working).bind hE ?_
    rintro ⟨moved, move⟩
    cases move with
    | goOn target => exact ih target moved
    | stop report => exact .pure hE _

/-! ## §7. Calls and runs. -/

/-- A turn goes the same way with other words, and saves the same. -/
theorem turn_parallel (position : Position) (cause : Cause) (reply : Option String) :
    Act.Twins R (fun events events' => ∀ here, Parallel d.script here events events')
      (d.turn w position cause reply) (d.turn w position cause reply) := by
  have hE := Parallel.comparison d.script
  refine (Act.Twins.saved hE).bind hE fun working => ?_
  refine (d.resolve_parallel hw _ position cause reply working).bind hE ?_
  rintro ⟨done, report⟩
  exact (Act.Twins.save hE done).bind hE fun _ => .pure hE _

/-- So does a turn that begins a dialog. -/
theorem begin_parallel (options : Values) :
    Act.Twins R (fun events events' => ∀ here, Parallel d.script here events events')
      (d.begin w options) (d.begin w options) := by
  have hE := Parallel.comparison d.script
  exact (Act.Twins.save hE _).bind hE fun _ => d.turn_parallel hw _ .begun none

/-- **A call** goes the same way with other words. -/
theorem serve_parallel (call : Call) :
    Act.Twins R (fun events events' => ∀ here, Parallel d.script here events events')
      (d.serve w call) (d.serve w call) := by
  intro env env' henv
  rw [serve_eq, serve_eq, ← henv.saved]
  -- what a call comes to is decided by the saved progress, the same in both runs
  cases call.task env.saved with
  | begin options => exact d.begin_parallel hw options env env' henv
  | turn cause reply =>
    show Outcome.Matches R _ (d.turn w env.saved.resumePosition cause reply env)
      (d.turn w env'.saved.resumePosition cause reply env')
    rw [← henv.saved]
    exact d.turn_parallel hw env.saved.resumePosition cause reply env env' henv
  | nothing result =>
    exact Act.Twins.ofExcept (Parallel.comparison d.script) result env env' henv

end Dialog

/-- What a delivery is but for its text: the prompt if it is through one, the message, and
whether it succeeded. -/
def Event.delivery? : Event H → Option (Option String × Message × Bool)
  | sent m ok => some (none, m.withoutText, ok)
  | prompted _ prompt m ok => some (some prompt, m.withoutText, ok)
  | _ => none

namespace Parallel

variable {s : Script H} {here : Option Position} {events events' : List (Event H)}

/-- The deliveries are the same one by one, but for their texts. -/
theorem deliveries (h : Parallel s here events events') :
    events.filterMap Event.delivery? = events'.filterMap Event.delivery? := by
  -- along the events; each delivery has its counterpart, worded otherwise
  induction h with
  | nil => rfl
  | @cons here e e' rest rest' hfirst _ ih =>
    have hsame : e.delivery? = e'.delivery? := by
      cases hfirst with
      | same => rfl
      | sent _ hwording ok => simp only [Event.delivery?, hwording.withoutText]
      | prompted _ hwording question prompt ok =>
        simp only [Event.delivery?, hwording.withoutText]
    rw [List.filterMap_cons, List.filterMap_cons, hsame, ih]

/-- Everything else is the same. -/
theorem others (h : Parallel s here events events') :
    events.filter (·.delivery?.isNone) = events'.filter (·.delivery?.isNone) := by
  -- along the events; a delivery is left out of both lists
  induction h with
  | nil => rfl
  | cons hfirst _ ih =>
    cases hfirst with
    | same e => rw [List.filter_cons, List.filter_cons, ih]
    | sent => exact ih
    | prompted => exact ih

end Parallel

/-- Two outcomes of a call that are the same but for the wordings of lines. -/
structure SameButWording (s : Script H) (o o' : Outcome σ H Report) : Prop where
  /-- The results are the same. -/
  result : o.result = o'.result
  /-- The same progress is saved. -/
  saved : o.env.saved = o'.env.saved
  /-- The deliveries are the same one by one, but for their texts. -/
  deliveries : o.events.filterMap Event.delivery? = o'.events.filterMap Event.delivery?
  /-- Everything else that happens is the same. -/
  others : o.events.filter (·.delivery?.isNone) = o'.events.filter (·.delivery?.isNone)
  /-- A text differs only as the line allows that is reached last. -/
  wording : Parallel s none o.events o'.events

namespace Dialog

variable (d : Dialog H) {w : World σ H} {R : σ → σ → Prop}

/-- **Random words choose wordings, and nothing else.**  Let the world take every message alike
whatever its text.  Two runs of the same calls, from the same progress and with any random
words, have the same results and faults, save the same progress after every call, and make the
same calls on the world in the same order, but for the texts of messages; and a text differs only
where the line has several and suggests no replies: then it is in both runs one of them, rendered
with the same variables. -/
theorem keptRun_sameButWording (hw : w.BlindToText R) (occasions : List (Occasion σ))
    (hmeanwhile : ∀ o ∈ occasions, ∀ s s', R s s' → R (o.meanwhile s) (o.meanwhile s')) :
    ∀ env env' : Env σ, env.Matches R env' →
      List.Forall₂ (SameButWording d.script) (d.keptRun w env occasions)
        (d.keptRun w env' occasions) := by
  -- along the run; after every call the same is saved, in worlds that are still alike
  induction occasions with
  | nil => exact fun _ _ _ => .nil
  | cons o rest ih =>
    intro env env' henv
    rw [List.forall_mem_cons] at hmeanwhile
    have hbefore : Env.Matches R { env with world := o.meanwhile env.world }
        { env' with world := o.meanwhile env'.world } :=
      ⟨hmeanwhile.1 _ _ henv.world, henv.saved⟩
    obtain ⟨hresult, hleft, hevents⟩ := d.serve_parallel hw o.call _ _ hbefore
    have hparallel := hevents none
    refine .cons ⟨hresult, hleft.saved, hparallel.deliveries, hparallel.others, hparallel⟩ ?_
    exact ih hmeanwhile.2 _ _ hleft

end Dialog

/-! ## §8. A stage does not read what it delivers. -/

/-- Two calls agree, for states that are the same once part of them is erased, if a third does
what either does to the rest. -/
theorem agree_of_erased {erase : σ → σ} {op op' rest : σ → Except Fault α × σ}
    (h : ∀ s, rest (erase s) = ((op s).1, erase (op s).2))
    (h' : ∀ s, rest (erase s) = ((op' s).1, erase (op' s).2)) :
    Agree (fun s s' => erase s = erase s') op op' := by
  intro s s' hsame
  have hboth : ((op s).1, erase (op s).2) = ((op' s').1, erase (op' s').2) := by
    rw [← h, ← h', hsame]
  exact Prod.mk.inj hboth

/-- A delivery of the dialog without its text. -/
def Delivery.withoutText : Delivery → Delivery
  | sent m => sent m.withoutText
  | prompted prompt m => prompted prompt m.withoutText
  | side m => side m

/-- A recorder without the texts that the dialog delivered. -/
def Recorder.withoutTexts (r : Recorder) : Recorder :=
  { r with log := r.log.map Delivery.withoutText }

/-- Sending a message without its text is sending it, and erasing the texts then. -/
theorem Recorder.send_withoutTexts (r : Recorder) (m : Message) :
    r.withoutTexts.send m.withoutText = (r.send m).withoutTexts := by
  simp [send, withoutTexts, Delivery.withoutText]

/-- The same of a prompt: which prompts are registered is no text. -/
theorem Recorder.prompt_withoutTexts (r : Recorder) (name : String) (m : Message) :
    r.withoutTexts.prompt name m.withoutText = (r.prompt name m).map withoutTexts := by
  have hprompts : r.withoutTexts.prompts = r.prompts := rfl
  unfold prompt
  rw [hprompts]
  split
  · simp [withoutTexts, Delivery.withoutText, Except.map]
  · rfl

/-- A ledger without the texts that the dialog delivered. -/
def Ledger.withoutTexts (l : Ledger) : Ledger := { l with recorder := l.recorder.withoutTexts }

namespace Routine

mutual

/-- A command does not read what was delivered. -/
theorem runCommand_withoutTexts (scene : Scene) (command : Command) (h : Handle)
    (ledger : Ledger) :
    runCommand scene command h ledger.withoutTexts
      = ((runCommand scene command h ledger).1,
          (runCommand scene command h ledger).2.withoutTexts) := by
  cases command with
  | goto | set | setReply | fail | record => rfl
  | copy source target =>
    unfold runCommand
    split <;> rfl
  | say text =>
    simp [runCommand, Ledger.withoutTexts, Recorder.withoutTexts, Recorder.say,
      Delivery.withoutText]
  | failTimes times hook reason =>
    -- the failures that were due are the same
    by_cases hdue : ledger.due.count (hook, reason) < times
    · simp only [runCommand, Ledger.withoutTexts, if_pos hdue]
      exact if_pos hdue
    · simp only [runCommand, Ledger.withoutTexts, if_neg hdue]
      exact if_neg hdue
  | ifReply text body =>
    unfold runCommand
    split
    · exact runCommands_withoutTexts scene body h ledger
    · rfl
  | ifVar key value body =>
    unfold runCommand
    split
    · split
      · exact runCommands_withoutTexts scene body h ledger
      · rfl
    · rfl

/-- So do commands one after the other. -/
theorem runCommands_withoutTexts (scene : Scene) (commands : List Command) (h : Handle)
    (ledger : Ledger) :
    runCommands scene commands h ledger.withoutTexts
      = ((runCommands scene commands h ledger).1,
          (runCommands scene commands h ledger).2.withoutTexts) := by
  cases commands with
  | nil => rfl
  | cons command rest =>
    unfold runCommands
    rw [runCommand_withoutTexts scene command h ledger]
    rcases runCommand scene command h ledger with ⟨result, after⟩
    cases result with
    | error fault => rfl
    | ok h => exact runCommands_withoutTexts scene rest h after

end

end Routine

namespace Stage

/-- A stage without the texts that the dialog delivered. -/
def withoutTexts (s : Stage) : Stage := { s with ledger := s.ledger.withoutTexts }

/-- A call on a stage does not read what was delivered, if the recorder's part does not. -/
theorem ask_withoutTexts (call : HostCall) (planned : Fault)
    (op op' : Recorder → Except Fault Recorder)
    (hop : ∀ r, op' r.withoutTexts = (op r).map Recorder.withoutTexts) (s : Stage) :
    ask call planned op' s.withoutTexts
      = ((ask call planned op s).1, (ask call planned op s).2.withoutTexts) := by
  have hpass : pass call s.withoutTexts = ((pass call s).1, (pass call s).2.withoutTexts) := rfl
  have hrest : ∀ t : Stage, op' t.withoutTexts.ledger.recorder
      = (op t.ledger.recorder).map Recorder.withoutTexts := fun t => hop t.ledger.recorder
  unfold ask
  rw [hpass]
  rcases pass call s with ⟨passed, t⟩
  -- whether a call is planned to fail depends on the counts alone
  cases passed with
  | false => rfl
  | true =>
    simp only [hrest]
    cases op t.ledger.recorder <;> rfl

/-- A callback of a stage does not read what was delivered. -/
theorem perform_withoutTexts (routine : Routine) (reply : Option String) (handle : Handle)
    (session : Session) (s : Stage) :
    perform routine reply handle session s.withoutTexts
      = ((perform routine reply handle session s).1,
          (perform routine reply handle session s).2.withoutTexts) := by
  have hledger : s.withoutTexts.ledger = s.ledger.withoutTexts := rfl
  unfold perform Routine.run
  rw [hledger, Routine.runCommands_withoutTexts]
  rfl

/-- **A stage takes every message alike whatever its text.** -/
theorem world_blindToText :
    world.BlindToText fun s s' : Stage => s.withoutTexts = s'.withoutTexts where
  send m m' hsame := by
    have hsend : ∀ message : Message, message.withoutText = m.withoutText → ∀ s : Stage,
        world.send m.withoutText s.withoutTexts
          = ((world.send message s).1, (world.send message s).2.withoutTexts) := by
      intro message htext
      refine ask_withoutTexts .send _ (fun r => .ok (r.send message))
        (fun r => .ok (r.send m.withoutText)) fun r => ?_
      rw [← htext, Recorder.send_withoutTexts]
      rfl
    exact agree_of_erased (hsend m rfl) (hsend m' hsame.symm)
  prompt name m m' hsame := by
    have hprompt : ∀ message : Message, message.withoutText = m.withoutText → ∀ s : Stage,
        world.prompt name m.withoutText s.withoutTexts
          = ((world.prompt name message s).1, (world.prompt name message s).2.withoutTexts) := by
      intro message htext
      refine ask_withoutTexts .prompt _ (fun r => r.prompt name message)
        (fun r => r.prompt name m.withoutText) fun r => ?_
      rw [← htext, Recorder.prompt_withoutTexts]
    exact agree_of_erased (hprompt m rfl) (hprompt m' hsame.symm)
  spawn := by
    have hspawn : ∀ s : Stage, world.spawn s.withoutTexts
        = ((world.spawn s).1, (world.spawn s).2.withoutTexts) := by
      intro s
      have hpass : pass .spawn s.withoutTexts
          = ((pass .spawn s).1, (pass .spawn s).2.withoutTexts) := rfl
      simp only [world, hpass]
      rcases pass .spawn s with ⟨passed, t⟩
      cases passed <;> rfl
    exact agree_of_erased hspawn hspawn
  finish result := by
    have hfinish := ask_withoutTexts .finish (.lifecycleFailed "end refused")
      (fun r => .ok (r.finish result)) (fun r => .ok (r.finish result)) fun _ => rfl
    exact agree_of_erased hfinish hfinish
  handOver script options := by
    have hhandOver := ask_withoutTexts .handOver (.lifecycleFailed "replace refused")
      (fun r => .ok (r.handOver script options)) (fun r => .ok (r.handOver script options))
      fun _ => rfl
    exact agree_of_erased hhandOver hhandOver
  atEntry routine handle session :=
    agree_of_erased (perform_withoutTexts routine none handle session)
      (perform_withoutTexts routine none handle session)
  atReply routine reply handle session :=
    agree_of_erased (perform_withoutTexts routine (some reply) handle session)
      (perform_withoutTexts routine (some reply) handle session)
  atEnd routine values session := by
    have hatEnd : ∀ s : Stage, world.atEnd routine values session s.withoutTexts
        = ((world.atEnd routine values session s).1,
            (world.atEnd routine values session s).2.withoutTexts) := by
      intro s
      simp only [world]
      rw [perform_withoutTexts]
      rcases perform routine none _ session s with ⟨result, t⟩
      cases result <;> rfl
    exact agree_of_erased hatEnd hatEnd

end Stage

namespace Dialog

/-- A dialog that greets and asks for a name in one of two ways each, and then says goodbye. -/
def heraldDialog : Dialog Routine where
  id := "herald"
  script :=
    ((Script.empty.say { texts := ["Hello", "Hi"] }).ask { texts := ["Who is it?", "Your name?"] }
      (.capture "name")).say { texts := ["Goodbye, {{vars.name}}"] }

/-- The dialog is about to begin, and words are to come. -/
def heraldEnv (ahead : List UInt32) : Env Stage :=
  ⟨(Stage.new "c").register heraldDialog.settings.promptId, ⟨ahead, 0⟩, {}⟩

/-- It begins, and gets a reply. -/
def heraldRun : List (Occasion Stage) :=
  [⟨fun s => s, .begin .empty⟩, ⟨fun s => s.startTurn [], .resume .continued (some "Ada")⟩]

/-- The two runs of that dialog differ in what they greet with and how they ask, and in nothing
else. -/
theorem heraldDialog_sameButWording :
    List.Forall₂ (SameButWording heraldDialog.script)
        (heraldDialog.keptRun Stage.world (heraldEnv []) heraldRun)
        (heraldDialog.keptRun Stage.world (heraldEnv [0x80000000, 0x80000000]) heraldRun)
      ∧ (heraldDialog.keptRun Stage.world (heraldEnv []) heraldRun).map
          (·.env.world.ledger.recorder.texts)
        = [["Hello", "Who is it?"], ["Hello", "Who is it?", "Goodbye, Ada"]]
      ∧ (heraldDialog.keptRun Stage.world (heraldEnv [0x80000000, 0x80000000]) heraldRun).map
          (·.env.world.ledger.recorder.texts)
        = [["Hi", "Your name?"], ["Hi", "Your name?", "Goodbye, Ada"]] := by
  refine ⟨?_, by decide +kernel, by decide +kernel⟩
  refine heraldDialog.keptRun_sameButWording Stage.world_blindToText heraldRun ?_ _ _ ⟨rfl, rfl⟩
  -- a stage does not look at what it delivered when a turn starts, either
  have hstart : ∀ s s' : Stage, s.withoutTexts = s'.withoutTexts →
      (s.startTurn []).withoutTexts = (s'.startTurn []).withoutTexts :=
    fun _ _ hsame => congrArg (Stage.startTurn · []) hsame
  exact List.forall_mem_cons.mpr ⟨fun _ _ hsame => hsame, List.forall_mem_singleton.mpr hstart⟩

end Dialog

end Parley
