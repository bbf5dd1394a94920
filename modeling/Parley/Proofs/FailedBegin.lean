/-
  Parley.Proofs.FailedBegin
  ─────────────────────────
  **A BEGIN THAT FAILS IS UNDONE, AND MADE AGAIN.**

  A begin has no reply, so nothing is saved on its way.  If it fails, wherever
  that is, the dialog is left as it is before it enters a thread: with its
  options for variables, and with nothing that a callback wrote.

  From there every call that goes on with the dialog is that begin again
  (`serve_of_goesOn`), so a retry that fails leaves what the first begin left,
  however often that happens (`savedAfter_of_failing`).  Its reply is put into
  no variable, tried on no branch, and not told to the host
  (`begin_unheeding`).
-/
import Parley.Proofs.Credit

namespace Parley

variable {σ H : Type}

/-! ## §1. Turns that end the dialog without a reply. -/

/-- If the event ends the dialog, it does so without a reply. -/
def Event.EndsUnanswered (e : Event H) : Prop :=
  ∀ reply ok, e = .finished reply ok → reply = none

/-- An event that does not end the dialog says nothing of a reply. -/
theorem Event.EndsUnanswered.of_kind {e : Event H} (h : e.kind ≠ .finished) :
    e.EndsUnanswered := by
  rintro reply ok rfl
  exact absurd rfl h

namespace Dialog

variable (d : Dialog H) (w : World σ H)

/-- A dialog that is concluded without a reply ends with none. -/
theorem conclude_unanswered (values : Values) :
    Act.Brings Event.EndsUnanswered (d.conclude w none values) := by
  refine (Act.Brings.call _ fun ok reply ok' h => by cases h; rfl).bind fun _ => ?_
  refine (Act.Brings.of_confined (d.runEnd_confined w values) fun e he => ?_).bind
    fun _ => .pure _
  exact .of_kind fun hkind => by simp [hkind] at he

/-- A route followed without a reply ends the dialog with none. -/
theorem follow_unanswered {step : Step} (hreply : step.reply = none) (working : Progress)
    (route : Route) : Act.Brings Event.EndsUnanswered (d.follow w step working route) := by
  cases route with
  | onward =>
    have hnext : Act.Confined [] (Act.ofExcept step.next : Act σ H _) := .ofExcept step.next
    exact (Act.Brings.of_confined hnext (by simp)).bind fun _ => .pure _
  | restart | suspend | hold => exact .pure _
  | finish ending =>
    show Act.Brings _ (d.conclude w step.reply _ >>= _)
    rw [hreply]
    exact (d.conclude_unanswered w _).bind fun _ => .pure _
  | handOver script thread =>
    exact (Act.Brings.call _ fun _ => .of_kind (by simp [Event.kind])).bind fun _ => .pure _

/-- A visit without a reply ends the dialog with none. -/
theorem visit_unanswered (lines : List (Line H)) (position : Position) (cause : Cause)
    (working : Progress) :
    Act.Brings Event.EndsUnanswered (d.visit w lines position cause none working) := by
  have hkinds : ∀ {kinds : List EventKind}, .finished ∉ kinds →
      ∀ e : Event H, e.kind ∈ kinds → e.EndsUnanswered := by
    intro kinds hfinished e he
    exact .of_kind fun hkind => hfinished (hkind ▸ he)
  -- of the parts of a visit only the route can end the dialog
  rw [visit_eq]
  refine (Act.Brings.note (.of_kind (by simp [Event.kind]))).bind fun _ => ?_
  refine (Act.Brings.of_confined (d.enter_confined w _ _ _) (hkinds (by simp))).bind ?_
  rintro ⟨entered, redirect⟩
  cases redirect with
  | some target => exact .pure _
  | none =>
    show Act.Brings _ (d.answerBefore w lines _ entered >>= _)
    rw [d.answerBefore_of_no_reply w rfl]
    refine (Act.Brings.pure _).bind ?_
    rintro ⟨answered, route⟩
    refine (Act.Brings.of_confined (d.lineRoute_confined w lines _ answered route)
      (hkinds (by simp))).bind ?_
    rintro ⟨led, route⟩
    exact d.follow_unanswered w rfl led route

/-- **A loop without a reply** ends the dialog with none. -/
theorem resolve_unanswered (budget : Nat) (position : Position) (cause : Cause)
    (working : Progress) :
    Act.Brings Event.EndsUnanswered (d.resolve w budget position cause none working) := by
  refine d.resolve_induct w
    (motive := fun _ _ reply _ act => reply = none → Act.Brings Event.EndsUnanswered act)
    ?unknown ?ended ?spent ?line budget position cause none working rfl
  -- as for the events of such a loop: no round has a reply
  case unknown => exact fun _ _ _ _ _ _ _ he => absurd he List.not_mem_nil
  case ended =>
    rintro position cause _ working rfl
    exact (d.conclude_unanswered w _).bind fun _ => .pure _
  case spent => exact fun _ _ _ _ _ _ => .pure _
  case line =>
    rintro lines budget position cause _ working _ _ ih rfl
    refine (d.visit_unanswered w lines position cause working).bind ?_
    rintro ⟨moved, move⟩
    cases move with
    | goOn target => exact ih target moved rfl
    | stop report => exact .pure _

/-! ## §2. Begins. -/

/-- A begin overwrites what was saved before. -/
theorem begin_withSaved (options : Values) (m : Meeting σ) (saved previous : Progress) :
    d.begin w options (m.env saved) = d.begin w options (m.env previous) := by
  rw [begin_apply, begin_apply]
  rfl

/-- **A begin that fails** leaves the dialog before its first thread, with its options. -/
theorem begin_saved {options : Values} {env : Env σ} {fault : Fault}
    (hfault : (d.begin w options env).result = .error fault) :
    (d.begin w options env).env.saved = .start "" options := by
  rw [begin_apply] at hfault ⊢
  -- it has no reply, so its loop saves nothing, and neither does a turn that fails
  have hsaved := (d.resolve_confined w d.settings.maxSteps ⟨d.startThread options, 0⟩ .begun
    (.start "" options)).saved { env with saved := .start "" options }
  rcases d.turn_cases w ⟨d.startThread options, 0⟩ .begun none
      { env with saved := .start "" options } with
    ⟨fault', env', events, hloop, hturn⟩ | ⟨working, report, env', events, _, hturn⟩
  · rw [hloop] at hsaved
    rw [hturn]
    exact hsaved
  · rw [hturn] at hfault
    cases hfault

/-- The events of a turn that has taken no notice of a reply. -/
structure Unheeding (events : List (Event H)) : Prop where
  /-- A reply is put into no variable, for no callback, and tried on no branch. -/
  quiet : ∀ e ∈ events, e.kind ∈ quietKinds
  /-- The host is told of no reply when the dialog ends. -/
  unanswered : ∀ reply ok, .finished reply ok ∈ events → reply = none

/-- **A begin takes no notice of a reply**, whether it succeeds or fails. -/
theorem begin_unheeding (options : Values) (env : Env σ) :
    Unheeding (d.begin w options env).events := by
  rw [begin_apply, turn_eq, Outcome.commit_events]
  exact ⟨(d.resolve_confined w _ _ _ _).events _,
    fun reply ok he => d.resolve_unanswered w _ _ _ _ _ _ he reply ok rfl⟩

end Dialog

/-! ## §3. Retries. -/

/-- Whether a call goes on with the dialog: by a result, or by a message. -/
def Call.goesOn : Call → Bool
  | .resume _ _ => true
  | .receive incoming => incoming.isMessage
  | .begin _ | .beginWith _ => false

namespace Dialog

variable (d : Dialog H) (w : World σ H)

/-- A call that goes on with a dialog that has entered no thread begins it. -/
theorem serve_of_goesOn {call : Call} (hgoes : call.goesOn = true) {env : Env σ}
    (hstarted : env.saved.isStarted = false) :
    d.serve w call env = d.begin w env.saved.options env := by
  cases call with
  | begin | beginWith => cases hgoes
  | resume cause reply => exact d.resume_of_unstarted w hstarted cause reply
  | receive incoming =>
    show d.receive w incoming env = _
    rw [d.receive_of_message w hgoes]
    exact d.resume_of_unstarted w hstarted .continued incoming.text

/-- Every call of a run goes on with the dialog, and fails. -/
def Failing (saved : Progress) (run : List (Meeting σ)) : Prop :=
  ∀ t ∈ d.turnsOf w saved run, t.call.goesOn = true
    ∧ ∃ fault, (d.outcomeOf w t).result = .error fault

/-- **Retries that fail** leave what the begin left. -/
theorem savedAfter_of_failing {options : Values} {run : List (Meeting σ)}
    (hfailing : d.Failing w (.start "" options) run) :
    d.savedAfter w (.start "" options) run = .start "" options := by
  -- along the run; every retry finds what the begin left, and leaves it
  induction run with
  | nil => rfl
  | cons m rest ih =>
    unfold Failing turnsOf at hfailing
    rw [List.forall_mem_cons] at hfailing
    obtain ⟨⟨hgoes, fault, hfault⟩, hrest⟩ := hfailing
    have hserve : d.serve w m.call (m.env (.start "" options))
        = d.begin w options (m.env (.start "" options)) := d.serve_of_goesOn w hgoes rfl
    unfold outcomeOf at hfault hrest
    rw [hserve] at hfault hrest
    have hsaved := d.begin_saved w hfault
    rw [hsaved] at hrest
    unfold savedAfter
    rw [hserve, hsaved]
    exact ih hrest

/-- A call begins a dialog again that has entered no thread. -/
structure Retries (options : Values) (saved : Progress) (m : Meeting σ) : Prop where
  /-- It does what a begin does in the same surroundings, whatever was saved there. -/
  again : ∀ previous, d.serve w m.call (m.env saved) = d.begin w options (m.env previous)
  /-- Its reply is dropped. -/
  unheeding : Unheeding (d.serve w m.call (m.env saved)).events

/-- What is left by a begin that fails, and what follows it. -/
structure FailedBegin (options : Values) (o : Outcome σ H Report) : Prop where
  /-- The dialog has entered no thread; its variables are its options. -/
  saved : o.env.saved = .start "" options
  /-- Nothing more changes by retries that fail. -/
  steady : ∀ run, d.Failing w o.env.saved run → d.savedAfter w o.env.saved run = o.env.saved
  /-- However many retries have failed, the next call that goes on is a retry. -/
  retries : ∀ run m, d.Failing w o.env.saved run → m.call.goesOn = true →
    d.Retries w options (d.savedAfter w o.env.saved run) m

/-- **A begin that fails is undone, and made again.**  Wherever a begin fails, it leaves the
dialog before its first thread, with its options; then every call that goes on is the same
begin, until one succeeds.  A begin with a payload that is no object fails at once, and
leaves everything as it was. -/
theorem begin_failed (options : Values) (env : Env σ) :
    (∀ fault, (d.begin w options env).result = .error fault →
        d.FailedBegin w options (d.begin w options env))
      ∧ ∀ payload : Json, (∀ members, payload ≠ .object members) →
        d.beginWith w payload env
          = ⟨.error (.payload "dialog options must be a JSON object"), env, []⟩ := by
  constructor
  · intro fault hfault
    have hsaved := d.begin_saved w hfault
    refine ⟨hsaved, ?steady, ?retries⟩
    case steady =>
      rw [hsaved]
      intro run hfailing
      exact d.savedAfter_of_failing w hfailing
    case retries =>
      rw [hsaved]
      intro run m hfailing hgoes
      -- after any number of failures the dialog stands as the first begin left it
      rw [d.savedAfter_of_failing w hfailing]
      have hserve : d.serve w m.call (m.env (.start "" options))
          = d.begin w options (m.env (.start "" options)) := d.serve_of_goesOn w hgoes rfl
      refine ⟨?_, ?_⟩
      · intro previous
        rw [hserve]
        exact d.begin_withSaved w options m _ previous
      · rw [hserve]
        exact d.begin_unheeding w options _
  · intro payload hpayload
    cases payload with
    | object members => exact absurd rfl (hpayload members)
    | _ => rfl

/-- A dialog that greets, and asks for a name; a callback for its thread fails the first
time. -/
def greetDialog : Dialog Routine where
  id := "greet"
  script := (Script.empty.say {}).ask {} (.capture "name")
  hooks := Hooks.none.onEntry "default"
    [.set "profile" (.bool true), .failTimes 1 "before:default" "profile service down"]

/-- Options with a source. -/
def adOptions : Values := Table.empty.insert "source" (.string "ad")

/-- A reply comes in, and the callback fails again. -/
def retryRun : List (Meeting Stage) := [replyOn (Stage.new "c") "hello"]

/-- Two begins of that dialog fail in its callback, and the next call begins it again; options
that are no object leave everything as it was. -/
theorem greetDialog_failed :
    greetDialog.FailedBegin Stage.world adOptions
        (greetDialog.begin Stage.world adOptions freshEnv)
      ∧ greetDialog.Failing Stage.world (.start "" adOptions) retryRun
      ∧ greetDialog.Retries Stage.world adOptions
        (greetDialog.savedAfter Stage.world (.start "" adOptions) retryRun)
        (replyOn (Stage.new "c") "Ada")
      ∧ greetDialog.beginWith Stage.world (.array []) freshEnv
        = ⟨.error (.payload "dialog options must be a JSON object"), freshEnv, []⟩ := by
  have hbegin := greetDialog.begin_failed Stage.world adOptions freshEnv
  have hfailed := hbegin.1 (.hookFailed "before:default" "profile service down") rfl
  have hfailing : greetDialog.Failing Stage.world (.start "" adOptions) retryRun :=
    List.forall_mem_singleton.mpr
      ⟨rfl, .hookFailed "before:default" "profile service down", rfl⟩
  refine ⟨hfailed, hfailing, ?_, hbegin.2 (.array []) (by simp)⟩
  exact hfailed.retries retryRun (replyOn (Stage.new "c") "Ada") hfailing rfl

end Dialog

end Parley
