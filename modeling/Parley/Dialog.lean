/-
  Parley.Dialog
  ─────────────
  **RUNNING A DIALOG, TURN BY TURN.**

  A turn visits lines from a position on until it has to wait, until the dialog
  ends, or until its budget of lines is spent.  It works on a copy of the saved
  progress:

      capture — variables are saved as soon as a reply was put into a variable
                and the callbacks for that succeeded
      rest    — everything else is saved when the whole turn has succeeded

  so a turn that fails keeps the reply but not the way it went.  A begin that
  fails leaves a dialog that has entered no thread; the next turn begins it
  again with the same options.
-/
import Parley.Hooks
import Parley.Incoming
import Parley.Route
import Parley.Settings
import Parley.World

namespace Parley

/-- A scripted dialog. -/
structure Dialog (H : Type) where
  /-- Its name. -/
  id : String
  /-- Its script. -/
  script : Script H
  /-- Its callbacks. -/
  hooks : Hooks H := .none
  /-- Its settings. -/
  settings : Settings := {}

namespace Dialog

variable {σ H : Type}

/-- A dialog with valid settings. -/
def create (id : String) (script : Script H) (settings : Settings) : Except Fault (Dialog H) :=
  match settings.validate with
  | .ok () => .ok { id, script, settings }
  | .error fault => .error fault

/-- The variable that tells how a dialog was ended. -/
def statusKey : String := "_status"

/-! ## §1. Callbacks. -/

/-- Make a session for callbacks. -/
def spawn (w : World σ H) : Act σ H Session := .call .spawned w.spawn

/-- Hand a handle through callbacks, one after the other. -/
def passAlong (call : H → Handle → Act σ H Handle) : List H → Handle → Act σ H Handle
  | [], handle => .answer handle
  | h :: rest, handle => do
    let handle ← call h handle
    passAlong call rest handle

/-- Run a batch of callbacks with one session; none is made for no callback. -/
def runBatch (w : World σ H) (call : Session → H → Handle → Act σ H Handle) (batch : List H)
    (handle : Handle) : Act σ H Handle :=
  match batch with
  | [] => .answer handle
  | batch => do
    let session ← spawn w
    passAlong (call session) batch handle

/-- One callback for the entry of a thread. -/
def callEntry (w : World σ H) (session : Session) (h : H) (handle : Handle) : Act σ H Handle :=
  .call (.entryCall h handle) (w.atEntry h handle session)

/-- One callback for a changed variable. -/
def callChange (w : World σ H) (reply : String) (session : Session) (h : H) (handle : Handle) :
    Act σ H Handle :=
  .call (.changeCall h reply handle) (w.atReply h reply handle session)

/-- Run the callbacks for the entry of a thread. -/
def runEntry (d : Dialog H) (w : World σ H) (thread : String) (handle : Handle) :
    Act σ H Handle :=
  runBatch w (callEntry w) (d.hooks.atEntry thread) handle

/-- Run the callbacks for a changed variable. -/
def runChange (d : Dialog H) (w : World σ H) (key reply : String) (handle : Handle) :
    Act σ H Handle :=
  runBatch w (callChange w reply) (d.hooks.atChange key) handle

/-- Run callbacks for the end, all with the same variables. -/
def tellAll (w : World σ H) (session : Session) (values : Values) : List H → Act σ H Unit
  | [] => .answer ()
  | h :: rest => do
    Act.call (.endCall h values) (w.atEnd h values session)
    tellAll w session values rest

/-- Run the callbacks for the end. -/
def runEnd (d : Dialog H) (w : World σ H) (values : Values) : Act σ H Unit :=
  match d.hooks.ending with
  | [] => .answer ()
  | batch => do
    let session ← spawn w
    tellAll w session values batch

/-- Let a callback decide what follows a reply: where it leads, and the
variables it leaves. -/
def runHandler (w : World σ H) (h : H) (reply : String) (handle : Handle) :
    Act σ H (Route × Values) := do
  let session ← spawn w
  let after ← Act.call (.branchCall h reply handle) (w.atReply h reply handle session)
  return (match after.redirect? handle.position with
    | some target => .restart target
    | none => .onward, after.values)

/-! ## §2. Lines. -/

/-- The handle that callbacks get at a step. -/
def handle (d : Dialog H) (working : Progress) (step : Step) : Handle :=
  ⟨d.id, step.position, working.values⟩

/-- The question just before a line. -/
def questionBefore? (lines : List (Line H)) (index : Nat) : Option (Intake H) :=
  match index with
  | 0 => none
  | i + 1 => lines[i]?.bind Line.intake?

/-- What a variable holds after a reply was put into it: the reply, joined to
what was there if replies are joined and something was. -/
def joined (d : Dialog H) (values : Values) (key reply : String) (multiple : Bool) : String :=
  match values.shown? key with
  | some held =>
    if multiple ∧ held ≠ "" then held ++ d.settings.separator ++ reply else reply
  | none => reply

/-- Put a reply into a variable. -/
def capture (d : Dialog H) (working : Progress) (key reply : String) (multiple : Bool) :
    Progress :=
  { working with
    values := working.values.insert key (.string (d.joined working.values key reply multiple)) }

/-- Send the message of a draft, if it has any content. -/
def sendDraft (w : World σ H) (draft : Draft) (values : Values) : Act σ H Unit :=
  if draft.hasContent then do
    let message ← Act.render draft values
    Act.call (.sent message) (w.send message)
  else .answer ()

/-- Ask a question.  A prompt that does not start is reported to the user, and
the dialog goes on. -/
def ask (d : Dialog H) (w : World σ H) (draft : Draft) (question : Position) (values : Values) :
    Act σ H Route := do
  let prompt := d.settings.promptId
  let message ← Act.render draft values
  match ← Act.attempt (Act.call (.prompted question prompt message) (w.prompt prompt message)) with
  | .ok () => return .suspend
  | .error _ => do
    let notice := Message.ofText d.settings.failureText
    Act.call (.sent notice) (w.send notice)
    return .onward

/-- Run a line. -/
def runLine (d : Dialog H) (w : World σ H) (line : Line H) (step : Step) (values : Values) :
    Act σ H Route :=
  match line with
  | .question draft _ => d.ask w draft step.position values
  | .message draft => do
    sendDraft w draft values
    return .onward
  | .action draft directive => do
    sendDraft w draft values
    return directive.route d.script step.position

/-- Put a reply into the variable of its question, if that names one, and run
the callbacks for it.  The variables are saved at once. -/
def takeReply (d : Dialog H) (w : World σ H) (intake : Intake H) (question : Position)
    (reply : String) (step : Step) (working : Progress) :
    Act σ H (Progress × Option Position) :=
  match intake.key with
  | none => .answer (working, none)
  | some key => do
    let working := d.capture working key reply intake.multiple
    Act.note (.captured question key reply)
    let after ← d.runChange w key reply (d.handle working step)
    Act.saveValues after.values
    return ({ working with values := after.values }, after.redirect? step.position)

/-- Choose a branch for a reply and follow it. -/
def branch (d : Dialog H) (w : World σ H) (intake : Intake H) (question : Position)
    (reply : String) (step : Step) (working : Progress) : Act σ H (Progress × Route) := do
  Act.note (.offered question reply)
  match (intake.select? reply).map Branch.consequence with
  | none => return (working, .onward)
  | some (.directive directive) => return (working, directive.route d.script step.position)
  | some (.handler h) => do
    let (route, values) ← runHandler w h reply (d.handle working step)
    return ({ working with values }, route)

/-- What the reply to the question before a step leads to. -/
def answerBefore (d : Dialog H) (w : World σ H) (lines : List (Line H)) (step : Step)
    (working : Progress) : Act σ H (Progress × Route) :=
  match step.reply, questionBefore? lines step.position.index with
  | some reply, some intake => do
    let question : Position := { step.position with index := step.position.index - 1 }
    let (working, redirect) ← d.takeReply w intake question reply step working
    match redirect with
    | some target => return (working, .restart target)
    | none => d.branch w intake question reply step working
  | _, _ => .answer (working, .onward)

/-- Where a step leads: where the reply before it leads, and if that is onward,
where its own line leads. -/
def runStep (d : Dialog H) (w : World σ H) (lines : List (Line H)) (step : Step)
    (working : Progress) : Act σ H (Progress × Route) := do
  let (working, route) ← d.answerBefore w lines step working
  match route, lines[step.position.index]? with
  | .onward, some line => do
    let route ← d.runLine w line step working.values
    return (working, route)
  | route, _ => return (working, route)

/-! ## §3. Turns. -/

/-- End the dialog: tell the host, then the callbacks. -/
def conclude (d : Dialog H) (w : World σ H) (result : Option String) (values : Values) :
    Act σ H Report := do
  Act.call (.finished result) (w.finish result)
  d.runEnd w values
  return .complete values

/-- The options a dialog is handed over with: the thread, and over it the
variables. -/
def handOverOptions (thread : Option String) (values : Values) : Values :=
  let start : Values := match thread with
    | some thread => Table.empty.insert "thread" (.string thread)
    | none => .empty
  start.extend values

/-- What follows a visit to a line. -/
inductive Move where
  /-- Another visit. -/
  | goOn (target : Position)
  /-- The end of the turn. -/
  | stop (report : Report)

/-- Follow a route. -/
def follow (d : Dialog H) (w : World σ H) (step : Step) (working : Progress) :
    Route → Act σ H (Progress × Move)
  | .onward => do
    let (target, _) ← Act.ofExcept step.next
    return (working, .goOn target)
  | .restart target => .answer (working, .goOn target)
  | .suspend => .answer (working, .stop .waiting)
  | .hold => .answer ({ working with replay := true }, .stop .waiting)
  | .finish ending => do
    let values := working.values.insert statusKey (.string ending.name)
    let report ← d.conclude w step.reply values
    return ({ working with values }, .stop report)
  | .handOver script thread => do
    let options := handOverOptions thread working.values
    Act.call (.handedOver script options) (w.handOver script options)
    return (working, .stop .replaced)

/-- Run the callbacks for the entry of a thread, if the step enters one. -/
def enter (d : Dialog H) (w : World σ H) (previous : String) (step : Step)
    (working : Progress) : Act σ H (Progress × Option Position) :=
  if step.position.index = 0 ∧ previous ≠ step.position.thread then do
    let after ← d.runEntry w step.position.thread (d.handle working step)
    return ({ working with values := after.values }, after.redirect? step.position)
  else .answer (working, none)

/-- Visit a line. -/
def visit (d : Dialog H) (w : World σ H) (lines : List (Line H)) (position : Position)
    (cause : Cause) (reply : Option String) (working : Progress) :
    Act σ H (Progress × Move) := do
  Act.note (.reached position)
  let previous := working.thread
  let step : Step := { dialog := d.id, position, cause, given := reply }
  let working :=
    { working with thread := position.thread, index := position.index, replay := false }
  let (working, redirect) ← d.enter w previous step working
  match redirect with
  | some target => return (working, .goOn target)
  | none => do
    let (working, route) ← d.runStep w lines step working
    d.follow w step working route

/-- The progress of a turn whose budget is spent before a position: that line is
to be run next, if it is in the current thread. -/
def cutOff (working : Progress) (position : Position) : Progress :=
  if position.thread = working.thread then
    { working with index := position.index, replay := true }
  else working

/-- Visit lines from a position on, at most as many as the budget says.  Past
the last line of a thread the dialog ends, whatever is left of the budget.  The
reply goes to the first visit alone. -/
def resolve (d : Dialog H) (w : World σ H) (budget : Nat) (position : Position) (cause : Cause)
    (reply : Option String) (working : Progress) : Act σ H (Progress × Report) :=
  match d.script.thread? position.thread with
  | none => .fail (.unknownThread position.thread)
  | some lines =>
    if lines.length ≤ position.index then do
      let report ← d.conclude w reply working.values
      return (working, report)
    else
      match budget with
      | 0 => .answer (cutOff working position, .waiting)
      | budget + 1 => do
        let (working, move) ← d.visit w lines position cause reply working
        match move with
        | .goOn target => resolve d w budget target .advanced none working
        | .stop report => return (working, report)

/-- One turn from a position on; its progress is saved if it succeeds. -/
def turn (d : Dialog H) (w : World σ H) (position : Position) (cause : Cause)
    (reply : Option String) : Act σ H Report := do
  let working ← Act.saved
  let (working, report) ← d.resolve w d.settings.maxSteps position cause reply working
  Act.save working
  return report

/-! ## §4. What a host calls. -/

/-- The thread that options name, or the one of the settings. -/
def startThread (d : Dialog H) (options : Values) : String :=
  match options.get? "thread" with
  | some (.string thread) => thread
  | _ => d.settings.startThread

/-- Begin the dialog. -/
def begin (d : Dialog H) (w : World σ H) (options : Values) : Act σ H Report := do
  Act.save (Progress.start "" options)
  d.turn w ⟨d.startThread options, 0⟩ .begun none

/-- Begin the dialog with options from a payload, which must be an object. -/
def beginWith (d : Dialog H) (w : World σ H) (payload : Json) : Act σ H Report :=
  match payload.table? with
  | some options => d.begin w options
  | none => .fail (.payload "dialog options must be a JSON object")

/-- Go on after the line last reached, with a result as the reply.  A dialog
that has entered no thread is begun again, and the result is dropped. -/
def resume (d : Dialog H) (w : World σ H) (cause : Cause) (result : Option String) :
    Act σ H Report := do
  let progress ← Act.saved
  if progress.isStarted then
    d.turn w ⟨progress.thread, progress.resumeIndex⟩ cause result
  else d.begin w progress.options

/-- Take what arrived from a channel; only messages move the dialog. -/
def receive (d : Dialog H) (w : World σ H) (incoming : Incoming) : Act σ H Report :=
  if incoming.isMessage then d.resume w .continued incoming.text else .answer .waiting

end Dialog

end Parley
