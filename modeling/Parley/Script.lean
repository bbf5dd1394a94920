/-
  Parley.Script
  ─────────────
  **SCRIPTS: NAMED THREADS OF LINES.**

  A line sends a message, asks a question, or sends a message and then obeys a
  directive.  Lines are added at the end of a thread; a thread exists once it
  has a line.  `validate` looks for jumps to threads that do not exist, in the
  order of thread names, lines and options.
-/
import Parley.Intake
import Parley.Message

namespace Parley

/-! ## §1. Lines. -/

/-- One line of a script. -/
inductive Line (H : Type) where
  /-- Send a message. -/
  | message (draft : Draft)
  /-- Ask and wait for the reply. -/
  | question (draft : Draft) (intake : Intake H)
  /-- Send a message, if there is any, and obey a directive. -/
  | action (draft : Draft) (directive : Directive)

namespace Line

variable {H : Type}

/-- What is sent. -/
def draft : Line H → Draft
  | message d => d
  | question d _ => d
  | action d _ => d

/-- What a question does with its reply. -/
def intake? : Line H → Option (Intake H)
  | question _ intake => some intake
  | _ => none

/-- What an action line orders. -/
def directive? : Line H → Option Directive
  | action _ directive => some directive
  | _ => none

/-- All directives of a line, its own before those of its branches. -/
def directives (line : Line H) : List Directive :=
  line.directive?.toList ++ (line.intake?.map Intake.directives).getD []

end Line

/-! ## §2. Scripts. -/

/-- Named threads of lines. -/
structure Script (H : Type) where
  /-- The threads. -/
  threads : Table (List (Line H)) := .empty

namespace Script

variable {H : Type}

/-- The thread that lines go to when none is named. -/
def mainThread : String := "default"

/-- The script without lines. -/
def empty : Script H := {}

/-- The lines of a thread, if it exists. -/
def thread? (s : Script H) (name : String) : Option (List (Line H)) := s.threads.get? name

/-- Whether a thread exists. -/
def hasThread (s : Script H) (name : String) : Bool := s.threads.contains name

/-- The names of all threads, in order. -/
def threadNames (s : Script H) : List String := s.threads.keys

/-- Add a line at the end of a thread. -/
def addLine (s : Script H) (thread : String) (line : Line H) : Script H :=
  ⟨s.threads.insert thread ((s.thread? thread).getD [] ++ [line])⟩

/-- Add a message to a thread. -/
def addMessage (s : Script H) (thread : String) (draft : Draft) : Script H :=
  s.addLine thread (.message draft)

/-- Add a question to a thread. -/
def addQuestion (s : Script H) (thread : String) (draft : Draft) (intake : Intake H) : Script H :=
  s.addLine thread (.question draft intake)

/-- Add an action line to a thread. -/
def addAction (s : Script H) (thread : String) (draft : Draft) (directive : Directive) :
    Script H :=
  s.addLine thread (.action draft directive)

/-- Add a message to the main thread. -/
def say (s : Script H) (draft : Draft) : Script H := s.addMessage mainThread draft

/-- Add a question to the main thread. -/
def ask (s : Script H) (draft : Draft) (intake : Intake H) : Script H :=
  s.addQuestion mainThread draft intake

/-! ## §3. Jumps. -/

/-- All directives of a script: by thread name, then line, then option. -/
def directives (s : Script H) : List Directive :=
  s.threads.entries.flatMap fun thread => thread.2.flatMap Line.directives

/-- The thread that a jump names though it does not exist. -/
def missingTarget? (s : Script H) : Directive → Option String
  | .jump thread => if s.hasThread thread then none else some thread
  | _ => none

/-- Fails with the first jump to a thread that does not exist. -/
def validate (s : Script H) : Except Fault Unit :=
  match s.directives.findSome? s.missingTarget? with
  | some thread => .error (.unknownThread thread)
  | none => .ok ()

end Script

end Parley
