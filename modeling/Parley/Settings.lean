/-
  Parley.Settings
  ───────────────
  **SETTINGS OF A DIALOG.**

  Settings come from a stored form, from one strictly typed TOML text, or from
  layers of TOML texts over the built-in ones.  In layers a later text overrides
  single entries, and scalars of another type are converted:

      to a text   — from whole numbers, numbers, truth values
      to a count  — from truth values, numbers (rounded), and texts that spell a
                    truth value or a decimal

  Whatever their source, settings are validated before use.
-/
import Parley.Decimal.Notation
import Parley.Fault
import Parley.Json.Record
import Parley.Text.Blank
import Parley.Toml.Reader

namespace Parley

/-- Settings of a dialog. -/
structure Settings where
  /-- The prompt that questions are asked through. -/
  promptId : String := "colloquy_text_prompt"
  /-- The thread a dialog begins in unless its options name one. -/
  startThread : String := "default"
  /-- What is put between joined replies. -/
  separator : String := "\n"
  /-- What is sent when a prompt does not start. -/
  failureNotice : String := "Failed to start prompt \x7bprompt_id\x7d"
  /-- How many lines one turn may visit. -/
  maxSteps : Nat := 256
  deriving DecidableEq, Repr

namespace Settings

/-- The built-in settings with another prompt. -/
def withPrompt (promptId : String) : Settings := { promptId }

/-! ## §1. Validity. -/

/-- Fails with the first thing that no dialog can run with. -/
def validate (s : Settings) : Except Fault Unit :=
  if isBlankText s.promptId then .error (.settings "prompt_id cannot be empty")
  else if isBlankText s.startThread then .error (.settings "default_thread cannot be empty")
  else if s.maxSteps = 0 then .error (.settings "max_steps_per_turn must be at least 1")
  else .ok ()

/-- The settings, if they are valid. -/
def validated (s : Settings) : Except Fault Settings :=
  match s.validate with
  | .ok () => .ok s
  | .error fault => .error fault

/-! ## §2. The failure notice. -/

/-- The mark that stands for the prompt in the failure notice. -/
def promptMark : List Char := "\x7bprompt_id\x7d".toList

/-- Write `text` for every occurrence of the prompt mark, from the left. -/
def fillMark (text : List Char) : (fuel : Nat) → List Char → List Char
  | 0, cs => cs
  | _ + 1, [] => []
  | fuel + 1, c :: rest =>
    if promptMark.isPrefixOf (c :: rest) then
      text ++ fillMark text fuel ((c :: rest).drop promptMark.length)
    else c :: fillMark text fuel rest

/-- What is sent when the prompt does not start. -/
def failureText (s : Settings) : String :=
  let notice := s.failureNotice.toList
  String.ofList (fillMark s.promptId.toList notice.length notice)

/-! ## §3. The stored form. -/

/-- The stored form. -/
def toJson (s : Settings) : Json :=
  .object
    [("capture_separator", .string s.separator),
     ("default_thread", .string s.startThread),
     ("max_steps_per_turn", .ofNat s.maxSteps),
     ("prompt_failure_notice", .string s.failureNotice),
     ("prompt_id", .string s.promptId)]

/-- The members of the stored form. -/
def members : Members :=
  [("prompt_id", .required), ("default_thread", .defaulted), ("capture_separator", .defaulted),
   ("prompt_failure_notice", .defaulted), ("max_steps_per_turn", .defaulted)]

/-- What a reader looks at. -/
def shape : Shape := .record (members.map fun m => (m.1, .scalar))

/-- Read the stored form; only the prompt has to be given. -/
def ofJson? (j : Json) : Option Settings := do
  let [promptId, startThread, separator, failureNotice, maxSteps] ← j.record? members | none
  let base : Settings := {}
  return {
    promptId := ← promptId.bind Json.string?
    startThread := ← Json.orElse Json.string? base.startThread startThread
    separator := ← Json.orElse Json.string? base.separator separator
    failureNotice := ← Json.orElse Json.string? base.failureNotice failureNotice
    maxSteps := ← Json.orElse Json.index? base.maxSteps maxSteps }

/-! ## §4. One strict text. -/

/-- A text entry, if it is one. -/
def strictText? : Toml.Value → Option String
  | .string s => some s
  | _ => none

/-- A count entry, if it is one. -/
def strictCount? : Toml.Value → Option Nat
  | .integer n => if 0 ≤ n ∧ n < Json.indexBound then some n.toNat else none
  | _ => none

/-- An entry with a value for when it is missing. -/
def entry? (entries : List (String × Toml.Value)) (key : String)
    (read? : Toml.Value → Option α) (default : α) : Option α :=
  match entries.lookup key with
  | none => some default
  | some v => read? v

/-- The settings in a table of entries read in the given ways. -/
def ofEntries? (text? : Toml.Value → Option String) (count? : Toml.Value → Option Nat)
    (entries : List (String × Toml.Value)) : Option Settings := do
  let base : Settings := {}
  return {
    promptId := ← (entries.lookup "prompt_id").bind text?
    startThread := ← entry? entries "default_thread" text? base.startThread
    separator := ← entry? entries "capture_separator" text? base.separator
    failureNotice := ← entry? entries "prompt_failure_notice" text? base.failureNotice
    maxSteps := ← entry? entries "max_steps_per_turn" count? base.maxSteps }

/-- The fault of settings that were read but do not fit. -/
def unfit : Fault := .settings "Failed to parse configuration"

/-- The settings of one text, strictly typed. -/
def ofToml (text : String) : Except Fault Settings :=
  match (Toml.read? text).bind (ofEntries? strictText? strictCount?) with
  | some s => s.validated
  | none => .error unfit

/-! ## §5. Layers. -/

/-- A number as a text. -/
def realText : Toml.Real → String
  | .finite d => Layout.alone.text d
  | .infinite negative => if negative then "-inf" else "inf"
  | .nan => "NaN"

/-- A scalar converted to a text. -/
def looseText? : Toml.Value → Option String
  | .string s => some s
  | .integer n => some (toString n)
  | .real r => some (realText r)
  | .bool b => some (if b then "true" else "false")
  | .moment text => some text
  | _ => none

/-- The largest count. -/
def greatestCount : Nat := Json.indexBound - 1

/-- A number rounded to the nearest count, halves upwards. -/
def realCount : Toml.Real → Nat
  | .finite d =>
    if d.negative then 0
    else
      let (num, den) := d.ratio
      min ((2 * num + den) / (2 * den)) greatestCount
  | .infinite negative => if negative then 0 else greatestCount
  | .nan => 0

/-- The count a text spells in decimal, with a plus sign or without. -/
def decimalCount? (text : String) : Option Nat :=
  let digits := match text.toList with
    | '+' :: rest => rest
    | cs => cs
  if digits.isEmpty ∨ !digits.all Char.isDigit then none
  else
    let n := digits.foldl (fun n c => n * 10 + (c.toNat - 48)) 0
    if n ≤ greatestCount then some n else none

/-- The count a text spells, as a truth value or in decimal. -/
def spelledCount? (text : String) : Option Nat :=
  let word := String.ofList (text.toList.map Char.toLower)
  if word = "true" ∨ word = "on" ∨ word = "yes" then some 1
  else if word = "false" ∨ word = "off" ∨ word = "no" then some 0
  else decimalCount? text

/-- A scalar converted to a count. -/
def looseCount? : Toml.Value → Option Nat
  | .string s => spelledCount? s
  | .integer n => if 0 ≤ n ∧ n < Json.indexBound then some n.toNat else none
  | .real r => some (realCount r)
  | .bool b => some (if b then 1 else 0)
  | _ => none

/-- How many whole numbers of 64 bits are not negative. -/
def signBound : Nat := Nat.pow 2 63

mutual

/-- Whether all whole numbers of a value have 64 bits. -/
def fitsWords : Toml.Value → Bool
  | .integer n => -(signBound : Int) ≤ n && n < signBound
  | .array items => fitsWordsAll items
  | .table entries => fitsWordsEntries entries
  | _ => true

/-- Whether all whole numbers of a list have 64 bits. -/
def fitsWordsAll : List Toml.Value → Bool
  | [] => true
  | v :: rest => fitsWords v && fitsWordsAll rest

/-- Whether all whole numbers of a table have 64 bits. -/
def fitsWordsEntries : List (String × Toml.Value) → Bool
  | [] => true
  | (_, v) :: rest => fitsWords v && fitsWordsEntries rest

end

/-- The entries of one layer. -/
def layer? (text : String) : Option (List (String × Toml.Value)) :=
  (Toml.read? text).filter fitsWordsEntries

/-- The entries of the built-in settings. -/
def builtIn : List (String × Toml.Value) :=
  let base : Settings := {}
  [("prompt_id", .string base.promptId), ("default_thread", .string base.startThread),
   ("capture_separator", .string base.separator),
   ("prompt_failure_notice", .string base.failureNotice),
   ("max_steps_per_turn", .integer base.maxSteps)]

/-- The settings of layers, the last one first, over the built-in ones. -/
def ofLayers (layers : List (List (String × Toml.Value))) : Except Fault Settings :=
  match ofEntries? looseText? looseCount? (layers.flatten ++ builtIn) with
  | some s => s.validated
  | none => .error unfit

/-- The settings of one file over the built-in ones; the file must be there. -/
def ofFile (text : Option String) : Except Fault Settings :=
  match text.bind layer? with
  | some layer => ofLayers [layer]
  | none => .error (.settings "Failed to read configuration")

/-- The layer of a file that may be absent. -/
def optionalLayer? : Option String → Option (List (String × Toml.Value))
  | none => some []
  | some text => layer? text

/-- The settings of the user's file and the file at hand over the built-in
ones; the file at hand has the last word. -/
def load (home current : Option String) : Except Fault Settings :=
  match optionalLayer? home, optionalLayer? current with
  | some home, some current => ofLayers [current, home]
  | _, _ => .error (.settings "Failed to build configuration")

end Settings

end Parley
