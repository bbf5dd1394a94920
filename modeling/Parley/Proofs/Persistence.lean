/-
  Parley.Proofs.Persistence
  ─────────────────────────
  **A HOST MAY STORE THE PROGRESS BETWEEN TURNS.**

  The stored form names some members otherwise than the progress does, leaves the
  replay mark out when it is not set, and may be read with members missing.

    • `ofJson?_object` — what a reader finds in an object, member by member,
    • `ofJson?_toJson` — what was stored is read back,
    • `ofJson?_without` — without dispensable members the rest is read the same,
    • `serve_fits` — every call leaves an index that can be stored,
    • `storedRun_eq` — so a run that stores the progress and reads it before every
      call is the run that keeps it.
-/
import Parley.Proofs.Turns
import Parley.Stage

namespace Parley

variable {σ H : Type}

/-! ## §1. Reading what was stored. -/

namespace Json

/-- A table is read back as it was stored. -/
theorem table?_ofTable (t : Table Json) : (ofTable t).table? = some t :=
  congrArg some t.ofList_entries

/-- So is an index that can be stored. -/
theorem index?_ofNat {n : Nat} (h : n < indexBound) : (ofNat n).index? = some n := by
  show (if 0 ≤ (n : Int) ∧ (n : Int) < indexBound then some (n : Int).toNat else none) = some n
  rw [if_pos ⟨Int.natCast_nonneg n, Int.ofNat_lt.mpr h⟩, Int.toNat_natCast]

/-- An object without the members of some names. -/
def without (names : List String) : Json → Json
  | object members => object (members.filter fun e => !names.contains e.1)
  | j => j

/-- Among the members that are left, those left out are not found, and the others are. -/
theorem lookup_filter (names : List String) (key : String) (members : List (String × Json)) :
    (members.filter fun e => !names.contains e.1).lookup key
      = if key ∈ names then none else members.lookup key := by
  induction members with
  | nil => simp
  | cons head rest ih =>
    obtain ⟨k, v⟩ := head
    rw [List.filter_cons, Table.lookup_entry]
    by_cases hk : k ∈ names
    · -- the entry is left out, and it is not the one looked for if that stays
      rw [if_neg (by simp [hk]), ih]
      by_cases hkey : key = k
      · rw [hkey, if_pos hk, if_pos hk]
      · rw [if_neg hkey]
    · rw [if_pos (by simp [hk]), Table.lookup_entry, ih]
      by_cases hkey : key = k
      · rw [hkey, if_pos rfl, if_neg hk, if_pos rfl]
      · rw [if_neg hkey, if_neg hkey]

/-- A member with a value for when it is missing, which may be left out. -/
theorem orElse_ite {α : Type} {read? : Json → Option α} {default a : α} {found : Option Json}
    (h : orElse read? default found = some a) (missing : Prop) [Decidable missing] :
    orElse read? default (if missing then none else found)
      = some (if missing then default else a) := by
  by_cases hmissing : missing
  · rw [if_pos hmissing, if_pos hmissing]
    rfl
  · rw [if_neg hmissing, if_neg hmissing]
    exact h

end Json

namespace Progress

/-- A record needs its thread and its line, and takes the rest if it is there. -/
theorem record?_object (found : List (String × Json)) :
    (Json.object found).record? members
      = (found.lookup "thread").bind fun thread => (found.lookup "stepIndex").bind fun index =>
          some [some thread, some index, found.lookup "values", found.lookup "options",
            found.lookup "replay"] := by
  unfold Json.record? members
  cases hthread : found.lookup "thread" <;> cases hindex : found.lookup "stepIndex" <;>
    simp [Json.membersByName?, hthread, hindex]

/-- **What a reader finds in an object**, member by member. -/
theorem ofJson?_object {found : List (String × Json)} {p : Progress} :
    ofJson? (.object found) = some p
      ↔ (found.lookup "thread").bind Json.string? = some p.thread
        ∧ (found.lookup "stepIndex").bind Json.index? = some p.index
        ∧ Json.orElse Json.table? .empty (found.lookup "values") = some p.values
        ∧ Json.orElse Json.table? .empty (found.lookup "options") = some p.options
        ∧ Json.orElse Json.bool? false (found.lookup "replay") = some p.replay := by
  obtain ⟨thread, index, values, options, replay⟩ := p
  unfold ofJson?
  rw [record?_object]
  cases found.lookup "thread" with
  | none => simp
  | some t =>
    cases found.lookup "stepIndex" with
    | none => simp
    | some i =>
      simp only [Option.bind_eq_bind, Option.bind_some, Option.pure_def, Option.bind_eq_some_iff,
        Option.some.injEq, Progress.mk.injEq]
      constructor
      · rintro ⟨_, ht, _, hi, _, hv, _, ho, _, hr, rfl, rfl, rfl, rfl, rfl⟩
        exact ⟨ht, hi, hv, ho, hr⟩
      · rintro ⟨ht, hi, hv, ho, hr⟩
        exact ⟨_, ht, _, hi, _, hv, _, ho, _, hr, rfl, rfl, rfl, rfl, rfl⟩

/-- What a reader finds in the stored form; the replay mark is there only if it is
set. -/
theorem toJson_found (p : Progress) :
    ∃ found, p.toJson = .object found
      ∧ found.lookup "thread" = some (.string p.thread)
      ∧ found.lookup "stepIndex" = some (.ofNat p.index)
      ∧ found.lookup "values" = some (Json.ofTable p.values)
      ∧ found.lookup "options" = some (Json.ofTable p.options)
      ∧ found.lookup "replay" = if p.replay then some (.bool true) else none := by
  obtain ⟨thread, index, values, options, replay⟩ := p
  cases replay <;> exact ⟨_, rfl, rfl, rfl, rfl, rfl, rfl⟩

/-- **What was stored is read back.** -/
theorem ofJson?_toJson {p : Progress} (h : p.index < Json.indexBound) :
    ofJson? p.toJson = some p := by
  obtain ⟨found, hform, hthread, hindex, hvalues, hoptions, hreplay⟩ := p.toJson_found
  rw [hform, ofJson?_object, hthread, hindex, hvalues, hoptions, hreplay, Option.bind_some,
    Option.bind_some, Json.index?_ofNat h]
  refine ⟨rfl, rfl, Json.table?_ofTable p.values, Json.table?_ofTable p.options, ?_⟩
  cases p.replay <;> rfl

/-- The members that a reader can do without. -/
def dispensable : List String := ["values", "options", "replay"]

/-- The progress with members of some names empty, or not set. -/
def reset (names : List String) (p : Progress) : Progress :=
  { p with
    values := if "values" ∈ names then .empty else p.values
    options := if "options" ∈ names then .empty else p.options
    replay := if "replay" ∈ names then false else p.replay }

/-- **What is missing is read as empty, or as not set**, and everything else as it
was. -/
theorem ofJson?_without {names : List String} (hnames : names ⊆ dispensable)
    {found : List (String × Json)} {p : Progress} (h : ofJson? (.object found) = some p) :
    ofJson? ((Json.object found).without names) = some (p.reset names) := by
  have hthread : "thread" ∉ names := fun hmem => absurd (hnames hmem) (by decide)
  have hindex : "stepIndex" ∉ names := fun hmem => absurd (hnames hmem) (by decide)
  obtain ⟨hthread', hindex', hvalues, hoptions, hreplay⟩ := ofJson?_object.mp h
  unfold Json.without
  refine ofJson?_object.mpr ?_
  simp only [Json.lookup_filter, if_neg hthread, if_neg hindex]
  exact ⟨hthread', hindex', Json.orElse_ite hvalues _, Json.orElse_ite hoptions _,
    Json.orElse_ite hreplay _⟩

end Progress

/-! ## §2. Every call leaves an index that can be stored. -/

/-- Every line of a script has an index that can be stored. -/
def Script.Fits (s : Script H) : Prop :=
  ∀ thread ∈ s.threads.entries, thread.2.length ≤ Json.indexBound

/-- Where a line stands, the index can be stored. -/
theorem Script.Fits.index_lt {s : Script H} (hs : s.Fits) {p : Position} (h : s.HasLine p) :
    p.index < Json.indexBound := by
  obtain ⟨lines, hthread, hin⟩ := h
  obtain ⟨first, last, hentries, _⟩ := List.lookup_eq_some_iff.mp hthread
  exact Nat.lt_of_lt_of_le hin (hs (p.thread, lines) (by rw [hentries]; simp))

namespace Dialog

variable (d : Dialog H) (w : World σ H)

variable {d} in
/-- **A loop hands on an index that can be stored**, if it got one. -/
theorem resolve_fits (hd : d.script.Fits) (budget : Nat) (position : Position) (cause : Cause)
    (reply : Option String) {working : Progress} (hworking : working.index < Json.indexBound) :
    Act.Yields (fun done => done.1.index < Json.indexBound)
      (d.resolve w budget position cause reply working) := by
  -- along the loop: a place with a line has an index that can be stored
  refine d.resolve_induct w
    (motive := fun _ _ _ working act => working.index < Json.indexBound →
      Act.Yields (fun done => done.1.index < Json.indexBound) act)
    ?unknown ?ended ?spent ?line budget position cause reply working hworking
  case unknown => exact fun _ _ _ _ _ => .fail _
  case ended => exact fun _ _ _ _ hworking => .seq fun _ => .pure hworking
  case spent =>
    intro position cause reply working hposition hworking
    refine .answer ?_
    unfold cutOff
    split
    · exact hd.index_lt hposition
    · exact hworking
  case line =>
    intro lines budget position cause reply working hthread hin ih _
    refine (d.visit_yields w lines position cause reply working).bind ?_
    rintro ⟨moved, move⟩ ⟨hat, _, _⟩
    -- the visit stands at its own line
    have hmoved : moved.index < Json.indexBound := by
      rw [show moved.index = position.index from congrArg Position.index hat]
      exact hd.index_lt ⟨lines, hthread, hin⟩
    cases move with
    | goOn target => exact ih target moved hmoved
    | stop report => exact .pure hmoved

variable {d} in
/-- A turn leaves an index that can be stored. -/
theorem turn_fits (hd : d.script.Fits) {env : Env σ} (h : env.saved.index < Json.indexBound)
    (position : Position) (cause : Cause) (reply : Option String) :
    (d.turn w position cause reply env).env.saved.index < Json.indexBound := by
  -- a turn that fails leaves the index as it was
  rcases d.turn_cases w position cause reply env with
    ⟨fault, env', events, hloop, hturn⟩ | ⟨working, report, env', events, hloop, hturn⟩
  · obtain ⟨values, hvalues⟩ :=
      d.resolve_revalued w d.settings.maxSteps position cause reply env.saved env
    rw [hloop] at hvalues
    rw [hturn]
    show env'.saved.index < Json.indexBound
    rw [show env'.saved = { env.saved with values } from hvalues]
    exact h
  · rw [hturn]
    exact resolve_fits w hd d.settings.maxSteps position cause reply h env (working, report)
      (by rw [hloop])

variable {d} in
/-- **A call leaves an index that can be stored.** -/
theorem serve_fits (hd : d.script.Fits) (call : Call) {env : Env σ}
    (h : env.saved.index < Json.indexBound) :
    (d.serve w call env).env.saved.index < Json.indexBound := by
  -- a begin stores the index 0, a turn that of a line, and else nothing changes
  cases htask : call.task env.saved with
  | begin options =>
    rw [d.serve_of_begin w htask, begin_apply]
    have hfresh : (Progress.start "" options).index < Json.indexBound := by
      show 0 < Json.indexBound
      decide
    exact turn_fits w hd hfresh _ _ _
  | turn cause reply =>
    rw [d.serve_of_turn w htask]
    exact turn_fits w hd h _ _ _
  | nothing result =>
    rw [d.serve_of_nothing w htask]
    exact h

end Dialog

/-! ## §3. Runs. -/

/-- A call, and what becomes of the world before it is made. -/
structure Occasion (σ : Type) where
  /-- What becomes of the world in the meantime. -/
  meanwhile : σ → σ
  /-- The call. -/
  call : Call

namespace Dialog

variable (d : Dialog H) (w : World σ H)

/-- A run that keeps the progress: what comes of its calls, each in the
environment that the one before it left. -/
def keptRun : Env σ → List (Occasion σ) → List (Outcome σ H Report)
  | _, [] => []
  | env, o :: rest =>
    let done := d.serve w o.call { env with world := o.meanwhile env.world }
    done :: keptRun done.env rest

/-- A run that stores the progress after every call, and reads it before the
next, if it can be read. -/
def storedRun : Env σ → List (Occasion σ) → Option (List (Outcome σ H Report))
  | _, [] => some []
  | env, o :: rest => do
    let saved ← Progress.ofJson? env.saved.toJson
    let done := d.serve w o.call { env with world := o.meanwhile env.world, saved }
    let later ← storedRun done.env rest
    return done :: later

variable {d} in
/-- **Storing the progress makes no difference to a run.** -/
theorem storedRun_eq (hd : d.script.Fits) (occasions : List (Occasion σ)) :
    ∀ env : Env σ, env.saved.index < Json.indexBound →
      d.storedRun w env occasions = some (d.keptRun w env occasions) := by
  -- along the run; every call leaves progress that is read back as it was
  induction occasions with
  | nil => exact fun _ _ => rfl
  | cons o rest ih =>
    intro env h
    have hafter : (d.serve w o.call { env with world := o.meanwhile env.world }).env.saved.index
        < Json.indexBound := serve_fits w hd o.call h
    unfold storedRun
    rw [Progress.ofJson?_toJson h]
    show (d.storedRun w _ rest).bind _ = _
    rw [ih _ hafter]
    rfl

/-- **Storing the progress is transparent.**  What was stored is read back; the
replay mark is stored exactly if it is set; without any of the members that a
reader can do without the others are read the same, and those as empty or not
set; so a run that stores the progress between calls comes to the same answers,
events and environments as one that keeps it. -/
theorem storing_transparent :
    (∀ p : Progress, p.index < Json.indexBound → Progress.ofJson? p.toJson = some p)
      ∧ (∀ p : Progress, (p.toJson.member? "replay").isSome = p.replay)
      ∧ (∀ names found p, names ⊆ Progress.dispensable →
        Progress.ofJson? (.object found) = some p →
        Progress.ofJson? ((Json.object found).without names) = some (p.reset names))
      ∧ ∀ (d : Dialog H) (w : World σ H) (env : Env σ) (occasions : List (Occasion σ)),
        d.script.Fits → env.saved.index < Json.indexBound →
        d.storedRun w env occasions = some (d.keptRun w env occasions) := by
  refine ⟨fun p => Progress.ofJson?_toJson, ?replay, ?missing, ?runs⟩
  case replay =>
    intro p
    obtain ⟨found, hform, _, _, _, _, hreplay⟩ := p.toJson_found
    rw [hform]
    show (found.lookup "replay").isSome = p.replay
    rw [hreplay]
    cases p.replay <;> rfl
  case missing => exact fun names found p hnames h => Progress.ofJson?_without hnames h
  case runs => exact fun d w env occasions hd h => storedRun_eq w hd occasions env h

/-- A dialog that asks for a name, and then stays where it is. -/
def keeperDialog : Dialog Routine where
  id := "keeper"
  script := (Script.empty.ask {} (.capture "name")).addAction "default" {} .hold

/-- The dialog is about to begin. -/
def keeperEnv : Env Stage :=
  ⟨(Stage.new "c").register keeperDialog.settings.promptId, ⟨[], 0⟩, {}⟩

/-- It begins, and gets a reply. -/
def keeperRun : List (Occasion Stage) :=
  [⟨fun s => s, .begin .empty⟩, ⟨fun s => s.startTurn [], .resume .continued (some "Ada")⟩]

/-- Where it stands then. -/
def keeperProgress : Progress where
  thread := "default"
  index := 1
  values := Table.empty.insert "name" (.string "Ada")
  replay := true

/-- That run comes to the same whether its progress is stored in between or kept. -/
theorem keeperDialog_stored :
    Progress.ofJson? keeperProgress.toJson = some keeperProgress
      ∧ Progress.ofJson? (keeperProgress.toJson.without ["replay", "values"])
        = some { thread := "default", index := 1 }
      ∧ keeperDialog.storedRun Stage.world keeperEnv keeperRun
        = some (keeperDialog.keptRun Stage.world keeperEnv keeperRun)
      ∧ (keeperDialog.keptRun Stage.world keeperEnv keeperRun).map (·.env.saved)
        = [{ thread := "default" }, keeperProgress] := by
  obtain ⟨hback, _, hmissing, hruns⟩ := @storing_transparent Stage Routine
  have hprogress := hback keeperProgress (by decide)
  refine ⟨hprogress, ?_, ?_, rfl⟩
  · exact hmissing ["replay", "values"] _ keeperProgress (by decide) hprogress
  · exact hruns keeperDialog Stage.world keeperEnv keeperRun (by unfold Script.Fits; decide)
      (by decide)

end Dialog

end Parley
