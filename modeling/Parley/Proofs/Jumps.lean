/-
  Parley.Proofs.Jumps
  ───────────────────
  **VALIDATED SCRIPTS HAVE NO JUMP INTO NOTHING.**

  A directive stands at a site of the script (`Site`): it is that of a line, or
  of a branch of the line.  Sites come one before the other (`Site.Before`): by
  the names of threads, then by lines, then by branches.

    • `pairwise_standing`, `standing_directives` — validation goes through the
      directives of a script in the order of their sites,
    • `validate_eq_ok_iff`, `validate_eq_error_iff` — it succeeds if every jump
      that stands anywhere leads to a thread, and else names the first that does
      not,
    • `route_eq_onward_iff`, `Obeys.exists_site` — in a script that it accepts no
      directive is ignored, and a visit that obeys one obeys one that stands
      there.

  `validate_charted` puts these together.
-/
import Parley.Proofs.HandOver
import Parley.Proofs.Scripts

namespace Parley

variable {σ H : Type}

/-! ## §1. Sites. -/

/-- A place in a script where a directive can stand. -/
structure Site where
  /-- The thread. -/
  thread : String
  /-- The line within the thread. -/
  line : Nat
  /-- The branch of the line; none for the line itself. -/
  branch : Option Nat
  deriving DecidableEq

/-- One site comes before another.  A line that has a directive itself has no branches, so the two
are not compared. -/
inductive Site.Before : Site → Site → Prop
  /-- Its thread does. -/
  | thread {a b : Site} (h : keyBefore a.thread b.thread) : Before a b
  /-- Its line does, in the same thread. -/
  | line {thread : String} {i j : Nat} {a b : Option Nat} (h : i < j) :
      Before ⟨thread, i, a⟩ ⟨thread, j, b⟩
  /-- Its branch does, of the same line. -/
  | branch {thread : String} {i k l : Nat} (h : k < l) :
      Before ⟨thread, i, some k⟩ ⟨thread, i, some l⟩

/-- No site comes before one that comes before it. -/
theorem Site.Before.asymm {a b : Site} (h : a.Before b) : ¬ b.Before a := by
  intro hback
  -- the threads decide first, then the lines, then the branches
  cases h with
  | thread h =>
    cases hback with
    | thread hback => exact keyBefore_irrefl _ (keyBefore_trans h hback)
    | line | branch => exact keyBefore_irrefl _ h
  | line h =>
    cases hback with
    | thread hback => exact keyBefore_irrefl _ hback
    | line hback => omega
    | branch => omega
  | branch h =>
    cases hback with
    | thread hback => exact keyBefore_irrefl _ hback
    | line hback => omega
    | branch hback => omega

/-- The directive of a branch, unless a callback decides. -/
def Branch.directive? (branch : Branch H) : Option Directive :=
  match branch.consequence with
  | .directive directive => some directive
  | .handler _ => none

/-- The directive that stands in a line: its own, or that of a branch. -/
def Line.directiveAt? (line : Line H) : Option Nat → Option Directive
  | none => line.directive?
  | some k => line.intake?.bind fun intake => intake.branches[k]?.bind Branch.directive?

/-- The directive that stands at a site. -/
def Script.directiveAt? (s : Script H) (site : Site) : Option Directive :=
  ((s.thread? site.thread).bind (·[site.line]?)).bind (·.directiveAt? site.branch)

/-! ## §2. All directives, in the order of their sites. -/

/-- The directives of a line, each with where in the line it stands. -/
def Line.standing : Line H → List (Option Nat × Directive)
  | .message _ => []
  | .action _ directive => [(none, directive)]
  | .question _ intake => intake.branches.zipIdx.filterMap fun branch =>
      branch.1.directive?.map fun directive => (some branch.2, directive)

/-- The directives of a script, each with its site. -/
def Script.standing (s : Script H) : List (Site × Directive) :=
  s.threads.entries.flatMap fun thread => thread.2.zipIdx.flatMap fun line =>
    line.1.standing.map fun found => (⟨thread.1, line.2, found.1⟩, found.2)

/-- What stands in a line is listed with its slot, and nothing else is. -/
theorem Line.mem_standing_iff (line : Line H) (slot : Option Nat) (directive : Directive) :
    (slot, directive) ∈ line.standing ↔ line.directiveAt? slot = some directive := by
  cases line with
  | message draft => cases slot <;> simp [standing, directiveAt?, directive?, intake?]
  | action draft own => cases slot <;> simp [standing, directiveAt?, directive?, intake?, eq_comm]
  | question draft intake =>
    show (slot, directive) ∈ List.filterMap _ _ ↔ _
    rw [List.mem_filterMap]
    cases slot with
    | none => simp [directiveAt?, directive?]
    | some k =>
      show _ ↔ intake.branches[k]?.bind Branch.directive? = some directive
      rw [Option.bind_eq_some_iff]
      constructor
      · rintro ⟨⟨branch, i⟩, hbranch, hfound⟩
        obtain ⟨found, hdirective, hsame⟩ := Option.map_eq_some_iff.mp hfound
        cases hsame
        exact ⟨branch, List.mk_mem_zipIdx_iff_getElem?.mp hbranch, hdirective⟩
      · rintro ⟨branch, hbranch, hdirective⟩
        exact ⟨(branch, k), List.mk_mem_zipIdx_iff_getElem?.mpr hbranch, by simp [hdirective]⟩

/-- **What stands at a site is listed with it**, and nothing else is. -/
theorem Script.mem_standing_iff (s : Script H) (site : Site) (directive : Directive) :
    (site, directive) ∈ s.standing ↔ s.directiveAt? site = some directive := by
  have hthread : ∀ name lines, (name, lines) ∈ s.threads.entries ↔ s.thread? name = some lines :=
    fun name lines => s.threads.mem_entries_iff
  unfold standing directiveAt?
  rw [List.mem_flatMap, Option.bind_eq_some_iff]
  constructor
  · rintro ⟨⟨name, lines⟩, hlines, hfound⟩
    obtain ⟨⟨line, i⟩, hline, hfound⟩ := List.mem_flatMap.mp hfound
    obtain ⟨⟨slot, found⟩, hslot, hsame⟩ := List.mem_map.mp hfound
    cases hsame
    refine ⟨line, ?_, (line.mem_standing_iff slot found).mp hslot⟩
    rw [(hthread name lines).mp hlines]
    exact List.mk_mem_zipIdx_iff_getElem?.mp hline
  · rintro ⟨line, hline, hdirective⟩
    obtain ⟨lines, hlines, hline⟩ := Option.bind_eq_some_iff.mp hline
    refine ⟨(site.thread, lines), (hthread _ _).mpr hlines, ?_⟩
    refine List.mem_flatMap.mpr
      ⟨(line, site.line), List.mk_mem_zipIdx_iff_getElem?.mpr hline, ?_⟩
    exact List.mem_map.mpr ⟨_, (line.mem_standing_iff _ _).mpr hdirective, rfl⟩

/-- The numbers of a list increase along it. -/
theorem pairwise_zipIdx {α : Type} (l : List α) : l.zipIdx.Pairwise fun a b => a.2 < b.2 := by
  rw [List.pairwise_iff_getElem]
  intro i j hi hj hij
  simpa using hij

/-- Within a line the list is in the order of the branches. -/
theorem Line.pairwise_standing (line : Line H) (name : String) (i : Nat) :
    line.standing.Pairwise fun a b => Site.Before ⟨name, i, a.1⟩ ⟨name, i, b.1⟩ := by
  cases line with
  | message draft => exact List.Pairwise.nil
  | action draft directive => exact List.pairwise_singleton _ _
  | question draft intake =>
    refine List.pairwise_filterMap.mpr ((pairwise_zipIdx intake.branches).imp ?_)
    rintro ⟨branch, k⟩ ⟨later, l⟩ hkl found hfound found' hfound'
    obtain ⟨_, -, rfl⟩ := Option.map_eq_some_iff.mp hfound
    obtain ⟨_, -, rfl⟩ := Option.map_eq_some_iff.mp hfound'
    exact .branch hkl

/-- **The list is in the order of the sites.** -/
theorem Script.pairwise_standing (s : Script H) :
    s.standing.Pairwise fun a b => a.1.Before b.1 := by
  refine List.pairwise_flatMap.mpr ⟨fun thread _ => ?within, s.threads.ordered.imp ?across⟩
  case within =>
    refine List.pairwise_flatMap.mpr
      ⟨fun line _ => ?_, (pairwise_zipIdx thread.2).imp fun {line later} hline => ?_⟩
    · rw [List.pairwise_map]
      exact line.1.pairwise_standing thread.1 line.2
    · intro found hfound found' hfound'
      obtain ⟨slot, -, rfl⟩ := List.mem_map.mp hfound
      obtain ⟨slot', -, rfl⟩ := List.mem_map.mp hfound'
      exact .line hline
  case across =>
    intro thread later hthread found hfound found' hfound'
    obtain ⟨line, -, hfound⟩ := List.mem_flatMap.mp hfound
    obtain ⟨slot, -, rfl⟩ := List.mem_map.mp hfound
    obtain ⟨line', -, hfound'⟩ := List.mem_flatMap.mp hfound'
    obtain ⟨slot', -, rfl⟩ := List.mem_map.mp hfound'
    exact .thread hthread

/-- Without their slots they are what validation goes through in the line. -/
theorem Line.standing_directives (line : Line H) :
    line.standing.map Prod.snd = line.directives := by
  cases line with
  | message draft => rfl
  | action draft directive => rfl
  | question draft intake =>
    calc List.map Prod.snd (Line.question draft intake).standing
        = intake.branches.zipIdx.filterMap fun branch => branch.1.directive? := by
          unfold standing
          simp [List.map_filterMap, Function.comp_def]
      _ = (intake.branches.zipIdx.map Prod.fst).filterMap Branch.directive? :=
          (List.filterMap_map (f := Prod.fst) (g := Branch.directive?)).symm
      _ = intake.branches.filterMap Branch.directive? := by rw [List.zipIdx_map_fst]

/-- Numbering a list changes nothing of what is made of its items. -/
theorem flatMap_zipIdx {α β : Type} (f : α → List β) (l : List α) :
    (l.zipIdx.flatMap fun a => f a.1) = l.flatMap f := by
  rw [← List.flatMap_map, List.zipIdx_map_fst]

/-- **The list is what validation goes through.** -/
theorem Script.standing_directives (s : Script H) :
    s.standing.map Prod.snd = s.directives := by
  unfold standing directives
  rw [List.map_flatMap]
  congr 1
  funext thread
  rw [List.map_flatMap, ← flatMap_zipIdx Line.directives]
  congr 1
  funext line
  rw [List.map_map]
  exact line.1.standing_directives

/-- Validation goes through the directives that stand at a site, and no others. -/
theorem Script.mem_directives_iff (s : Script H) (directive : Directive) :
    directive ∈ s.directives ↔ ∃ site, s.directiveAt? site = some directive := by
  rw [← s.standing_directives, List.mem_map]
  constructor
  · rintro ⟨⟨site, found⟩, hfound, rfl⟩
    exact ⟨site, (s.mem_standing_iff site found).mp hfound⟩
  · rintro ⟨site, hsite⟩
    exact ⟨(site, directive), (s.mem_standing_iff site directive).mpr hsite, rfl⟩

/-! ## §3. What validation finds. -/

/-- In a list that is in order, a search finds what comes before all else that could be found. -/
theorem findSome?_eq_some_of_pairwise {α β : Type} {R : α → α → Prop} {f : α → Option β}
    {l : List α} {b : β} (hasymm : ∀ x y, R x y → ¬ R y x) (hl : l.Pairwise R) :
    l.findSome? f = some b ↔ ∃ a ∈ l, f a = some b ∧ ∀ x ∈ l, R x a → f x = none := by
  rw [List.findSome?_eq_some_iff]
  constructor
  · rintro ⟨before, a, behind, rfl, hfa, hbefore⟩
    obtain ⟨-, hbehind, -⟩ := List.pairwise_append.mp hl
    have hlater : ∀ y ∈ behind, R a y := (List.pairwise_cons.mp hbehind).1
    refine ⟨a, by simp, hfa, fun x hx hxa => ?_⟩
    -- what comes before stands before
    rcases List.mem_append.mp hx with hx | hx
    · exact hbefore x hx
    · rcases List.mem_cons.mp hx with rfl | hx
      · exact absurd hxa (hasymm x x hxa)
      · exact absurd hxa (hasymm a x (hlater x hx))
  · rintro ⟨a, ha, hfa, hfirst⟩
    obtain ⟨before, behind, rfl⟩ := List.append_of_mem ha
    refine ⟨before, a, behind, rfl, hfa, fun x hx => ?_⟩
    have hxa : R x a := (List.pairwise_append.mp hl).2.2 x hx a List.mem_cons_self
    exact hfirst x (List.mem_append_left _ hx) hxa

namespace Script

/-- A jump stands at a site, to a thread that does not exist. -/
def Dangles (s : Script H) (site : Site) (name : String) : Prop :=
  s.directiveAt? site = some (.jump name) ∧ s.hasThread name = false

/-- It is the first such jump. -/
structure DanglesFirst (s : Script H) (site : Site) (name : String) : Prop where
  /-- It is one. -/
  dangles : s.Dangles site name
  /-- None stands before it. -/
  first : ∀ (earlier : Site) (other : String), earlier.Before site → ¬ s.Dangles earlier other

/-- A directive misses its target if it is a jump to a thread that does not exist. -/
theorem missingTarget?_eq_some_iff (s : Script H) {directive : Directive} {name : String} :
    s.missingTarget? directive = some name
      ↔ directive = .jump name ∧ s.hasThread name = false := by
  cases directive with
  | jump thread =>
    show (if s.hasThread thread then none else some thread) = some name ↔ _
    cases hthread : s.hasThread thread <;> simp +contextual [← hthread]
  | _ => simp [missingTarget?]

/-- **The search of a validation finds the first jump into nothing.** -/
theorem findSome?_directives (s : Script H) {name : String} :
    s.directives.findSome? s.missingTarget? = some name ↔ ∃ site, s.DanglesFirst site name := by
  have hmem : ∀ site other, s.Dangles site other → (site, .jump other) ∈ s.standing :=
    fun site other h => (s.mem_standing_iff site _).mpr h.1
  -- what the search looks for are the jumps into nothing, at their sites
  have hmissing : ∀ found ∈ s.standing, ∀ other,
      (s.missingTarget? ∘ Prod.snd) found = some other ↔ s.Dangles found.1 other := by
    rintro ⟨site, directive⟩ hfound other
    show s.missingTarget? directive = some other ↔ _
    rw [missingTarget?_eq_some_iff, Dangles, (s.mem_standing_iff site directive).mp hfound,
      Option.some.injEq]
  rw [← s.standing_directives, List.findSome?_map,
    findSome?_eq_some_of_pairwise (fun _ _ => Site.Before.asymm) s.pairwise_standing]
  constructor
  · rintro ⟨found, hfound, hname, hfirst⟩
    refine ⟨found.1, (hmissing found hfound name).mp hname, ?_⟩
    intro earlier other hbefore hdangles
    have hearlier := hmem earlier other hdangles
    have hnone := hfirst _ hearlier hbefore
    rw [(hmissing _ hearlier other).mpr hdangles] at hnone
    cases hnone
  · rintro ⟨site, hdangles, hfirst⟩
    have hfound := hmem site name hdangles
    refine ⟨_, hfound, (hmissing _ hfound name).mpr hdangles, ?_⟩
    intro earlier hearlier hbefore
    refine Option.eq_none_iff_forall_ne_some.mpr fun other hother => ?_
    exact hfirst earlier.1 other hbefore ((hmissing earlier hearlier other).mp hother)

/-- **When validation fails, and with what.** -/
theorem validate_eq_error_iff (s : Script H) (fault : Fault) :
    s.validate = .error fault
      ↔ ∃ site name, s.DanglesFirst site name ∧ fault = .unknownThread name := by
  unfold validate
  cases hfound : s.directives.findSome? s.missingTarget? with
  | none =>
    constructor
    · intro h
      cases h
    · rintro ⟨site, name, hfirst, -⟩
      rw [s.findSome?_directives.mpr ⟨site, hfirst⟩] at hfound
      cases hfound
  | some name =>
    constructor
    · intro h
      cases h
      obtain ⟨site, hfirst⟩ := s.findSome?_directives.mp hfound
      exact ⟨site, name, hfirst, rfl⟩
    · rintro ⟨site, other, hfirst, rfl⟩
      rw [s.findSome?_directives.mpr ⟨site, hfirst⟩] at hfound
      cases hfound
      rfl

/-- **When validation succeeds.** -/
theorem validate_eq_ok_iff (s : Script H) :
    s.validate = .ok () ↔
      ∀ site name, s.directiveAt? site = some (.jump name) → s.hasThread name = true := by
  have hnone : s.validate = .ok () ↔ s.directives.findSome? s.missingTarget? = none := by
    unfold validate
    cases s.directives.findSome? s.missingTarget? <;> simp
  rw [hnone, List.findSome?_eq_none_iff]
  -- every directive that stands somewhere is searched, and nothing else is
  constructor
  · intro h site name hjump
    have hmissing := h (.jump name) ((s.mem_directives_iff _).mpr ⟨site, hjump⟩)
    cases hthread : s.hasThread name with
    | true => rfl
    | false =>
      rw [s.missingTarget?_eq_some_iff.mpr ⟨rfl, hthread⟩] at hmissing
      cases hmissing
  · intro h directive hdirective
    obtain ⟨site, hsite⟩ := (s.mem_directives_iff directive).mp hdirective
    refine Option.eq_none_iff_forall_ne_some.mpr fun name hname => ?_
    obtain ⟨rfl, hthread⟩ := s.missingTarget?_eq_some_iff.mp hname
    rw [h site name hsite] at hthread
    cases hthread

/-! ## §4. Directives of a validated script. -/

/-- A thread that exists has a first line. -/
theorem Built.exists_cons {s : Script H} (hbuilt : s.Built) {name : String}
    (h : s.hasThread name = true) : ∃ first rest, s.thread? name = some (first :: rest) := by
  have hsome : (s.thread? name).isSome = true := h
  obtain ⟨lines, hlines⟩ := Option.isSome_iff_exists.mp hsome
  obtain ⟨first, rest, rfl⟩ := List.exists_cons_of_ne_nil (hbuilt.ne_nil hlines)
  exact ⟨first, rest, hlines⟩

/-- Only a directive that says to go on leads on. -/
theorem route_eq_onward_iff {s : Script H} (hvalid : s.validate = .ok ()) {site : Site}
    {directive : Directive} (hsite : s.directiveAt? site = some directive) (here : Position) :
    directive.route s here = .onward ↔ directive = .next := by
  cases directive with
  | jump name =>
    have hthread := s.validate_eq_ok_iff.mp hvalid site name hsite
    simp [Directive.route, hthread]
  | _ => simp [Directive.route]

end Script

/-- **A directive that a visit obeys stands in the script.** -/
theorem Dialog.Obeys.exists_site {d : Dialog H} {w : World σ H} {lines : List (Line H)}
    {a : Place σ} {directive : Directive} {working : Progress} {env : Env σ}
    {events : List (Event H)} (h : d.Obeys w lines a directive working env events)
    (hthread : d.script.thread? a.position.thread = some lines) :
    ∃ site, d.script.directiveAt? site = some directive := by
  -- it is one of a branch of the question before, or that of the line itself
  cases h with
  | @chosen _ _ _ _ _ _ intake reply branch _ _ hquestion _ hbranch horder =>
    obtain ⟨i, draft, -, hline⟩ := questionBefore?_eq_some.mp hquestion
    obtain ⟨k, -, hbranch⟩ := Option.bind_eq_some_iff.mp hbranch
    refine ⟨⟨a.position.thread, i, some k⟩, ?_⟩
    simp [Script.directiveAt?, hthread, hline, Line.directiveAt?, Line.intake?, hbranch,
      Branch.directive?, horder]
  | ordered _ _ hline _ =>
    refine ⟨⟨a.position.thread, a.position.index, none⟩, ?_⟩
    simp [Script.directiveAt?, hthread, hline, Line.directiveAt?, Line.directive?]

/-- Every directive of the script leads where it says. -/
structure Script.Charted (s : Script H) : Prop where
  /-- None is ignored, wherever it is obeyed. -/
  heeded : ∀ site directive, s.directiveAt? site = some directive → ∀ here,
    directive.route s here = .onward ↔ directive = .next
  /-- A jump leads to the start of a thread, which has a line. -/
  lands : ∀ site name, s.directiveAt? site = some (.jump name) →
    (∃ first rest, s.thread? name = some (first :: rest))
      ∧ ∀ here, (Directive.jump name).route s here = .restart ⟨name, 0⟩
  /-- So do the visits that obey one, in every dialog with the script and every world. -/
  goesThere : ∀ {σ : Type} (d : Dialog H) (w : World σ H) {lines : List (Line H)} {a : Place σ}
    {name : String} {working : Progress} {env : Env σ} {events : List (Event H)},
    d.script = s → s.thread? a.position.thread = some lines →
    d.Obeys w lines a (.jump name) working env events →
    s.hasThread name = true
      ∧ d.visitAt w lines a = ⟨.ok (working, .goOn ⟨name, 0⟩), env, events⟩

/-- **Validation finds the jumps into nothing, and all of them.**  It succeeds if every jump that
stands in the script leads to a thread; else it names the target of the first that does not.  What
it says depends on the lines of each thread, and not on how they were added in between.  In a script
that it accepts every directive leads where it says. -/
theorem Script.validate_charted :
    (∀ s : Script H, s.validate = .ok () ↔
        ∀ site name, s.directiveAt? site = some (.jump name) → s.hasThread name = true)
      ∧ (∀ (s : Script H) (fault : Fault), s.validate = .error fault
        ↔ ∃ site name, s.DanglesFirst site name ∧ fault = .unknownThread name)
      ∧ (∀ additions additions' : List (Addition H),
        (∀ name, Addition.linesFor name additions = Addition.linesFor name additions') →
        (empty.addAll additions).validate = (empty.addAll additions').validate)
      ∧ ∀ s : Script H, s.Built → s.validate = .ok () → s.Charted := by
  refine ⟨validate_eq_ok_iff, validate_eq_error_iff, ?interleaved, ?charted⟩
  case interleaved =>
    intro additions additions' h
    rw [empty.addAll_congr h]
  case charted =>
    intro s hbuilt hvalid
    have hthread := s.validate_eq_ok_iff.mp hvalid
    refine ⟨fun site directive hsite => route_eq_onward_iff hvalid hsite, ?_, ?_⟩
    · intro site name hjump
      have hexists := hthread site name hjump
      exact ⟨hbuilt.exists_cons hexists, fun here => by simp [Directive.route, hexists]⟩
    · rintro σ d w lines a name working env events rfl hlines hobeys
      obtain ⟨site, hsite⟩ := hobeys.exists_site hlines
      have hexists := hthread site name hsite
      have hroute : (Directive.jump name).route d.script a.position = .restart ⟨name, 0⟩ := by
        simp [Directive.route, hexists]
      refine ⟨hexists, ?_⟩
      rw [hobeys.visitAt_eq (by rw [hroute]; simp), hroute]
      show Outcome.mk _ _ (events ++ []) = _
      rw [List.append_nil]
      rfl

/-- Additions to two threads, with a jump to a third. -/
def tourAdditions : List (Addition Routine) :=
  [.question "default" {} {
      branches := [.matching .string "yes" (· == "yes") (.directive (.jump "more")),
        .fallback (.directive .stop)] },
   .action "more" {} (.jump "attic")]

/-- A script made of them, which has no third thread. -/
def strayScript : Script Routine := Script.empty.addAll tourAdditions

/-- The same script with the third thread. -/
def tourScript : Script Routine := strayScript.addMessage "attic" {}

/-- A dialog that follows it. -/
def tourDialog : Dialog Routine := { id := "tour", script := tourScript }

/-- It has come to the thread that jumps on. -/
def tourPlace : Place Stage :=
  ⟨⟨"more", 0⟩, .advanced, none, { thread := "default", index := 1 }, ⟨Stage.new "c", ⟨[], 0⟩, {}⟩⟩

/-- With its third thread the script leads where it says; without, that is the first thing
missing, in whatever order its lines were added. -/
theorem tourScript_charted :
    (tourScript.Charted ∧ tourDialog.visitAt Stage.world [.action {} (.jump "attic")] tourPlace
        = ⟨.ok ({ thread := "more" }, .goOn ⟨"attic", 0⟩), tourPlace.env, [.reached ⟨"more", 0⟩]⟩)
      ∧ strayScript.validate = .error (.unknownThread "attic")
      ∧ (Script.empty.addAll tourAdditions.reverse).validate = .error (.unknownThread "attic") := by
  obtain ⟨_, _, hinterleaved, hcharted⟩ := Script.validate_charted (H := Routine)
  have hstray : strayScript.validate = .error (.unknownThread "attic") := rfl
  have hbuilt : tourScript.Built := ⟨tourAdditions ++ [.message "attic" {}], rfl⟩
  have htour : tourScript.Charted := hcharted tourScript hbuilt rfl
  refine ⟨⟨htour, ?_⟩, hstray, ?_⟩
  · have hentry : tourDialog.enterAt Stage.world tourPlace
        = ⟨.ok ({ thread := "more" }, none), tourPlace.env, []⟩ := rfl
    have hanswer : tourDialog.answerBefore Stage.world [.action {} (.jump "attic")]
        (tourDialog.stepOf tourPlace) { thread := "more" } tourPlace.env
          = ⟨.ok ({ thread := "more" }, .onward), tourPlace.env, []⟩ := rfl
    have hsend : Dialog.sendDraft Stage.world {} .empty tourPlace.env
        = ⟨.ok (), tourPlace.env, []⟩ := rfl
    exact (htour.goesThere tourDialog Stage.world rfl rfl
      (.ordered hentry hanswer rfl hsend)).2
  · rw [← hstray]
    apply hinterleaved
    intro name
    by_cases hmore : "more" = name
    · subst hmore
      rfl
    · simp [Addition.linesFor, tourAdditions, List.filter_cons, Addition.target, hmore]

end Parley
