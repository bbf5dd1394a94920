/-
  Parley.Proofs.Choice
  ────────────────────
  **WHICH BRANCH A REPLY CHOOSES.**

  A branch wins a reply (`Intake.Wins`) if its pattern fits and that of no
  branch before it does, or if it is the first fallback and no pattern fits.
  The tests of patterns may be any.

    • `choice?_eq_some_iff`, `select?_eq_some_iff`, `select?_eq_none_iff` — what
      is chosen is the branch that wins, and nothing if none does,
    • `select?_congr` — the choice depends on the branches with patterns, in
      order, and on the first fallback,
    • `choice?_insert_iff` — branches that are put behind the winner change the
      choice if it is a fallback and one of them fits, and in no other case.

  `choice_by_order` puts these together.
-/
import Parley.Intake
import Parley.Routine

namespace Parley

variable {H : Type}

/-- A fallback has no pattern, so none of it fits. -/
theorem Branch.isFallback_of_fits {branch : Branch H} {reply : String}
    (h : branch.fits reply = true) : branch.isFallback = false := by
  cases branch with
  | matching => rfl
  | fallback => cases h

/-- The least index at which a test holds. -/
theorem findIdx?_eq_some_iff_forall {α : Type} {p : α → Bool} {l : List α} {i : Nat} :
    l.findIdx? p = some i
      ↔ ∃ a, l[i]? = some a ∧ p a = true ∧ ∀ j b, j < i → l[j]? = some b → p b = false := by
  rw [List.findIdx?_eq_some_iff_getElem]
  constructor
  · rintro ⟨hi, hp, hfirst⟩
    refine ⟨l[i], List.getElem?_eq_getElem hi, hp, fun j b hj hb => ?_⟩
    obtain ⟨_, rfl⟩ := List.getElem?_eq_some_iff.mp hb
    simpa using hfirst j hj
  · rintro ⟨a, ha, hp, hfirst⟩
    obtain ⟨hi, rfl⟩ := List.getElem?_eq_some_iff.mp ha
    refine ⟨hi, hp, fun j hj => ?_⟩
    rw [hfirst j l[j] hj (List.getElem?_eq_getElem (Nat.lt_trans hj hi))]
    simp

/-- What a test finds in the first of two lists, it finds in both. -/
theorem find?_append_of_mem {α : Type} {p : α → Bool} {before behind : List α}
    (h : ∃ a ∈ before, p a = true) : (before ++ behind).find? p = before.find? p := by
  obtain ⟨a, ha⟩ := Option.isSome_iff_exists.mp (List.find?_isSome.mpr h)
  rw [List.find?_append, ha, Option.some_or]

namespace Intake

/-! ## §1. The winner. -/

/-- The branch at an index wins a reply. -/
inductive Wins (intake : Intake H) (reply : String) (i : Nat) (branch : Branch H) : Prop
  /-- Its pattern fits, and that of no branch before it does. -/
  | fitting (hat : intake.branches[i]? = some branch) (hplain : branch.isFallback = false)
      (hfits : branch.fits reply = true)
      (hfirst : ∀ j earlier, j < i → intake.branches[j]? = some earlier →
        earlier.fits reply = false) : Wins intake reply i branch
  /-- It is a fallback, no fallback stands before it, and no pattern fits. -/
  | falling (hat : intake.branches[i]? = some branch) (hfallback : branch.isFallback = true)
      (hnone : ∀ other ∈ intake.branches, other.fits reply = false)
      (hfirst : ∀ j earlier, j < i → intake.branches[j]? = some earlier →
        earlier.isFallback = false) : Wins intake reply i branch

/-- The winner is one of the branches. -/
theorem Wins.at {intake : Intake H} {reply : String} {i : Nat} {branch : Branch H}
    (h : intake.Wins reply i branch) : intake.branches[i]? = some branch := by
  cases h with
  | fitting hat => exact hat
  | falling hat => exact hat

/-- The first pattern that fits is looked for before the first fallback. -/
theorem choice?_eq (intake : Intake H) (reply : String) :
    intake.choice? reply
      = (intake.branches.findIdx? (·.fits reply)).or (intake.branches.findIdx? (·.isFallback)) := by
  unfold choice?
  cases intake.branches.findIdx? (·.fits reply) <;> rfl

/-- **What is chosen is the winner.** -/
theorem choice?_eq_some_iff (intake : Intake H) (reply : String) (i : Nat) :
    intake.choice? reply = some i ↔ ∃ branch, intake.Wins reply i branch := by
  rw [choice?_eq]
  -- some pattern fits, and the first that does is chosen; or none does, and a fallback is
  cases hfits : intake.branches.findIdx? (·.fits reply) with
  | some k =>
    obtain ⟨winner, hwinner, hwins, hbefore⟩ := findIdx?_eq_some_iff_forall.mp hfits
    rw [Option.some_or, Option.some.injEq]
    constructor
    · rintro rfl
      exact ⟨winner, .fitting hwinner (Branch.isFallback_of_fits hwins) hwins hbefore⟩
    · rintro ⟨branch, hbranch⟩
      cases hbranch with
      | fitting hat _ hbranch hfirst =>
        -- two branches that fit first are one
        have hfound := findIdx?_eq_some_iff_forall.mpr ⟨branch, hat, hbranch, hfirst⟩
        rw [hfits] at hfound
        exact Option.some.inj hfound
      | falling _ _ hnone _ =>
        rw [hnone winner (List.mem_of_getElem? hwinner)] at hwins
        cases hwins
  | none =>
    have hnone : ∀ other ∈ intake.branches, other.fits reply = false :=
      List.findIdx?_eq_none_iff.mp hfits
    rw [Option.none_or, findIdx?_eq_some_iff_forall]
    constructor
    · rintro ⟨branch, hat, hfallback, hfirst⟩
      exact ⟨branch, .falling hat hfallback hnone hfirst⟩
    · rintro ⟨branch, hbranch⟩
      cases hbranch with
      | fitting hat _ hbranch _ =>
        rw [hnone branch (List.mem_of_getElem? hat)] at hbranch
        cases hbranch
      | falling hat hfallback _ hfirst => exact ⟨branch, hat, hfallback, hfirst⟩

/-- **So is the branch that is selected.** -/
theorem select?_eq_some_iff (intake : Intake H) (reply : String) (branch : Branch H) :
    intake.select? reply = some branch ↔ ∃ i, intake.Wins reply i branch := by
  unfold select?
  rw [Option.bind_eq_some_iff]
  constructor
  · rintro ⟨i, hchoice, hat⟩
    obtain ⟨winner, hwinner⟩ := (intake.choice?_eq_some_iff reply i).mp hchoice
    have hsame := hwinner.at
    rw [hat] at hsame
    cases hsame
    exact ⟨i, hwinner⟩
  · rintro ⟨i, hwinner⟩
    exact ⟨i, (intake.choice?_eq_some_iff reply i).mpr ⟨branch, hwinner⟩, hwinner.at⟩

/-- **No fallback wins while a pattern fits.** -/
theorem select?_plain {intake : Intake H} {reply : String} {branch : Branch H}
    (h : intake.select? reply = some branch)
    (hfits : ∃ other ∈ intake.branches, other.fits reply = true) : branch.isFallback = false := by
  obtain ⟨i, hwins⟩ := (intake.select?_eq_some_iff reply branch).mp h
  cases hwins with
  | fitting _ hplain => exact hplain
  | falling _ _ hnone =>
    obtain ⟨other, hother, hfits⟩ := hfits
    rw [hnone other hother] at hfits
    cases hfits

/-! ## §2. What the choice depends on. -/

/-- The branches that test the reply, in order. -/
def tests (intake : Intake H) : List (Branch H) := intake.branches.filter (!·.isFallback)

/-- The first fallback. -/
def fallback? (intake : Intake H) : Option (Branch H) := intake.branches.find? (·.isFallback)

/-- Fallbacks do not count where a pattern is looked for. -/
theorem find?_tests (intake : Intake H) (reply : String) :
    intake.tests.find? (·.fits reply) = intake.branches.find? (·.fits reply) := by
  unfold tests
  rw [List.find?_filter]
  congr 1
  funext branch
  cases branch <;> simp [Branch.isFallback, Branch.fits]

/-- **A test that fits first, or else the first fallback.** -/
theorem select?_eq (intake : Intake H) (reply : String) :
    intake.select? reply = (intake.tests.find? (·.fits reply)).or intake.fallback? := by
  unfold select? fallback?
  rw [choice?_eq, find?_tests, List.find?_eq_bind_findIdx?_getElem?,
    List.find?_eq_bind_findIdx?_getElem?]
  -- a test that fits is found among all branches
  cases hfits : intake.branches.findIdx? (·.fits reply) with
  | none => rfl
  | some i =>
    obtain ⟨winner, hwinner, _⟩ := findIdx?_eq_some_iff_forall.mp hfits
    simp [hwinner]

/-- **Nothing is chosen** if no pattern fits and there is no fallback. -/
theorem select?_eq_none_iff (intake : Intake H) (reply : String) :
    intake.select? reply = none
      ↔ ∀ branch ∈ intake.branches, branch.fits reply = false ∧ branch.isFallback = false := by
  rw [select?_eq, find?_tests, Option.or_eq_none_iff, fallback?, List.find?_eq_none,
    List.find?_eq_none]
  constructor
  · rintro ⟨hfits, hfallback⟩ branch hbranch
    exact ⟨Bool.eq_false_iff.mpr (hfits branch hbranch),
      Bool.eq_false_iff.mpr (hfallback branch hbranch)⟩
  · intro hnone
    exact ⟨fun branch hbranch => by simp [(hnone branch hbranch).1],
      fun branch hbranch => by simp [(hnone branch hbranch).2]⟩

/-- **Where fallbacks stand does not matter**, but for which is the first; and not even that if a
pattern fits. -/
theorem select?_congr {intake intake' : Intake H} {reply : String}
    (htests : intake'.tests = intake.tests)
    (hfallback : intake'.fallback? = intake.fallback?
      ∨ ∃ branch ∈ intake.branches, branch.fits reply = true) :
    intake'.select? reply = intake.select? reply := by
  rw [select?_eq, select?_eq, htests]
  -- the first fallbacks are the same, or they do not count
  rcases hfallback with hfallback | ⟨branch, hbranch, hfits⟩
  · rw [hfallback]
  · obtain ⟨winner, hwinner⟩ : ∃ winner, intake.tests.find? (·.fits reply) = some winner := by
      rw [find?_tests]
      exact Option.isSome_iff_exists.mp (List.find?_isSome.mpr ⟨branch, hbranch, hfits⟩)
    rw [hwinner, Option.some_or, Option.some_or]

/-! ## §3. Edits. -/

/-- Fallbacks that are added behind another change nothing. -/
theorem select?_add {intake intake' : Intake H} {before added behind : List (Branch H)}
    (h : intake.branches = before ++ behind) (h' : intake'.branches = before ++ (added ++ behind))
    (hadded : ∀ branch ∈ added, branch.isFallback = true)
    (hfirst : ∃ branch ∈ before, branch.isFallback = true) (reply : String) :
    intake'.select? reply = intake.select? reply := by
  have htests : added.filter (!·.isFallback) = [] := by
    refine List.filter_eq_nil_iff.mpr fun branch hbranch => ?_
    simp [hadded branch hbranch]
  refine select?_congr ?_ (.inl ?_)
  · unfold tests
    rw [h, h', List.filter_append, List.filter_append, List.filter_append, htests,
      List.nil_append]
  · unfold fallback?
    rw [h, h', find?_append_of_mem hfirst, find?_append_of_mem hfirst]

/-- A fallback that is moved changes nothing, if the same one is the first. -/
theorem select?_move {intake intake' : Intake H} {before between behind : List (Branch H)}
    {moved : Branch H} (h : intake.branches = before ++ moved :: (between ++ behind))
    (h' : intake'.branches = before ++ (between ++ moved :: behind))
    (hmoved : moved.isFallback = true)
    (hfirst : (∃ branch ∈ before, branch.isFallback = true)
      ∨ ∀ branch ∈ between, branch.isFallback = false) (reply : String) :
    intake'.select? reply = intake.select? reply := by
  refine select?_congr ?_ (.inl ?_)
  · unfold tests
    rw [h, h']
    simp [hmoved]
  · unfold fallback?
    rcases hfirst with hfirst | hfirst
    · rw [h, h', find?_append_of_mem hfirst, find?_append_of_mem hfirst]
    · -- the moved one is still the first of those that are left
      have hnone : between.find? (·.isFallback) = none := by
        refine List.find?_eq_none.mpr fun branch hbranch => ?_
        simp [hfirst branch hbranch]
      have hmoved' : ∀ tail : List (Branch H),
          (moved :: tail).find? (·.isFallback) = some moved :=
        fun _ => List.find?_cons_of_pos hmoved
      simp only [h, h', List.find?_append, hnone, Option.none_or, hmoved']

/-- **Branches that are put behind the winner** leave it the winner, unless it is a fallback and one
of them fits. -/
theorem choice?_insert_iff {intake intake' : Intake H} {before inserted behind : List (Branch H)}
    (h : intake.branches = before ++ behind)
    (h' : intake'.branches = before ++ (inserted ++ behind)) {reply : String} {i : Nat}
    {winner : Branch H} (hwins : intake.Wins reply i winner) (hi : i < before.length) :
    intake'.choice? reply = some i
      ↔ winner.isFallback = false ∨ ∀ branch ∈ inserted, branch.fits reply = false := by
  -- up to the winner both lists are the same
  have hsame : ∀ j, j ≤ i → intake'.branches[j]? = intake.branches[j]? := by
    intro j hj
    rw [h, h', List.getElem?_append_left (by omega), List.getElem?_append_left (by omega)]
  have hat : intake'.branches[i]? = some winner := (hsame i (Nat.le_refl i)).trans hwins.at
  rw [choice?_eq_some_iff]
  constructor
  · rintro ⟨branch, hbranch⟩
    have hwinner := hbranch.at
    rw [hat] at hwinner
    cases hwinner
    cases hbranch with
    | fitting _ hplain => exact .inl hplain
    | falling _ _ hnone =>
      refine .inr fun branch hbranch => hnone branch ?_
      rw [h']
      simp [hbranch]
  · intro hkept
    refine ⟨winner, ?_⟩
    -- a pattern that fits stays the first; a fallback gives way to one that fits
    cases hwins with
    | fitting _ hplain hfits hfirst =>
      exact .fitting hat hplain hfits fun j earlier hj hearlier =>
        hfirst j earlier hj ((hsame j (Nat.le_of_lt hj)).symm.trans hearlier)
    | falling _ hfallback hnone hfirst =>
      rw [hfallback] at hkept
      have hkept := hkept.resolve_left (by simp)
      refine .falling hat hfallback (fun other hother => ?_) fun j earlier hj hearlier =>
        hfirst j earlier hj ((hsame j (Nat.le_of_lt hj)).symm.trans hearlier)
      rw [h', List.mem_append, List.mem_append] at hother
      rw [h] at hnone
      rcases hother with hother | hother | hother
      · exact hnone other (List.mem_append_left _ hother)
      · exact hkept other hother
      · exact hnone other (List.mem_append_right _ hother)

/-- **The order of branches decides.**  The branch of least index whose pattern fits is chosen; if
none fits, the first fallback; and nothing if there is none.  So the choice depends on the branches
with patterns and on the first fallback alone: the others may stand anywhere and be any number.
Branches that are put behind the winner leave it the winner, but for those that fit where a
fallback won. -/
theorem choice_by_order :
    (∀ (intake : Intake H) reply i,
        intake.choice? reply = some i ↔ ∃ branch, intake.Wins reply i branch)
      ∧ (∀ (intake : Intake H) reply branch,
        intake.select? reply = some branch ↔ ∃ i, intake.Wins reply i branch)
      ∧ (∀ (intake : Intake H) reply, intake.select? reply = none
        ↔ ∀ branch ∈ intake.branches, branch.fits reply = false ∧ branch.isFallback = false)
      ∧ (∀ (intake : Intake H) reply branch, intake.select? reply = some branch →
        (∃ other ∈ intake.branches, other.fits reply = true) → branch.isFallback = false)
      ∧ (∀ (intake intake' : Intake H) reply, intake'.tests = intake.tests →
        (intake'.fallback? = intake.fallback?
          ∨ ∃ branch ∈ intake.branches, branch.fits reply = true) →
        intake'.select? reply = intake.select? reply)
      ∧ (∀ (intake intake' : Intake H) (before between behind : List (Branch H)) moved reply,
        intake.branches = before ++ moved :: (between ++ behind) →
        intake'.branches = before ++ (between ++ moved :: behind) → moved.isFallback = true →
        ((∃ branch ∈ before, branch.isFallback = true)
          ∨ ∀ branch ∈ between, branch.isFallback = false) →
        intake'.select? reply = intake.select? reply)
      ∧ (∀ (intake intake' : Intake H) (before added behind : List (Branch H)) reply,
        intake.branches = before ++ behind → intake'.branches = before ++ (added ++ behind) →
        (∀ branch ∈ added, branch.isFallback = true) →
        (∃ branch ∈ before, branch.isFallback = true) →
        intake'.select? reply = intake.select? reply)
      ∧ ∀ (intake intake' : Intake H) (before inserted behind : List (Branch H)) reply i winner,
        intake.branches = before ++ behind → intake'.branches = before ++ (inserted ++ behind) →
        intake.Wins reply i winner → i < before.length →
        (intake'.choice? reply = some i
          ↔ winner.isFallback = false ∨ ∀ branch ∈ inserted, branch.fits reply = false) := by
  refine ⟨choice?_eq_some_iff, select?_eq_some_iff, select?_eq_none_iff, ?plain, ?depends, ?moved,
    ?added, ?inserted⟩
  case plain => exact fun _ _ _ h hfits => select?_plain h hfits
  case depends => exact fun _ _ _ htests hfallback => select?_congr htests hfallback
  case moved =>
    exact fun _ _ _ _ _ _ reply h h' hmoved hfirst => select?_move h h' hmoved hfirst reply
  case added =>
    exact fun _ _ _ _ _ reply h h' hadded hfirst => select?_add h h' hadded hfirst reply
  case inserted =>
    exact fun _ _ _ _ _ _ _ _ h h' hwins hi => choice?_insert_iff h h' hwins hi

/-- A pattern that is put behind a fallback takes the reply from it, and of two fallbacks that
change places the other one wins. -/
theorem fallback_displaced :
    ∃ go stop next : Branch Routine, Branch.ofPattern .string "go" (.directive .next) = .ok go
      ∧ stop = .fallback (.directive .stop) ∧ next = .fallback (.directive .next)
      ∧ Intake.choice? { branches := [stop] } "go" = some 0
      ∧ Intake.choice? { branches := [stop, go] } "go" = some 1
      ∧ Intake.select? { branches := [next, stop] } "go" = some next
      ∧ Intake.select? { branches := [stop, next] } "go" = some stop := by
  refine ⟨_, _, _, rfl, rfl, rfl, ?_, ?_, ?_, ?_⟩
  case refine_1 => decide +kernel
  case refine_2 => decide +kernel
  case refine_3 => rfl
  case refine_4 => rfl

/-- A fallback that is moved behind a pattern, one that takes its place where a pattern fits, one
that is added behind it, and a pattern that does not fit and is put there. -/
theorem choice_of_go :
    ∃ go no stop next : Branch Routine,
      go = .matching .string "go" (· == "go") (.directive .next)
      ∧ no = .matching .regex "^no$" (· == "no") (.directive .hold)
      ∧ stop = .fallback (.directive .stop) ∧ next = .fallback (.directive .next)
      ∧ Intake.select? { branches := [go, stop] } "what"
        = Intake.select? { branches := [stop, go] } "what"
      ∧ Intake.select? { branches := [next, go] } "go"
        = Intake.select? { branches := [stop, go] } "go"
      ∧ Intake.select? { branches := [stop, next, go] } "what"
        = Intake.select? { branches := [stop, go] } "what"
      ∧ Intake.choice? { branches := [stop, no, go] } "what" = some 0 := by
  obtain ⟨-, -, -, -, hdepends, hmoved, hadded, hinserted⟩ := choice_by_order (H := Routine)
  refine ⟨_, _, _, _, rfl, rfl, rfl, rfl, ?moved, ?depends, ?added, ?inserted⟩
  case moved =>
    exact hmoved _ _ [] [_] [] _ "what" rfl rfl rfl (.inr (by simp [Branch.isFallback]))
  case depends => exact hdepends _ _ "go" rfl (.inr ⟨_, .tail _ (.head _), rfl⟩)
  case added =>
    exact hadded _ _ [_] [_] [_] "what" rfl rfl (by simp [Branch.isFallback])
      ⟨_, .head _, rfl⟩
  case inserted =>
    refine (hinserted { branches := [_, _] } _ [_] [_] [_] "what" 0 _ rfl rfl
      (.falling rfl rfl ?_ fun j _ hj => by omega) (by decide)).mpr (.inr ?_)
    · simp [Branch.fits]
    · simp [Branch.fits]

end Intake

end Parley
