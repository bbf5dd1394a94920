/-
  Parley.Proofs.Tokens
  ────────────────────
  **TOKENS AND SHOWN TEXTS.**

  A token is read as a built-in directive or as a jump; a directive is shown as a
  text that need not be its token.

    • `ofToken_eq_ok_iff` — a token is read as a directive exactly if it is the shown
      text of that directive, and the directive has a token at all (`HasToken`),
    • `ofToken_eq_error_iff` — the tokens that are refused,
    • `ofToken_shown_handOver` — the shown text of a hand-over is read as a jump.

  `tokens_shown` puts these together.
-/
import Parley.Directive

namespace Parley.Directive

/-! ## §1. Reserved words. -/

/-- The built-in tokens, and what they name. -/
def builtins : List (String × Directive) :=
  [("next", .next), ("complete", .complete), ("stop", .stop), ("timeout", .timeout),
    ("repeat", .again), ("wait", .hold)]

/-- The tokens that are refused. -/
def refused : List String := ["", "execute_script"]

/-- Whether a word cannot be the token of a jump. -/
def Reserved (word : String) : Prop := word ∈ builtins.map (·.1) ∨ word ∈ refused

/-- A built-in directive is shown by its token. -/
theorem shown_of_mem_builtins {word : String} {a : Directive} (h : (word, a) ∈ builtins) :
    a.shown = word :=
  (by decide : ∀ e ∈ builtins, e.2.shown = e.1) (word, a) h

/-- A token is built in as the list has it. -/
theorem builtin?_eq_some_iff {token : String} {a : Directive} :
    builtin? token = some a ↔ (token, a) ∈ builtins := by
  unfold builtin?
  split <;> simp_all [builtins, eq_comm]

/-- A token is not built in if the list does not have it. -/
theorem builtin?_eq_none_iff {token : String} :
    builtin? token = none ↔ token ∉ builtins.map (·.1) := by
  unfold builtin?
  split <;> simp_all [builtins]

/-! ## §2. What a token is read as. -/

/-- A built-in token is read as what it names. -/
theorem ofToken_of_mem_builtins {token : String} {a : Directive} (h : (token, a) ∈ builtins) :
    ofToken token = .ok a := by
  unfold ofToken
  rw [builtin?_eq_some_iff.mpr h]

/-- The tokens of the list are refused. -/
theorem ofToken_of_mem_refused {token : String} (h : token ∈ refused) :
    ∃ text, ofToken token = .error (.invalidAction text) := by
  rcases List.mem_cons.mp h with rfl | h
  · exact ⟨_, rfl⟩
  · rw [List.mem_singleton.mp h]
    exact ⟨_, rfl⟩

/-- Any other word names a thread to jump to. -/
theorem ofToken_of_free {token : String} (h : ¬ Reserved token) :
    ofToken token = .ok (.jump token) := by
  obtain ⟨hbuiltin, hrefused⟩ := not_or.mp h
  have hempty : token ≠ "" := fun heq => hrefused (heq ▸ by decide)
  have hscript : token ≠ "execute_script" := fun heq => hrefused (heq ▸ by decide)
  unfold ofToken
  rw [builtin?_eq_none_iff.mpr hbuiltin]
  show (if token = "execute_script" then _ else _) = _
  rw [if_neg hscript, if_neg hempty]

/-- Every token is built in, refused or free. -/
theorem token_cases (token : String) :
    (∃ a, (token, a) ∈ builtins) ∨ token ∈ refused ∨ ¬ Reserved token := by
  -- the built-in tokens come first, then those that are refused
  by_cases hbuiltin : token ∈ builtins.map (·.1)
  · obtain ⟨⟨word, a⟩, hmem, rfl⟩ := List.mem_map.mp hbuiltin
    exact .inl ⟨a, hmem⟩
  · by_cases hrefused : token ∈ refused
    · exact .inr (.inl hrefused)
    · exact .inr (.inr (not_or.mpr ⟨hbuiltin, hrefused⟩))

/-- The directives that some token is read as. -/
inductive HasToken : Directive → Prop
  /-- A built-in one. -/
  | builtin {a : Directive} (h : (a.shown, a) ∈ builtins) : HasToken a
  /-- A jump to a thread whose name is not taken. -/
  | jump {thread : String} (h : ¬ Reserved thread) : HasToken (.jump thread)

/-- **A token is read as the directive that it shows**, among those that have a token. -/
theorem ofToken_eq_ok_iff {token : String} {a : Directive} :
    ofToken token = .ok a ↔ a.shown = token ∧ HasToken a := by
  constructor
  · -- a token of each kind shows what it is read as
    intro h
    rcases token_cases token with ⟨b, hb⟩ | hrefused | hfree
    · rw [ofToken_of_mem_builtins hb] at h
      cases h
      have hshown := shown_of_mem_builtins hb
      exact ⟨hshown, .builtin (hshown ▸ hb)⟩
    · obtain ⟨text, herror⟩ := ofToken_of_mem_refused hrefused
      rw [herror] at h
      cases h
    · rw [ofToken_of_free hfree] at h
      cases h
      exact ⟨rfl, .jump hfree⟩
  · rintro ⟨rfl, h⟩
    cases h with
    | builtin hmem => exact ofToken_of_mem_builtins hmem
    | jump hfree => exact ofToken_of_free hfree

/-- **Which tokens are refused.** -/
theorem ofToken_eq_error_iff {token : String} :
    (∃ fault, ofToken token = .error fault) ↔ token ∈ refused := by
  constructor
  · rintro ⟨fault, h⟩
    rcases token_cases token with ⟨b, hb⟩ | hrefused | hfree
    · rw [ofToken_of_mem_builtins hb] at h
      cases h
    · exact hrefused
    · rw [ofToken_of_free hfree] at h
      cases h
  · intro h
    obtain ⟨text, herror⟩ := ofToken_of_mem_refused h
    exact ⟨_, herror⟩

/-! ## §3. What a shown text is read as. -/

/-- A jump has a token unless the name of its thread is taken. -/
theorem hasToken_jump_iff {thread : String} : HasToken (.jump thread) ↔ ¬ Reserved thread := by
  constructor
  · intro h
    cases h with
    | builtin hmem => simp [builtins] at hmem
    | jump hfree => exact hfree
  · exact .jump

/-- The directives that no token is read as. -/
theorem not_hasToken_iff {a : Directive} :
    ¬ HasToken a ↔ (∃ script thread, a = .handOver script thread)
      ∨ ∃ thread, a = .jump thread ∧ Reserved thread := by
  -- a hand-over has none, a jump may have one, and the others are built in
  cases a with
  | handOver script thread =>
    refine iff_of_true (fun h => ?_) (.inl ⟨script, thread, rfl⟩)
    cases h with
    | builtin hmem => simp [builtins] at hmem
  | jump thread => simp [hasToken_jump_iff]
  | next | complete | stop | timeout | again | hold =>
    refine iff_of_false (fun h => h (.builtin (by decide))) ?_
    rintro (⟨_, _, h⟩ | ⟨_, h, _⟩) <;> cases h

/-- No word that is taken is as long as the text of a hand-over. -/
theorem not_reserved_handOver (script : String) : ¬ Reserved ("execute_script:" ++ script) := by
  have hshort : ∀ word, Reserved word → word.length ≤ 14 := by
    rintro word (hbuiltin | hrefused)
    · revert word
      decide
    · revert word
      decide
  intro h
  have hlength := hshort _ h
  rw [String.length_append] at hlength
  have hmark : "execute_script:".length = 15 := by decide
  omega

/-- **The text of a hand-over is read as a jump.** -/
theorem ofToken_shown_handOver (script : String) (thread : Option String) :
    ofToken (handOver script thread).shown = .ok (.jump (handOver script thread).shown) :=
  ofToken_of_free (not_reserved_handOver script)

/-- **Tokens and shown texts.**  The empty token and the one of a hand-over are refused.  Any other
is read as a directive that is shown by it, so that no two tokens are read alike.  The shown text of
a directive is read as that directive, except that of a hand-over, which is read as a jump, and that
of a jump to a thread whose name is taken: it is read as what the name stands for, or refused. -/
theorem tokens_shown :
    (∀ token, (∃ fault, ofToken token = .error fault) ↔ token = "" ∨ token = "execute_script")
      ∧ (∀ token a, ofToken token = .ok a → a.shown = token)
      ∧ (∀ token token' a, ofToken token = .ok a → ofToken token' = .ok a → token = token')
      ∧ (∀ a, ofToken a.shown = .ok a ↔ ¬ ((∃ script thread, a = .handOver script thread)
        ∨ ∃ thread, a = .jump thread ∧ Reserved thread))
      ∧ (∀ script thread, ofToken (handOver script thread).shown
        = .ok (.jump (handOver script thread).shown))
      ∧ (∀ word a, (word, a) ∈ builtins → ofToken (jump word).shown = .ok a)
      ∧ ∀ word ∈ refused, ∃ fault, ofToken (jump word).shown = .error fault := by
  refine ⟨?refusals, ?shown, ?apart, ?back, ofToken_shown_handOver, ?taken, ?untaken⟩
  case refusals =>
    intro token
    rw [ofToken_eq_error_iff]
    simp [refused]
  case shown => exact fun token a h => (ofToken_eq_ok_iff.mp h).1
  case apart =>
    intro token token' a h h'
    exact (ofToken_eq_ok_iff.mp h).1.symm.trans (ofToken_eq_ok_iff.mp h').1
  case back =>
    intro a
    rw [← not_hasToken_iff, Classical.not_not, ofToken_eq_ok_iff]
    exact and_iff_right rfl
  case taken => exact fun word a h => ofToken_of_mem_builtins h
  case untaken => exact fun word h => ofToken_eq_error_iff.mpr h

/-- A word that differs from a built-in one names a thread, and a thread named by a built-in one
cannot be told from it. -/
theorem wait_tokens_shown :
    ofToken " Wait" = .ok (.jump " Wait")
      ∧ (jump " Wait").shown = " Wait"
      ∧ ofToken (jump "wait").shown = .ok .hold
      ∧ ∃ fault, ofToken (jump "").shown = .error fault := by
  obtain ⟨_, hshown, _, _, _, htaken, hrefused⟩ := tokens_shown
  have hfree : ofToken " Wait" = .ok (.jump " Wait") := ofToken_of_free (by unfold Reserved; decide)
  exact ⟨hfree, hshown " Wait" _ hfree, htaken "wait" .hold (by decide), hrefused "" (by decide)⟩

end Parley.Directive
