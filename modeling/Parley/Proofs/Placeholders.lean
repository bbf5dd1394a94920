/-
  Parley.Proofs.Placeholders
  ──────────────────────────
  **TEMPLATES ARE READ BY THEIR GRAMMAR.**

  A template is written in segments: texts without braces, and placeholders
  with two braces or with three on each side, blanks around the reference.

    • `placeholder?_escaped`, `placeholder?_verbatim` — a placeholder that is
      written at the front of a text is read as that,
    • `exists_slot_of_placeholder?` — nothing else is read as a placeholder,
    • `refers_iff` — a reference shows what it leads to, by members of members
      (`Reaches`), or nothing,
    • `render_by_grammar` — a template shows segment by segment what its segments
      show, and one without placeholders shows itself.

  What a reference shows stands in the result as it is, braces or not.
-/
import Parley.Template

namespace Parley.Template

/-! ## §1. Placeholders as they are written. -/

/-- A reference with blanks around it: what stands between the braces of a
placeholder. -/
structure Slot where
  /-- The blanks before the reference. -/
  before : List Char
  /-- The reference. -/
  reference : List Char
  /-- The blanks behind it. -/
  behind : List Char
  before_blank : ∀ c ∈ before, isBlank c = true
  reference_ne_nil : reference ≠ []
  reference_plain : ∀ c ∈ reference, c ≠ '\x7b' ∧ c ≠ '\x7d' ∧ isBlank c = false
  behind_blank : ∀ c ∈ behind, isBlank c = true

namespace Slot

/-- What stands between the braces. -/
def inner (s : Slot) : List Char := s.before ++ (s.reference ++ s.behind)

/-- The placeholder with two braces. -/
def escaped (s : Slot) : List Char := '\x7b' :: '\x7b' :: (s.inner ++ ['\x7d', '\x7d'])

/-- The placeholder with three braces. -/
def verbatim (s : Slot) : List Char :=
  '\x7b' :: '\x7b' :: '\x7b' :: (s.inner ++ ['\x7d', '\x7d', '\x7d'])

end Slot

/-- A character may stand in a reference unless it is a brace or a blank. -/
theorem isReferenceChar_iff {c : Char} :
    isReferenceChar c = true ↔ c ≠ '\x7b' ∧ c ≠ '\x7d' ∧ isBlank c = false := by
  simp [isReferenceChar, and_assoc]

/-- All characters of a reference may stand in one. -/
theorem Slot.isReferenceChar (s : Slot) : ∀ c ∈ s.reference, isReferenceChar c = true :=
  fun c hc => isReferenceChar_iff.mpr (s.reference_plain c hc)

/-- A blank ends a reference. -/
theorem isReferenceChar_of_isBlank {c : Char} (h : isBlank c = true) :
    isReferenceChar c = false := by
  simp [Template.isReferenceChar, h]

/-- A brace is neither blank nor part of a reference. -/
theorem isBlank_open : isBlank '\x7b' = false := by decide

theorem isBlank_close : isBlank '\x7d' = false := by decide

theorem isReferenceChar_close : isReferenceChar '\x7d' = false := by decide

/-- A list dropped while a test holds begins with something that fails it. -/
theorem dropWhile_append_cons {p : Char → Bool} {first : List Char} {c : Char}
    (hfirst : ∀ x ∈ first, p x = true) (hc : p c = false) (rest : List Char) :
    (first ++ c :: rest).dropWhile p = c :: rest := by
  rw [List.dropWhile_append_of_pos hfirst, List.dropWhile_cons, hc]
  rfl

/-- A list taken while a test holds stops before the first thing that fails it. -/
theorem takeWhile_append_cons {p : Char → Bool} {first : List Char} {c : Char}
    (hfirst : ∀ x ∈ first, p x = true) (hc : p c = false) (rest : List Char) :
    (first ++ c :: rest).takeWhile p = first := by
  rw [List.takeWhile_append_of_pos hfirst, List.takeWhile_cons, hc]
  exact List.append_nil first

/-- **A reference is read where it is written**, blanks around it or none. -/
theorem reference?_inner (s : Slot) (close rest : List Char) :
    reference? ('\x7d' :: close) (s.inner ++ ('\x7d' :: close ++ rest))
      = some (s.reference, rest) := by
  have hbody : (s.inner ++ ('\x7d' :: close ++ rest)).dropWhile isBlank
      = s.reference ++ (s.behind ++ '\x7d' :: (close ++ rest)) := by
    obtain ⟨c, more, hreference⟩ := List.exists_cons_of_ne_nil s.reference_ne_nil
    have hc : isBlank c = false := (s.reference_plain c (by simp [hreference])).2.2
    unfold Slot.inner
    rw [hreference, List.append_assoc, List.append_assoc, List.cons_append,
      dropWhile_append_cons s.before_blank hc]
    rfl
  -- what follows the reference is a blank or a brace
  obtain ⟨c, more, hc, htail⟩ : ∃ c more, isReferenceChar c = false
      ∧ s.behind ++ '\x7d' :: (close ++ rest) = c :: more := by
    cases hbehind : s.behind with
    | nil => exact ⟨_, _, isReferenceChar_close, rfl⟩
    | cons c more =>
      exact ⟨c, _, isReferenceChar_of_isBlank (s.behind_blank c (by simp [hbehind])), rfl⟩
  have htaken : (s.reference ++ (s.behind ++ '\x7d' :: (close ++ rest))).takeWhile isReferenceChar
      = s.reference := by
    rw [htail]
    exact takeWhile_append_cons s.isReferenceChar hc more
  have hleft : ((s.reference ++ (s.behind ++ '\x7d' :: (close ++ rest))).dropWhile
      isReferenceChar).dropWhile isBlank = '\x7d' :: (close ++ rest) := by
    rw [htail, dropWhile_append_cons s.isReferenceChar hc, ← htail]
    exact dropWhile_append_cons s.behind_blank isBlank_close _
  unfold reference?
  simp only [hbody, htaken, hleft]
  rw [if_neg (by simpa using s.reference_ne_nil), if_pos (by simp [List.isPrefixOf_iff_prefix]),
    List.length_cons, List.drop_succ_cons, List.drop_left]

/-- **Nothing else is read as a reference.** -/
theorem exists_slot_of_reference? {close cs reference left : List Char}
    (h : reference? close cs = some (reference, left)) :
    ∃ s : Slot, s.reference = reference ∧ cs = s.inner ++ (close ++ left) := by
  have htaken : ∀ (p : Char → Bool) (text : List Char), ∀ c ∈ text.takeWhile p, p c = true :=
    fun p text => List.all_eq_true.mp List.all_takeWhile
  unfold reference? at h
  simp only at h
  split at h
  · cases h
  · rename_i hne
    split at h
    · rename_i hclose
      obtain ⟨tail, htail⟩ := List.isPrefixOf_iff_prefix.mp hclose
      cases h
      refine ⟨⟨cs.takeWhile isBlank, _,
        ((cs.dropWhile isBlank).dropWhile isReferenceChar).takeWhile isBlank,
        htaken isBlank cs, by simpa using hne,
        fun c hc => isReferenceChar_iff.mp (htaken isReferenceChar (cs.dropWhile isBlank) c hc),
        htaken isBlank _⟩, rfl, ?_⟩
      -- each part of the text is what was taken and then what was dropped
      unfold Slot.inner
      rw [← htail, List.drop_left, htail]
      simp only [List.append_assoc, List.takeWhile_append_dropWhile]
    · cases h

/-- A placeholder with three braces is read as one. -/
theorem verbatim?_verbatim (s : Slot) (rest : List Char) :
    verbatim? (s.verbatim ++ rest) = some (.verbatim s.reference, rest) := by
  show (reference? _ (s.inner ++ ['\x7d', '\x7d', '\x7d'] ++ rest)).map _ = _
  rw [List.append_assoc, reference?_inner s ['\x7d', '\x7d'] rest]
  rfl

/-- A placeholder with two braces is read as one. -/
theorem escaped?_escaped (s : Slot) (rest : List Char) :
    escaped? (s.escaped ++ rest) = some (.escaped s.reference, rest) := by
  show (reference? _ (s.inner ++ ['\x7d', '\x7d'] ++ rest)).map _ = _
  rw [List.append_assoc, reference?_inner s ['\x7d'] rest]
  rfl

/-- No brace stands at the front of what stands between the braces. -/
theorem Slot.inner_eq_cons (s : Slot) : ∃ c more, s.inner = c :: more ∧ c ≠ '\x7b' := by
  unfold Slot.inner
  cases hbefore : s.before with
  | cons c more =>
    have hc : isBlank c = true := s.before_blank c (by simp [hbefore])
    refine ⟨c, _, rfl, ?_⟩
    rintro rfl
    rw [isBlank_open] at hc
    cases hc
  | nil =>
    obtain ⟨c, more, hreference⟩ := List.exists_cons_of_ne_nil s.reference_ne_nil
    have hc : c ≠ '\x7b' := (s.reference_plain c (by simp [hreference])).1
    exact ⟨c, more ++ s.behind, by rw [hreference]; rfl, hc⟩

/-- Two braces are not taken for three. -/
theorem verbatim?_escaped (s : Slot) (rest : List Char) :
    verbatim? (s.escaped ++ rest) = none := by
  obtain ⟨c, more, hinner, hc⟩ := s.inner_eq_cons
  unfold Slot.escaped verbatim?
  rw [hinner]
  split
  · rename_i heq
    injection heq with _ heq
    injection heq with _ heq
    injection heq with heq _
    exact absurd heq hc
  · rfl

/-- Three braces are tried first. -/
theorem placeholder?_verbatim (s : Slot) (rest : List Char) :
    placeholder? (s.verbatim ++ rest) = some (.verbatim s.reference, rest) := by
  unfold placeholder?
  rw [verbatim?_verbatim]

/-- Two braces are read where there are not three. -/
theorem placeholder?_escaped (s : Slot) (rest : List Char) :
    placeholder? (s.escaped ++ rest) = some (.escaped s.reference, rest) := by
  unfold placeholder?
  rw [verbatim?_escaped, escaped?_escaped]

/-- Where a placeholder is read, two braces, a reference and two braces are
written, perhaps between two more. -/
theorem exists_slot_of_placeholder? {cs left : List Char} {piece : Piece}
    (h : placeholder? cs = some (piece, left)) : ∃ s : Slot, s.escaped <:+: cs := by
  unfold placeholder? at h
  split at h
  · rename_i found hverbatim
    unfold verbatim? at hverbatim
    split at hverbatim
    · obtain ⟨⟨reference, rest⟩, hreference, _⟩ := Option.map_eq_some_iff.mp hverbatim
      obtain ⟨s, _, rfl⟩ := exists_slot_of_reference? hreference
      refine ⟨s, ['\x7b'], '\x7d' :: rest, ?_⟩
      simp [Slot.escaped]
    · cases hverbatim
  · unfold escaped? at h
    split at h
    · obtain ⟨⟨reference, rest⟩, hreference, _⟩ := Option.map_eq_some_iff.mp h
      obtain ⟨s, _, rfl⟩ := exists_slot_of_reference? hreference
      refine ⟨s, [], rest, ?_⟩
      simp [Slot.escaped]
    · cases h

/-! ## §2. Segments. -/

/-- A part of a template as it is written. -/
inductive Segment where
  /-- A text without braces. -/
  | literal (text : List Char) (plain : ∀ c ∈ text, c ≠ '\x7b' ∧ c ≠ '\x7d')
  /-- A placeholder with two braces. -/
  | escaped (slot : Slot)
  /-- A placeholder with three braces. -/
  | verbatim (slot : Slot)

namespace Segment

/-- The segment as it stands in the template. -/
def source : Segment → List Char
  | literal text _ => text
  | escaped slot => slot.escaped
  | verbatim slot => slot.verbatim

/-- What the segment shows. -/
def shown (values : Values) : Segment → List Char
  | literal text _ => text
  | escaped slot => Markup.escape (Template.shown slot.reference values)
  | verbatim slot => Template.shown slot.reference values

end Segment

/-- An empty template has no pieces. -/
theorem pieces_nil : pieces [] = [] := by
  rw [pieces]
  rfl

/-- Where a placeholder is read it is the next piece. -/
theorem pieces_of_some {cs left : List Char} {piece : Piece}
    (h : placeholder? cs = some (piece, left)) : pieces cs = piece :: pieces left := by
  rw [pieces]
  split
  · rename_i found hfound
    rw [h] at hfound
    cases hfound
    rfl
  · rename_i hnone
    rw [h] at hnone
    cases hnone

/-- Where none is read the next piece is a character. -/
theorem pieces_of_none {c : Char} {rest : List Char} (h : placeholder? (c :: rest) = none) :
    pieces (c :: rest) = .char c :: pieces rest := by
  rw [pieces]
  split
  · rename_i hfound
    rw [h] at hfound
    cases hfound
  · rfl

/-- A placeholder begins with a brace. -/
theorem placeholder?_cons_of_ne {c : Char} (hc : c ≠ '\x7b') (rest : List Char) :
    placeholder? (c :: rest) = none := by
  unfold placeholder? verbatim? escaped?
  simp [hc]

/-- What the pieces of a text without braces show is that text. -/
theorem renderPieces_literal_append (values : Values) {text : List Char}
    (hplain : ∀ c ∈ text, c ≠ '\x7b') (rest : List Char) :
    renderPieces values (pieces (text ++ rest)) = text ++ renderPieces values (pieces rest) := by
  -- along the text; no character of it begins a placeholder
  induction text with
  | nil => rfl
  | cons c text ih =>
    have hc : c ≠ '\x7b' := hplain c List.mem_cons_self
    have htext : ∀ c ∈ text, c ≠ '\x7b' := fun x hx => hplain x (List.mem_cons_of_mem c hx)
    rw [List.cons_append, pieces_of_none (placeholder?_cons_of_ne hc _), List.cons_append,
      ← ih htext]
    rfl

/-- **A segment at the front of a text** shows what it shows, and then the rest of the
text shows what it shows by itself. -/
theorem renderPieces_source_append (values : Values) (s : Segment) (rest : List Char) :
    renderPieces values (pieces (s.source ++ rest))
      = s.shown values ++ renderPieces values (pieces rest) := by
  cases s with
  | literal text plain => exact renderPieces_literal_append values (fun c hc => (plain c hc).1) rest
  | escaped slot =>
    show renderPieces values (pieces (slot.escaped ++ rest)) = _
    rw [pieces_of_some (placeholder?_escaped slot rest)]
    rfl
  | verbatim slot =>
    show renderPieces values (pieces (slot.verbatim ++ rest)) = _
    rw [pieces_of_some (placeholder?_verbatim slot rest)]
    rfl

/-- **Segments show what they show one after the other.** -/
theorem renderPieces_source (values : Values) (segments : List Segment) :
    renderPieces values (pieces (segments.flatMap Segment.source))
      = segments.flatMap (Segment.shown values) := by
  -- segment by segment, each at the front of what is left
  induction segments with
  | nil =>
    rw [List.flatMap_nil, pieces_nil]
    rfl
  | cons s rest ih =>
    rw [List.flatMap_cons, renderPieces_source_append, ih, List.flatMap_cons]

/-- A text in which no placeholder is written shows itself. -/
theorem renderPieces_of_no_slot (values : Values) (cs : List Char)
    (h : ∀ s : Slot, ¬ s.escaped <:+: cs) : renderPieces values (pieces cs) = cs := by
  induction cs with
  | nil =>
    rw [pieces_nil]
    rfl
  | cons c rest ih =>
    -- a placeholder read here would be one written in the text
    have hnone : placeholder? (c :: rest) = none := by
      cases hfound : placeholder? (c :: rest) with
      | none => rfl
      | some found =>
        obtain ⟨s, hs⟩ : ∃ s : Slot, s.escaped <:+: c :: rest :=
          exists_slot_of_placeholder? hfound
        exact absurd hs (h s)
    have hrest : ∀ s : Slot, ¬ s.escaped <:+: rest :=
      fun s hs => h s (hs.trans (List.suffix_cons c rest).isInfix)
    rw [pieces_of_none hnone]
    show c :: renderPieces values (pieces rest) = _
    rw [ih hrest]

/-! ## §3. References. -/

/-- A value is reached from another through members of the given names. -/
inductive Reaches : List String → Json → Json → Prop
  /-- Through no member, the value itself. -/
  | here (value : Json) : Reaches [] value value
  /-- Through a member first, and then from there. -/
  | member {name : String} {path : List String} {members : List (String × Json)}
      {next value : Json} (hnext : members.lookup name = some next)
      (hrest : Reaches path next value) : Reaches (name :: path) (.object members) value

/-- A walk goes through its first member, and on from there. -/
theorem walk_cons (name : String) (path : List String) (value : Json) :
    walk (name :: path) value = (value.member? name).bind (walk path) := rfl

/-- **A walk finds what is reached**, and nothing else. -/
theorem walk_eq_some_iff (path : List String) :
    ∀ start value : Json, walk path start = some value ↔ Reaches path start value := by
  -- along the path, from any value
  induction path with
  | nil =>
    intro start value
    constructor
    · intro h
      cases h
      exact .here start
    · rintro ⟨⟩
      rfl
  | cons name path ih =>
    intro start value
    rw [walk_cons, Option.bind_eq_some_iff]
    constructor
    · rintro ⟨next, hnext, hrest⟩
      -- only an object has members
      cases start with
      | object members => exact .member hnext ((ih next value).mp hrest)
      | _ => cases hnext
    · intro h
      cases h with
      | member hnext hrest => exact ⟨_, hnext, (ih _ value).mpr hrest⟩

/-- The reference to a variable, or to a member of a member of it. -/
def dotted (names : List String) : List Char :=
  "vars.".toList ++ ['.'].intercalate (names.map String.toList)

/-- What a reference shows. -/
inductive Refers (values : Values) : List Char → List Char → Prop
  /-- It refers to no variable. -/
  | foreign {reference : List Char} (h : ¬ "vars.".toList <+: reference) :
      Refers values reference []
  /-- It leads to a value, which is shown. -/
  | found {first : String} {path : List String} {start value : Json}
      (hnames : ∀ name ∈ first :: path, '.' ∉ name.toList)
      (hstart : values.get? first = some start) (hreaches : Reaches path start value) :
      Refers values (dotted (first :: path)) value.shown.toList
  /-- It leads to no value. -/
  | missing {first : String} {path : List String}
      (hnames : ∀ name ∈ first :: path, '.' ∉ name.toList)
      (hnone : ∀ start value, values.get? first = some start → ¬ Reaches path start value) :
      Refers values (dotted (first :: path)) []

/-- The parts of a path are what a split at the dots leaves. -/
theorem segments_eq_splitOn (cs : List Char) : segments cs = cs.splitOn '.' := by
  induction cs with
  | nil => rfl
  | cons c rest ih =>
    rw [segments, List.splitOn_cons_eq_if_modifyHead, ih]
    by_cases hc : c = '.'
    · simp [hc]
    · rw [if_neg hc, if_neg (by simpa using hc)]
      obtain ⟨first, more, hrest⟩ := List.exists_cons_of_ne_nil (List.splitOn_ne_nil '.' rest)
      rw [hrest]
      rfl

/-- No part of a path has a dot in it. -/
theorem not_mem_segments (cs : List Char) : ∀ part ∈ segments cs, '.' ∉ part := by
  induction cs with
  | nil => simp [segments]
  | cons c rest ih =>
    intro part hpart
    unfold segments at hpart
    -- a dot ends a part; anything else goes into the first one
    by_cases hc : c = '.'
    · rw [if_pos hc] at hpart
      rcases List.mem_cons.mp hpart with rfl | hpart
      · simp
      · exact ih part hpart
    · rw [if_neg hc] at hpart
      cases hrest : segments rest with
      | nil =>
        rw [hrest] at hpart
        simp only [List.mem_singleton] at hpart
        subst hpart
        simpa using Ne.symm hc
      | cons first more =>
        rw [hrest] at hpart ih
        rcases List.mem_cons.mp hpart with rfl | hpart
        · simp [Ne.symm hc, ih first List.mem_cons_self]
        · exact ih part (List.mem_cons_of_mem first hpart)

/-- The path of a reference is read back as it is written. -/
theorem path?_dotted {names : List String} (hne : names ≠ [])
    (hnames : ∀ name ∈ names, '.' ∉ name.toList) : path? (dotted names) = some names := by
  have hprefix : "vars.".toList.isPrefixOf (dotted names) = true :=
    List.isPrefixOf_iff_prefix.mpr (List.prefix_append _ _)
  have hdrop : (dotted names).drop 5 = ['.'].intercalate (names.map String.toList) := rfl
  -- no name has a dot in it, so the split undoes the joining
  have hparts : segments (['.'].intercalate (names.map String.toList))
      = names.map String.toList := by
    rw [segments_eq_splitOn]
    refine List.splitOn_intercalate '.' ?_ (by simpa using hne)
    intro part hpart
    obtain ⟨name, hname, rfl⟩ := List.mem_map.mp hpart
    exact hnames name hname
  unfold path?
  rw [if_pos hprefix, hdrop, hparts, List.map_map]
  exact congrArg some ((List.map_congr_left fun name _ => String.ofList_toList).trans
    (List.map_id names))

/-- A reference to a variable is written with dots between the names it walks
through. -/
theorem exists_dotted {reference : List Char} (h : "vars.".toList <+: reference) :
    ∃ first path, reference = dotted (first :: path)
      ∧ ∀ name ∈ first :: path, '.' ∉ name.toList := by
  obtain ⟨tail, rfl⟩ := h
  -- joining the parts at dots gives the text back
  have hparts : ['.'].intercalate (segments tail) = tail := by
    rw [segments_eq_splitOn, List.intercalate_splitOn]
  have hplain := not_mem_segments tail
  have hne : segments tail ≠ [] := by
    rw [segments_eq_splitOn]
    exact List.splitOn_ne_nil '.' tail
  obtain ⟨first, more, hsegments⟩ := List.exists_cons_of_ne_nil hne
  rw [hsegments] at hparts hplain
  refine ⟨.ofList first, more.map .ofList, ?_, ?_⟩
  · unfold dotted
    rw [← List.map_cons, List.map_map, ← hparts]
    refine congrArg (fun parts => _ ++ ['.'].intercalate parts) ?_
    exact ((List.map_congr_left fun part _ => String.toList_ofList).trans
      (List.map_id (first :: more))).symm
  · intro name hname
    rw [← List.map_cons] at hname
    obtain ⟨part, hpart, rfl⟩ := List.mem_map.mp hname
    rw [String.toList_ofList]
    exact hplain part hpart

/-- A reference to a variable shows what its walk finds, or nothing. -/
theorem shown_dotted (values : Values) {first : String} {path : List String}
    (hnames : ∀ name ∈ first :: path, '.' ∉ name.toList) :
    shown (dotted (first :: path)) values
      = (((values.get? first).bind (walk path)).map fun value => value.shown.toList).getD [] := by
  unfold shown target?
  rw [path?_dotted (List.cons_ne_nil first path) hnames]
  simp only
  cases (values.get? first).bind (walk path) <;> rfl

/-- Any other reference shows nothing. -/
theorem shown_of_foreign (values : Values) {reference : List Char}
    (h : ¬ "vars.".toList <+: reference) : shown reference values = [] := by
  unfold shown target? path?
  rw [if_neg fun hprefix => h (List.isPrefixOf_iff_prefix.mp hprefix)]

/-- What a reference refers to is what it shows. -/
theorem Refers.shown_eq {values : Values} {reference text : List Char}
    (h : Refers values reference text) : shown reference values = text := by
  -- no variable, one from which the path leads to a value, or one from which it does not
  cases h with
  | foreign h => exact shown_of_foreign values h
  | found hnames hstart hreaches =>
    rw [shown_dotted values hnames, hstart]
    show Option.getD (Option.map _ (walk _ _)) [] = _
    rw [(walk_eq_some_iff _ _ _).mpr hreaches]
    rfl
  | @missing first path hnames hnone =>
    rw [shown_dotted values hnames]
    cases hfound : (values.get? first).bind (walk path) with
    | none => rfl
    | some value =>
      obtain ⟨start, hstart, hwalk⟩ := Option.bind_eq_some_iff.mp hfound
      exact absurd ((walk_eq_some_iff path start value).mp hwalk) (hnone start value hstart)

/-- Every reference shows something, if only nothing. -/
theorem refers_shown (values : Values) (reference : List Char) :
    Refers values reference (shown reference values) := by
  by_cases h : "vars.".toList <+: reference
  · obtain ⟨first, path, rfl, hnames⟩ := exists_dotted h
    rw [shown_dotted values hnames]
    cases hfound : (values.get? first).bind (walk path) with
    | none =>
      refine .missing hnames fun start value hstart hreaches => ?_
      rw [hstart, Option.bind_some, (walk_eq_some_iff path start value).mpr hreaches] at hfound
      cases hfound
    | some value =>
      obtain ⟨start, hstart, hwalk⟩ := Option.bind_eq_some_iff.mp hfound
      exact .found hnames hstart ((walk_eq_some_iff path start value).mp hwalk)
  · rw [shown_of_foreign values h]
    exact .foreign h

/-- **What a reference shows**, and nothing else. -/
theorem refers_iff (values : Values) (reference text : List Char) :
    Refers values reference text ↔ shown reference values = text := by
  constructor
  · exact Refers.shown_eq
  · rintro rfl
    exact refers_shown values reference

/-! ## §4. Rendering. -/

/-- A placeholder opens with two braces side by side. -/
theorem Slot.opens (s : Slot) : ['\x7b', '\x7b'] <+: s.escaped :=
  ⟨s.inner ++ ['\x7d', '\x7d'], rfl⟩

/-- It closes with two. -/
theorem Slot.closes (s : Slot) : ['\x7d', '\x7d'] <:+ s.escaped :=
  ⟨'\x7b' :: '\x7b' :: s.inner, rfl⟩

/-- **Templates are read by their grammar.**  A template that is written in
segments shows them one after the other: a text itself, a placeholder what its
reference refers to, escaped if it has two braces; nothing that is shown is read
again.  A template in which no placeholder is written shows itself, as does one
without two opening braces side by side. -/
theorem render_by_grammar :
    (∀ (segments : List Segment) (values : Values),
        render (String.ofList (segments.flatMap Segment.source)) values
          = String.ofList (segments.flatMap (Segment.shown values)))
      ∧ (∀ (values : Values) (reference text : List Char),
        Refers values reference text ↔ shown reference values = text)
      ∧ (∀ (template : String) (values : Values),
        (∀ s : Slot, ¬ s.escaped <:+: template.toList) → render template values = template)
      ∧ ∀ (template : String) (values : Values),
        ¬ ['\x7b', '\x7b'] <:+: template.toList → render template values = template := by
  have hplain : ∀ (template : String) (values : Values),
      (∀ s : Slot, ¬ s.escaped <:+: template.toList) → render template values = template := by
    intro template values h
    unfold render
    rw [renderPieces_of_no_slot values template.toList h, String.ofList_toList]
  refine ⟨?segments, refers_iff, hplain, ?braces⟩
  case segments =>
    intro segments values
    unfold render
    rw [String.toList_ofList, renderPieces_source]
  case braces =>
    intro template values h
    apply hplain template values
    intro s hs
    exact h (s.opens.isInfix.trans hs)

/-- A text that looks like a placeholder. -/
def trickyText : String := "\x7b\x7bvars.b\x7d\x7d<"

/-- A variable that holds it. -/
def trickyValues : Values := Table.empty.insert "a" (.string trickyText)

/-- A reference to that variable. -/
def trickySlot : Slot where
  before := [' ']
  reference := dotted ["a"]
  behind := []
  before_blank := List.all_eq_true.mp rfl
  reference_ne_nil := by decide
  reference_plain c hc := isReferenceChar_iff.mp (List.all_eq_true.mp rfl c hc)
  behind_blank := List.all_eq_true.mp rfl

/-- A template that shows the variable as it is and escaped. -/
def trickySegments : List Segment := [.verbatim trickySlot, .escaped trickySlot]

/-- A template with a placeholder that is not closed. -/
def unclosedTemplate : String := "\x7b\x7bvars.a\x7d"

/-- A template with a placeholder that is not opened. -/
def unopenedTemplate : String := "\x7bvars.a\x7d\x7d"

/-- That template shows its variable twice, and what looks like a placeholder in it stays; the two
that are no placeholders show themselves. -/
theorem tricky_render :
    render (String.ofList (trickySegments.flatMap Segment.source)) trickyValues
        = String.ofList (trickySegments.flatMap (Segment.shown trickyValues))
      ∧ shown trickySlot.reference trickyValues = trickyText.toList
      ∧ render unclosedTemplate trickyValues = unclosedTemplate
      ∧ render unopenedTemplate trickyValues = unopenedTemplate := by
  obtain ⟨hsegments, hrefers, hplain, hbraces⟩ := render_by_grammar
  refine ⟨hsegments trickySegments trickyValues, ?_, ?_, ?_⟩
  · have hnames : ∀ name ∈ ["a"], '.' ∉ name.toList := by decide
    have hfound : Refers trickyValues (dotted ["a"]) (Json.string trickyText).shown.toList :=
      .found hnames (Table.get?_insert_self _ _ _) (.here _)
    rw [Json.shown] at hfound
    exact (hrefers trickyValues (dotted ["a"]) trickyText.toList).mp hfound
  · -- every placeholder closes with two braces side by side
    have hunclosed : ¬ ['\x7d', '\x7d'] <:+: unclosedTemplate.toList := by decide +kernel
    apply hplain unclosedTemplate trickyValues
    intro s hs
    exact hunclosed (s.closes.isInfix.trans hs)
  · have hunopened : ¬ ['\x7b', '\x7b'] <:+: unopenedTemplate.toList := by decide +kernel
    exact hbraces unopenedTemplate trickyValues hunopened

end Parley.Template
