/-
  Parley.Proofs.Escaping
  ──────────────────────
  **WHAT IS ESCAPED CANNOT BE MARKUP, AND NOTHING IS LOST.**

  Eight characters are substituted one after the other over the whole text.  No
  entity holds a character that is substituted after it (`entities_apart`), so
  the substitutions come to one pass over the text:

    • `escape_eq_flatMap` — every character is replaced by its entity or stays,
    • `not_mem_escape`, `escape_ampersand` — no markup is left, and an ampersand
      begins an entity,
    • `unescape_escape` — a reader that takes entities from the left gives the
      text back,
    • `marks_shown_segments` — so placeholders with two braces bring no markup
      into a template, whatever the variables hold.
-/
import Parley.Proofs.Placeholders

namespace Parley

namespace Markup

/-! ## §1. Substitutions in one pass. -/

/-- The characters that are escaped, but for the ampersand. -/
def marks : List Char := ['<', '>', '"', '\'', '/', '\x60', '=']

/-- What a character is replaced by in one pass with a list of entities. -/
def replace (table : List (Char × String)) (c : Char) : List Char :=
  match table.lookup c with
  | some entity => entity.toList
  | none => [c]

/-- What a character is escaped as. -/
def entity (c : Char) : List Char := replace entities c

/-- No entity of the list holds a character that comes after it in the list. -/
def Apart (table : List (Char × String)) : Prop :=
  table.Pairwise fun a b => b.1 ∉ a.2.toList

/-- The first entry of the list replaces its character, and the rest the others. -/
theorem replace_cons (c : Char) (text : String) (rest : List (Char × String)) (x : Char) :
    replace ((c, text) :: rest) x = if x = c then text.toList else replace rest x := by
  unfold replace
  by_cases hx : x = c
  · rw [List.lookup_cons, beq_iff_eq.mpr hx, if_pos hx]
  · rw [List.lookup_cons, beq_eq_false_iff_ne.mpr hx, if_neg hx]

/-- A text without characters of the list stays as it is. -/
theorem flatMap_replace_eq_self {table : List (Char × String)} {text : List Char}
    (h : ∀ e ∈ table, e.1 ∉ text) : text.flatMap (replace table) = text := by
  -- along the text, none of whose characters is in the list
  induction text with
  | nil => rfl
  | cons x text ih =>
    have hx : table.lookup x = none := by
      refine List.lookup_eq_none_iff.mpr ?_
      intro e he
      have hne : x ≠ e.1 := fun hsame => h e he (hsame ▸ List.mem_cons_self)
      simpa using hne
    have htext : ∀ e ∈ table, e.1 ∉ text :=
      fun e he hmem => h e he (List.mem_cons_of_mem x hmem)
    rw [List.flatMap_cons, ih htext, replace, hx]
    rfl

/-- **Substitutions one after the other come to one pass**, if none touches what
an earlier one wrote. -/
theorem substituteAll_eq_flatMap {table : List (Char × String)} (h : Apart table) :
    ∀ text : List Char, substituteAll table text = text.flatMap (replace table) := by
  -- along the list; the first substitution comes before the others
  induction table with
  | nil =>
    intro text
    show text = text.flatMap fun c => [c]
    rw [List.flatMap_singleton']
  | cons e rest ih =>
    obtain ⟨c, entity⟩ := e
    obtain ⟨hentity, hrest⟩ := List.pairwise_cons.mp h
    intro text
    show substituteAll rest (substitute c entity.toList text) = _
    rw [ih hrest, substitute, List.flatMap_assoc]
    congr 1
    funext x
    rw [replace_cons]
    by_cases hx : x = c
    · -- the entity just written holds nothing that is still to be substituted
      rw [if_pos hx, if_pos hx]
      exact flatMap_replace_eq_self hentity
    · rw [if_neg hx, if_neg hx, List.flatMap_singleton]

/-- The entities are in such an order: the ampersand comes first. -/
theorem entities_apart : Apart entities := by
  unfold Apart
  decide +kernel

/-- **Escaping is one pass**: every character is replaced by its entity or stays. -/
theorem escape_eq_flatMap (text : List Char) : escape text = text.flatMap entity :=
  substituteAll_eq_flatMap entities_apart text

/-- A text is escaped character by character. -/
theorem escape_cons (c : Char) (text : List Char) :
    escape (c :: text) = entity c ++ escape text := by
  rw [escape_eq_flatMap, escape_eq_flatMap, List.flatMap_cons]

/-- A character has an entity or is not escaped. -/
theorem entity_cases (c : Char) :
    (∃ text, (c, text) ∈ entities ∧ entity c = text.toList)
      ∨ (c ≠ '&' ∧ c ∉ marks ∧ entity c = [c]) := by
  unfold entity replace
  cases hlookup : entities.lookup c with
  | some text =>
    obtain ⟨first, last, hentities, _⟩ := List.lookup_eq_some_iff.mp hlookup
    exact .inl ⟨text, by rw [hentities]; simp, rfl⟩
  | none =>
    have hnone : ∀ e ∈ entities, c ≠ e.1 :=
      fun e he => bne_iff_ne.mp (List.lookup_eq_none_iff.mp hlookup e he)
    have hmarks : ∀ m ∈ marks, ∃ text, (m, text) ∈ entities := by
      simp [marks, entities]
    refine .inr ⟨hnone ('&', "&amp;") List.mem_cons_self, ?_, rfl⟩
    intro hmark
    obtain ⟨text, htext⟩ := hmarks c hmark
    exact hnone (c, text) htext rfl

/-! ## §2. What is left of markup. -/

/-- An entity is an ampersand, and then neither markup nor another ampersand. -/
theorem entity_form : ∀ e ∈ entities, e.2.toList.head? = some '&'
    ∧ (e.2.toList.tail.all fun c => c != '&' && !marks.contains c) = true := by
  decide +kernel

/-- After its ampersand an entity has no character that is escaped. -/
theorem exists_tail_of_mem_entities {e : Char × String} (he : e ∈ entities) :
    ∃ tail, e.2.toList = '&' :: tail ∧ ∀ c ∈ tail, c ≠ '&' ∧ c ∉ marks := by
  obtain ⟨hhead, htail⟩ := entity_form e he
  obtain ⟨tail, hcons⟩ := List.head?_eq_some_iff.mp hhead
  rw [hcons] at htail
  refine ⟨tail, hcons, fun c hc => ?_⟩
  simpa using List.all_eq_true.mp htail c hc

/-- **No markup is left.** -/
theorem not_mem_escape (text : List Char) : ∀ c ∈ escape text, c ∉ marks := by
  intro c hc
  rw [escape_eq_flatMap] at hc
  obtain ⟨x, _, hx⟩ := List.mem_flatMap.mp hc
  -- the mark would be in an entity, or be a character that is no mark
  rcases entity_cases x with ⟨entity, hentity, hsame⟩ | ⟨_, hmark, hsame⟩
  · obtain ⟨tail, hform, htail⟩ := exists_tail_of_mem_entities hentity
    rw [hsame, show entity.toList = '&' :: tail from hform] at hx
    rcases List.mem_cons.mp hx with rfl | hx
    · decide
    · exact (htail c hx).2
  · rw [hsame] at hx
    rw [List.mem_singleton.mp hx]
    exact hmark

/-- **Every ampersand that is left begins an entity.** -/
theorem escape_ampersand (text : List Char) :
    ∀ before behind : List Char, escape text = before ++ '&' :: behind →
      ∃ e ∈ entities, e.2.toList <+: '&' :: behind := by
  -- along the text; the ampersand is in the entity of its first character, or behind it
  induction text with
  | nil =>
    intro before behind h
    rw [escape_eq_flatMap] at h
    simp at h
  | cons x text ih =>
    intro before behind h
    rw [escape_cons] at h
    rcases List.append_eq_append_iff.mp h with ⟨more, hbefore, hrest⟩ | ⟨more, hentity, hrest⟩
    · exact ih more behind hrest
    · cases more with
      | nil =>
        rw [List.nil_append] at hrest
        exact ih [] behind hrest.symm
      | cons c more =>
        rw [List.cons_append, List.cons.injEq] at hrest
        obtain ⟨rfl, hbehind⟩ := hrest
        rcases entity_cases x with ⟨entity, hmem, hsame⟩ | ⟨hne, _, hsame⟩
        · -- an entity has no ampersand but its first character
          obtain ⟨tail, hform, htail⟩ := exists_tail_of_mem_entities hmem
          rw [hsame, show entity.toList = '&' :: tail from hform] at hentity
          cases before with
          | nil =>
            rw [List.nil_append, List.cons.injEq] at hentity
            refine ⟨(x, entity), hmem, escape text, ?_⟩
            rw [hform, hbehind, hentity.2, List.cons_append]
          | cons b before =>
            rw [List.cons_append, List.cons.injEq] at hentity
            exact absurd rfl (htail '&' (by rw [hentity.2]; simp)).1
        · rw [hsame] at hentity
          have hmem : '&' ∈ [x] := by rw [hentity]; simp
          exact absurd (List.mem_singleton.mp hmem).symm hne

/-! ## §3. Reading entities back. -/

/-- A text with entities replaced by the characters they stand for, in one pass
from the left. -/
def unescape (text : List Char) : List Char :=
  match text with
  | [] => []
  | c :: rest =>
    match entities.find? fun e => e.2.toList.isPrefixOf (c :: rest) with
    | some (x, entity) => x :: unescape (rest.drop (entity.length - 1))
    | none => c :: unescape rest
termination_by text.length
decreasing_by
  · simp only [List.length_drop, List.length_cons]
    omega
  · simp

/-- No entity is the beginning of another. -/
theorem entities_distinct : ∀ a ∈ entities, ∀ b ∈ entities, a.2.toList <+: b.2.toList → a = b := by
  decide +kernel

/-- An entity at the front of a text is found there, and no other. -/
theorem find?_entity {e : Char × String} (he : e ∈ entities) (text : List Char) :
    (entities.find? fun e' => e'.2.toList.isPrefixOf (e.2.toList ++ text)) = some e := by
  have hfront : e.2.toList <+: e.2.toList ++ text := List.prefix_append _ _
  cases hfound : entities.find? fun e' => e'.2.toList.isPrefixOf (e.2.toList ++ text) with
  | none =>
    have hnot := List.find?_eq_none.mp hfound e he
    exact absurd (List.isPrefixOf_iff_prefix.mpr hfront) hnot
  | some found =>
    have hmem : found ∈ entities := List.mem_of_find?_eq_some hfound
    have hfits := List.find?_some hfound
    have hfits : found.2.toList <+: e.2.toList ++ text := List.isPrefixOf_iff_prefix.mp hfits
    rcases List.prefix_or_prefix_of_prefix hfits hfront with hshorter | hlonger
    · rw [entities_distinct found hmem e he hshorter]
    · rw [entities_distinct e he found hmem hlonger]

/-- What a character was replaced by is read back as that character. -/
theorem unescape_entity_append (c : Char) (text : List Char) :
    unescape (entity c ++ text) = c :: unescape text := by
  -- a character has its entity, or is no ampersand and begins none
  rcases entity_cases c with ⟨entity, hmem, hsame⟩ | ⟨hne, _, hsame⟩
  · obtain ⟨tail, hform, _⟩ := exists_tail_of_mem_entities hmem
    have hform : entity.toList = '&' :: tail := hform
    have hfound := find?_entity hmem text
    have hlength : entity.length = tail.length + 1 := by
      rw [← String.length_toList, hform, List.length_cons]
    rw [hsame]
    rw [show (c, entity).2.toList = '&' :: tail from hform] at hfound
    rw [hform, List.cons_append, unescape, ← List.cons_append, hfound]
    simp [hlength]
  · have hnone : (entities.find? fun e => e.2.toList.isPrefixOf (c :: text)) = none := by
      refine List.find?_eq_none.mpr ?_
      intro e he hfits
      obtain ⟨tail, hform, _⟩ := exists_tail_of_mem_entities he
      rw [hform, List.isPrefixOf_iff_prefix, List.cons_prefix_cons] at hfits
      exact hne hfits.1.symm
    rw [hsame, List.singleton_append, unescape, hnone]

/-- **What was escaped is read back.** -/
theorem unescape_escape (text : List Char) : unescape (escape text) = text := by
  -- character by character
  induction text with
  | nil =>
    rw [escape_eq_flatMap, List.flatMap_nil, unescape]
  | cons c text ih => rw [escape_cons, unescape_entity_append, ih]

end Markup

/-! ## §4. Templates without placeholders of three braces. -/

namespace Template

/-- The text that is written in a segment itself. -/
def Segment.written : Segment → List Char
  | literal text _ => text
  | escaped _ => []
  | verbatim _ => []

/-- Whether a segment shows a variable as it is. -/
def Segment.isVerbatim : Segment → Bool
  | verbatim _ => true
  | literal _ _ => false
  | escaped _ => false

/-- A segment that is no placeholder of three braces shows the markup that is
written in it. -/
theorem Segment.marks_shown {s : Segment} (h : s.isVerbatim = false) (values : Values) :
    (s.shown values).filter (· ∈ Markup.marks) = s.written.filter (· ∈ Markup.marks) := by
  cases s with
  | literal text plain => rfl
  | escaped slot =>
    refine List.filter_eq_nil_iff.mpr ?_
    intro c hc
    simpa using Markup.not_mem_escape _ c hc
  | verbatim slot => cases h

/-- **So does a template of such segments.** -/
theorem marks_shown_segments {segments : List Segment}
    (h : ∀ s ∈ segments, s.isVerbatim = false) (values : Values) :
    (segments.flatMap (Segment.shown values)).filter (· ∈ Markup.marks)
      = (segments.flatMap Segment.written).filter (· ∈ Markup.marks) := by
  -- segment by segment
  induction segments with
  | nil => rw [List.flatMap_nil, List.flatMap_nil]
  | cons s rest ih =>
    rw [List.flatMap_cons, List.flatMap_cons, List.filter_append, List.filter_append,
      Segment.marks_shown (h s List.mem_cons_self) values,
      ih fun s hs => h s (List.mem_cons_of_mem _ hs)]

/-- **Escaping is faithful and safe.**  The eight substitutions come to one pass;
no markup is left in their result and every ampersand of it begins an entity;
one pass gives the text back, so different texts stay different.  A template
without placeholders of three braces shows the markup that is written in it, in
order, and no other, whatever the variables hold. -/
theorem escaping_faithful :
    (∀ text, Markup.escape text = text.flatMap Markup.entity)
      ∧ (∀ text, ∀ c ∈ Markup.escape text, c ∉ Markup.marks)
      ∧ (∀ text before behind, Markup.escape text = before ++ '&' :: behind →
        ∃ e ∈ Markup.entities, e.2.toList <+: '&' :: behind)
      ∧ (∀ text, Markup.unescape (Markup.escape text) = text)
      ∧ (∀ text text', Markup.escape text = Markup.escape text' → text = text')
      ∧ ∀ segments : List Segment, (∀ s ∈ segments, s.isVerbatim = false) → ∀ values : Values,
        (render (String.ofList (segments.flatMap Segment.source)) values).toList.filter
            (· ∈ Markup.marks)
          = (segments.flatMap Segment.written).filter (· ∈ Markup.marks) := by
  refine ⟨Markup.escape_eq_flatMap, Markup.not_mem_escape, Markup.escape_ampersand,
    Markup.unescape_escape, ?injective, ?marks⟩
  case injective =>
    intro text text' h
    rw [← Markup.unescape_escape text, h, Markup.unescape_escape]
  case marks =>
    intro segments h values
    unfold render
    rw [String.toList_ofList, String.toList_ofList, renderPieces_source]
    exact marks_shown_segments h values

/-- A reply with markup in it. -/
def markupReply : String := "<b>&"

/-- A variable that holds it. -/
def markupValues : Values := Table.empty.insert "a" (.string markupReply)

/-- A template that shows the variable between two marks. -/
def markupSegments : List Segment :=
  [.literal ['<', 'p', '>'] (by simp), .escaped trickySlot, .literal ['='] (by simp)]

/-- The reply brings no mark into that template, and is read back from its escaped form. -/
theorem markup_reply_escaped :
    (render (String.ofList (markupSegments.flatMap Segment.source)) markupValues).toList.filter
        (· ∈ Markup.marks) = ['<', '>', '=']
      ∧ Markup.escape ['&', '<'] = ['&', 'a', 'm', 'p', ';'] ++ '&' :: ['l', 't', ';']
      ∧ (∃ e ∈ Markup.entities, e.2.toList <+: '&' :: ['l', 't', ';'])
      ∧ ';' ∉ Markup.marks
      ∧ Markup.unescape (Markup.escape markupReply.toList) = markupReply.toList := by
  obtain ⟨_, hmarks, hampersand, hback, hinjective, hrender⟩ := escaping_faithful
  have hescape : Markup.escape ['&', '<'] = ['&', 'a', 'm', 'p', ';'] ++ '&' :: ['l', 't', ';'] := by
    decide +kernel
  refine ⟨?_, hescape, hampersand _ _ _ hescape, ?_, ?_⟩
  · rw [hrender markupSegments (by decide) markupValues]
    decide +kernel
  · apply hmarks ['&', '<'] ';'
    rw [hescape]
    decide
  · exact hinjective _ _ (congrArg Markup.escape (hback markupReply.toList))

end Template

end Parley
