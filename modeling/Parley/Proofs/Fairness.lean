/-
  Parley.Proofs.Fairness
  ──────────────────────
  **EVERY TEXT OF A DRAFT HAS THE SAME WEIGHT.**

  Which of `n` texts is used is drawn with 32-bit words, some of which pick none
  and are passed over.

    • `Words.accept?_eq_acceptWord?` — what a word picks is computed on words of 32 and
      64 bits,
    • `Words.accept?_eq_some_iff` — the words that pick a text are those of an interval,
    • `Words.ncard_accepted` — which is as long for every text,
    • `Words.choose_first` — the first word that picks a text decides, and nothing
      is drawn after it,
    • `Words.ncard_settling` — so of the lists of `k` words as many come to one text as
      to any other.

  `Draft.texts_drawn_evenly` puts these together.
-/
import Mathlib.Algebra.Order.Floor.Div
import Mathlib.Data.FinEnum
import Mathlib.Data.Set.Card
import Mathlib.Data.Set.Finite.List
import Mathlib.Order.CompletePartialOrder
import Mathlib.Order.Interval.Set.Nat
import Mathlib.Tactic.Ring
import Parley.Proofs.Rendering

namespace Parley

namespace Words

/-! ## §1. The zone. -/

/-- The leading zeros are those of the word. -/
theorem leadingZeros_eq_clz {n : Nat} (hn : 0 < n) (hlt : n < 2 ^ 32) :
    leadingZeros n = (BitVec.ofNat 32 n).clz.toNat := by
  have htoNat : (BitVec.ofNat 32 n).toNat = n := Nat.mod_eq_of_lt hlt
  have hne : BitVec.ofNat 32 n ≠ 0#32 := by
    intro hzero
    rw [hzero] at htoNat
    exact hn.ne htoNat
  have hlow := BitVec.two_pow_sub_clz_le_toNat_of_ne_zero (by decide) hne
  have hhigh := BitVec.toNat_lt_two_pow_sub_clz (x := BitVec.ofNat 32 n)
  have hclz : (BitVec.ofNat 32 n).clz.toNat < 32 := BitVec.clz_lt_iff_ne_zero.mpr hne
  rw [htoNat] at hlow hhigh
  generalize (BitVec.ofNat 32 n).clz.toNat = zeros at hlow hhigh hclz ⊢
  -- the word lies between two powers of two, which fixes its logarithm
  have hlog : n.log2 = 31 - zeros := by
    refine (Nat.log2_eq_iff hn.ne').mpr ⟨hlow, ?_⟩
    rwa [show 31 - zeros + 1 = 32 - zeros by omega]
  unfold leadingZeros
  omega

/-- Shifted by its leading zeros, a word stays one. -/
theorem mul_two_pow_leadingZeros_lt {n : Nat} (hlt : n < 2 ^ 32) :
    n * 2 ^ leadingZeros n < 2 ^ 32 := by
  rcases Nat.eq_zero_or_pos n with rfl | hn
  · simp
  have hlog : n.log2 < 32 := (Nat.log2_lt hn.ne').mpr hlt
  calc n * 2 ^ leadingZeros n
      < 2 ^ (n.log2 + 1) * 2 ^ leadingZeros n :=
        Nat.mul_lt_mul_of_pos_right Nat.lt_log2_self (Nat.two_pow_pos _)
    _ = 2 ^ 32 := by
        rw [← Nat.pow_add]
        congr 1
        unfold leadingZeros
        omega

/-- **The zone as it is computed on words.** -/
theorem zone_eq_toNat {n : Nat} (hn : 0 < n) (hlt : n < 2 ^ 32) :
    zone n = (BitVec.ofNat 32 n <<< (BitVec.ofNat 32 n).clz - 1).toNat := by
  have hpos : 0 < n * 2 ^ leadingZeros n := Nat.mul_pos hn (Nat.two_pow_pos _)
  have hshift := mul_two_pow_leadingZeros_lt hlt
  have htoNat : (BitVec.ofNat 32 n <<< (BitVec.ofNat 32 n).clz).toNat
      = n * 2 ^ leadingZeros n := by
    rw [BitVec.shiftLeft_eq', BitVec.toNat_shiftLeft, ← leadingZeros_eq_clz hn hlt,
      BitVec.toNat_ofNat, Nat.mod_eq_of_lt hlt, Nat.shiftLeft_eq, Nat.mod_eq_of_lt hshift]
  rw [BitVec.toNat_sub, htoNat]
  -- the shifted word is not zero, so that taking one off does not wrap around
  show n * 2 ^ leadingZeros n - 1 = (2 ^ 32 - 1 + n * 2 ^ leadingZeros n) % 2 ^ 32
  omega

/-- The choice as it is made on words: the lower half of the 64-bit product is compared with the
zone, and the upper half is what is picked. -/
def acceptWord? (n word : BitVec 32) : Option Nat :=
  let product := word.setWidth 64 * n.setWidth 64
  if product.setWidth 32 ≤ n <<< n.clz - 1 then some (product >>> 32).toNat else none

/-- **No step of the choice is too large for its words.** -/
theorem accept?_eq_acceptWord? {n : Nat} (hn : 0 < n) (hlt : n < 2 ^ 32) (word : UInt32) :
    accept? n word = acceptWord? (BitVec.ofNat 32 n) word.toBitVec := by
  have hproduct : (word.toBitVec.setWidth 64 * (BitVec.ofNat 32 n).setWidth 64).toNat
      = word.toNat * n := by
    have hword : word.toNat % 2 ^ 64 = word.toNat :=
      Nat.mod_eq_of_lt (word.toNat_lt.trans (by decide))
    have hn64 : n % 2 ^ 64 = n := Nat.mod_eq_of_lt (hlt.trans (by decide))
    have hbound : word.toNat * n < 2 ^ 64 := by
      calc word.toNat * n < 2 ^ 32 * 2 ^ 32 := Nat.mul_lt_mul_of_lt_of_lt word.toNat_lt hlt
        _ = 2 ^ 64 := rfl
    rw [BitVec.toNat_mul, BitVec.toNat_setWidth, BitVec.toNat_setWidth, BitVec.toNat_ofNat,
      UInt32.toNat_toBitVec, hword, Nat.mod_eq_of_lt hlt, hn64, Nat.mod_eq_of_lt hbound]
  unfold acceptWord?
  simp only [BitVec.le_def, BitVec.toNat_setWidth, BitVec.toNat_ushiftRight, hproduct,
    ← zone_eq_toNat hn hlt, Nat.shiftRight_eq_div_pow]
  rfl

/-! ## §2. The words that pick a text. -/

/-- A word picks the text number `i` if its multiple by `n` is in a window of one length for every
text. -/
theorem accept?_eq_some_iff_window {n : Nat} (hn : 0 < n) (hlt : n < 2 ^ 32) {word : UInt32}
    {i : Nat} : accept? n word = some i
      ↔ i * 2 ^ 32 ≤ n * word.toNat ∧ n * word.toNat < i * 2 ^ 32 + n * 2 ^ leadingZeros n := by
  have hpos : 0 < n * 2 ^ leadingZeros n := Nat.mul_pos hn (Nat.two_pow_pos _)
  have hshift := mul_two_pow_leadingZeros_lt hlt
  have haccept : accept? n word
      = if word.toNat * n % 2 ^ 32 ≤ n * 2 ^ leadingZeros n - 1
        then some (word.toNat * n / 2 ^ 32) else none := rfl
  rw [haccept, Nat.mul_comm word.toNat]
  -- the halves of the product are what is left of it and how often `2 ^ 32` is in it
  generalize n * 2 ^ leadingZeros n = width at hpos hshift ⊢
  generalize n * word.toNat = product
  split
  · rw [Option.some.injEq]
    omega
  · simp only [reduceCtorEq, false_iff]
    omega

/-- The first word that picks the text number `i`. -/
def firstWord (n i : Nat) : Nat := i * 2 ^ 32 ⌈/⌉ n

/-- The first word is the least whose multiple reaches the window. -/
theorem firstWord_le_iff {n : Nat} (hn : 0 < n) (i v : Nat) :
    firstWord n i ≤ v ↔ i * 2 ^ 32 ≤ n * v :=
  ceilDiv_le_iff_le_smul hn

/-- The window ends a multiple of `n` after its start. -/
theorem firstWord_add_le_iff {n : Nat} (hn : 0 < n) (i width v : Nat) :
    firstWord n i + width ≤ v ↔ i * 2 ^ 32 + n * width ≤ n * v := by
  have hend : (i * 2 ^ 32 + n * width) ⌈/⌉ n = firstWord n i + width := by
    rw [firstWord, Nat.ceilDiv_eq_add_pred_div, Nat.ceilDiv_eq_add_pred_div,
      show i * 2 ^ 32 + n * width + n - 1 = i * 2 ^ 32 + n - 1 + n * width by omega,
      Nat.add_mul_div_left _ _ hn]
  rw [← hend]
  exact ceilDiv_le_iff_le_smul hn

/-- **The words that pick a text are those of an interval.** -/
theorem accept?_eq_some_iff {n : Nat} (hn : 0 < n) (hlt : n < 2 ^ 32) {word : UInt32} {i : Nat} :
    accept? n word = some i
      ↔ firstWord n i ≤ word.toNat ∧ word.toNat < firstWord n i + 2 ^ leadingZeros n := by
  rw [accept?_eq_some_iff_window hn hlt, firstWord_le_iff hn, ← Nat.not_le, ← Nat.not_le,
    firstWord_add_le_iff hn]

/-- The interval of a text that is there ends within the words. -/
theorem firstWord_add_le {n : Nat} (hlt : n < 2 ^ 32) {i : Nat} (hi : i < n) :
    firstWord n i + 2 ^ leadingZeros n ≤ 2 ^ 32 := by
  rw [firstWord_add_le_iff (Nat.zero_lt_of_lt hi)]
  calc i * 2 ^ 32 + n * 2 ^ leadingZeros n
      ≤ i * 2 ^ 32 + 2 ^ 32 := Nat.add_le_add_left (mul_two_pow_leadingZeros_lt hlt).le _
    _ = (i + 1) * 2 ^ 32 := (Nat.succ_mul i _).symm
    _ ≤ n * 2 ^ 32 := Nat.mul_le_mul_right _ hi

/-- **Every text is picked by the same number of words.** -/
theorem ncard_accepted {n : Nat} (hlt : n < 2 ^ 32) {i : Nat} (hi : i < n) :
    {word : UInt32 | accept? n word = some i}.ncard = 2 ^ leadingZeros n := by
  have hn : 0 < n := Nat.zero_lt_of_lt hi
  have hset : {word : UInt32 | accept? n word = some i}
      = Set.preimage UInt32.toNat
        (Set.Ico (firstWord n i) (firstWord n i + 2 ^ leadingZeros n)) :=
    Set.ext fun word => accept?_eq_some_iff hn hlt
  have hwords : Set.Ico (firstWord n i) (firstWord n i + 2 ^ leadingZeros n)
      ⊆ Set.range UInt32.toNat := by
    rintro v ⟨-, hv⟩
    exact ⟨UInt32.ofNat v, UInt32.toNat_ofNat_of_lt (hv.trans_le (firstWord_add_le hlt hi))⟩
  have hinj : Function.Injective UInt32.toNat := fun _ _ => UInt32.toNat_inj.mp
  rw [hset, Set.ncard_preimage_of_injective_subset_range hinj hwords, Set.ncard_Ico_nat,
    Nat.add_sub_cancel_left]

/-- There are `2 ^ 32` words. -/
theorem card_words : Nat.card UInt32 = 2 ^ 32 := by
  rw [Nat.card_eq_fintype_card, ← FinEnum.card_eq_fintypeCard, FinEnum.card_UInt32]

/-- The words that pick one of the first `m` texts. -/
theorem ncard_accepted_below {n : Nat} (hlt : n < 2 ^ 32) :
    ∀ m ≤ n, {word : UInt32 | ∃ i < m, accept? n word = some i}.ncard = m * 2 ^ leadingZeros n := by
  intro m
  -- text by text; no word picks two
  induction m with
  | zero => simp
  | succ m ih =>
    intro hm
    have hset : {word : UInt32 | ∃ i < m + 1, accept? n word = some i}
        = {word | ∃ i < m, accept? n word = some i} ∪ {word | accept? n word = some m} := by
      ext word
      simp only [Set.mem_union, Set.mem_ofPred_eq, Nat.lt_succ_iff_lt_or_eq, or_and_right,
        exists_or, exists_eq_left]
    have hdisjoint : Disjoint {word : UInt32 | ∃ i < m, accept? n word = some i}
        {word | accept? n word = some m} := by
      rw [Set.disjoint_left]
      rintro word ⟨i, hi, haccept⟩ (hm : accept? n word = some m)
      rw [haccept, Option.some.injEq] at hm
      exact hi.ne hm
    rw [hset, Set.ncard_union_eq hdisjoint, ih (Nat.le_of_succ_le hm), ncard_accepted hlt hm,
      Nat.succ_mul]

/-- Words that pick no text are as many as there are besides. -/
theorem ncard_rejected {n : Nat} (hn : 0 < n) (hlt : n < 2 ^ 32) :
    {word : UInt32 | accept? n word = none}.ncard = 2 ^ 32 - n * 2 ^ leadingZeros n := by
  have hset : {word : UInt32 | accept? n word = none}
      = {word : UInt32 | ∃ i < n, accept? n word = some i}ᶜ := by
    ext word
    simp only [Set.mem_compl_iff, Set.mem_ofPred_eq]
    cases haccept : accept? n word with
    | none => simp
    | some i => simpa using accept?_lt hn haccept
  rw [hset, Set.ncard_compl, card_words, ncard_accepted_below hlt n (Nat.le_refl n)]

/-! ## §3. The draw. -/

/-- The word number `k` to come. -/
def nth (words : Words) (k : Nat) : UInt32 := words.ahead.getD k 0

/-- What is left once `k` words are drawn. -/
def past (words : Words) (k : Nat) : Words := ⟨words.ahead.drop k, words.drawn + k⟩

/-- Drawing one word more from a list is drawing one from it and the others from its rest. -/
theorem past_cons (word : UInt32) (rest : List UInt32) (drawn k : Nat) :
    past ⟨word :: rest, drawn⟩ (k + 1) = past ⟨rest, drawn + 1⟩ k := by
  show (⟨rest.drop k, drawn + (k + 1)⟩ : Words) = ⟨rest.drop k, drawn + 1 + k⟩
  rw [Nat.add_assoc, Nat.add_comm 1]

/-- A word that follows the list picks the first text. -/
theorem accept?_zero (n : Nat) : accept? n 0 = some 0 := by
  simp [accept?]

/-- The first word is drawn, and decides if it picks a text. -/
theorem choose_cons (n : Nat) (word : UInt32) (rest : List UInt32) (drawn : Nat) :
    choose n ⟨word :: rest, drawn⟩
      = match accept? n word with
        | some i => (i, ⟨rest, drawn + 1⟩)
        | none => choose n ⟨rest, drawn + 1⟩ := rfl

/-- **The first word that picks a text decides**, and it is drawn last; there is one at the latest
after the list. -/
theorem choose_first (n : Nat) (words : Words) :
    ∃ k i, k ≤ words.ahead.length ∧ (∀ j < k, accept? n (words.nth j) = none)
      ∧ accept? n (words.nth k) = some i ∧ words.choose n = (i, words.past (k + 1)) := by
  obtain ⟨ahead, drawn⟩ := words
  -- along the list, the words that pick nothing put in front
  induction ahead generalizing drawn with
  | nil => exact ⟨0, 0, Nat.le_refl 0, fun j hj => absurd hj (Nat.not_lt_zero j),
      accept?_zero n, rfl⟩
  | cons word rest ih =>
    cases haccept : accept? n word with
    | some i =>
      refine ⟨0, i, Nat.zero_le _, fun j hj => absurd hj (Nat.not_lt_zero j), haccept, ?_⟩
      rw [choose_cons, haccept]
      rfl
    | none =>
      obtain ⟨k, i, hk, hbefore, hpicks, hchoose⟩ := ih (drawn + 1)
      refine ⟨k + 1, i, Nat.succ_le_succ hk, ?_, hpicks, ?_⟩
      · intro j hj
        cases j with
        | zero => exact haccept
        | succ j => exact hbefore j (Nat.lt_of_succ_lt_succ hj)
      · rw [choose_cons, haccept, past_cons]
        exact hchoose

/-- Words that pick no text are drawn, and that is all. -/
theorem choose_skipped {n : Nat} {skipped : List UInt32}
    (h : ∀ word ∈ skipped, accept? n word = none) (rest : List UInt32) :
    ∀ drawn, choose n ⟨skipped ++ rest, drawn⟩ = choose n ⟨rest, drawn + skipped.length⟩ := by
  -- along the words that pick none
  induction skipped with
  | nil => exact fun drawn => rfl
  | cons word skipped ih =>
    obtain ⟨hword, hskipped⟩ := List.forall_mem_cons.mp h
    intro drawn
    rw [List.cons_append, choose_cons, hword]
    show choose n ⟨skipped ++ rest, drawn + 1⟩ = _
    rw [ih hskipped, List.length_cons, Nat.add_assoc, Nat.add_comm 1]

/-- What follows the word that picks a text makes no difference. -/
theorem choose_of_findSome? {n i : Nat} {ahead : List UInt32}
    (h : ahead.findSome? (accept? n) = some i) (rest : List UInt32) :
    ∀ drawn, (choose n ⟨ahead ++ rest, drawn⟩).1 = i := by
  -- along the list, up to the word that decides
  induction ahead with
  | nil => cases h
  | cons word ahead ih =>
    intro drawn
    rw [List.findSome?_cons] at h
    rw [List.cons_append, choose_cons]
    cases haccept : accept? n word with
    | some j =>
      rw [haccept] at h
      exact Option.some.inj h
    | none =>
      rw [haccept] at h
      exact ih h (drawn + 1)

/-! ## §4. Lists of words. -/

/-- The lists of `k` words. -/
def lists (k : Nat) : Set (List UInt32) := {words | words.length = k}

/-- The lists of `k` words that come to the text number `i` of `n`. -/
def settling (n k i : Nat) : Set (List UInt32) :=
  {words | words.length = k ∧ words.findSome? (accept? n) = some i}

/-- The lists that begin with one of some words and go on as one of some lists. -/
def beginning (heads : Set UInt32) (rests : Set (List UInt32)) : Set (List UInt32) :=
  (fun e : UInt32 × List UInt32 => e.1 :: e.2) '' heads ×ˢ rests

/-- Such a list has a first word and a rest, each from its set. -/
theorem mem_beginning {heads : Set UInt32} {rests : Set (List UInt32)} {words : List UInt32} :
    words ∈ beginning heads rests
      ↔ ∃ word rest, words = word :: rest ∧ word ∈ heads ∧ rest ∈ rests := by
  constructor
  · rintro ⟨⟨word, rest⟩, ⟨hword, hrest⟩, rfl⟩
    exact ⟨word, rest, rfl, hword, hrest⟩
  · rintro ⟨word, rest, rfl, hword, hrest⟩
    exact ⟨(word, rest), ⟨hword, hrest⟩, rfl⟩

/-- They are as many as there are pairs of a word and a list. -/
theorem ncard_beginning (heads : Set UInt32) (rests : Set (List UInt32)) :
    (beginning heads rests).ncard = heads.ncard * rests.ncard := by
  have hinj : Function.Injective fun e : UInt32 × List UInt32 => e.1 :: e.2 := by
    rintro ⟨word, rest⟩ ⟨word', rest'⟩ h
    exact Prod.ext (List.cons.inj h).1 (List.cons.inj h).2
  rw [beginning, Set.ncard_image_of_injective _ hinj, Set.ncard_prod]

/-- Lists with different first words are different. -/
theorem disjoint_beginning {heads heads' : Set UInt32} (h : Disjoint heads heads')
    (rests rests' : Set (List UInt32)) :
    Disjoint (beginning heads rests) (beginning heads' rests') := by
  rw [Set.disjoint_left] at h ⊢
  intro words hwords hwords'
  obtain ⟨word, rest, rfl, hword, _⟩ := mem_beginning.mp hwords
  obtain ⟨word', rest', heq, hword', _⟩ := mem_beginning.mp hwords'
  rw [← (List.cons.inj heq).1] at hword'
  exact h hword hword'

/-- There are finitely many of them, for there are finitely many words. -/
theorem finite_beginning (heads : Set UInt32) {rests : Set (List UInt32)} (h : rests.Finite) :
    (beginning heads rests).Finite :=
  ((Set.toFinite heads).prod h).image _

/-- There are finitely many lists of one length. -/
theorem finite_lists (k : Nat) : (lists k).Finite := List.finite_length_eq UInt32 k

/-- So there are of those that come to a text. -/
theorem finite_settling (n k i : Nat) : (settling n k i).Finite :=
  (finite_lists k).subset fun _ h => h.1

/-- A list of one word more has any first word and any rest. -/
theorem lists_succ (k : Nat) : lists (k + 1) = beginning Set.univ (lists k) := by
  ext words
  rw [mem_beginning]
  cases words with
  | nil => simp [lists]
  | cons word rest => simp [lists]

/-- There are `(2 ^ 32) ^ k` lists of `k` words. -/
theorem ncard_lists (k : Nat) : (lists k).ncard = (2 ^ 32) ^ k := by
  induction k with
  | zero => simp [lists]
  | succ k ih =>
    rw [lists_succ, ncard_beginning, ih, Set.ncard_univ, card_words]
    exact Nat.pow_succ'.symm

/-- Without a word no list comes to a text. -/
theorem settling_zero (n i : Nat) : settling n 0 i = ∅ := by
  ext words
  cases words <;> simp [settling]

/-- The first word of a list settles it, or else it picks no text and the others do. -/
theorem settling_succ (n k i : Nat) :
    settling n (k + 1) i
      = beginning {word | accept? n word = some i} (lists k)
        ∪ beginning {word | accept? n word = none} (settling n k i) := by
  ext words
  rw [Set.mem_union, mem_beginning, mem_beginning]
  cases words with
  | nil => simp [settling]
  | cons word rest =>
    cases haccept : accept? n word <;> simp [settling, lists, haccept, and_comm]

/-- **Every text comes of as many lists of words.**  The `n` texts share the lists of `k` words
that have a word which picks one. -/
theorem ncard_settling {n : Nat} (hlt : n < 2 ^ 32) (k : Nat) {i : Nat} (hi : i < n) :
    n * (settling n k i).ncard + (2 ^ 32 - n * 2 ^ leadingZeros n) ^ k = (2 ^ 32) ^ k := by
  have hn : 0 < n := Nat.zero_lt_of_lt hi
  have hsplit : n * 2 ^ leadingZeros n + (2 ^ 32 - n * 2 ^ leadingZeros n) = 2 ^ 32 :=
    Nat.add_sub_of_le (mul_two_pow_leadingZeros_lt hlt).le
  induction k with
  | zero => simp [settling_zero]
  | succ k ih =>
    have hdisjoint : Disjoint {word : UInt32 | accept? n word = some i}
        {word | accept? n word = none} := by
      rw [Set.disjoint_left]
      exact fun word hpicks hpasses => Option.some_ne_none i (hpicks.symm.trans hpasses)
    have hcard : (settling n (k + 1) i).ncard
        = 2 ^ leadingZeros n * (2 ^ 32) ^ k
          + (2 ^ 32 - n * 2 ^ leadingZeros n) * (settling n k i).ncard := by
      rw [settling_succ, Set.ncard_union_eq (disjoint_beginning hdisjoint _ _)
        (finite_beginning _ (finite_lists k)) (finite_beginning _ (finite_settling n k i)),
        ncard_beginning, ncard_beginning, ncard_accepted hlt hi, ncard_rejected hn hlt, ncard_lists]
    -- the lists settled by their first word, and those left to the others, make up `k + 1` words
    generalize 2 ^ 32 - n * 2 ^ leadingZeros n = rejected at hsplit hcard ih ⊢
    calc n * (settling n (k + 1) i).ncard + rejected ^ (k + 1)
        = n * 2 ^ leadingZeros n * (2 ^ 32) ^ k
            + rejected * (n * (settling n k i).ncard + rejected ^ k) := by
          rw [hcard]
          ring
      _ = (n * 2 ^ leadingZeros n + rejected) * (2 ^ 32) ^ k := by
          rw [ih]
          ring
      _ = (2 ^ 32) ^ (k + 1) := by
          rw [hsplit]
          exact Nat.pow_succ'.symm

/-- The draw of one of `n` texts makes no difference between them. -/
structure Fair (n : Nat) : Prop where
  /-- The choice is what words of 32 and 64 bits make of it. -/
  onWords : ∀ word : UInt32, accept? n word = acceptWord? (BitVec.ofNat 32 n) word.toBitVec
  /-- What a word picks is there. -/
  inRange : ∀ word i, accept? n word = some i → i < n
  /-- Every text is picked by as many words, -/
  weight : ∀ i < n,
    {word : UInt32 | accept? n word = some i}.ncard = 2 ^ (BitVec.ofNat 32 n).clz.toNat
  /-- and comes of as many lists of words: the texts share those in which some word picks one. -/
  weights : ∀ k, ∀ i < n, n * (settling n k i).ncard
    + (2 ^ 32 - n * 2 ^ (BitVec.ofNat 32 n).clz.toNat) ^ k = (2 ^ 32) ^ k

/-- **The draw is fair** among as many texts as a word can count. -/
theorem fair {n : Nat} (hn : 0 < n) (hlt : n < 2 ^ 32) : Fair n where
  onWords := accept?_eq_acceptWord? hn hlt
  inRange := fun _ _ h => accept?_lt hn h
  weight := by
    intro i hi
    rw [← leadingZeros_eq_clz hn hlt]
    exact ncard_accepted hlt hi
  weights := by
    intro k i hi
    rw [← leadingZeros_eq_clz hn hlt]
    exact ncard_settling hlt k hi

end Words

/-! ## §5. Drafts. -/

namespace Draft

/-- Without replies to suggest, a draft is rendered with the text that the words pick. -/
theorem render_of_plain {draft : Draft} (h : draft.suggestions = []) (hne : draft.texts ≠ [])
    (values : Values) (words : Words) :
    draft.render values words
      = (draft.message values draft.texts[(words.choose draft.texts.length).1]?,
        (words.choose draft.texts.length).2) := by
  unfold render variant
  cases htexts : draft.texts with
  | nil => exact absurd htexts hne
  | cons first rest =>
    simp only [h]
    rfl

/-- No word is drawn where there is nothing to choose. -/
theorem render_words_of_fixed {draft : Draft} (h : draft.suggestions ≠ [] ∨ draft.texts = [])
    (values : Values) (words : Words) : (draft.render values words).2 = words := by
  unfold render variant
  cases htexts : draft.texts with
  | nil => rfl
  | cons first rest =>
    have hempty : draft.suggestions.isEmpty = false := by
      simpa using h.resolve_right (by simp [htexts])
    simp only [hempty]
    rfl

/-- The text of a message is the one that the words to come pick. -/
structure Draws (draft : Draft) (values : Values) : Prop where
  /-- The first word that picks a text decides, and is drawn last; it comes at the latest after the
  list. -/
  first : ∀ words : Words, ∃ k i, ∃ hi : i < draft.texts.length, k ≤ words.ahead.length
    ∧ (∀ j < k, Words.accept? draft.texts.length (words.nth j) = none)
    ∧ Words.accept? draft.texts.length (words.nth k) = some i
    ∧ draft.render values words = (draft.message values (some draft.texts[i]), words.past (k + 1))
  /-- Words that pick none are drawn, and that is all. -/
  skipped : ∀ skipped rest drawn,
    (∀ word ∈ skipped, Words.accept? draft.texts.length word = none) →
    draft.render values ⟨skipped ++ rest, drawn⟩
      = draft.render values ⟨rest, drawn + skipped.length⟩
  /-- A list that comes to a text makes the message of this text, whatever follows it. -/
  settled : ∀ k i ahead rest drawn, ahead ∈ Words.settling draft.texts.length k i →
    (draft.render values ⟨ahead ++ rest, drawn⟩).1 = draft.message values draft.texts[i]?

/-- **A draft without suggested replies is drawn.** -/
theorem draws {draft : Draft} (h : draft.suggestions = []) (hne : draft.texts ≠ [])
    (values : Values) : draft.Draws values where
  first := by
    intro words
    obtain ⟨k, i, hk, hbefore, hpicks, hchoose⟩ := Words.choose_first draft.texts.length words
    have hi : i < draft.texts.length := Words.accept?_lt (List.length_pos_iff.mpr hne) hpicks
    refine ⟨k, i, hi, hk, hbefore, hpicks, ?_⟩
    rw [render_of_plain h hne, hchoose, List.getElem?_eq_getElem hi]
  skipped := by
    intro skipped rest drawn hskipped
    rw [render_of_plain h hne, render_of_plain h hne, Words.choose_skipped hskipped]
  settled := by
    intro k i ahead rest drawn hsettling
    rw [render_of_plain h hne, Words.choose_of_findSome? hsettling.2]

/-- **Every text of a draft has the same weight.**  Of the words that are drawn, each text is picked
by as many; those that pick none are passed over, and the first that picks one decides.  Where there
are replies to suggest, or no texts, no word is drawn. -/
theorem texts_drawn_evenly :
    (∀ n, 0 < n → n < 2 ^ 32 → Words.Fair n)
      ∧ (∀ (draft : Draft) values, draft.suggestions = [] → draft.texts ≠ [] → draft.Draws values)
      ∧ ∀ (draft : Draft) values words, draft.suggestions ≠ [] ∨ draft.texts = [] →
        (draft.render values words).2 = words := by
  refine ⟨?words, ?drawn, ?fixed⟩
  case words => exact fun n hn hlt => Words.fair hn hlt
  case drawn => exact fun draft values h hne => draws h hne values
  case fixed => exact fun draft values words h => render_words_of_fixed h values words

/-- Three ways to greet. -/
def greetingDraft : Draft := { texts := ["Hi", "Hello", "Hey"] }

/-- The same, with a reply to suggest. -/
def replyDraft : Draft := { greetingDraft with suggestions := [⟨"Hello!", "hello"⟩] }

/-- A word is passed over, and the next one picks the second greeting. -/
theorem greetingDraft_drawn_evenly :
    {word : UInt32 | Words.accept? 3 word = some 1}.ncard = 2 ^ 30
      ∧ greetingDraft.render .empty ⟨[1073741824, 2147483648, 7], 0⟩
        = greetingDraft.render .empty ⟨[2147483648, 7], 1⟩
      ∧ (greetingDraft.render .empty ⟨[2147483648, 7], 1⟩).1.text = "Hello"
      ∧ (replyDraft.render .empty ⟨[1073741824], 0⟩).2 = ⟨[1073741824], 0⟩ := by
  obtain ⟨hfair, hdraws, hfixed⟩ := texts_drawn_evenly
  have hgreeting := hdraws greetingDraft .empty rfl (by decide)
  refine ⟨?_, ?_, ?_, ?_⟩
  · have hweight := (hfair 3 (by decide) (by decide)).weight 1 (by decide)
    rwa [← Words.leadingZeros_eq_clz (by decide) (by decide)] at hweight
  · exact hgreeting.skipped [1073741824] [2147483648, 7] 0 (List.forall_mem_singleton.mpr rfl)
  · have hsettled := hgreeting.settled 1 1 [2147483648] [7] 1 ⟨rfl, by decide⟩
    refine (congrArg Message.text hsettled).trans ?_
    show Template.render "Hello" .empty = "Hello"
    cbv
  · exact hfixed replyDraft .empty _ (.inl (by decide))

end Draft

end Parley
