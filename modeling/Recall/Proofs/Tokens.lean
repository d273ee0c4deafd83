import Mathlib.Algebra.Group.Nat.Defs
import Recall.FullText.Wildcard
import Recall.Proofs.Words

/-!
Tokens as maximal runs. An accent mark is no token character, and without its accent marks a text
has as its tokens the runs of its token characters, each of them folded. So a character that is no
token character may come a second time, or be left out at either end, and the tokens stay the
same.
-/

namespace Recall

namespace Text

/-- The search ends between an entry that is at most `n` and one that is not, if it takes steps
enough. -/
theorem countAtMostBetween_brackets {ascending : Array Nat} {n steps low high : Nat}
    (ordered : low ≤ high) (enough : high - low < 2 ^ steps) :
    let found := countAtMostBetween ascending n steps low high
    (low ≤ found ∧ found ≤ high) ∧ (low < found → ascending.getD (found - 1) 0 ≤ n) ∧
      (found < high → n < ascending.getD found 0) := by
  induction steps generalizing low high with
  | zero =>
      rw [Nat.pow_zero, Nat.lt_one_iff, Nat.sub_eq_zero_iff_le] at enough
      exact ⟨⟨Nat.le_refl low, ordered⟩, fun above => absurd above (Nat.lt_irrefl low),
        fun below => absurd below (Nat.not_lt_of_le enough)⟩
  | succ steps ih =>
      rw [Nat.pow_succ] at enough
      simp only [countAtMostBetween]
      split
      · split
        · rename_i inner atMost
          obtain ⟨⟨above, within⟩, left, right⟩ :=
            @ih ((low + high) / 2 + 1) high (by omega) (by omega)
          refine ⟨⟨by omega, within⟩, fun _ => ?_, right⟩
          rcases Nat.lt_or_eq_of_le above with later | same
          · exact left later
          · rwa [← same, Nat.add_sub_cancel]
        · rename_i inner greater
          obtain ⟨⟨above, within⟩, left, right⟩ := @ih low ((low + high) / 2) (by omega) (by omega)
          refine ⟨⟨above, by omega⟩, left, fun _ => ?_⟩
          rcases Nat.lt_or_eq_of_le within with earlier | same
          · exact right earlier
          · rw [same]
            exact Nat.not_le.mp greater
      · rename_i outer
        exact ⟨⟨Nat.le_refl low, ordered⟩, fun above => absurd above (Nat.lt_irrefl low),
          fun below => absurd below outer⟩

/-- A code point of the set lies between a turn into it and the next one out of it, at least if
the turns are even in number. -/
theorem CodePointSet.contains_between {set : CodePointSet} {c : Char}
    (inside : set.contains c = true) (paired : set.turns.size % 2 = 0) :
    ∃ i, i % 2 = 0 ∧ i + 1 < set.turns.size ∧ set.turns.getD i 0 ≤ c.toNat ∧
      c.toNat < set.turns.getD (i + 1) 0 := by
  obtain ⟨⟨-, within⟩, left, right⟩ := @countAtMostBetween_brackets set.turns c.toNat
    (set.turns.size.log2 + 1) 0 set.turns.size (Nat.zero_le _) Nat.lt_log2_self
  rw [contains, decide_eq_true_eq] at inside
  change countAtMost set.turns c.toNat ≤ set.turns.size at within
  obtain ⟨i, counted⟩ : ∃ i, countAtMost set.turns c.toNat = i + 1 :=
    Nat.exists_eq_add_one_of_ne_zero (by omega)
  rw [countAtMost] at counted
  rw [countAtMost, counted] at inside within
  rw [counted] at left right
  exact ⟨i, by omega, by omega, left (Nat.succ_pos i), right (by omega)⟩

end Text

namespace FullText

theorem isRemovableMark_range {c : Char} (mark : isRemovableMark c = true) :
    768 ≤ c.toNat ∧ c.toNat < 818 := by
  obtain ⟨i, -, below, above, under⟩ := Text.CodePointSet.contains_between mark rfl
  have table : ∀ i < 16, 768 ≤ removableMarks.turns.getD i 0 ∧
      removableMarks.turns.getD i 0 ≤ 818 := by decide
  have size : removableMarks.turns.size = 16 := rfl
  exact ⟨Nat.le_trans (table i (by omega)).1 above,
    Nat.lt_of_lt_of_le under (table (i + 1) (by omega)).2⟩

theorem not_isTokenCharacter_of_mark {c : Char} (mark : isRemovableMark c = true) :
    isTokenCharacter c = false := by
  have parting : ∀ n < 50, Text.countAtMost separatorsAboveAscii.turns (768 + n) % 2 = 1 := by
    decide +kernel
  obtain ⟨low, high⟩ := isRemovableMark_range mark
  have here := parting (c.toNat - 768) (by omega)
  rw [Nat.add_sub_cancel' low] at here
  rw [isTokenCharacter, if_neg (by omega), Text.CodePointSet.contains, here]
  rfl

theorem not_mark_of_isTokenCharacter {c : Char} (own : isTokenCharacter c = true) :
    isRemovableMark c = false := by
  cases mark : isRemovableMark c with
  | false => rfl
  | true => rw [not_isTokenCharacter_of_mark mark] at own; cases own

def closed (token : Token) : List Token := if token = [] then [] else [token.reverse]

theorem tokensFrom_nil (token : Token) : tokensFrom token [] = closed token := by
  cases token <;> rfl

theorem tokensFrom_cons (token : Token) (c : Char) (rest : List Char) :
    tokensFrom token (c :: rest) =
      if isRemovableMark c then tokensFrom token rest
      else if isTokenCharacter c then tokensFrom (foldCharacter c :: token) rest
      else closed token ++ tokensFrom [] rest := by
  cases token with
  | nil =>
      cases mark : isRemovableMark c with
      | true => simp [tokensFrom, not_isTokenCharacter_of_mark mark]
      | false => simp [tokensFrom, closed]
  | cons d token => simp [tokensFrom, closed]

theorem tokensFrom_eq_runsFrom (word text : List Char) :
    tokensFrom (word.map foldCharacter) text =
      (Text.runsFrom isTokenCharacter word (text.filter (!isRemovableMark ·))).map
        (·.map foldCharacter) := by
  induction text generalizing word with
  | nil => cases word <;> simp [tokensFrom, Text.runsFrom]
  | cons c rest ih =>
      rw [tokensFrom_cons]
      cases mark : isRemovableMark c with
      | true => simp [mark, ih]
      | false =>
          have shorter := ih []
          rw [List.map_nil] at shorter
          rw [List.filter_cons_of_pos (by simp [mark])]
          cases own : isTokenCharacter c with
          | true => cases word <;> simp [Text.runsFrom, own, ← ih]
          | false => cases word <;> simp [Text.runsFrom, own, closed, shorter]

theorem tokens_eq_runs (text : String) :
    tokens text = (Text.runs isTokenCharacter (text.toList.filter (!isRemovableMark ·))).map
      (·.map foldCharacter) :=
  tokensFrom_eq_runsFrom [] text.toList

theorem mem_tokens_iff {text : String} {token : Token} :
    token ∈ tokens text ↔ ∃ run, Text.IsRun isTokenCharacter
      (text.toList.filter (!isRemovableMark ·)) run ∧ run.map foldCharacter = token := by
  simp only [tokens_eq_runs, List.mem_map, Text.mem_runs_iff]

theorem tokensFrom_of_whole (token : Token) {word : List Char}
    (whole : ∀ c ∈ word, isTokenCharacter c = true) :
    tokensFrom token word = closed ((word.map foldCharacter).reverse ++ token) := by
  induction word generalizing token with
  | nil => exact tokensFrom_nil token
  | cons c rest ih =>
      obtain ⟨own, others⟩ := List.forall_mem_cons.mp whole
      rw [tokensFrom_cons, if_neg (by simp [not_mark_of_isTokenCharacter own]), if_pos own,
        ih _ others, List.map_cons, List.reverse_cons, List.append_assoc]
      rfl

theorem tokens_of_whole {text : String} (whole : ∀ c ∈ text.toList, isTokenCharacter c = true)
    (filled : text.toList ≠ []) : tokens text = [text.toList.map foldCharacter] := by
  rw [tokens, tokensFrom_of_whole [] whole]
  simp [closed, filled]

theorem tokensFrom_append_congr {later other : List Char}
    (same : ∀ token, tokensFrom token later = tokensFrom token other) (token : Token)
    (text : List Char) : tokensFrom token (text ++ later) = tokensFrom token (text ++ other) := by
  induction text generalizing token with
  | nil => exact same token
  | cons c rest ih => simp only [List.cons_append, tokensFrom_cons, ih]

/-- Marks are nothing to the tokens. -/
theorem tokensFrom_mark {c : Char} (mark : isRemovableMark c = true) (token : Token)
    (before after : List Char) :
    tokensFrom token (before ++ c :: after) = tokensFrom token (before ++ after) := by
  refine tokensFrom_append_congr (fun token => ?_) token before
  rw [tokensFrom_cons, if_pos mark]

section

variable {c : Char} (parting : isTokenCharacter c = false)

include parting

theorem tokensFrom_first (rest : List Char) :
    tokensFrom [] (c :: rest) = tokensFrom [] rest := by
  simp [tokensFrom, parting]

theorem tokensFrom_last (token : Token) (front : List Char) :
    tokensFrom token (front ++ [c]) = tokensFrom token front := by
  have same : ∀ token, tokensFrom token [c] = tokensFrom token [] := by
    intro token
    cases mark : isRemovableMark c <;>
      simp [tokensFrom_cons, tokensFrom_nil, mark, parting, closed]
  simpa using tokensFrom_append_congr same token front

theorem tokensFrom_twice (token : Token) (before after : List Char) :
    tokensFrom token (before ++ c :: c :: after) = tokensFrom token (before ++ c :: after) := by
  refine tokensFrom_append_congr (fun token => ?_) token before
  cases mark : isRemovableMark c <;> simp [tokensFrom_cons, mark, parting, closed]

end

end FullText

end Recall
