import Mathlib.Data.List.Induction
import Mathlib.Data.List.Perm.Subperm
import Recall.Proofs.DocumentIds
import Recall.Proofs.Tokens
import Recall.Search.Request

namespace Recall

namespace Text

/-- It ends a word, and the lookout for cased letters ends at it. -/
structure Gap (c : Char) : Prop where
  uncased : isCased c = false
  seen : isCaseIgnorable c = false
  lowercase : lowercaseOf c = [c]
  parting : isAlphanumeric c = false

theorem gap_space : Gap ' ' :=
  ⟨by decide, by decide, by decide, by decide⟩

section

variable {c : Char} (gap : Gap c)

include gap

theorem startsCased_gap (front rest : List Char) :
    startsCased (front ++ c :: rest) = startsCased front := by
  induction front with
  | nil => simp [startsCased, gap.seen, gap.uncased]
  | cons d front ih =>
      cases ignored : isCaseIgnorable d with
      | true =>
          simp only [startsCased] at ih ⊢
          simpa [ignored] using ih
      | false => simp [startsCased, ignored]

theorem lowercaseFrom_behind (before far text : List Char) :
    lowercaseFrom (before ++ c :: far) text = lowercaseFrom before text := by
  induction text generalizing before with
  | nil => rfl
  | cons d text ih =>
      rw [lowercaseFrom, lowercaseFrom, startsCased_gap gap, ← List.cons_append, ih]

theorem lowercaseFrom_gap (before front rest : List Char) :
    lowercaseFrom before (front ++ c :: rest) =
      lowercaseFrom before front ++ c :: lowercaseChars rest := by
  induction front generalizing before with
  | nil =>
      have plain : c ≠ 'Σ' := by
        rintro rfl
        exact absurd gap.uncased (by decide +kernel)
      have later := lowercaseFrom_behind gap [] before rest
      rw [List.nil_append] at later
      simp only [List.nil_append, lowercaseFrom, if_neg plain, gap.lowercase, later,
        List.singleton_append]
      rfl
  | cons d front ih =>
      rw [List.cons_append, lowercaseFrom, lowercaseFrom, startsCased_gap gap, ih,
        List.append_assoc]

theorem words_gap (front rest : List Char) :
    words (String.ofList (front ++ c :: rest)) =
      words (String.ofList front) ++ words (String.ofList rest) := by
  simp only [words, String.toList_ofList, lowercaseChars, lowercaseFrom_gap gap, runs,
    runsFrom_break gap.parting, List.map_append]

end

theorem gap_of_isWhiteSpace {c : Char} (white : isWhiteSpace c = true) : Gap c := by
  obtain ⟨i, paired, below, above, under⟩ := CodePointSet.contains_between white rfl
  have table : ∀ j < 10, ∀ k < whiteSpace.turns.getD (2 * j + 1) 0 - whiteSpace.turns.getD (2 * j) 0,
      let c := Char.ofNat (whiteSpace.turns.getD (2 * j) 0 + k)
      isCased c = false ∧ isCaseIgnorable c = false ∧ lowercaseOf c = [c] ∧
        isAlphanumeric c = false := by
    decide +kernel
  have size : whiteSpace.turns.size = 20 := rfl
  obtain ⟨j, rfl⟩ : ∃ j, i = 2 * j := ⟨i / 2, by omega⟩
  have found := table j (by omega) (c.toNat - whiteSpace.turns.getD (2 * j) 0) (by omega)
  rw [Nat.add_sub_cancel' above, Char.ofNat_toNat] at found
  obtain ⟨uncased, seen, lowercase, parting⟩ := found
  exact ⟨uncased, seen, lowercase, parting⟩

theorem words_trimStart (text : List Char) :
    words (String.ofList (trimStartChars text)) = words (String.ofList text) := by
  induction text with
  | nil => rfl
  | cons c rest ih =>
      rw [trimStartChars, List.dropWhile_cons]
      split
      · rename_i white
        have parted := words_gap (gap_of_isWhiteSpace white) [] rest
        rw [List.nil_append] at parted
        rw [← trimStartChars, ih, parted]
        rfl
      · rfl

theorem words_trimEnd (text : List Char) :
    words (String.ofList (trimEndChars text)) = words (String.ofList text) := by
  induction text using List.reverseRecOn with
  | nil => rfl
  | append_singleton rest c ih =>
      rw [trimEndChars, List.reverse_concat, List.dropWhile_cons]
      split
      · rename_i white
        rw [← trimEndChars, ih, words_gap (gap_of_isWhiteSpace white)]
        exact (List.append_nil _).symm
      · rw [List.reverse_cons, List.reverse_reverse]

theorem words_trim (text : String) : words (trim text) = words text := by
  rw [trim, trimChars, words_trimEnd, words_trimStart, String.ofList_toList]

theorem words_append_space (a b : String) : words (a ++ " " ++ b) = words a ++ words b := by
  have spelt : a ++ " " ++ b = String.ofList (a.toList ++ ' ' :: b.toList) := by
    simp [← String.toList_inj]
  rw [spelt, words_gap gap_space, String.ofList_toList, String.ofList_toList]

theorem lowercaseFrom_ascii {text : List Char} (ascii : ∀ c ∈ text, c.toNat < 128)
    (before : List Char) : lowercaseFrom before text = text.map Char.toLower := by
  induction text generalizing before with
  | nil => rfl
  | cons c rest ih =>
      obtain ⟨low, others⟩ := List.forall_mem_cons.mp ascii
      have other : c ≠ 'Σ' := by
        rintro rfl
        exact absurd low (by decide)
      rw [lowercaseFrom, if_neg other, lowercaseOf, if_pos low, ih others]
      rfl

theorem runsFrom_whole {keep : Char → Bool} {text : List Char}
    (kept : ∀ c ∈ text, keep c = true) {word : List Char} (filled : word ≠ [] ∨ text ≠ []) :
    runsFrom keep word text = [word.reverse ++ text] := by
  induction text generalizing word with
  | nil => cases word <;> simp [runsFrom] at filled ⊢
  | cons c rest ih =>
      obtain ⟨here, others⟩ := List.forall_mem_cons.mp kept
      have scanned := @ih others (c :: word) (Or.inl (List.cons_ne_nil _ _))
      rw [List.reverse_cons, List.append_assoc, List.singleton_append] at scanned
      cases word <;> simp [runsFrom, here, scanned]

end Text

namespace FullText

theorem keywords_empty : keywords "" = [] := by
  decide +kernel

theorem keywords_trim (query : String) : keywords (Text.trim query) = keywords query := by
  rw [keywords, keywords, Text.words_trim]

def numbers : Nat → String
  | 0 => ""
  | count + 1 => numbers count ++ " " ++ toString (1000 + count)

theorem words_toString (n : Nat) : Text.words (toString n) = [toString n] := by
  have digits : ∀ c ∈ Nat.toDigits 10 n, c.isDigit = true := fun c =>
    Nat.isDigit_of_mem_toDigits (by decide) (by decide)
  have plain {c : Char} (digit : c.isDigit = true) :
      c.toNat < 128 ∧ c.toLower = c ∧ Text.isAlphanumeric c = true := by
    obtain ⟨above, below⟩ : 48 ≤ c.toNat ∧ c.toNat ≤ 57 := by
      simpa [Char.isDigit, Char.le_def, UInt32.le_iff_toNat_le] using digit
    have all : ∀ n ≤ 57, 48 ≤ n → (Char.ofNat n).toNat < 128 ∧
        (Char.ofNat n).toLower = Char.ofNat n ∧ Text.isAlphanumeric (Char.ofNat n) = true := by
      decide
    simpa using all c.toNat below above
  have ascii : ∀ c ∈ Nat.toDigits 10 n, c.toNat < 128 := fun c member => (plain (digits c member)).1
  have same : (Nat.toDigits 10 n).map Char.toLower = Nat.toDigits 10 n :=
    (List.map_congr_left fun c member => (plain (digits c member)).2.1).trans (List.map_id _)
  have whole : Text.runs Text.isAlphanumeric (Nat.toDigits 10 n) = [Nat.toDigits 10 n] :=
    Text.runsFrom_whole (fun c member => (plain (digits c member)).2.2)
      (Or.inr Nat.toDigits_ne_nil)
  rw [Text.words, toString_natural_toList, Text.lowercaseChars, Text.lowercaseFrom_ascii ascii,
    same, whole, List.map_singleton, ← toString_natural_toList, String.ofList_toList]

theorem stopWords_digitless :
    (stopWords.any fun word => word.toList.any Char.isDigit) = false := rfl

theorem isKeyword_toString {n : Nat} (long : 1000 ≤ n) : isKeyword (toString n) = true := by
  have size : 4 ≤ (toString n).length := by
    rw [← String.length_toList, toString_natural_toList]
    have longer := (Nat.length_toDigits_le_iff (n := n) (k := 3) (b := 10) (by decide) (by decide)).not
    omega
  have other : toString n ∉ stopWords := by
    intro stopped
    obtain ⟨c, member⟩ := List.exists_mem_of_ne_nil _ (Nat.toDigits_ne_nil (n := n) (b := 10))
    have digit : c.isDigit = true := Nat.isDigit_of_mem_toDigits (by decide) (by decide) member
    refine absurd (List.any_eq_true.mpr ⟨_, stopped, List.any_eq_true.mpr ⟨c, ?_, digit⟩⟩)
      (Bool.eq_false_iff.mp stopWords_digitless)
    rw [toString_natural_toList]
    exact member
  rw [isKeyword, decide_eq_true size, decide_eq_false other]
  rfl

theorem mem_keywords_numbers {count i : Nat} (below : i < count) :
    toString (1000 + i) ∈ keywords (numbers count) := by
  rw [keywords, List.mem_eraseDups, List.mem_filter]
  refine ⟨?_, isKeyword_toString (Nat.le_add_right _ _)⟩
  induction count with
  | zero => omega
  | succ count ih =>
      rw [numbers, Text.words_append_space, words_toString, List.mem_append, List.mem_singleton]
      rcases Nat.lt_succ_iff_lt_or_eq.mp below with earlier | rfl
      · exact Or.inl (ih earlier)
      · exact Or.inr rfl

theorem le_length_keywords_numbers (count : Nat) :
    count ≤ (keywords (numbers count)).length := by
  have distinct : ((List.range count).map fun i => toString (1000 + i)).Nodup := by
    refine List.Nodup.map (fun i j same => ?_) List.nodup_range
    have digits := congrArg String.toList same
    rw [toString_natural_toList, toString_natural_toList] at digits
    have sums := toDigits_injective digits
    omega
  have listed : (List.range count).map (fun i => toString (1000 + i)) ⊆
      keywords (numbers count) := by
    intro word member
    obtain ⟨i, below, rfl⟩ := List.mem_map.mp member
    exact mem_keywords_numbers (List.mem_range.mp below)
  have fewer := (distinct.subperm listed).length_le
  rwa [List.length_map, List.length_range] at fewer

end FullText

theorem SearchRequest.queryText_of_keywords {request : SearchRequest} {text : String}
    (asked : request.query = some text) (worded : FullText.keywords text ≠ []) :
    request.queryText = some (Text.trim text) := by
  have blank : Text.trim text ≠ "" := by
    intro blank
    rw [← FullText.keywords_trim, blank] at worded
    exact worded FullText.keywords_empty
  rw [queryText, asked, Option.map_some, Option.filter_some_pos (by simpa using blank)]

end Recall
