import Mathlib.Data.List.Forall2
import Recall.FullText.Keyword
import Recall.FullText.Relevance
import Recall.FullText.Wildcard
import Recall.Proofs.Words

/-!
The two ways in which a text matches a query. By tokens, it has the tokens of a keyword next to
each other; by letters, it has the letters of a keyword next to each other, be it inside of a
word. The ranked search finds exactly the texts of the first kind, and the wildcard search
exactly those of the second, since no keyword has a wildcard in it.
-/

namespace Recall.FullText

theorem mem_suffixes_iff {part all : List α} : part ∈ suffixes all ↔ part <:+ all := by
  induction all with
  | nil => simp [suffixes]
  | cons first rest ih => rw [suffixes, List.mem_cons, ih, List.suffix_cons_iff]

theorem phraseCount_pos_iff {phrase tokens : List Token} :
    0 < phraseCount phrase tokens ↔ phrase ≠ [] ∧ phrase <:+: tokens := by
  rw [phraseCount]
  split
  · rename_i empty
    simp [List.isEmpty_iff.mp empty]
  · rename_i worded
    rw [List.isEmpty_iff] at worded
    rw [List.countP_pos_iff, and_iff_right worded, List.infix_iff_prefix_suffix]
    simp only [mem_suffixes_iff, List.isPrefixOf_iff_prefix, and_comm]

theorem total_pos_iff {counts : List Nat} : 0 < total counts ↔ ∃ count ∈ counts, 0 < count := by
  induction counts with
  | nil => simp [total]
  | cons first rest ih =>
      have unfolded : total (first :: rest) = first + total rest := rfl
      rw [unfolded, Nat.add_pos_iff_pos_or_pos, ih, List.exists_mem_cons_iff]

theorem mem_keywords_iff {query keyword : String} :
    keyword ∈ keywords query ↔ Text.IsWord query keyword ∧ isKeyword keyword = true := by
  rw [keywords, List.mem_eraseDups, List.mem_filter, Text.mem_words_iff]

theorem keyword_alphanumeric {query keyword : String} (listed : keyword ∈ keywords query) :
    ∀ c ∈ keyword.toList, Text.isAlphanumeric c = true :=
  (mem_keywords_iff.mp listed).1.2.1

theorem keyword_plain {query keyword : String} (listed : keyword ∈ keywords query) :
    ∀ c ∈ keyword.toList, c ≠ '%' ∧ c ≠ '_' := by
  intro c inside
  have alphanumeric := keyword_alphanumeric listed c inside
  constructor
  · rintro rfl
    revert alphanumeric
    decide
  · rintro rfl
    revert alphanumeric
    decide

def MatchesByTokens (query : String) (texts : List (Option String)) : Prop :=
  ∃ keyword ∈ keywords query, ∃ text, some text ∈ texts ∧
    tokens keyword ≠ [] ∧ tokens keyword <:+: tokens text

def Contains (text keyword : String) : Prop :=
  ∃ part, part <:+: untilNul text ∧
    List.Forall₂ (fun own c => sameLetter own c = true) keyword.toList part

def MatchesByLetters (query : String) (texts : List (Option String)) : Prop :=
  ∃ keyword ∈ keywords query, ∃ text, some text ∈ texts ∧ Contains text keyword

/-- An absent text is indexed like an empty one, which has no tokens. -/
theorem hasAny_iff {query : String} {texts : List (Option String)} (row : α) :
    (Indexed.mk row (texts.map fun text => tokens (text.getD ""))).hasAny
      ((keywords query).map tokens) = true ↔ MatchesByTokens query texts := by
  have absent : tokens "" = [] := by decide
  have column {phrase : List Token} : 0 < Indexed.phraseCount
      (Indexed.mk row (texts.map fun text => tokens (text.getD ""))) phrase ↔
      ∃ text, some text ∈ texts ∧ phrase ≠ [] ∧ phrase <:+: tokens text := by
    simp only [Indexed.phraseCount, List.map_map, total_pos_iff, List.mem_map, Function.comp_apply,
      exists_exists_and_eq_and, phraseCount_pos_iff]
    constructor
    · rintro ⟨_ | text, own, worded, found⟩
      · rw [Option.getD_none, absent, List.infix_nil] at found
        exact absurd found worded
      · exact ⟨text, own, worded, found⟩
    · rintro ⟨text, own, worded, found⟩
      exact ⟨some text, own, worded, found⟩
  simp only [Indexed.hasAny, List.any_map, List.any_eq_true, Function.comp_apply,
    decide_eq_true_eq, column, MatchesByTokens]

theorem wildcardMatches_percent (pattern text : List Char) :
    wildcardMatches ('%' :: pattern) text = (suffixes text).any (wildcardMatches pattern) := by
  rw [wildcardMatches.eq_def]
  rfl

theorem wildcardMatches_plain {c : Char} (plain : c ≠ '%' ∧ c ≠ '_') (pattern text : List Char) :
    wildcardMatches (c :: pattern) text = true ↔
      ∃ d rest, text = d :: rest ∧ sameLetter c d = true ∧ wildcardMatches pattern rest = true := by
  rw [wildcardMatches.eq_def]
  cases text <;> simp [plain]

theorem wildcardMatches_word_iff {word text : List Char}
    (plain : ∀ c ∈ word, c ≠ '%' ∧ c ≠ '_') :
    wildcardMatches (word ++ ['%']) text = true ↔
      ∃ part, part <+: text ∧ List.Forall₂ (fun own c => sameLetter own c = true) word part := by
  induction word generalizing text with
  | nil =>
      have left : [] ∈ suffixes text := mem_suffixes_iff.mpr List.nil_suffix
      have taken : wildcardMatches ['%'] text = true := by
        rw [wildcardMatches_percent]
        exact List.any_eq_true.mpr ⟨[], left, rfl⟩
      exact iff_of_true taken ⟨[], List.nil_prefix, .nil⟩
  | cons first word ih =>
      obtain ⟨here, plain⟩ := List.forall_mem_cons.mp plain
      rw [List.cons_append, wildcardMatches_plain here]
      constructor
      · rintro ⟨c, rest, rfl, same, others⟩
        obtain ⟨part, begins, alike⟩ := (ih plain).mp others
        exact ⟨c :: part, List.cons_prefix_cons.mpr ⟨rfl, begins⟩, .cons same alike⟩
      · rintro ⟨whole, ⟨rest, rfl⟩, all⟩
        obtain ⟨c, part, same, alike, rfl⟩ := List.forall₂_cons_left_iff.mp all
        have others := (ih plain).mpr ⟨part, List.prefix_append part rest, alike⟩
        exact ⟨c, part ++ rest, rfl, same, others⟩

theorem like_containsPattern_iff {keyword text : String}
    (plain : ∀ c ∈ keyword.toList, c ≠ '%' ∧ c ≠ '_') :
    like (containsPattern keyword) text = true ↔ Contains text keyword := by
  have pattern : (containsPattern keyword).toList = '%' :: (keyword.toList ++ ['%']) := by
    simp [containsPattern, String.toList_append]
  rw [like, pattern, wildcardMatches_percent, List.any_eq_true, Contains]
  simp only [mem_suffixes_iff, wildcardMatches_word_iff plain, List.infix_iff_prefix_suffix]
  constructor
  · rintro ⟨rest, ends, part, begins, alike⟩
    exact ⟨part, ⟨rest, begins, ends⟩, alike⟩
  · rintro ⟨part, ⟨rest, begins, ends⟩, alike⟩
    exact ⟨rest, ends, part, begins, alike⟩

theorem mentions_iff {query : String} {texts : List (Option String)} :
    mentions (keywords query) texts = true ↔ MatchesByLetters query texts := by
  simp only [mentions, List.any_eq_true, Option.any_eq_true, MatchesByLetters]
  constructor
  · rintro ⟨keyword, listed, _, own, text, rfl, found⟩
    exact ⟨keyword, listed, text, own, (like_containsPattern_iff (keyword_plain listed)).mp found⟩
  · rintro ⟨keyword, listed, text, own, found⟩
    exact ⟨keyword, listed, some text, own, text, rfl,
      (like_containsPattern_iff (keyword_plain listed)).mpr found⟩

instance (query : String) (texts : List (Option String)) :
    Decidable (MatchesByTokens query texts) :=
  decidable_of_iff _ (hasAny_iff ())

instance (query : String) (texts : List (Option String)) :
    Decidable (MatchesByLetters query texts) :=
  decidable_of_iff _ mentions_iff

end Recall.FullText
