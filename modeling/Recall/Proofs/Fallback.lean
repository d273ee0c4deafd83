import Mathlib.Data.List.TakeWhile
import Recall.FullText.Expression
import Recall.Proofs.Gaps
import Recall.Proofs.KeywordSearch
import Recall.Proofs.Tokens

/-!
When the wildcard search finds all that the ranked search would have found. The one compares
letters up to their ASCII case, the other folds them and leaves accents out, so it depends on the
letters that the texts are written with. For a single keyword it is said exactly which ones may
occur: no NUL, no accent marks, and no letter that has the folded form of one in the keyword but
is not the same letter. For ASCII texts and keywords this holds. Besides, the keywords have to be
few and short enough for the wildcard search.
-/

namespace Recall.FullText

/-- Of the letters in an alphabet both searches take the same ones for those of the keyword. -/
structure Tellable (alphabet : Char → Prop) (keyword : String) : Prop where
  whole : ∀ c ∈ keyword.toList, isTokenCharacter c = true
  unended : ¬ alphabet '\x00'
  unmarked : ∀ c, alphabet c → isRemovableMark c = false
  distinct : ∀ c ∈ keyword.toList, ∀ d, alphabet d → isTokenCharacter d = true →
    foldCharacter c = foldCharacter d → sameLetter c d = true

def Covered (alphabet : Char → Prop) (keyword : String) : Prop :=
  ∀ text : String, (∀ c ∈ text.toList, alphabet c) →
    tokens keyword <:+: tokens text → Contains text keyword

def WrittenIn (alphabet : Char → Prop) (texts : List (Option String)) : Prop :=
  ∀ text, some text ∈ texts → ∀ c ∈ text.toList, alphabet c

theorem untilNul_eq {text : String} (unended : '\x00' ∉ text.toList) :
    untilNul text = text.toList := by
  rw [untilNul, List.takeWhile_eq_self_iff]
  intro c inside
  rw [decide_eq_true_eq]
  rintro rfl
  exact unended inside

theorem Contains.length_le {text keyword : String} (found : Contains text keyword) :
    keyword.toList.length ≤ text.toList.length := by
  obtain ⟨part, inside, alike⟩ := found
  rw [alike.length_eq]
  exact inside.length_le.trans (List.takeWhile_sublist _).length_le

theorem forall₂_of_map_eq {f : α → β} {related : α → α → Prop} {word part : List α}
    (equal : word.map f = part.map f)
    (each : ∀ c ∈ word, ∀ d ∈ part, f c = f d → related c d) : List.Forall₂ related word part := by
  induction word generalizing part with
  | nil =>
      rw [List.map_eq_nil_iff.mp equal.symm]
      exact .nil
  | cons c word ih =>
      obtain ⟨d, part, rfl, same, others⟩ := List.map_eq_cons_iff.mp equal.symm
      refine .cons (each c List.mem_cons_self d List.mem_cons_self same.symm) ?_
      exact ih others.symm fun c inWord d inPart =>
        each c (List.mem_cons_of_mem _ inWord) d (List.mem_cons_of_mem _ inPart)

theorem toLower_isAlphanum {c : Char} (ascii : c.toNat < 128) :
    c.toLower.isAlphanum = c.isAlphanum := by
  have all : ∀ n < 128, (Char.ofNat n).toLower.isAlphanum = (Char.ofNat n).isAlphanum := by decide
  simpa using all c.toNat ascii

theorem sameLetter_isTokenCharacter {a b : Char} (same : sameLetter a b = true) :
    isTokenCharacter a = isTokenCharacter b := by
  simp only [sameLetter, Bool.or_eq_true, Bool.and_eq_true, decide_eq_true_eq] at same
  rcases same with rfl | ⟨⟨low, lower⟩, folded⟩
  · rfl
  · rw [isTokenCharacter, if_pos low, isTokenCharacter, if_pos lower, ← toLower_isAlphanum low,
      folded, toLower_isAlphanum lower]

theorem countP_tokenCharacters {word part : List Char}
    (alike : List.Forall₂ (fun own c => sameLetter own c = true) word part) :
    word.countP isTokenCharacter = part.countP isTokenCharacter := by
  induction alike with
  | nil => rfl
  | cons same _ ih => rw [List.countP_cons, List.countP_cons, ih, sameLetter_isTokenCharacter same]

theorem countP_lt_of_infix {counted : α → Bool} {part text : List α} (inside : part <:+: text)
    (shorter : part.length < text.length) (first : ∀ c ∈ text.head?, counted c = true)
    (last : ∀ c ∈ text.getLast?, counted c = true) : part.countP counted < text.countP counted := by
  obtain ⟨before, after, rfl⟩ := inside
  have outside : 0 < before.countP counted + after.countP counted := by
    cases before with
    | cons c before =>
        have begun : 0 < (c :: before).countP counted :=
          List.countP_pos_iff.mpr ⟨c, List.mem_cons_self, first c rfl⟩
        exact Nat.add_pos_left begun _
    | nil =>
        cases ended : after.getLast? with
        | none =>
            rw [List.getLast?_eq_none_iff.mp ended] at shorter
            simp at shorter
        | some c =>
            have closing := last c (by simp [List.getLast?_append, ended])
            exact Nat.add_pos_right _
              (List.countP_pos_iff.mpr ⟨c, List.mem_of_getLast? ended, closing⟩)
  rw [List.countP_append, List.countP_append]
  omega

section

variable {alphabet : Char → Prop} {keyword : String}

theorem Tellable.covered (tellable : Tellable alphabet keyword) (worded : tokens keyword ≠ []) :
    Covered alphabet keyword := by
  intro text written found
  have lettered : keyword.toList ≠ [] := by
    intro bare
    rw [tokens, bare] at worded
    exact worded rfl
  have unmarked : text.toList.filter (!isRemovableMark ·) = text.toList := by
    refine List.filter_eq_self.mpr fun c inside => ?_
    rw [tellable.unmarked c (written c inside)]
    rfl
  rw [tokens_of_whole tellable.whole lettered] at found
  have listed := found.subset (List.mem_singleton_self _)
  rw [mem_tokens_iff, unmarked] at listed
  obtain ⟨run, ⟨-, own, before, after, parts, -, -⟩, folded⟩ := listed
  have inside : run <:+: text.toList := ⟨before, after, by rw [parts, List.append_assoc]⟩
  rw [Contains, untilNul_eq fun nul => tellable.unended (written _ nul)]
  refine ⟨run, inside, forall₂_of_map_eq folded.symm fun c letter d read same => ?_⟩
  exact tellable.distinct c letter d (written d (inside.subset read)) (own d read) same

namespace Covered

theorem contains (covered : Covered alphabet keyword) {text : List Char}
    (written : ∀ c ∈ text, alphabet c) (same : tokensFrom [] text = tokens keyword) :
    Contains (String.ofList text) keyword := by
  have equal : tokens (String.ofList text) = tokens keyword := by
    rw [tokens, String.toList_ofList, same]
  exact covered _ (by rwa [String.toList_ofList]) (equal ▸ List.infix_rfl)

/-- No text in the alphabet has the tokens of the keyword and fewer letters. -/
theorem length_le (covered : Covered alphabet keyword) {text : List Char}
    (written : ∀ c ∈ text, alphabet c) (same : tokensFrom [] text = tokens keyword) :
    keyword.toList.length ≤ text.length := by
  simpa using (covered.contains written same).length_le

variable (covered : Covered alphabet keyword) (own : ∀ c ∈ keyword.toList, alphabet c)

include covered own

theorem unended (worded : tokens keyword ≠ []) : ¬ alphabet '\x00' := by
  intro nul
  have same : tokensFrom [] ('\x00' :: keyword.toList) = tokens keyword :=
    tokensFrom_first (by decide) keyword.toList
  obtain ⟨part, inside, alike⟩ := covered.contains (List.forall_mem_cons.mpr ⟨nul, own⟩) same
  have ended : untilNul (String.ofList ('\x00' :: keyword.toList)) = [] := by simp [untilNul]
  rw [ended, List.infix_nil] at inside
  rw [inside, List.forall₂_nil_right_iff] at alike
  rw [tokens, alike] at worded
  exact worded rfl

theorem stretch (worded : tokens keyword ≠ []) {text : List Char}
    (written : ∀ c ∈ text, alphabet c) (same : tokensFrom [] text = tokens keyword) :
    ∃ part, part <:+: text ∧
      List.Forall₂ (fun own c => sameLetter own c = true) keyword.toList part := by
  have found := covered.contains written same
  rw [Contains, untilNul_eq, String.toList_ofList] at found
  · exact found
  · rw [String.toList_ofList]
    exact fun nul => covered.unended own worded (written _ nul)

theorem first_token : ∀ c ∈ keyword.toList.head?, isTokenCharacter c = true := by
  intro c first
  obtain ⟨rest, spelt⟩ := List.head?_eq_some_iff.mp first
  rw [← Bool.not_eq_false]
  intro parting
  have same : tokensFrom [] rest = tokens keyword := by
    rw [tokens, spelt, tokensFrom_first parting]
  have shortest := covered.length_le (fun d inside => own d (by simp [spelt, inside])) same
  rw [spelt] at shortest
  exact Nat.not_succ_le_self _ shortest

theorem last_token : ∀ c ∈ keyword.toList.getLast?, isTokenCharacter c = true := by
  intro c last
  obtain ⟨front, spelt⟩ := List.getLast?_eq_some_iff.mp last
  rw [← Bool.not_eq_false]
  intro parting
  have same : tokensFrom [] front = tokens keyword := by
    rw [tokens, spelt, tokensFrom_last parting]
  have shortest := covered.length_le (fun d inside => own d (by simp [spelt, inside])) same
  rw [spelt, List.length_append] at shortest
  exact Nat.not_succ_le_self _ shortest

/-- A longer text with the tokens of the keyword has more token characters, if it begins and ends
like the keyword. -/
theorem countP_lt (worded : tokens keyword ≠ []) (text : List Char)
    (written : ∀ c ∈ text, alphabet c) (same : tokensFrom [] text = tokens keyword)
    (longer : keyword.toList.length < text.length) (first : text.head? = keyword.toList.head?)
    (last : text.getLast? = keyword.toList.getLast?) :
    keyword.toList.countP isTokenCharacter < text.countP isTokenCharacter := by
  obtain ⟨part, found, alike⟩ := covered.stretch own worded written same
  rw [countP_tokenCharacters alike]
  exact countP_lt_of_infix found (by rwa [← alike.length_eq])
    (first ▸ covered.first_token own) (last ▸ covered.last_token own)

theorem whole (worded : tokens keyword ≠ []) :
    ∀ c ∈ keyword.toList, isTokenCharacter c = true := by
  intro c inside
  rw [← Bool.not_eq_false]
  intro parting
  -- The character parts two tokens, which it does as well when it comes twice.
  obtain ⟨before, after, spelt⟩ := List.append_of_mem inside
  have more := covered.countP_lt own worded (before ++ c :: c :: after)
    (by simpa [spelt] using own) (by rw [tokens, spelt, tokensFrom_twice parting]) (by simp [spelt])
    (by cases before <;> simp [spelt])
    (by simp [spelt, List.getLast?_append, List.getLast?_cons])
  simp [spelt, List.countP_append, parting] at more

theorem unmarked (worded : tokens keyword ≠ []) (long : 2 ≤ keyword.toList.length) :
    ∀ c, alphabet c → isRemovableMark c = false := by
  intro mark member
  rw [← Bool.not_eq_true]
  intro removable
  obtain ⟨c, d, rest, spelt⟩ : ∃ c d rest, keyword.toList = c :: d :: rest := by
    match keyword.toList, long with
    | c :: d :: rest, _ => exact ⟨c, d, rest, rfl⟩
  have written : ∀ e ∈ c :: mark :: d :: rest, alphabet e := by
    simp only [spelt, List.forall_mem_cons] at own ⊢
    exact ⟨own.1, member, own.2⟩
  have more := covered.countP_lt own worded (c :: mark :: d :: rest) written
    (by rw [tokens, spelt]; exact tokensFrom_mark removable [] [c] (d :: rest)) (by simp [spelt])
    (by simp [spelt]) (by simp [spelt, List.getLast?_cons])
  simp [spelt, List.countP_cons, not_isTokenCharacter_of_mark removable] at more

theorem distinct (worded : tokens keyword ≠ []) : ∀ c ∈ keyword.toList, ∀ d, alphabet d →
    isTokenCharacter d = true → foldCharacter c = foldCharacter d → sameLetter c d = true := by
  intro c inside d member letter same
  obtain ⟨before, after, spelt⟩ := List.append_of_mem inside
  have whole := covered.whole own worded
  rw [spelt, List.forall_mem_append, List.forall_mem_cons] at whole
  have swapped : ∀ e ∈ before ++ d :: after, isTokenCharacter e = true :=
    List.forall_mem_append.mpr ⟨whole.1, List.forall_mem_cons.mpr ⟨letter, whole.2.2⟩⟩
  have same : tokensFrom [] (before ++ d :: after) = tokens keyword := by
    rw [tokens, tokensFrom_of_whole [] swapped, tokensFrom_of_whole [] (covered.whole own worded),
      spelt]
    simp [same]
  have written : ∀ e ∈ before ++ d :: after, alphabet e := by
    rw [spelt, List.forall_mem_append, List.forall_mem_cons] at own
    exact List.forall_mem_append.mpr ⟨own.1, List.forall_mem_cons.mpr ⟨member, own.2.2⟩⟩
  obtain ⟨part, found, alike⟩ := covered.stretch own worded written same
  have equal : part = before ++ d :: after := by
    refine found.eq_of_length ?_
    rw [← alike.length_eq, spelt]
    simp
  rw [equal, spelt] at alike
  have rest := List.forall₂_drop_append _ _ _ alike
  rw [List.drop_left] at rest
  exact (List.forall₂_cons.mp rest).1

end Covered

end

def AllTellable (alphabet : Char → Prop) (query : String) : Prop :=
  ∀ keyword ∈ keywords query, tokens keyword ≠ [] → Tellable alphabet keyword

section

variable {alphabet : Char → Prop} {query : String}

theorem MatchesByTokens.byLetters (told : AllTellable alphabet query)
    {texts : List (Option String)} (written : WrittenIn alphabet texts)
    (found : MatchesByTokens query texts) : MatchesByLetters query texts := by
  obtain ⟨keyword, listed, text, member, worded, there⟩ := found
  have covered := (told keyword listed worded).covered worded
  exact ⟨keyword, listed, text, member, covered text (written text member) there⟩

end

namespace Condition

variable {row : String → Option String} {bound : Nat → Option String}

theorem holdsAny_eq (conditions : List Condition) :
    holdsAny row bound conditions = conditions.any (holds row bound) := by
  induction conditions with
  | nil => rfl
  | cons condition rest ih => rw [holdsAny, ih, List.any_cons]

theorem likeCondition_holds (columns : List String) (keywords : List String) (first : Nat)
    (binds : ∀ i < keywords.length, bound (first + i) = (likeParameters keywords)[i]?) :
    (likeCondition columns first keywords.length).holds row bound =
      mentions keywords (columns.map row) := by
  rw [likeCondition, holds, holdsAny_eq, List.any_map, mentions]
  induction keywords generalizing first with
  | nil => rfl
  | cons keyword rest ih =>
      have begun : bound first = some (containsPattern keyword) := binds 0 (Nat.succ_pos _)
      have others := ih (first + 1) fun i below => by
        rw [Nat.add_right_comm first 1 i]
        exact binds (i + 1) (Nat.succ_lt_succ below)
      have here : ((fun condition => holds row bound condition) ∘ fun parameter =>
          anyOf (columns.map fun column => .like column parameter)) first =
          (columns.map row).any fun text => text.any (FullText.like (containsPattern keyword)) := by
        rw [Function.comp_apply, holds, holdsAny_eq, List.any_map, List.any_map]
        congr 1
        funext column
        simp only [Function.comp_apply, holds, begun]
        cases row column <;> rfl
      rw [List.length_cons, List.range'_succ, List.any_cons, List.any_cons, others, here]

end Condition

end Recall.FullText

namespace Recall

open FullText

namespace Table

variable [Row α] {query : String}

/-- The ways to look at a kind, of which one is open to all rows. -/
structure Views (scans : ι → Scan α) : Prop where
  room : ∀ view, (Row.columns α).length + (scans view).conditions ≤ 7
  opens : ∃ view, (∀ row, (scans view).visible row = true) ∧ (scans view).gathered = none

theorem Views.takes {scans : ι → Scan α} (views : Views scans)
    (few : (keywords query).length ≤ 992)
    (short : ∀ keyword ∈ keywords query, isTooLong keyword = false) (table : Table α) (view : ι)
    (limit : Nat) : table.Takes (scans view) (keywords query) limit :=
  takes_of_short (views.room view) few short

end Table

end Recall
