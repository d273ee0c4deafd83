import Mathlib.Data.List.Nodup
import Recall.FullText.Expression
import Recall.Proofs.DocumentIds
import Recall.Proofs.Fallback

/-!
Queries as text, read back. The match expression of a query is read as its keywords, whatever
characters the query has, and the text of the wildcard condition as that condition alone.
-/

namespace Recall.FullText

theorem toList_intercalate_cons (mark first : String) (rest : List String) :
    (mark.intercalate (first :: rest)).toList =
      first.toList ++ rest.flatMap fun text => mark.toList ++ text.toList := by
  induction rest generalizing first with
  | nil => simp
  | cons second rest ih => simp [String.intercalate_cons_cons, ih]

def doubled (text : List Char) : List Char :=
  text.flatMap fun c => if c = '\x22' then ['\x22', '\x22'] else [c]

def quoted (text : String) : String := "\x22" ++ String.ofList (doubled text.toList) ++ "\x22"

def expressionOf (strings : List String) : String := " OR ".intercalate (strings.map quoted)

/-- The strings of an expression from within the first; `part` is what is read of it, last
character first. -/
def stringsFrom (part : List Char) : List Char → Option (List String)
  | [] => none
  | '\x22' :: '\x22' :: rest => stringsFrom ('\x22' :: part) rest
  | ['\x22'] => some [String.ofList part.reverse]
  | '\x22' :: ' ' :: 'O' :: 'R' :: ' ' :: '\x22' :: rest =>
    (stringsFrom [] rest).map (String.ofList part.reverse :: ·)
  | c :: rest => if c = '\x22' then none else stringsFrom (c :: part) rest

def readStrings (text : String) : Option (List String) :=
  match text.toList with
  | [] => some []
  | '\x22' :: rest => stringsFrom [] rest
  | _ => none

def furtherStrings (strings : List String) : List Char :=
  strings.flatMap fun text => " OR ".toList ++ (quoted text).toList

theorem quoted_toList (text : String) :
    (quoted text).toList = '\x22' :: (doubled text.toList ++ ['\x22']) := by
  simp [quoted]

theorem expressionOf_cons (first : String) (rest : List String) :
    (expressionOf (first :: rest)).toList =
      '\x22' :: (doubled first.toList ++ '\x22' :: furtherStrings rest) := by
  rw [expressionOf, List.map_cons, toList_intercalate_cons, quoted_toList, List.flatMap_map]
  simp [furtherStrings]

theorem stringsFrom_doubled (part text rest : List Char) :
    stringsFrom part (doubled text ++ rest) = stringsFrom (text.reverse ++ part) rest := by
  induction text generalizing part with
  | nil => rfl
  | cons c text ih =>
      rw [List.reverse_cons, List.append_assoc, List.singleton_append, ← ih]
      by_cases quote : c = '\x22'
      · subst quote
        rfl
      · simp [doubled, quote, stringsFrom]

theorem stringsFrom_further (part text : List Char) (more : List String) :
    stringsFrom part (doubled text ++ '\x22' :: furtherStrings more) =
      some (String.ofList (part.reverse ++ text) :: more) := by
  induction more generalizing part text with
  | nil =>
      rw [stringsFrom_doubled]
      simp [furtherStrings, stringsFrom]
  | cons next more ih =>
      have opened : furtherStrings (next :: more) =
          ' ' :: 'O' :: 'R' :: ' ' :: '\x22' ::
            (doubled next.toList ++ '\x22' :: furtherStrings more) := by
        simp [furtherStrings, quoted_toList]
      rw [stringsFrom_doubled, opened, stringsFrom, ih]
      simp

theorem stringsFrom_sound {part text : List Char} {strings : List String}
    (read : stringsFrom part text = some strings) :
    ∃ first more, strings = String.ofList (part.reverse ++ first) :: more ∧
      text = doubled first ++ '\x22' :: furtherStrings more := by
  induction part, text using stringsFrom.induct generalizing strings with
  | case1 part => cases read
  | case2 part rest ih =>
      obtain ⟨first, more, rfl, rfl⟩ := ih read
      exact ⟨'\x22' :: first, more, by simp, by simp [doubled]⟩
  | case3 part =>
      cases read
      exact ⟨[], [], by simp, rfl⟩
  | case4 part rest ih =>
      rw [stringsFrom, Option.map_eq_some_iff] at read
      obtain ⟨others, read, rfl⟩ := read
      obtain ⟨next, more, rfl, rfl⟩ := ih read
      refine ⟨[], String.ofList next :: more, by simp, ?_⟩
      simp [doubled, furtherStrings, quoted_toList]
  | case5 part rest once unended unjoined =>
      rw [stringsFrom.eq_5 part '\x22' rest once unended unjoined, if_pos rfl] at read
      cases read
  | case6 part c rest once unended unjoined plain ih =>
      rw [stringsFrom.eq_5 part c rest once unended unjoined, if_neg plain] at read
      obtain ⟨first, more, rfl, rfl⟩ := ih read
      exact ⟨c :: first, more, by simp, by simp [doubled, plain]⟩

theorem readStrings_eq_some_iff {text : String} {strings : List String} :
    readStrings text = some strings ↔ text = expressionOf strings := by
  constructor
  · intro read
    rw [← String.toList_inj]
    rw [readStrings] at read
    split at read
    · rename_i empty
      cases read
      rw [empty]
      rfl
    · rename_i rest opened
      obtain ⟨first, more, rfl, rfl⟩ := stringsFrom_sound read
      rw [opened, expressionOf_cons]
      simp
    · cases read
  · rintro rfl
    cases strings with
    | nil => rfl
    | cons first rest =>
        have read := stringsFrom_further [] first.toList rest
        rw [List.reverse_nil, List.nil_append, String.ofList_toList] at read
        rw [readStrings, expressionOf_cons]
        exact read

example : readStrings "\x22retry\x22 NEAR \x22token\x22" = none := by decide

theorem keyword_unquoted {query keyword : String} (listed : keyword ∈ keywords query) :
    '\x22' ∉ keyword.toList := by
  intro inside
  exact absurd (keyword_alphanumeric listed _ inside) (by decide)

theorem doubled_of_not_mem {text : List Char} (plain : '\x22' ∉ text) : doubled text = text := by
  induction text with
  | nil => rfl
  | cons c text ih =>
      rw [List.mem_cons, not_or] at plain
      rw [doubled, List.flatMap_cons, if_neg (Ne.symm plain.1), ← doubled, ih plain.2]
      rfl

theorem matchExpression_keywords (query : String) :
    matchExpression (keywords query) = expressionOf (keywords query) := by
  rw [matchExpression, expressionOf]
  congr 1
  apply List.map_congr_left
  intro keyword listed
  rw [quoted, doubled_of_not_mem (keyword_unquoted listed), String.ofList_toList]

def EndsNumber (rest : List Char) : Prop := ∀ c ∈ rest.head?, c.isDigit = false

theorem takeWhile_append_ends {text rest : List Char} (ends : EndsNumber rest) :
    (text ++ rest).takeWhile Char.isDigit = text.takeWhile Char.isDigit := by
  induction text with
  | nil =>
      cases rest with
      | nil => rfl
      | cons c rest => simp [ends c rfl]
  | cons c text ih => simp only [List.cons_append, List.takeWhile_cons, ih]

theorem takeWhile_number (n : Nat) :
    (toString n).toList.takeWhile Char.isDigit = (toString n).toList := by
  rw [toString_natural_toList, List.takeWhile_eq_self_iff]
  intro c inside
  exact Nat.isDigit_of_mem_toDigits (by decide) (by decide) inside

theorem number_unique {m n : Nat} {rest others : List Char} (ends : EndsNumber rest)
    (other : EndsNumber others)
    (same : (toString m).toList ++ rest = (toString n).toList ++ others) :
    m = n ∧ rest = others := by
  have digits := congrArg (List.takeWhile Char.isDigit) same
  rw [takeWhile_append_ends ends, takeWhile_append_ends other, takeWhile_number,
    takeWhile_number] at digits
  rw [digits, List.append_cancel_left_eq] at same
  rw [toString_natural_toList, toString_natural_toList] at digits
  exact ⟨toDigits_injective digits, same⟩

def placeholders : List Char → List Nat
  | [] => []
  | c :: rest =>
    if c = '?' then Nat.ofDigitChars 10 (rest.takeWhile Char.isDigit) 0 :: placeholders rest
    else placeholders rest

theorem placeholders_append {text rest : List Char} (ends : EndsNumber rest) :
    placeholders (text ++ rest) = placeholders text ++ placeholders rest := by
  induction text with
  | nil => rfl
  | cons c text ih =>
      rw [List.cons_append, placeholders, placeholders, takeWhile_append_ends ends, ih]
      split <;> rfl

theorem placeholders_of_not_mem {text : List Char} (plain : '?' ∉ text) :
    placeholders text = [] := by
  induction text with
  | nil => rfl
  | cons c text ih =>
      rw [List.mem_cons, not_or] at plain
      rw [placeholders, if_neg (Ne.symm plain.1), ih plain.2]

theorem placeholders_number (n : Nat) : placeholders ('?' :: (toString n).toList) = [n] := by
  have unmarked : '?' ∉ (toString n).toList := by
    rw [toString_natural_toList]
    intro inside
    exact absurd (Nat.isDigit_of_mem_toDigits (by decide) (by decide) inside) (by decide)
  rw [placeholders, if_pos rfl, placeholders_of_not_mem unmarked, takeWhile_number,
    toString_natural_toList, Nat.ofDigitChars_ten_toDigits]

namespace Condition

mutual

def comparisons : Condition → List (String × Nat)
  | like column parameter => [(column, parameter)]
  | anyOf conditions => comparisonsAll conditions

def comparisonsAll : List Condition → List (String × Nat)
  | [] => []
  | condition :: conditions => condition.comparisons ++ comparisonsAll conditions

end

theorem comparisonsAll_eq (conditions : List Condition) :
    comparisonsAll conditions = conditions.flatMap comparisons := by
  induction conditions with
  | nil => rfl
  | cons condition rest ih => rw [comparisonsAll, ih, List.flatMap_cons]

theorem renderAll_eq (conditions : List Condition) :
    renderAll conditions = conditions.map render := by
  induction conditions with
  | nil => rfl
  | cons condition rest ih => rw [renderAll, ih, List.map_cons]

def further (conditions : List Condition) : List Char :=
  conditions.flatMap fun condition => " OR ".toList ++ condition.render.toList

theorem like_toList (column : String) (parameter : Nat) :
    (render (like column parameter)).toList =
      column.toList ++ (" LIKE ".toList ++ '?' :: (toString parameter).toList) := by
  simp [render]

theorem anyOf_cons_toList (first : Condition) (rest : List Condition) :
    (render (anyOf (first :: rest))).toList =
      '(' :: (first.render.toList ++ (further rest ++ [')'])) := by
  rw [render, renderAll_eq, List.map_cons, String.toList_append, String.toList_append,
    toList_intercalate_cons, List.flatMap_map]
  simp [further]

theorem endsNumber_further (conditions : List Condition) (rest : List Char) :
    EndsNumber (further conditions ++ ')' :: rest) := by
  cases conditions with
  | nil =>
      intro c first
      cases first
      rfl
  | cons condition others =>
      intro c first
      cases first
      rfl

mutual

theorem placeholders_render (condition : Condition) : placeholders condition.render.toList =
    condition.comparisons.flatMap fun comparison =>
      placeholders comparison.1.toList ++ [comparison.2] := by
  match condition with
  | like column parameter =>
      have ends : EndsNumber (" LIKE ".toList ++ '?' :: (toString parameter).toList) := by
        intro c first
        cases first
        rfl
      have skipped : placeholders (" LIKE ".toList ++ '?' :: (toString parameter).toList) =
          placeholders ('?' :: (toString parameter).toList) := rfl
      rw [like_toList, placeholders_append ends, skipped, placeholders_number, comparisons]
      exact (List.flatMap_singleton _ _).symm
  | anyOf [] => rfl
  | anyOf (first :: rest) =>
      have opened (text : List Char) : placeholders ('(' :: text) = placeholders text := rfl
      rw [anyOf_cons_toList, opened, placeholders_append (endsNumber_further rest []),
        placeholders_render first, placeholders_further rest, comparisons, comparisonsAll,
        List.flatMap_append]

theorem placeholders_further (conditions : List Condition) :
    placeholders (further conditions ++ [')']) =
      (comparisonsAll conditions).flatMap fun comparison =>
        placeholders comparison.1.toList ++ [comparison.2] := by
  match conditions with
  | [] => rfl
  | first :: rest =>
      have joined : further (first :: rest) ++ [')'] =
          " OR ".toList ++ (first.render.toList ++ (further rest ++ [')'])) := by simp [further]
      have skipped (text : List Char) :
          placeholders (" OR ".toList ++ text) = placeholders text := rfl
      rw [joined, skipped, placeholders_append (endsNumber_further rest []),
        placeholders_render first, placeholders_further rest, comparisonsAll, List.flatMap_append]

end

def IsName (column : String) : Prop := ∀ c ∈ column.toList, c ≠ ' ' ∧ c ≠ '(' ∧ c ≠ ')'

instance : DecidablePred IsName := fun column =>
  List.decidableBAll (fun c => c ≠ ' ' ∧ c ≠ '(' ∧ c ≠ ')') column.toList

def Named (condition : Condition) : Prop :=
  ∀ comparison ∈ condition.comparisons, IsName comparison.1

theorem named_like {column : String} {parameter : Nat} :
    (like column parameter).Named ↔ IsName column := by
  rw [Named, comparisons, List.forall_mem_singleton]

theorem named_anyOf {conditions : List Condition} :
    (anyOf conditions).Named ↔ ∀ condition ∈ conditions, condition.Named := by
  simp only [Named, comparisons, comparisonsAll_eq, List.mem_flatMap]
  constructor
  · intro all condition member comparison compared
    exact all comparison ⟨condition, member, compared⟩
  · rintro each comparison ⟨condition, member, compared⟩
    exact each condition member comparison compared

theorem like_head {column : String} {parameter : Nat} (name : IsName column) :
    ∃ c text, (render (like column parameter)).toList = c :: text ∧ c ≠ '(' ∧ c ≠ ')' := by
  rw [like_toList]
  cases spelt : column.toList with
  | nil => exact ⟨' ', _, rfl, by decide, by decide⟩
  | cons c text => exact ⟨c, _, rfl, (name c (spelt ▸ List.mem_cons_self)).2⟩

theorem anyOf_head (conditions : List Condition) :
    ∃ text, (render (anyOf conditions)).toList = '(' :: text :=
  ⟨_, by rw [render, String.toList_append, String.toList_append]; rfl⟩

theorem render_head {condition : Condition} (named : condition.Named) :
    ∃ c text, condition.render.toList = c :: text ∧ c ≠ ')' := by
  cases condition with
  | like column parameter =>
      obtain ⟨c, text, spelt, -, unclosed⟩ := like_head (named_like.mp named)
      exact ⟨c, text, spelt, unclosed⟩
  | anyOf conditions =>
      obtain ⟨text, spelt⟩ := anyOf_head conditions
      exact ⟨'(', text, spelt, by decide⟩

theorem like_ne_anyOf {column : String} {parameter : Nat} {conditions : List Condition}
    {rest others : List Char} (named : (like column parameter).Named) :
    (render (like column parameter)).toList ++ rest ≠
      (render (anyOf conditions)).toList ++ others := by
  obtain ⟨c, text, spelt, unopened, -⟩ := like_head (named_like.mp named)
  obtain ⟨more, opened⟩ := anyOf_head conditions
  rw [spelt, opened]
  intro same
  exact unopened (List.cons.inj same).1

theorem nil_ne_cons {first : Condition} {others : List Condition} {rest more : List Char}
    (named : first.Named) :
    (render (anyOf [])).toList ++ rest ≠ (render (anyOf (first :: others))).toList ++ more := by
  obtain ⟨c, text, spelt, unclosed⟩ := render_head named
  rw [anyOf_cons_toList, spelt]
  intro same
  exact unclosed (List.cons.inj (List.cons.inj same).2).1.symm

theorem like_unique {column other : String} {parameter number : Nat} {rest others : List Char}
    (name : IsName column) (second : IsName other)
    (ends : EndsNumber rest) (stops : EndsNumber others)
    (same : (render (like column parameter)).toList ++ rest =
      (render (like other number)).toList ++ others) :
    like column parameter = like other number ∧ rest = others := by
  have parted (column : String) (parameter : Nat) (rest : List Char) :
      (render (like column parameter)).toList ++ rest =
        column.toList ++ ' ' :: ("LIKE ?".toList ++ ((toString parameter).toList ++ rest)) := by
    simp [like_toList]
  rw [parted, parted] at same
  obtain ⟨columns, numbers⟩ := parts_unique same (fun space => (name ' ' space).1 rfl)
    (fun space => (second ' ' space).1 rfl)
  rw [List.append_cancel_left_eq] at numbers
  obtain ⟨rfl, left⟩ := number_unique ends stops numbers
  exact ⟨by rw [String.toList_inj.mp columns], left⟩

mutual

/-- No other condition on named columns begins with the same text. -/
theorem render_unique (first second : Condition) {rest others : List Char}
    (named : first.Named) (called : second.Named)
    (ends : EndsNumber rest) (stops : EndsNumber others)
    (same : first.render.toList ++ rest = second.render.toList ++ others) :
    first = second ∧ rest = others := by
  match first, second with
  | like _ _, like _ _ => exact like_unique (named_like.mp named) (named_like.mp called) ends stops same
  | like _ _, anyOf _ => exact absurd same (like_ne_anyOf named)
  | anyOf _, like _ _ => exact absurd same.symm (like_ne_anyOf called)
  | anyOf [], anyOf [] => exact ⟨rfl, List.append_cancel_left same⟩
  | anyOf [], anyOf (_ :: _) =>
      exact absurd same (nil_ne_cons (named_anyOf.mp called _ List.mem_cons_self))
  | anyOf (_ :: _), anyOf [] =>
      exact absurd same.symm (nil_ne_cons (named_anyOf.mp named _ List.mem_cons_self))
  | anyOf (first :: firsts), anyOf (second :: seconds) =>
      obtain ⟨here, later⟩ := List.forall_mem_cons.mp (named_anyOf.mp named)
      obtain ⟨there, further⟩ := List.forall_mem_cons.mp (named_anyOf.mp called)
      simp only [anyOf_cons_toList, List.cons_append, List.append_assoc, List.cons.injEq,
        true_and] at same
      obtain ⟨rfl, left⟩ := render_unique first second here there
        (endsNumber_further firsts rest) (endsNumber_further seconds others) same
      obtain ⟨rfl, behind⟩ := further_unique firsts seconds later further left
      exact ⟨rfl, behind⟩

theorem further_unique (firsts seconds : List Condition) {rest others : List Char}
    (named : ∀ condition ∈ firsts, condition.Named)
    (called : ∀ condition ∈ seconds, condition.Named)
    (same : further firsts ++ ')' :: rest = further seconds ++ ')' :: others) :
    firsts = seconds ∧ rest = others := by
  match firsts, seconds with
  | [], [] => exact ⟨rfl, (List.cons.inj same).2⟩
  | [], _ :: _ => exact absurd (List.cons.inj same).1 (by decide)
  | _ :: _, [] => exact absurd (List.cons.inj same).1 (by decide)
  | first :: firsts, second :: seconds =>
      obtain ⟨here, later⟩ := List.forall_mem_cons.mp named
      obtain ⟨there, further⟩ := List.forall_mem_cons.mp called
      simp only [Condition.further, List.flatMap_cons, List.append_assoc,
        List.append_cancel_left_eq] at same
      obtain ⟨rfl, left⟩ := render_unique first second here there
        (endsNumber_further firsts rest) (endsNumber_further seconds others) same
      obtain ⟨rfl, behind⟩ := further_unique firsts seconds later further left
      exact ⟨rfl, behind⟩

end

theorem render_injective {first second : Condition} (named : first.Named)
    (called : second.Named) (same : first.render = second.render) : first = second := by
  have ended : EndsNumber [] := by
    intro c first
    cases first
  exact (render_unique first second named called ended ended (by rw [same])).1

theorem comparisons_likeCondition (columns : List String) (first count : Nat) :
    (likeCondition columns first count).comparisons =
      (List.range' first count).flatMap fun parameter => columns.map (·, parameter) := by
  have alternatives (parameter : Nat) :
      (anyOf (columns.map fun column => like column parameter)).comparisons =
        columns.map (·, parameter) := by
    rw [comparisons, comparisonsAll_eq, List.flatMap_map, List.map_eq_flatMap]
    rfl
  rw [likeCondition, comparisons, comparisonsAll_eq, List.flatMap_map]
  simp only [alternatives]

theorem named_likeCondition {columns : List String}
    (names : ∀ column ∈ columns, IsName column) (first count : Nat) :
    (likeCondition columns first count).Named := by
  intro comparison compared
  rw [comparisons_likeCondition, List.mem_flatMap] at compared
  obtain ⟨parameter, -, compared⟩ := compared
  obtain ⟨column, member, rfl⟩ := List.mem_map.mp compared
  exact names column member

end Condition

theorem placeholders_likeCondition (columns : List String) (first count : Nat) :
    placeholders (likeCondition columns first count).render.toList =
      (List.range' first count).flatMap fun parameter =>
        columns.flatMap fun column => placeholders column.toList ++ [parameter] := by
  rw [Condition.placeholders_render, Condition.comparisons_likeCondition, List.flatMap_assoc]
  simp only [List.flatMap_map]

theorem count_flatMap_replicate (parameters : List Nat) (times parameter : Nat) :
    (parameters.flatMap (List.replicate times)).count parameter =
      times * parameters.count parameter := by
  induction parameters with
  | nil => rfl
  | cons next rest ih =>
      rw [List.flatMap_cons, List.count_append, ih, List.count_replicate, List.count_cons,
        Nat.mul_add, Nat.add_comm]
      split <;> simp

theorem count_placeholders {columns : List String} (first count : Nat)
    (unmarked : ∀ column ∈ columns, '?' ∉ column.toList) (parameter : Nat) :
    (placeholders (likeCondition columns first count).render.toList).count parameter =
      if first ≤ parameter ∧ parameter < first + count then columns.length else 0 := by
  have plain (parameter : Nat) :
      (columns.flatMap fun column => placeholders column.toList ++ [parameter]) =
        List.replicate columns.length parameter := by
    induction columns with
    | nil => rfl
    | cons column rest ih =>
        obtain ⟨here, others⟩ := List.forall_mem_cons.mp unmarked
        rw [List.flatMap_cons, ih others, placeholders_of_not_mem here]
        rfl
  rw [placeholders_likeCondition]
  simp only [plain]
  rw [count_flatMap_replicate, List.Nodup.count List.nodup_range']
  simp only [List.mem_range'_1]
  split <;> simp

theorem mentions_eq_true_iff {keywords columns : List String} {row : String → Option String} :
    mentions keywords (columns.map row) = true ↔ ∃ column ∈ columns, ∃ keyword ∈ keywords,
      ∃ text, row column = some text ∧ like (containsPattern keyword) text = true := by
  simp only [mentions, List.any_eq_true, List.mem_map, Option.any_eq_true]
  constructor
  · rintro ⟨keyword, listed, _, ⟨column, member, rfl⟩, text, held, found⟩
    exact ⟨column, member, keyword, listed, text, held, found⟩
  · rintro ⟨column, member, keyword, listed, text, held, found⟩
    exact ⟨keyword, listed, row column, ⟨column, member, rfl⟩, text, held, found⟩

/-- The texts written for the keywords are read as nothing else. `first` is the number of the first
parameter. -/
structure Inert (keywords columns : List String) (first : Nat) : Prop where
  read : ∀ strings, readStrings (matchExpression keywords) = some strings ↔ strings = keywords
  written : ∀ strings, expressionOf strings = matchExpression keywords ↔ strings = keywords
  values : likeParameters keywords = keywords.map fun keyword => "%" ++ keyword ++ "%"
  plain : ∀ keyword ∈ keywords, ∀ c ∈ keyword.toList, c ≠ '%' ∧ c ≠ '_'
  /-- A column brings the placeholders that its own text has, and then one parameter. -/
  placed : placeholders (likeCondition columns first keywords.length).render.toList =
    (List.range' first keywords.length).flatMap fun parameter =>
      columns.flatMap fun column => placeholders column.toList ++ [parameter]
  counted : (∀ column ∈ columns, '?' ∉ column.toList) → ∀ parameter,
    (placeholders (likeCondition columns first keywords.length).render.toList).count parameter =
      if first ≤ parameter ∧ parameter < first + keywords.length then columns.length else 0
  unique : (∀ column ∈ columns, Condition.IsName column) →
    ∀ condition : Condition, condition.Named →
      (condition.render = (likeCondition columns first keywords.length).render ↔
        condition = likeCondition columns first keywords.length)
  holds : ∀ (row : String → Option String) (bound : Nat → Option String),
    (∀ i < keywords.length, bound (first + i) = (likeParameters keywords)[i]?) →
      ((likeCondition columns first keywords.length).holds row bound = true ↔
        ∃ column ∈ columns, ∃ keyword ∈ keywords, ∃ text, row column = some text ∧
          like ("%" ++ keyword ++ "%") text = true)

/-- Whatever a query says, its expression is read as its keywords, and its condition asks whether
some column has one of them. -/
theorem query_text_inert (query : String) (columns : List String) (first : Nat) :
    Inert (keywords query) columns first := by
  have read (strings : List String) :
      readStrings (matchExpression (keywords query)) = some strings ↔
        strings = keywords query := by
    rw [matchExpression_keywords, readStrings_eq_some_iff.mpr rfl, Option.some.injEq]
    exact eq_comm
  constructor
  case read => exact read
  case written =>
    intro strings
    rw [← read strings, readStrings_eq_some_iff]
    exact eq_comm
  case values => rfl
  case plain => exact fun _ => keyword_plain
  case placed => exact placeholders_likeCondition columns first _
  case counted => exact count_placeholders first _
  case unique =>
    intro names condition named
    constructor
    · exact Condition.render_injective named (Condition.named_likeCondition names first _)
    · intro same
      rw [same]
  case holds =>
    intro row bound binds
    rw [Condition.likeCondition_holds columns (keywords query) first binds]
    exact mentions_eq_true_iff

theorem operators_inert :
    let query := "quota\x22 OR kind:* 100%_done"
    let columns := ["o.title", "o.narrative"]
    let text := "((o.title LIKE ?3 OR o.narrative LIKE ?3) OR " ++
      "(o.title LIKE ?4 OR o.narrative LIKE ?4) OR (o.title LIKE ?5 OR o.narrative LIKE ?5))"
    matchExpression (keywords query) = "\x22quota\x22 OR \x22kind\x22 OR \x22done\x22" ∧
    readStrings (matchExpression (keywords query)) = some ["quota", "kind", "done"] ∧
    (placeholders text.toList).count 4 = 2 ∧
    (∀ condition : Condition, condition.Named → condition.render = text →
      condition = likeCondition columns 3 3) ∧
    (likeCondition columns 3 3).holds
      (fun column => if column = "o.title" then some "KINDNESS" else none)
      (fun parameter => (likeParameters (keywords query))[parameter - 3]?) = true := by
  intro query columns text
  have listed : keywords query = ["quota", "kind", "done"] := by decide +kernel
  have rendered : (likeCondition columns 3 3).render = text := by decide +kernel
  have inert := query_text_inert query columns 3
  rw [listed] at inert ⊢
  refine ⟨by decide +kernel, (inert.read _).mpr rfl, ?_, fun condition named same => ?_, ?_⟩
  · have counted := inert.counted (by decide +kernel) 4
    rwa [show ["quota", "kind", "done"].length = 3 from rfl, rendered] at counted
  · rw [← rendered] at same
    exact (inert.unique (by decide +kernel) condition named).mp same
  · refine (inert.holds _ _ ?_).mpr
      ⟨"o.title", List.mem_cons_self, "kind", by simp, "KINDNESS", if_pos rfl, ?_⟩
    · decide +kernel
    · decide +kernel

end Recall.FullText
