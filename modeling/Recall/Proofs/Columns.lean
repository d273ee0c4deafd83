import Recall.Json.Writer
import Recall.Record.Column

namespace Recall

namespace Json

/-- What is written for a character: a mark of its own, its number, or the character itself. -/
inductive Spelled (c : Char) : List Char → Prop
  | mark (e : Char) (plain : e ≠ 'u') (meant : simpleEscape? e = some c) : Spelled c ['\\', e]
  | number (control : c.toNat < 32) : Spelled c (['\\', 'u', '0', '0'] ++ hexByte c.toNat)
  | itself (unquoted : c ≠ '\x22') (unmarked : c ≠ '\\') (printed : 32 ≤ c.toNat) : Spelled c [c]

theorem spelled_escaped (c : Char) : Spelled c (escaped c) := by
  rw [escaped]
  split
  · rename_i own
    rw [Bool.or_eq_true, decide_eq_true_eq, decide_eq_true_eq] at own
    rcases own with rfl | rfl <;> exact .mark _ (by decide) rfl
  · rename_i own
    rw [Bool.or_eq_true, decide_eq_true_eq, decide_eq_true_eq, not_or] at own
    iterate 5
      split
      · subst c
        exact .mark _ (by decide) rfl
    split
    · exact .number ‹_›
    · exact .itself own.1 own.2 (Nat.not_lt.mp ‹_›)

theorem hexDigit?_digitChar : ∀ n < 16, hexDigit? (Nat.digitChar n) = some n := by decide

theorem codeUnit?_hexByte {n : Nat} (small : n < 256) (rest : List Char) :
    codeUnit? ('0' :: '0' :: (hexByte n ++ rest)) = some (n, rest) := by
  have zero : hexDigit? '0' = some 0 := by decide
  have high := hexDigit?_digitChar (n / 16) (by omega)
  have low := hexDigit?_digitChar (n % 16) (by omega)
  have whole : ((0 * 16 + 0) * 16 + n / 16) * 16 + n % 16 = n := by omega
  simp only [hexByte, List.cons_append, List.nil_append, codeUnit?, zero, high, low,
    Option.bind_eq_bind, Option.bind_some, Option.pure_def, whole]

theorem escapedCodePoint?_hexByte {c : Char} (control : c.toNat < 32) (rest : List Char) :
    escapedCodePoint? ('0' :: '0' :: (hexByte c.toNat ++ rest)) = some (c, rest) := by
  have read := codeUnit?_hexByte (n := c.toNat) (by omega) rest
  have high : ¬ 0xd800 ≤ c.toNat := by omega
  have low : ¬ 0xdc00 ≤ c.toNat := by omega
  simp [escapedCodePoint?, read, high, low]

theorem stringBody?_spelled {c : Char} {spelling : List Char} (spelled : Spelled c spelling)
    (fuel : Nat) (read rest : List Char) :
    stringBody? (fuel + 1) read (spelling ++ rest) = stringBody? fuel (c :: read) rest := by
  cases spelled with
  | mark e plain meant =>
      simp only [List.cons_append, List.nil_append, stringBody?, meant]
      rfl
  | number control =>
      have point := escapedCodePoint?_hexByte control rest
      simp only [List.cons_append, List.nil_append, stringBody?, point]
      rfl
  | itself unquoted unmarked printed =>
      have visible : ¬ c.toNat < 32 := by omega
      rw [List.singleton_append, stringBody?]
      · rw [if_neg visible]
      all_goals simp_all

theorem stringBody?_flatMap {chars : List Char} {fuel : Nat} (enough : chars.length < fuel)
    (read rest : List Char) : stringBody? fuel read (chars.flatMap escaped ++ '\x22' :: rest) =
      some (String.ofList (read.reverse ++ chars), rest) := by
  induction chars generalizing fuel read with
  | nil =>
      obtain ⟨fuel, rfl⟩ := Nat.exists_eq_succ_of_ne_zero (Nat.ne_zero_of_lt enough)
      simp [stringBody?]
  | cons c chars ih =>
      obtain ⟨fuel, rfl⟩ := Nat.exists_eq_succ_of_ne_zero (Nat.ne_zero_of_lt enough)
      rw [List.flatMap_cons, List.append_assoc, stringBody?_spelled (spelled_escaped c),
        ih (Nat.lt_of_succ_lt_succ enough), List.reverse_cons, List.append_assoc]
      rfl

theorem escaped_ne_nil (c : Char) : escaped c ≠ [] := by
  intro nothing
  have spelled := spelled_escaped c
  rw [nothing] at spelled
  cases spelled

theorem length_le_flatMap (chars : List Char) :
    chars.length ≤ (chars.flatMap escaped).length := by
  induction chars with
  | nil => exact Nat.le_refl 0
  | cons c chars ih =>
      have filled := List.length_pos_iff.mpr (escaped_ne_nil c)
      rw [List.flatMap_cons, List.length_append, List.length_cons]
      omega

theorem quotedText_toList (text : String) :
    (quotedText text).toList = '\x22' :: (text.toList.flatMap escaped ++ ['\x22']) := by
  rw [quotedText, String.toList_ofList]
  rfl

theorem value?_quotedText (fuel : Nat) (content : String) (rest : List Char) :
    value? (fuel + 1) ((quotedText content).toList ++ rest) = some (text content, rest) := by
  let body := content.toList.flatMap escaped ++ '\x22' :: rest
  have enough : content.toList.length < body.length + 1 := by
    have spelled := length_le_flatMap content.toList
    rw [List.length_append]
    omega
  have read : stringBody? (body.length + 1) [] body = some (content, rest) := by
    rw [stringBody?_flatMap enough, List.reverse_nil, List.nil_append, String.ofList_toList]
  have quoted : (quotedText content).toList ++ rest = '\x22' :: body := by
    rw [quotedText_toList, List.cons_append, List.append_assoc]
    rfl
  have start : skipSpace ('\x22' :: body) = '\x22' :: body := rfl
  simp only [quoted, value?, start, read, Option.map_some]

theorem renderItems_cons (first : String) {others : List String} (more : others ≠ []) :
    (renderItems ((first :: others).map text)).toList =
      (quotedText first).toList ++ ',' :: (renderItems (others.map text)).toList := by
  obtain ⟨next, rest, rfl⟩ := List.exists_cons_of_ne_nil more
  simp only [List.map_cons, renderItems, render, String.toList_append, List.append_assoc]
  rfl

theorem renderItems_singleton (only : String) :
    (renderItems ([only].map text)).toList = (quotedText only).toList := rfl

section

variable {fuel : Nat} {chars more rest : List Char} {item : Json} {items : List Json}

theorem items?_bracket (read : value? fuel chars = some (item, ']' :: rest)) :
    items? (fuel + 1) chars = some ([item], rest) := by
  have bracket : skipSpace (']' :: rest) = ']' :: rest := rfl
  simp only [items?, read, Option.bind_eq_bind, Option.bind_some, bracket]
  rfl

theorem items?_comma (read : value? fuel chars = some (item, ',' :: more))
    (others : items? fuel more = some (items, rest)) :
    items? (fuel + 1) chars = some (item :: items, rest) := by
  have comma : skipSpace (',' :: more) = ',' :: more := rfl
  simp only [items?, read, Option.bind_eq_bind, Option.bind_some, comma, others]
  rfl

theorem value?_bracket (read : items? fuel ('\x22' :: more) = some (items, rest)) :
    value? (fuel + 1) ('[' :: '\x22' :: more) = some (array items, rest) := by
  have bracket : skipSpace ('[' :: '\x22' :: more) = '[' :: '\x22' :: more := rfl
  have quote : skipSpace ('\x22' :: more) = '\x22' :: more := rfl
  simp only [value?, bracket, quote]
  change (items? fuel ('\x22' :: more)).map (fun read => (array read.1, read.2)) = _
  rw [read]
  rfl

end

/-- One step of the fuel for each text, and one for reading it. -/
theorem items?_renderItems {texts : List String} (filled : texts ≠ []) {fuel : Nat}
    (enough : texts.length < fuel) (rest : List Char) :
    items? fuel ((renderItems (texts.map text)).toList ++ ']' :: rest) =
      some (texts.map text, rest) := by
  induction texts generalizing fuel with
  | nil => exact absurd rfl filled
  | cons first others ih =>
      rw [List.length_cons] at enough
      obtain ⟨less, rfl⟩ : ∃ less, fuel = less + 1 + 1 := ⟨fuel - 2, by omega⟩
      by_cases last : others = []
      · subst last
        rw [renderItems_singleton]
        exact items?_bracket (value?_quotedText less first _)
      · rw [renderItems_cons first last, List.append_assoc, List.cons_append]
        exact items?_comma (value?_quotedText less first _) (ih last (by omega))

theorem renderItems_spelled {texts : List String} (filled : texts ≠ []) :
    ∃ more, (renderItems (texts.map text)).toList = '\x22' :: more ∧
      texts.length ≤ more.length := by
  induction texts with
  | nil => exact absurd rfl filled
  | cons first others ih =>
      by_cases last : others = []
      · subst last
        refine ⟨_, quotedText_toList first, ?_⟩
        simp
      · obtain ⟨more, opens, long⟩ := ih last
        rw [renderItems_cons first last, quotedText_toList, opens, List.cons_append]
        refine ⟨_, rfl, ?_⟩
        rw [List.length_append, List.length_cons, List.length_cons, List.length_cons]
        omega

theorem parse?_ofTexts (texts : List String) :
    parse? (ofTexts texts).render = some (ofTexts texts) := by
  by_cases bare : texts = []
  · subst bare
    rfl
  · obtain ⟨more, opens, long⟩ := renderItems_spelled bare
    have written : (ofTexts texts).render.toList = '[' :: '\x22' :: (more ++ [']']) := by
      simp only [ofTexts, render, String.toList_append, opens]
      rfl
    have enough : texts.length < 2 * (ofTexts texts).render.toList.length + 1 := by
      rw [written, List.length_cons, List.length_cons, List.length_append]
      omega
    have items := items?_renderItems bare enough []
    rw [opens, List.cons_append] at items
    have value := value?_bracket items
    rw [← written] at value
    simp only [parse?, value, Option.bind_eq_bind, Option.bind_some]
    rfl

end Json

namespace ListColumn

theorem textsIn_ofTexts (texts : List String) : textsIn (Json.ofTexts texts).render = texts := by
  have read : (texts.map Json.text).mapM Json.asText? = some texts := by
    induction texts with
    | nil => rfl
    | cons first others ih =>
        simp only [List.map_cons, List.mapM_cons, Json.asText?, ih]
        rfl
  rw [textsIn, Json.parse?_ofTexts]
  simp only [Option.bind_some, Json.asList?, Json.ofTexts, read, Option.getD_some]

def written (column : ListColumn) (content : ObservationContent) : Json :=
  match column with
  | facts => .ofTexts content.facts
  | concepts => .ofTexts content.concepts
  | filesRead => .ofTexts content.filesRead
  | filesModified => .ofTexts content.filesModified
  | fileTimes => ObservationContent.timesToJson content.fileTimes

end ListColumn

/-- The content after its lists of texts were written to their columns and read from there. -/
def ObservationContent.reread (content : ObservationContent) : ObservationContent :=
  let columns : List ListColumn := [.facts, .concepts, .filesRead, .filesModified]
  let blank := { content with facts := [], concepts := [], filesRead := [], filesModified := [] }
  columns.foldl (fun read column => column.read (column.written content).render read) blank

theorem ObservationContent.reread_eq (content : ObservationContent) :
    content.reread = content := by
  simp only [reread, List.foldl_cons, List.foldl_nil, ListColumn.read, ListColumn.written,
    ListColumn.textsIn_ofTexts]

end Recall
