import Mathlib.Data.List.DropRight
import Recall.Proofs.Titles

namespace Recall

namespace Text

variable {text core : List Char}

def Closed (text : List Char) : Prop := ∀ c ∈ text.getLast?, isWhiteSpace c = false

structure Trimmed (text : List Char) : Prop where
  opened : ∀ c ∈ text.head?, isWhiteSpace c = false
  closed : Closed text

structure Trims (text core : List Char) : Prop where
  around : ∃ before after, text = before ++ (core ++ after) ∧
    (∀ c ∈ before, isWhiteSpace c = true) ∧ ∀ c ∈ after, isWhiteSpace c = true
  trimmed : Trimmed core

/-- The longest beginning of a text within a limit that white space does not end. -/
structure Cuts (limit : Nat) (text kept : List Char) : Prop where
  beginning : kept <+: text
  within : kept.length ≤ limit
  closed : Closed kept
  longest : ∀ other, other <+: text → other.length ≤ limit → Closed other → other <+: kept

theorem trimEndChars_eq (text : List Char) : trimEndChars text = text.rdropWhile isWhiteSpace :=
  rfl

theorem closed_trimEnd (text : List Char) : Closed (trimEndChars text) := by
  intro c last
  rw [trimEndChars_eq] at last
  obtain ⟨filled, rfl⟩ := List.mem_getLast?_eq_getLast last
  exact Bool.eq_false_iff.mpr (List.rdropWhile_last_not isWhiteSpace text filled)

theorem trimEnd_of_closed (closed : Closed text) : trimEndChars text = text := by
  rw [trimEndChars_eq, List.rdropWhile_eq_self_iff]
  intro filled
  exact Bool.eq_false_iff.mp (closed _ (List.getLast?_eq_getLast_of_ne_nil filled))

theorem trimEnd_begins (text : List Char) : trimEndChars text <+: text :=
  List.rdropWhile_prefix isWhiteSpace text

theorem trimEnd_append_white (text : List Char) {after : List Char}
    (white : ∀ c ∈ after, isWhiteSpace c = true) :
    trimEndChars (text ++ after) = trimEndChars text := by
  rw [trimEndChars, List.reverse_append, List.dropWhile_append_of_pos, trimEndChars]
  intro c member
  exact white c (List.mem_reverse.mp member)

theorem trimStart_append_white {before : List Char} (white : ∀ c ∈ before, isWhiteSpace c = true)
    (text : List Char) : trimStartChars (before ++ text) = trimStartChars text :=
  List.dropWhile_append_of_pos white

theorem beginning_trimEnd (closed : Closed text) (after : List Char) :
    text <+: trimEndChars (text ++ after) := by
  induction after using List.reverseRecOn with
  | nil =>
      have whole : trimEndChars (text ++ []) = text := by
        rw [List.append_nil, trimEnd_of_closed closed]
      exact ⟨[], (List.append_nil text).trans whole.symm⟩
  | append_singleton after c ih =>
      rw [← List.append_assoc, trimEndChars_eq, List.rdropWhile_concat]
      split
      · exact ih
      · rw [List.append_assoc]
        exact List.prefix_append _ _

theorem cuts_trimEnd (limit : Nat) (text : List Char) :
    Cuts limit text (trimEndChars (text.take limit)) where
  beginning := (trimEnd_begins _).trans (List.take_prefix limit text)
  within := (trimEnd_begins _).length_le.trans (List.length_take_le limit text)
  closed := closed_trimEnd _
  longest other begins short closed := by
    obtain ⟨after, whole⟩ := List.prefix_take_iff.mpr ⟨begins, short⟩
    rw [← whole]
    exact beginning_trimEnd closed after

theorem trimStart_opened (text : List Char) :
    ∀ c ∈ (trimStartChars text).head?, isWhiteSpace c = false := by
  intro c first
  have stopped := List.head?_dropWhile_not isWhiteSpace text
  rw [← trimStartChars, first] at stopped
  exact stopped

theorem head?_of_beginning {front : List Char} (beginning : front <+: text) {c : Char}
    (first : c ∈ front.head?) : c ∈ text.head? := by
  obtain ⟨rest, rfl⟩ := beginning
  rw [List.head?_append, first]
  rfl

theorem trimmed_trim (text : List Char) : Trimmed (trimChars text) where
  opened c first := trimStart_opened text c (head?_of_beginning (trimEnd_begins _) first)
  closed := closed_trimEnd _

theorem trims_trim (text : List Char) : Trims text (trimChars text) where
  around := by
    let rest := trimStartChars text
    refine ⟨text.takeWhile isWhiteSpace, (rest.reverse.takeWhile isWhiteSpace).reverse, ?_, ?_, ?_⟩
    · rw [trimChars, trimEndChars, ← List.reverse_append, List.takeWhile_append_dropWhile,
        List.reverse_reverse]
      exact List.takeWhile_append_dropWhile.symm
    · intro c member
      exact List.mem_takeWhile_imp member
    · intro c member
      exact List.mem_takeWhile_imp (List.mem_reverse.mp member)
  trimmed := trimmed_trim text

theorem Trimmed.trimStart (trimmed : Trimmed core) (after : List Char)
    (white : ∀ c ∈ after, isWhiteSpace c = true) :
    trimStartChars (core ++ after) = if core = [] then [] else core ++ after := by
  cases core with
  | nil => exact List.dropWhile_eq_nil_iff.mpr white
  | cons c rest =>
      have black : ¬ isWhiteSpace c = true := Bool.eq_false_iff.mp (trimmed.opened c rfl)
      exact List.dropWhile_cons_of_neg black

/-- There is only one way to trim a text. -/
theorem trims_iff : Trims text core ↔ core = trimChars text := by
  constructor
  · rintro ⟨⟨before, after, rfl, left, right⟩, trimmed⟩
    rw [trimChars, trimStart_append_white left, trimmed.trimStart after right]
    split
    · rename_i empty
      exact empty
    · rw [trimEnd_append_white core right, trimEnd_of_closed trimmed.closed]
  · rintro rfl
    exact trims_trim text

theorem trim_of_trimmed (trimmed : Trimmed text) : trimChars text = text := by
  have already : Trims text text :=
    ⟨⟨[], [], by simp, List.forall_mem_nil _, List.forall_mem_nil _⟩, trimmed⟩
  exact (trims_iff.mp already).symm

theorem Cuts.ne_nil {limit : Nat} {kept : List Char} (cuts : Cuts limit text kept)
    (trimmed : Trimmed text) (filled : text ≠ []) (room : 0 < limit) : kept ≠ [] := by
  obtain ⟨c, rest, rfl⟩ := List.exists_cons_of_ne_nil filled
  have alone : Closed [c] := by
    intro last same
    cases same
    exact trimmed.opened c rfl
  have first : [c] <+: kept := cuts.longest [c] ⟨rest, rfl⟩ room alone
  exact List.ne_nil_of_mem (first.subset (List.mem_singleton_self c))

theorem Trimmed.append_dots {kept : List Char} (trimmed : Trimmed text) (beginning : kept <+: text)
    (filled : kept ≠ []) : Trimmed (kept ++ ['.', '.', '.']) where
  opened c first := by
    obtain ⟨d, rest, rfl⟩ := List.exists_cons_of_ne_nil filled
    exact trimmed.opened c (head?_of_beginning beginning first)
  closed c last := by
    have dot : c = '.' := by simpa [eq_comm] using last
    rw [dot]
    decide +kernel

end Text

theorem truncateTitle_of_short {text : String} (short : (Text.trim text).length ≤ 100) :
    truncateTitle text = Text.trim text := by
  simp only [truncateTitle, if_pos short]

theorem truncateTitle_of_long {text : String} (long : 100 < (Text.trim text).length) :
    truncateTitle text =
      String.ofList (Text.trimEndChars ((Text.trim text).toList.take 97)) ++ "..." := by
  simp only [truncateTitle, if_neg (Nat.not_le.mpr long), Text.trimEnd, String.toList_ofList]

theorem trim_toList (text : String) : (Text.trim text).toList = Text.trimChars text.toList :=
  String.toList_ofList

theorem cut_of_long {text : String} (long : 100 < (Text.trim text).length) :
    ∃ kept : String, kept ≠ "" ∧ Text.Cuts 97 (Text.trim text).toList kept.toList ∧
      truncateTitle text = kept ++ "..." := by
  have trimmed := Text.trimmed_trim text.toList
  rw [← trim_toList] at trimmed
  have filled : (Text.trim text).toList ≠ [] := by
    apply List.ne_nil_of_length_pos
    rw [String.length_toList]
    omega
  have cuts := Text.cuts_trimEnd 97 (Text.trim text).toList
  refine ⟨_, ?_, by rwa [String.toList_ofList], truncateTitle_of_long long⟩
  intro empty
  apply cuts.ne_nil trimmed filled (by decide)
  rw [← String.toList_ofList (l := Text.trimEndChars _), empty]
  rfl

theorem truncateTitle_trimmed (text : String) : Text.Trimmed (truncateTitle text).toList := by
  have trimmed := Text.trimmed_trim text.toList
  rw [← trim_toList] at trimmed
  by_cases short : (Text.trim text).length ≤ 100
  · rw [truncateTitle_of_short short]
    exact trimmed
  · obtain ⟨kept, filled, cuts, title⟩ := cut_of_long (Nat.not_le.mp short)
    rw [title, String.toList_append]
    apply trimmed.append_dots cuts.beginning
    intro empty
    exact filled (String.toList_eq_nil_iff.mp empty)

/-- A title is neither too long nor padded, and so it is shown as it is. -/
theorem truncateTitle_shortens (text : String) :
    Text.Trims text.toList (Text.trim text).toList ∧
    (truncateTitle text).length ≤ 100 ∧ Text.Trimmed (truncateTitle text).toList ∧
    ((Text.trim text).length ≤ 100 → truncateTitle text = Text.trim text) ∧
    (100 < (Text.trim text).length → ∃ kept : String, kept ≠ "" ∧
      Text.Cuts 97 (Text.trim text).toList kept.toList ∧ truncateTitle text = kept ++ "...") ∧
    truncateTitle (truncateTitle text) = truncateTitle text := by
  have short : (truncateTitle text).length ≤ 100 := truncateTitle_length_le text
  have trimmed : Text.Trimmed (truncateTitle text).toList := truncateTitle_trimmed text
  have kept : Text.trim (truncateTitle text) = truncateTitle text := by
    rw [Text.trim, Text.trim_of_trimmed trimmed, String.ofList_toList]
  refine ⟨?_, short, trimmed, truncateTitle_of_short, cut_of_long, ?_⟩
  · rw [trim_toList]
    exact Text.trims_trim text.toList
  · rw [truncateTitle_of_short (by rwa [kept]), kept]

end Recall
