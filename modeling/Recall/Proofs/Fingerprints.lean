import Recall.Embedding.ModelFiles
import Recall.Proofs.Reembedding

/-!
What the fingerprint of model files tells. The bytes that are hashed are those of the one file
and then those of the other, however they are read, and nothing stands between them. So two
pairs of files have one fingerprint exactly when bytes have moved from one file to the other
across that boundary, unless their digests collide.
-/

namespace Recall

namespace Digest

theorem digitChar_injective : ∀ m < 16, ∀ n < 16, Nat.digitChar m = Nat.digitChar n → m = n := by
  decide

theorem hexText_toList (bytes : List UInt8) : (hexText bytes).toList = bytes.flatMap fun b =>
    [Nat.digitChar (b.toNat / 16), Nat.digitChar (b.toNat % 16)] := by
  rw [hexText, String.toList_ofList]

theorem hexText_injective {first second : List UInt8} (same : hexText first = hexText second) :
    first = second := by
  replace same := congrArg String.toList same
  rw [hexText_toList, hexText_toList] at same
  induction first generalizing second with
  | nil =>
      cases second with
      | nil => rfl
      | cons other others => cases same
  | cons byte rest ih =>
      cases second with
      | nil => cases same
      | cons other others =>
          simp only [List.flatMap_cons, List.cons_append, List.nil_append, List.cons.injEq] at same
          obtain ⟨high, low, further⟩ := same
          have bound := byte.toNat_lt
          have otherBound := other.toNat_lt
          have highs := digitChar_injective _ (by omega) _ (by omega) high
          have lows := digitChar_injective _ (by omega) _ (by omega) low
          have bytes : byte = other := UInt8.toNat_inj.mp (by omega)
          rw [bytes, ih further]

theorem length_sha256 (bytes : List UInt8) : (sha256 bytes).length = 32 := by
  simp [sha256, bigEndian]

theorem length_hexText (bytes : List UInt8) : (hexText bytes).length = 2 * bytes.length := by
  rw [← String.length_toList, hexText_toList]
  induction bytes with
  | nil => rfl
  | cons byte rest ih =>
      simp only [List.flatMap_cons, List.length_append, ih, List.length_cons, List.length_nil]
      omega

/-- Different bytes whose digests begin with the same six bytes. -/
def Collide (first second : List UInt8) : Prop :=
  first ≠ second ∧ (sha256 first).take 6 = (sha256 second).take 6

instance (first second : List UInt8) : Decidable (Collide first second) :=
  inferInstanceAs (Decidable (_ ∧ _))

end Digest

theorem VectorIndex.mem_stale_of_add {index after : VectorIndex} {writer reader : Embedder}
    {documents : List Document} {count : Nat}
    (added : (index.reopen writer).add documents = .ok (after, count)) {document : Document}
    (own : document.LastIn documents) :
    document ∈ (after.reopen reader).staleDocuments ↔ writer.version ≠ reader.version := by
  have online := (whenOnline_ok added).1
  obtain ⟨-, vectors, made, rfl⟩ := (add_ok_iff online).mp added
  have counted : vectors.length = documents.length := by
    rw [(embedAll_ok_iff.mp made).1, List.length_map]
  have put : (documents.zip vectors).map Prod.fst = documents :=
    List.map_fst_zip (Nat.le_of_eq counted.symm)
  rw [mem_staleDocuments_iff]
  constructor
  · rintro ⟨d, present, stale, rfl⟩
    rcases mem_documents_puts.mp present with ⟨-, apart⟩ | ⟨version, -⟩
    · rw [put] at apart
      obtain ⟨before, later, whole, -⟩ := own
      exact absurd (List.mem_map_of_mem (whole ▸ List.mem_append_right _ List.mem_cons_self)) apart
    · rw [← show d.version = writer.version from version]
      exact of_decide_eq_true stale
  · intro differ
    refine ⟨⟨document, writer.version⟩, ?_, decide_eq_true differ, rfl⟩
    apply mem_documents_puts.mpr
    rw [put]
    exact Or.inr ⟨rfl, own⟩

namespace Embedding

open Digest (Collide)

/-- How a file can be read: each time at least one byte, and at most as many as the buffer takes,
until nothing is left. -/
inductive ReadIn (buffer : Nat) : (content : List UInt8) → (pieces : List (List UInt8)) → Prop
  | finished : ReadIn buffer [] []
  | piece {piece rest : List UInt8} {pieces : List (List UInt8)} (filled : piece ≠ [])
      (room : piece.length ≤ buffer) (further : ReadIn buffer rest pieces) :
      ReadIn buffer (piece ++ rest) (piece :: pieces)

theorem ReadIn.flatten {buffer : Nat} {content : List UInt8} {pieces : List (List UInt8)}
    (read : ReadIn buffer content pieces) : pieces.flatten = content := by
  induction read with
  | finished => rfl
  | piece some room further ih => rw [List.flatten_cons, ih]

theorem readIn_pieces {buffer : Nat} (room : 0 < buffer) {fuel : Nat} {content : List UInt8}
    (enough : content.length ≤ fuel) : ReadIn buffer content (pieces buffer fuel content) := by
  induction fuel generalizing content with
  | zero =>
      obtain rfl := List.eq_nil_of_length_eq_zero (Nat.le_zero.mp enough)
      exact ReadIn.finished
  | succ fuel ih =>
      cases content with
      | nil => exact ReadIn.finished
      | cons byte rest =>
          rw [List.length_cons] at enough
          have further : ReadIn buffer ((byte :: rest).drop buffer)
              (pieces buffer fuel ((byte :: rest).drop buffer)) := by
            apply ih
            rw [List.length_drop, List.length_cons]
            omega
          have first : (byte :: rest).take buffer ≠ [] := by
            rw [Ne, List.take_eq_nil_iff, not_or]
            exact ⟨Nat.ne_of_gt room, List.cons_ne_nil byte rest⟩
          have read := ReadIn.piece first (List.length_take_le _ _) further
          rwa [List.take_append_drop] at read

namespace ModelFiles

variable {a b : ModelFiles}

theorem hashedBytes_eq {buffer : Nat} (room : 0 < buffer) (files : ModelFiles) :
    files.hashedBytes buffer = files.model ++ files.tokenizer := by
  rw [hashedBytes, List.flatten_append, (readIn_pieces room (Nat.le_refl _)).flatten,
    (readIn_pieces room (Nat.le_refl _)).flatten]

/-- Some bytes, or none, stand at the end of the one model and at the beginning of the other
tokenizer; all else is the same. -/
def Shifted (a b : ModelFiles) : Prop :=
  ∃ moved, (a.model = b.model ++ moved ∧ b.tokenizer = moved ++ a.tokenizer) ∨
    (b.model = a.model ++ moved ∧ a.tokenizer = moved ++ b.tokenizer)

theorem hashedBytes_eq_iff {buffer : Nat} (room : 0 < buffer) :
    a.hashedBytes buffer = b.hashedBytes buffer ↔ Shifted a b := by
  rw [hashedBytes_eq room, hashedBytes_eq room, List.append_eq_append_iff, Shifted, ← exists_or]
  exact exists_congr fun moved => or_comm

theorem Shifted.eq_of_length (shifted : Shifted a b)
    (fixed : a.model.length = b.model.length ∨ a.tokenizer.length = b.tokenizer.length) :
    a = b := by
  obtain ⟨moved, halves⟩ := shifted
  have unmoved : moved = [] := by
    apply List.eq_nil_of_length_eq_zero
    rcases halves with ⟨models, tokenizers⟩ | ⟨models, tokenizers⟩
    · rw [models, tokenizers, List.length_append, List.length_append] at fixed
      omega
    · rw [models, tokenizers, List.length_append, List.length_append] at fixed
      omega
  have same : a.model = b.model ∧ a.tokenizer = b.tokenizer := by
    rcases halves with ⟨models, tokenizers⟩ | ⟨models, tokenizers⟩
    · simpa [unmoved] using And.intro models tokenizers.symm
    · simpa [unmoved] using And.intro models.symm tokenizers
  cases a
  cases b
  rw [ModelFiles.mk.injEq]
  exact same

theorem fingerprint_eq_iff (free : ¬ Collide (a.model ++ a.tokenizer) (b.model ++ b.tokenizer)) :
    a.fingerprint = b.fingerprint ↔ Shifted a b := by
  have room : 0 < 65536 := by decide
  rw [← hashedBytes_eq_iff room]
  rw [← hashedBytes_eq room, ← hashedBytes_eq room] at free
  constructor
  · intro same
    by_contra differ
    exact free ⟨differ, Digest.hexText_injective same⟩
  · intro same
    rw [fingerprint, fingerprint, same]

theorem length_fingerprint (files : ModelFiles) : files.fingerprint.length = 12 := by
  rw [fingerprint, Digest.length_hexText, List.length_take, Digest.length_sha256]
  decide

theorem version_eq_iff (free : ¬ Collide (a.model ++ a.tokenizer) (b.model ++ b.tokenizer))
    {name other : String} : a.version name = b.version other ↔ name = other ∧ Shifted a b := by
  rw [← fingerprint_eq_iff free]
  constructor
  · intro same
    replace same := congrArg String.toList same
    simp only [version, String.toList_append] at same
    have lengths : a.fingerprint.toList.length = b.fingerprint.toList.length := by
      rw [String.length_toList, String.length_toList, length_fingerprint, length_fingerprint]
    obtain ⟨names, fingerprints⟩ := List.append_inj' same lengths
    exact ⟨String.toList_inj.mp (List.append_cancel_right names), String.toList_inj.mp fingerprints⟩
  · rintro ⟨rfl, same⟩
    rw [version, version, same]

end ModelFiles

/-- However the files are read, the fingerprint is that of the one and then the other. Where
digests do not collide, two pairs of files have the same fingerprint, the same versions, and
vectors that are not stale to each other, exactly when one is the other one shifted. -/
theorem fingerprint_same_iff_shifted (a b : ModelFiles)
    (free : ¬ Collide (a.model ++ a.tokenizer) (b.model ++ b.tokenizer)) :
    (∀ (files : ModelFiles) (buffer : Nat) (models tokenizers : List (List UInt8)),
      ReadIn buffer files.model models → ReadIn buffer files.tokenizer tokenizers →
      files.fingerprint =
        Digest.hexText ((Digest.sha256 (models ++ tokenizers).flatten).take 6)) ∧
    (∀ buffer, 0 < buffer → (a.hashedBytes buffer = b.hashedBytes buffer ↔ a.Shifted b)) ∧
    (a.fingerprint = b.fingerprint ↔ a.Shifted b) ∧
    (a.model.length = b.model.length ∨ a.tokenizer.length = b.tokenizer.length →
      (a.fingerprint = b.fingerprint ↔ a = b)) ∧
    (∀ name other, a.version name = b.version other ↔ name = other ∧ a.Shifted b) ∧
    ∀ (index after : VectorIndex) (writer reader : Embedder) (name : String)
      (documents : List Document) (count : Nat),
      writer.version = b.version name → reader.version = a.version name →
      (index.reopen writer).add documents = .ok (after, count) →
      ∀ document, document.LastIn documents →
        (document ∈ (after.reopen reader).staleDocuments ↔ ¬ a.Shifted b) := by
  have same := ModelFiles.fingerprint_eq_iff free
  refine ⟨?_, fun buffer room => ModelFiles.hashedBytes_eq_iff room, same, ?_,
    fun name other => ModelFiles.version_eq_iff free, ?_⟩
  · intro files buffer models tokenizers first second
    rw [List.flatten_append, first.flatten, second.flatten, ModelFiles.fingerprint,
      ModelFiles.hashedBytes_eq (by decide)]
  · intro fixed
    rw [same]
    constructor
    · intro shifted
      exact shifted.eq_of_length fixed
    · rintro rfl
      exact ⟨[], Or.inl ⟨(List.append_nil _).symm, rfl⟩⟩
  · intro index after writer reader name documents count written read added document last
    rw [VectorIndex.mem_stale_of_add added last, written, read, ne_comm, Ne,
      ModelFiles.version_eq_iff free]
    simp

def retrained (version : String) : ModelFiles :=
  ⟨("weights-" ++ version).toUTF8.toList, "\x7b\x7d".toUTF8.toList⟩

theorem retrained_told_apart :
    let old := retrained "v1"
    let new := retrained "v2"
    ¬ Collide (new.model ++ new.tokenizer) (old.model ++ old.tokenizer) ∧
      ¬ new.Shifted old ∧ new.fingerprint ≠ old.fingerprint ∧
      ∃ after,
        VectorIndex.add { embedder := { constantEmbedder with version := old.version "m" } }
          [note "a" "rose"] = .ok (after, 1) ∧
        note "a" "rose" ∈ (after.reopen
          { constantEmbedder with version := new.version "m" }).staleDocuments := by
  intro old new
  have free : ¬ Collide (new.model ++ new.tokenizer) (old.model ++ old.tokenizer) := by
    decide +kernel
  obtain ⟨-, -, same, fixed, -, stale⟩ := fingerprint_same_iff_shifted new old free
  have differ : new ≠ old := by decide +kernel
  have told : new.fingerprint ≠ old.fingerprint := by
    rw [Ne, fixed (Or.inl (by decide +kernel))]
    exact differ
  have apart : ¬ new.Shifted old := by
    rwa [← same]
  refine ⟨free, apart, told, _, rfl, ?_⟩
  apply (stale { embedder := constantEmbedder } _
    { constantEmbedder with version := old.version "m" }
    { constantEmbedder with version := new.version "m" } "m" [note "a" "rose"] 1 rfl rfl rfl _
    ⟨[], [], rfl, List.not_mem_nil⟩).mpr
  exact apart

theorem shifted_taken_for_same :
    let files : ModelFiles := ⟨[97, 98], [99]⟩
    let others : ModelFiles := ⟨[97], [98, 99]⟩
    files ≠ others ∧ files.hashedBytes 65536 = others.hashedBytes 65536 ∧
      files.fingerprint = "ba7816bf8f01" ∧ others.fingerprint = "ba7816bf8f01" ∧
      ∀ name, files.version name = others.version name := by
  intro files others
  have first : files.fingerprint = "ba7816bf8f01" := by decide +kernel
  have second : others.fingerprint = "ba7816bf8f01" := by decide +kernel
  refine ⟨by decide, by decide, first, second, fun name => ?_⟩
  rw [ModelFiles.version, ModelFiles.version, first, second]

end Embedding

end Recall
