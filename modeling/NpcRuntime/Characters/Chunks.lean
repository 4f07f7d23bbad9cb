import NpcRuntime.Characters.Import

/-!
# Chunks lose nothing

`split_chunks` of `character-db/src/import.rs` cuts a text at its blank lines, trims the paragraphs
and packs them into chunks; what is too long it cuts between characters. Apart from white space the
records of a text hold the text, in its order, and none is empty or too long.
-/

namespace NpcRuntime.Characters

open Text

/-- A text without its white space. -/
def solid (text : Text) : Text := text.filter fun c => !isWhitespace c

@[simp] theorem solid_nil : solid [] = [] := rfl

@[simp] theorem solid_append (a b : Text) : solid (a ++ b) = solid a ++ solid b :=
  List.filter_append _ _

@[simp] theorem solid_blankLine (text : Text) : solid ('\n' :: '\n' :: text) = solid text := rfl

theorem filter_dropWhile_not {α : Type} (p : α → Bool) (l : List α) :
    (l.dropWhile p).filter (fun a => !p a) = l.filter fun a => !p a := by
  induction l with
  | nil => rfl
  | cons a l ih => by_cases ha : p a = true <;> simp [ha, ih]

theorem solid_trim (text : Text) : solid text.trim = solid text := by
  unfold solid Text.trim trimEnd trimStart
  rw [List.rdropWhile, List.filter_reverse, filter_dropWhile_not, List.filter_reverse,
    List.reverse_reverse, filter_dropWhile_not]

theorem solid_splitParagraphsFrom (part text : Text) :
    solid (splitParagraphsFrom part text).flatten = solid (part ++ text) := by
  induction part, text using splitParagraphsFrom.induct with
  | case1 part rest ih =>
    rw [splitParagraphsFrom, List.flatten_cons, solid_append, ih, List.nil_append, solid_append,
      solid_blankLine]
  | case2 part c rest hline ih =>
    rw [splitParagraphsFrom, ih, List.append_assoc, List.singleton_append]
    exact hline
  | case3 part => simp [splitParagraphsFrom]

variable {maxBytes : Nat}

/-! ## Fragments -/

theorem fragments_flatten (fragment text : Text) :
    (fragments maxBytes fragment text).flatten = fragment ++ text := by
  induction text generalizing fragment with
  | nil => cases fragment <;> simp [fragments]
  | cons c text ih =>
    unfold fragments
    by_cases hfull : fragment.utf8Len + c.utf8Size > maxBytes
    · simp [hfull, ih]
    · simp [hfull, ih]

/-- A text for a record. -/
def Fits (maxBytes : Nat) (chunk : Text) : Prop := chunk ≠ [] ∧ chunk.utf8Len ≤ maxBytes

/-- What is left open at the end. -/
theorem open_fit {chunk : Text} (h : chunk.utf8Len ≤ maxBytes) :
    ∀ last ∈ (if chunk.isEmpty then [] else [chunk]), Fits maxBytes last := by
  cases chunk with
  | nil => exact List.forall_mem_nil _
  | cons c chunk => exact List.forall_mem_singleton.2 ⟨List.cons_ne_nil _ _, h⟩

/-- A fragment is cut off when the next character is too much, and no character is too much for an
empty one. -/
theorem fragments_fit (hmax : 4 ≤ maxBytes) {fragment : Text} (hfits : fragment.utf8Len ≤ maxBytes)
    (text : Text) : ∀ chunk ∈ fragments maxBytes fragment text, Fits maxBytes chunk := by
  induction text generalizing fragment with
  | nil => exact open_fit hfits
  | cons c text ih =>
    have hc : c.utf8Size ≤ 4 := c.utf8Size_le_four
    unfold fragments
    by_cases hfull : fragment.utf8Len + c.utf8Size > maxBytes
    · rw [if_pos hfull, List.forall_mem_cons]
      refine ⟨⟨?_, hfits⟩, ih (by simp; omega)⟩
      rintro rfl
      rw [utf8Len_nil] at hfull
      omega
    · rw [if_neg hfull]
      exact ih (by simp; omega)

/-! ## Chunks -/

/-- What is still open, and the paragraphs to come. -/
theorem chunksFrom_solid (current : Text) (parts : List Text) :
    solid (chunksFrom maxBytes current parts).flatten = solid current ++ solid parts.flatten := by
  induction parts generalizing current with
  | nil => cases current <;> simp [chunksFrom]
  | cons part parts ih =>
    have hclosed : (if current.isEmpty then [] else [current]).flatten = current := by
      cases current <;> simp
    rw [List.flatten_cons, solid_append, ← solid_trim part]
    unfold chunksFrom
    dsimp only
    by_cases hempty : part.trim.isEmpty = true
    · rw [if_pos hempty, ih, List.isEmpty_iff.1 hempty, solid_nil, List.nil_append]
    · rw [if_neg hempty]
      by_cases hlong : part.trim.utf8Len > maxBytes
      · rw [if_pos hlong, List.flatten_append, List.flatten_append, hclosed, fragments_flatten]
        simp [ih]
      · rw [if_neg hlong]
        split_ifs with hopen
        · simp [ih]
        · simp [ih, List.isEmpty_iff.1 hopen]
        · simp [ih]
        · simp [ih]

/-- A chunk is closed when the next paragraph is too much, and a paragraph that is not cut is not
too much for an empty one. -/
theorem chunksFrom_fit (hmax : 4 ≤ maxBytes) {current : Text} (hfits : current.utf8Len ≤ maxBytes)
    (parts : List Text) : ∀ chunk ∈ chunksFrom maxBytes current parts, Fits maxBytes chunk := by
  induction parts generalizing current with
  | nil => exact open_fit hfits
  | cons part parts ih =>
    unfold chunksFrom
    dsimp only
    by_cases hempty : part.trim.isEmpty = true
    · rw [if_pos hempty]
      exact ih hfits
    · rw [if_neg hempty]
      by_cases hlong : part.trim.utf8Len > maxBytes
      · rw [if_pos hlong, List.forall_mem_append, List.forall_mem_append]
        exact ⟨⟨open_fit hfits, fragments_fit hmax (Nat.zero_le _) _⟩, ih (Nat.zero_le _)⟩
      · rw [if_neg hlong]
        have hrest := @ih part.trim (not_lt.1 hlong)
        split_ifs with hnone hfull hfull
        · rw [List.isEmpty_iff.1 hnone, utf8Len_nil] at hfull
          omega
        · exact hrest
        · exact List.forall_mem_cons.2 ⟨⟨fun h => hnone (List.isEmpty_iff.2 h), hfits⟩, hrest⟩
        · refine ih ?_
          have hline : utf8Len ['\n', '\n'] = 2 := by decide
          rw [utf8Len_append, utf8Len_append, hline]
          exact not_lt.1 hfull

/-! ## Records -/

variable (codec : ImportCodec) (idPrefix : Text) (authority : KnowledgeAuthority)
  (owner : Option Text) (spoilerTier source : Text) (profile : GameProfile)

theorem knowledge_addKnowledgeChunks (chunks : List (Text × Nat)) :
    ∃ added, (chunks.foldl (addKnowledgeChunk codec idPrefix authority owner spoilerTier source)
        profile).content.knowledge = profile.content.knowledge ++ added ∧
      added.map (·.text) = chunks.map (·.1) ∧ ∀ record ∈ added, record =
        ⟨record.id, authority, owner, record.text, record.topicTags, spoilerTier, source⟩ := by
  induction chunks generalizing profile with
  | nil => exact ⟨[], (List.append_nil _).symm, rfl, List.forall_mem_nil _⟩
  | cons chunk chunks ih =>
    have hfirst : ∃ record, (addKnowledgeChunk codec idPrefix authority owner spoilerTier source
        profile chunk).content.knowledge = profile.content.knowledge ++ [record] ∧
        record.text = chunk.1 ∧ record =
          ⟨record.id, authority, owner, record.text, record.topicTags, spoilerTier, source⟩ := by
      cases owner <;> exact ⟨_, rfl, rfl, rfl⟩
    obtain ⟨record, hfirst, htext, hrecord⟩ := hfirst
    obtain ⟨added, hknowledge, htexts, hadded⟩ := ih (addKnowledgeChunk codec idPrefix authority
      owner spoilerTier source profile chunk)
    rw [hfirst, List.append_assoc] at hknowledge
    refine ⟨record :: added, hknowledge, ?_, List.forall_mem_cons.2 ⟨hrecord, hadded⟩⟩
    rw [List.map_cons, List.map_cons, htext, htexts]

/-- **A text is imported whole.** Apart from white space the new records hold the text, in its
order. None is empty or over 16000 bytes, and all have the authority, the owner, the tier and the
source of the text. -/
theorem addKnowledgeChunks_lossless (text : Text) :
    ∃ added, (addKnowledgeChunks codec idPrefix authority owner text spoilerTier source
        profile).content.knowledge = profile.content.knowledge ++ added ∧
      solid (added.map (·.text)).flatten = solid text ∧ ∀ record ∈ added,
        Fits 16000 record.text ∧ record =
          ⟨record.id, authority, owner, record.text, record.topicTags, spoilerTier, source⟩ := by
  obtain ⟨added, hknowledge, htexts, hadded⟩ := knowledge_addKnowledgeChunks codec idPrefix
    authority owner spoilerTier source profile (splitChunks text 16000).zipIdx
  rw [List.zipIdx_map_fst] at htexts
  refine ⟨added, hknowledge, ?_, ?_⟩
  · rw [htexts, splitChunks, chunksFrom_solid, splitParagraphs, solid_splitParagraphsFrom]
    rfl
  · intro record hrecord
    have hchunk : record.text ∈ splitChunks text 16000 := by
      rw [← htexts]
      exact List.mem_map_of_mem hrecord
    have hempty : utf8Len [] ≤ 16000 := Nat.zero_le _
    exact ⟨chunksFrom_fit (by decide) hempty _ _ hchunk, hadded record hrecord⟩

end NpcRuntime.Characters
