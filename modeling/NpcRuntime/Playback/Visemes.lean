import NpcRuntime.Lib.Text
import NpcRuntime.Playback.Wire

/-!
# The cues of a speech stream

How the producer turns the timing of a speech provider into cues of the wire format. A symbol is
looked up in tables of names. `str::to_lowercase` is an argument.
-/

namespace NpcRuntime.Playback.Host

open Text

/-! ## Symbols -/

inductive SpeechTimingSymbolKind where
  | providerViseme | phoneme
deriving DecidableEq

/-- The times are in nanoseconds. -/
structure AlignmentEvent where
  audioOffset : Nat
  audioDuration : Option Nat
  viseme : Option Text
  symbolKind : Option SpeechTimingSymbolKind
  symbolProviderId : Option Text
  symbolModelId : Option Text
deriving DecidableEq

/-- Names, each row with what they stand for. -/
abbrev SymbolTable := List (List String × UInt8)

def SymbolTable.lookup (table : SymbolTable) (symbol : Text) : Option UInt8 :=
  (table.find? fun row => row.1.any fun name => name.toList == symbol).map Prod.snd

/-- The names of the places of articulation. -/
def articulations : SymbolTable :=
  [(["silence", "silent", "rest", "pause"], 0), (["bilabial"], 1),
    (["labiodental", "labio_dental"], 2), (["dental"], 3), (["alveolar"], 4),
    (["postalveolar", "post_alveolar"], 5), (["palatal"], 6), (["velar"], 7),
    (["rounded", "rounded_vowel"], 8), (["open", "open_vowel"], 9),
    (["spread", "spread_vowel"], 10)]

/-- Phonetic letters that ASCII does not have. -/
def phoneticLetters : SymbolTable :=
  [(["θ", "ð"], 3), (["ʃ", "ʒ", "tʃ", "dʒ"], 5), (["j", "ç"], 6), (["ŋ", "x", "ɣ"], 7),
    (["ɹ", "ɻ"], 6), (["ʊ", "ɔ", "ø", "œ", "y"], 8), (["ɑ", "ɐ", "ʌ", "ə", "ɜ", "ɞ"], 9),
    (["ɪ", "ɛ", "æ"], 10)]

def phonemes : SymbolTable :=
  [(["SIL", "SP", "PAU", "_"], 0), (["PP", "P", "B", "M"], 1), (["FF", "F", "V"], 2),
    (["TH", "DH"], 3), (["DD", "SS", "NN", "T", "D", "S", "Z", "N", "L"], 4),
    (["CH", "SH", "ZH", "JH"], 5), (["RR", "R", "Y"], 6), (["KK", "K", "G", "NG"], 7),
    (["OH", "OU", "W", "UW", "UH", "OW", "OY", "AO", "U", "O"], 8),
    (["AA", "A", "AH", "AW", "AY", "ER"], 9), (["E", "IH", "IY", "EH", "EY", "I", "AE"], 10)]

def cartesiaPhonemes : SymbolTable :=
  [(["sil", "sp", "pau", "_"], 0), (["p", "b", "m"], 1), (["f", "v"], 2), (["θ", "ð"], 3),
    (["t", "d", "s", "z", "n", "l"], 4), (["ʃ", "ʒ", "tʃ", "dʒ"], 5), (["j", "ç"], 6),
    (["k", "g", "ŋ", "x"], 7), (["u", "o", "ɔ", "ʊ", "w"], 8),
    (["a", "ɑ", "æ", "ə", "ʌ", "ɛ", "ɜ"], 9), (["i", "ɪ", "e", "ei", "eɪ"], 10)]

def providerVisemes : SymbolTable :=
  [(["silence", "silent", "rest", "pause"], 0), (["bilabial", "pp"], 1),
    (["labiodental", "labio_dental", "ff"], 2), (["dental", "th"], 3),
    (["alveolar", "dd", "ss", "nn"], 4), (["postalveolar", "post_alveolar", "ch"], 5),
    (["palatal", "rr"], 6), (["velar", "kk"], 7), (["rounded", "rounded_vowel", "oh", "ou"], 8),
    (["open", "open_vowel", "aa"], 9), (["spread", "spread_vowel", "e", "ih"], 10)]

/-- The rows of `azure_viseme`. -/
def azureVisemes : List (List Nat × UInt8) :=
  [([0], 0), ([21], 1), ([18], 2), ([17], 3), ([14, 15, 19], 4), ([16], 5), ([13], 6), ([20], 7),
    ([3, 7, 8, 10], 8), ([1, 2, 5, 9, 11, 12], 9), ([4, 6], 10)]

def azureViseme (id : Nat) : Option UInt8 :=
  (azureVisemes.find? fun row => row.1.contains id).map Prod.snd

/-- `str::parse::<u8>`, of decimal digits. -/
def parseU8 (digits : Text) : Option Nat :=
  if Nat.ofDigitChars 10 digits 0 ≤ 255 then some (Nat.ofDigitChars 10 digits 0) else none

/-- Dashes and spaces become underscores. -/
def underscored (symbol : Text) : Text :=
  symbol.map fun c => if c = '-' ∨ c = ' ' then '_' else c

section

variable (toLowercase : Text → Text)

def canonicalViseme (symbol : Text) : Option UInt8 :=
  let symbol := trim symbol
  if symbol.isEmpty then none
  else if symbol.all Char.isDigit then (parseU8 symbol).bind azureViseme
  else
    let phoneme := (symbol.rdropWhile Char.isDigit).map Char.toUpper
    (articulations.lookup (underscored (toLowercase symbol)) <|> phoneticLetters.lookup symbol) <|>
      phonemes.lookup phoneme

def canonicalCartesiaPhoneme (symbol : Text) : Option UInt8 :=
  cartesiaPhonemes.lookup (toLowercase (trim symbol))

def canonicalProviderViseme (symbol : Text) : Option UInt8 :=
  providerVisemes.lookup (underscored (toLowercase (trim symbol)))

def canonicalTimingSymbol (alignment : AlignmentEvent) : Option UInt8 := do
  let symbol ← alignment.viseme
  match alignment.symbolKind with
  | none => canonicalViseme toLowercase symbol
  | some .phoneme =>
    if alignment.symbolProviderId = some "cartesia".toList ∧
        alignment.symbolModelId = some "sonic-3.6".toList then
      canonicalCartesiaPhoneme toLowercase symbol
    else none
  | some .providerViseme => canonicalProviderViseme toLowercase symbol

end

/-! ## Cues -/

def defaultVisualCueDuration : Nat := 80 * 1000000
def visualCueFullStrengthQ15 : UInt16 := 32767

def durationToSamples (duration : Nat) (sampleRate : UInt32) : Option UInt64 :=
  if duration * sampleRate.toNat < 2 ^ 128 then
    let samples := duration * sampleRate.toNat / 1000000000
    if samples < 2 ^ 64 then some (UInt64.ofNat samples) else none
  else none

/-- The cue of an alignment, inside the frames of the lease. -/
def visualCue (toLowercase : Text → Text) (alignment : AlignmentEvent) (lease : PlaybackLease) :
    Option VisualSpeechCue := do
  let viseme ← canonicalTimingSymbol toLowercase alignment
  let startSample ← durationToSamples alignment.audioOffset lease.sampleRate
  if startSample ≥ lease.maxFrames then none
  else
    let duration := alignment.audioDuration.getD defaultVisualCueDuration
    if duration = 0 then none
    else do
      let requestedDuration ← durationToSamples duration lease.sampleRate
      if requestedDuration = 0 then none
      else
        let durationSamples := min requestedDuration (lease.maxFrames - startSample)
        if durationSamples = 0 then none
        else some ⟨startSample, durationSamples, viseme, visualCueFullStrengthQ15⟩

/-! ## What a cue is -/

variable {code : UInt8}

/-- What a table can give. -/
theorem SymbolTable.lookup_mem {table : SymbolTable} {symbol : Text}
    (h : table.lookup symbol = some code) : code ∈ table.map Prod.snd := by
  obtain ⟨row, hfound, rfl⟩ := Option.map_eq_some_iff.1 h
  exact List.mem_map_of_mem (List.mem_of_find?_eq_some hfound)

theorem azureViseme_mem {id : Nat} (h : azureViseme id = some code) :
    code ∈ azureVisemes.map Prod.snd := by
  obtain ⟨row, hfound, rfl⟩ := Option.map_eq_some_iff.1 h
  exact List.mem_map_of_mem (List.mem_of_find?_eq_some hfound)

variable {toLowercase : Text → Text} {alignment : AlignmentEvent} {lease : PlaybackLease}

/-- The visemes are those that the session knows. -/
theorem canonicalTimingSymbol_le (h : canonicalTimingSymbol toLowercase alignment = some code) :
    code ≤ 10 := by
  have htable : ∀ table ∈ [articulations, phoneticLetters, phonemes, cartesiaPhonemes,
      providerVisemes], ∀ symbol, table.lookup symbol = some code → code ≤ 10 := by
    intro table htable symbol hlookup
    have hcodes : ∀ table ∈ [articulations, phoneticLetters, phonemes, cartesiaPhonemes,
        providerVisemes], ∀ code ∈ table.map Prod.snd, code ≤ 10 := by
      decide +kernel
    exact hcodes table htable code (SymbolTable.lookup_mem hlookup)
  obtain ⟨symbol, hsymbol, hcode⟩ := Option.bind_eq_some_iff.1 h
  cases hkind : alignment.symbolKind with
  | none =>
    simp only [hkind, canonicalViseme] at hcode
    by_cases hempty : (trim symbol).isEmpty = true
    · rw [if_pos hempty] at hcode
      cases hcode
    rw [if_neg hempty] at hcode
    by_cases hdigits : (trim symbol).all Char.isDigit = true
    · rw [if_pos hdigits] at hcode
      obtain ⟨id, -, hazure⟩ := Option.bind_eq_some_iff.1 hcode
      have hcodes : ∀ code ∈ azureVisemes.map Prod.snd, code ≤ 10 := by decide +kernel
      exact hcodes code (azureViseme_mem hazure)
    · rw [if_neg hdigits] at hcode
      rcases (Option.orElse_eq_some _ _ _).1 hcode with hnamed | ⟨-, hphoneme⟩
      · rcases (Option.orElse_eq_some _ _ _).1 hnamed with harticulation | ⟨-, hletter⟩
        · exact htable _ (by simp) _ harticulation
        · exact htable _ (by simp) _ hletter
      · exact htable _ (by simp) _ hphoneme
  | some kind =>
    cases kind with
    | phoneme =>
      simp only [hkind] at hcode
      split at hcode
      · exact htable _ (by simp) _ hcode
      · cases hcode
    | providerViseme =>
      simp only [hkind] at hcode
      exact htable _ (by simp) _ hcode

/-- **A cue lies inside the frames of its lease.** -/
theorem visualCue_valid {cue : VisualSpeechCue}
    (h : visualCue toLowercase alignment lease = some cue) :
    validVisualSpeechCue cue lease.maxFrames.toNat = true := by
  obtain ⟨viseme, hviseme, h⟩ := Option.bind_eq_some_iff.1 h
  obtain ⟨startSample, -, h⟩ := Option.bind_eq_some_iff.1 h
  by_cases hstart : startSample ≥ lease.maxFrames
  · rw [if_pos hstart] at h
    cases h
  rw [if_neg hstart] at h
  by_cases hduration : alignment.audioDuration.getD defaultVisualCueDuration = 0
  · rw [if_pos hduration] at h
    cases h
  rw [if_neg hduration] at h
  obtain ⟨requestedDuration, -, h⟩ := Option.bind_eq_some_iff.1 h
  by_cases hrequested : requestedDuration = 0
  · rw [if_pos hrequested] at h
    cases h
  rw [if_neg hrequested] at h
  by_cases hsamples : min requestedDuration (lease.maxFrames - startSample) = 0
  · rw [if_pos hsamples] at h
    cases h
  rw [if_neg hsamples] at h
  obtain rfl := Option.some.inj h
  have hle := canonicalTimingSymbol_le hviseme
  have hlt : startSample.toNat < lease.maxFrames.toNat :=
    UInt64.lt_iff_toNat_lt.1 (by simpa using hstart)
  have hroom : (min requestedDuration (lease.maxFrames - startSample)).toNat ≤
      lease.maxFrames.toNat - startSample.toNat := by
    rw [← UInt64.toNat_sub_of_le _ _ (UInt64.le_iff_toNat_le.2 hlt.le)]
    show (ite (requestedDuration ≤ lease.maxFrames - startSample) _ _ : UInt64).toNat ≤ _
    by_cases hfits : requestedDuration ≤ lease.maxFrames - startSample
    · rw [if_pos hfits]
      exact UInt64.le_iff_toNat_le.1 hfits
    · rw [if_neg hfits]
  simp only [validVisualSpeechCue, Bool.and_eq_true, bne_iff_ne, decide_eq_true_eq]
  exact ⟨⟨⟨⟨hsamples, hle⟩, by decide⟩, hlt.le⟩, hroom⟩

end NpcRuntime.Playback.Host
