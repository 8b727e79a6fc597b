import Polycore.Preset
import Polycore.Proofs.Text.Blanks
import Polycore.Proofs.Text.Letters
import Polycore.Proofs.Text.Numerals

/-!
# Reading presets

Two kinds of texts name a preset, blanks around them aside: codes, which are numerals in the range
of signed words of 32 bits (`IsCode`), and the spellings of the `dictionary`, in any case of letters
and with hyphens or underscores. A text that is a code is not looked up as a name. The main
statement is `reads_exactly_codes_and_names`.
-/

namespace Polycore.Preset

variable {s other : String} {preset : Preset} {text : List Char} {v : Int}

/-! ## Codes -/

/-- The text is a code: a numeral in the range of signed words of 32 bits. -/
def IsCode (text : List Char) : Prop :=
  ∃ v, Numeral.Signed text v ∧ -2 ^ 31 ≤ v ∧ v < 2 ^ 31

theorem code?_eq_some_iff :
    code? text = some v ↔ Numeral.Signed text v ∧ -2 ^ 31 ≤ v ∧ v < 2 ^ 31 := by
  rw [code?, Option.filter_eq_some_iff, Numeral.signed?_eq_some_iff, Bool.and_eq_true,
    decide_eq_true_eq, decide_eq_true_eq]
  rfl

theorem code?_eq_none_iff : code? text = none ↔ ¬IsCode text := by
  simp only [Option.eq_none_iff_forall_ne_some, ne_eq, code?_eq_some_iff, IsCode, not_exists]

theorem ofCode?_eq_some_iff : ofCode? v = some preset ↔ preset.code = v := by
  constructor
  · intro found
    simpa using List.find?_some found
  · rintro rfl
    cases preset <;> rfl

/-- A code has no letters, so no other text differs from it in the case of letters alone. -/
theorem IsCode.eq_of_map_toLower {other : List Char} (h : IsCode text)
    (same : other.map Char.toLower = text.map Char.toLower) : other = text := by
  obtain ⟨v, numeral, -⟩ := h
  exact Text.eq_of_map_toLower_eq numeral.lt_of_mem same

/-! ## Names -/

/-- The nine spellings, each with the preset that it names. -/
def dictionary : List (String × Preset) :=
  [("homogeneous", homogeneous), ("big_little", bigLittle), ("biglittle", bigLittle),
    ("int_and_accel", intAndAccel), ("high_het", highHet), ("highhet", highHet),
    ("only_float", onlyFloat), ("super_slow", superSlow), ("speed_demon", speedDemon)]

theorem find?_of_mem_dictionary : ∀ entry ∈ dictionary,
    (all.find? fun preset => preset.spellings.contains entry.1) = some entry.2 := by
  decide

theorem mem_dictionary_of_mem_spellings (preset : Preset) :
    ∀ word ∈ preset.spellings, (word, preset) ∈ dictionary := by
  cases preset <;> decide

theorem ascii_of_mem_dictionary {word : String} (h : (word, preset) ∈ dictionary) :
    ∀ c ∈ word.toList, c.toNat < 0x80 := by
  have ascii : ∀ entry ∈ dictionary, (entry.1.toList.all (·.toNat < 0x80)) = true := by decide
  simpa using ascii _ h

theorem ofName?_eq_some_iff :
    ofName? text = some preset ↔ (String.ofList (fold text), preset) ∈ dictionary := by
  constructor
  · intro found
    have spelled := List.find?_some found
    exact mem_dictionary_of_mem_spellings preset _ (List.contains_iff_mem.mp spelled)
  · exact find?_of_mem_dictionary _

/-- An underscore for a hyphen. -/
def underscored (c : Char) : Char :=
  if c = '-' then '_' else c

theorem fold_eq (text : List Char) : fold text = (Text.lower text).map underscored :=
  rfl

theorem isBlank_underscored (c : Char) : Text.isBlank (underscored c) = Text.isBlank c := by
  unfold underscored
  split
  · next hyphen =>
    rw [hyphen]
    decide
  · rfl

theorem lowerChar_underscored (c : Char) :
    (Text.lowerChar (underscored c)).map underscored = (Text.lowerChar c).map underscored := by
  by_cases hyphen : c = '-'
  · rw [hyphen]
    decide
  · rw [show underscored c = c from if_neg hyphen]

theorem fold_map {f : Char → Char}
    (h : ∀ c, (Text.lowerChar (f c)).map underscored = (Text.lowerChar c).map underscored)
    (text : List Char) : fold (text.map f) = fold text := by
  simp only [fold_eq, Text.lower, List.map_flatMap, List.flatMap_map, h]

/-- The text in lower case with both forms of sigma, underscores for hyphens. -/
def foldBy (ends : List Char → List Char → Bool) (text : List Char) : List Char :=
  (Text.lowerBy ends [] text).map underscored

theorem not_mem_dictionary_of_sigma (h : Text.capitalSigma ∈ text)
    (ends : List Char → List Char → Bool) (preset : Preset) :
    (String.ofList (foldBy ends text), preset) ∉ dictionary := by
  intro spelled
  obtain ⟨c, mem, outside⟩ : ∃ c ∈ Text.lowerBy ends [] text, 0x80 ≤ c.toNat :=
    Text.exists_mem_lowerBy ends h
  have kept : underscored c = c := by
    refine if_neg ?_
    rintro rfl
    exact absurd outside (by decide)
  have ascii := ascii_of_mem_dictionary spelled c
  rw [String.toList_ofList] at ascii
  have inside := ascii (kept ▸ List.mem_map_of_mem mem)
  omega

/-- The forms of sigma make no difference to what a text spells. -/
theorem mem_dictionary_foldBy_iff (ends : List Char → List Char → Bool) :
    (String.ofList (foldBy ends text), preset) ∈ dictionary ↔
      (String.ofList (fold text), preset) ∈ dictionary := by
  -- with a sigma neither text is in ASCII, and without one they are the same
  by_cases sigma : Text.capitalSigma ∈ text
  · have plain : fold text = foldBy (fun _ _ => false) text := by
      rw [foldBy, Text.lowerBy_false, fold_eq]
    rw [plain]
    exact iff_of_false (not_mem_dictionary_of_sigma sigma ends preset)
      (not_mem_dictionary_of_sigma sigma _ preset)
  · rw [foldBy, Text.lowerBy_of_not_mem ends sigma, fold_eq]

/-! ## Reading -/

/-- Reading with `names` in the place of the presets' own names. -/
def readBy (names : List Char → Option Preset) (s : String) : Except Unknown Preset :=
  let text := Text.trim s.toList
  match code? text with
  | some code => (ofCode? code).elim (.error ⟨Numeral.writeInt code⟩) .ok
  | none => (names text).elim (.error ⟨text⟩) .ok

theorem read_eq_readBy (s : String) : read s = readBy ofName? s := by
  rw [read, readBy]
  cases code? (Text.trim s.toList) with
  | some code =>
    dsimp only
    cases ofCode? code <;> rfl
  | none => cases ofName? (Text.trim s.toList) <;> rfl

theorem elim_eq_ok_iff {found : Option Preset} {unknown : Unknown} :
    found.elim (.error unknown) .ok = (.ok preset : Except Unknown Preset) ↔
      found = some preset := by
  cases found <;> simp

theorem read_congr (h : Text.trim other.toList = Text.trim s.toList) : read other = read s := by
  simp only [read, h]

theorem readBy_of_code (h : code? (Text.trim s.toList) = some v)
    (names : List Char → Option Preset) :
    readBy names s = (ofCode? v).elim (.error ⟨Numeral.writeInt v⟩) .ok := by
  rw [readBy, h]

theorem read_eq_ok_iff_of_code (h : code? (Text.trim s.toList) = some v) :
    read s = .ok preset ↔ preset.code = v := by
  rw [read_eq_readBy, readBy_of_code h, elim_eq_ok_iff, ofCode?_eq_some_iff]

theorem refusal_of_code (h : code? (Text.trim s.toList) = some v)
    (unknown : ∀ preset : Preset, preset.code ≠ v) :
    (read s).mapError Unknown.message = .error ("Unknown system config: " ++ toString v) := by
  have missing : ofCode? v = none := by
    refine Option.eq_none_iff_forall_ne_some.mpr fun preset found => ?_
    exact unknown preset (ofCode?_eq_some_iff.mp found)
  rw [read_eq_readBy, readBy_of_code h, missing, ← Numeral.ofList_writeInt]
  rfl

theorem read_of_not_isCode (h : ¬IsCode (Text.trim s.toList)) :
    read s = (ofName? (Text.trim s.toList)).elim (.error ⟨Text.trim s.toList⟩) .ok := by
  rw [read_eq_readBy, readBy, code?_eq_none_iff.mpr h]

theorem read_eq_ok_iff_of_not_isCode (h : ¬IsCode (Text.trim s.toList)) :
    read s = .ok preset ↔
      (String.ofList (fold (Text.trim s.toList)), preset) ∈ dictionary := by
  rw [read_of_not_isCode h, elim_eq_ok_iff, ofName?_eq_some_iff]

theorem refusal_of_not_isCode (h : ¬IsCode (Text.trim s.toList))
    (unknown : ∀ preset, (String.ofList (fold (Text.trim s.toList)), preset) ∉ dictionary) :
    (read s).mapError Unknown.message =
      .error ("Unknown system config: " ++ String.ofList (Text.trim s.toList)) := by
  have missing : ofName? (Text.trim s.toList) = none := by
    refine Option.eq_none_iff_forall_ne_some.mpr fun preset found => ?_
    exact unknown preset (ofName?_eq_some_iff.mp found)
  rw [read_of_not_isCode h, missing]
  rfl

/-- Names are the same up to a change of characters that shows neither in blanks nor in folds. -/
theorem read_eq_ok_iff_of_map {f : Char → Char} (blank : ∀ c, Text.isBlank (f c) = Text.isBlank c)
    (folded : ∀ c, (Text.lowerChar (f c)).map underscored = (Text.lowerChar c).map underscored)
    (same : other.toList.map f = s.toList.map f) (name : ¬IsCode (Text.trim s.toList))
    (name' : ¬IsCode (Text.trim other.toList)) : read other = .ok preset ↔ read s = .ok preset := by
  have trimmed : (Text.trim other.toList).map f = (Text.trim s.toList).map f := by
    rw [← Text.trim_map blank, ← Text.trim_map blank, same]
  rw [read_eq_ok_iff_of_not_isCode name, read_eq_ok_iff_of_not_isCode name', ← fold_map folded,
    trimmed, fold_map folded]

theorem read_eq_ok_iff_of_toLower
    (same : other.toList.map Char.toLower = s.toList.map Char.toLower) :
    read other = .ok preset ↔ read s = .ok preset := by
  have trimmed : (Text.trim other.toList).map Char.toLower =
      (Text.trim s.toList).map Char.toLower := by
    rw [← Text.trim_map Text.isBlank_toLower, ← Text.trim_map Text.isBlank_toLower, same]
  -- if either text is a code, the other is the same code
  by_cases code : IsCode (Text.trim s.toList)
  · rw [read_congr (code.eq_of_map_toLower trimmed)]
  by_cases code' : IsCode (Text.trim other.toList)
  · rw [read_congr (code'.eq_of_map_toLower trimmed.symm)]
  have folded (c : Char) := congrArg (List.map underscored) (Text.lowerChar_toLower c)
  exact read_eq_ok_iff_of_map Text.isBlank_toLower folded same code code'

theorem read_append_blank {before after : String}
    (blank : ∀ c ∈ before.toList ++ after.toList, Text.isBlank c = true) (s : String) :
    read (before ++ s ++ after) = read s := by
  obtain ⟨blank_before, blank_after⟩ := List.forall_mem_append.mp blank
  refine read_congr ?_
  rw [String.toList_append, String.toList_append, Text.trim_append_blank blank_after,
    Text.trim_blank_append blank_before]

/-- A text names a preset by its code or by one of the nine spellings, and by nothing else. Let `t`
be the text without the blanks around it. If `t` is a sign or none and then ASCII digits, in the
range of signed words of 32 bits, the preset is the one with that code; where there is none, the
refusal gives the code in plain decimal. Other names would make no difference to such a text.
Otherwise the preset is the one that `t` spells in lower case, whatever the form of its sigmas, and
with underscores for hyphens; where there is none, the refusal repeats `t`. Blanks around a text do
not matter. Texts that differ in the case of ASCII letters name the same preset, and so do texts
that are no codes and differ in hyphens and underscores. -/
theorem reads_exactly_codes_and_names (ends : List Char → List Char → Bool) {t : List Char}
    (trimmed : Text.trim s.toList = t) :
    (∀ bare, t = bare ↔ Text.Trims s.toList bare) ∧
    (∀ v, Numeral.Signed t v → -2 ^ 31 ≤ v → v < 2 ^ 31 →
      (∀ preset, read s = .ok preset ↔ preset.code = v) ∧
      ((∀ preset : Preset, preset.code ≠ v) →
        (read s).mapError Unknown.message = .error ("Unknown system config: " ++ toString v)) ∧
      ∀ names, readBy names s = read s) ∧
    (¬IsCode t →
      (∀ preset, read s = .ok preset ↔ (String.ofList (foldBy ends t), preset) ∈ dictionary) ∧
      ((∀ preset, (String.ofList (foldBy ends t), preset) ∉ dictionary) →
        (read s).mapError Unknown.message =
          .error ("Unknown system config: " ++ String.ofList t))) ∧
    (∀ before after : String, (∀ c ∈ before.toList ++ after.toList, Text.isBlank c = true) →
      read (before ++ s ++ after) = read s) ∧
    (∀ other : String, other.toList.map Char.toLower = s.toList.map Char.toLower →
      ∀ preset, read other = .ok preset ↔ read s = .ok preset) ∧
    ∀ other : String, other.toList.map underscored = s.toList.map underscored →
      ¬IsCode t → ¬IsCode (Text.trim other.toList) →
        ∀ preset, read other = .ok preset ↔ read s = .ok preset := by
  subst trimmed
  refine ⟨fun _ => Text.trim_eq_iff, fun v numeral low high => ?_, fun name => ?_,
    fun before after blank => read_append_blank blank s,
    fun other same preset => read_eq_ok_iff_of_toLower same,
    fun other same name name' preset => read_eq_ok_iff_of_map isBlank_underscored
      lowerChar_underscored same name name'⟩
  · have code := code?_eq_some_iff.mpr ⟨numeral, low, high⟩
    refine ⟨fun preset => read_eq_ok_iff_of_code code, refusal_of_code code, fun names => ?_⟩
    rw [read_eq_readBy, readBy_of_code code names, readBy_of_code code ofName?]
  · simp only [mem_dictionary_foldBy_iff]
    exact ⟨fun preset => read_eq_ok_iff_of_not_isCode name, refusal_of_not_isCode name⟩

theorem reads_exactly_codes_and_names_mixed :
    read " -0002\n" = .ok .speedDemon ∧
      (read "+007").mapError Unknown.message = .error "Unknown system config: 7" ∧
      read "Big-LITTLE" = .ok .bigLittle ∧
      (read "+2147483648 ").mapError Unknown.message =
        .error "Unknown system config: +2147483648" ∧
      read ("\t" ++ "Big-LITTLE" ++ " ") = .ok .bigLittle ∧
      read "bIG-little" = .ok .bigLittle ∧
      read "Big_LITTLE" = .ok .bigLittle := by
  obtain ⟨two, low, high⟩ := code?_eq_some_iff.mp
    (show code? (Text.trim " -0002\n".toList) = some (-2) by decide)
  obtain ⟨seven, low', high'⟩ := code?_eq_some_iff.mp
    (show code? (Text.trim "+007".toList) = some 7 by decide)
  have name : ¬IsCode (Text.trim "Big-LITTLE".toList) := code?_eq_none_iff.mp (by decide)
  have name' : ¬IsCode (Text.trim "Big_LITTLE".toList) := code?_eq_none_iff.mp (by decide)
  have large : ¬IsCode (Text.trim "+2147483648 ".toList) := code?_eq_none_iff.mp (by decide)
  have known (s : String) :=
    reads_exactly_codes_and_names (s := s) (fun _ after => after.isEmpty) rfl
  obtain ⟨-, -, spelled, padded, recased, hyphens⟩ := known "Big-LITTLE"
  have big : read "Big-LITTLE" = .ok .bigLittle := ((spelled name).1 _).mpr (by decide)
  refine ⟨?_, ?_, big, ?_, ?_, ?_, ?_⟩
  · exact (((known _).2.1 _ two low high).1 _).mpr rfl
  · exact ((known _).2.1 _ seven low' high').2.1 (fun preset => by cases preset <;> decide)
  · exact ((known _).2.2.1 large).2 (fun preset => by cases preset <;> decide)
  · exact (padded "\t" " " (List.all_eq_true.mp rfl)).trans big
  · exact (recased "bIG-little" (by decide) _).mpr big
  · exact (hyphens "Big_LITTLE" (by decide) name name' _).mpr big

end Polycore.Preset
