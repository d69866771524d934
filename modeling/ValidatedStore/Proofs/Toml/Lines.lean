import ValidatedStore.Proofs.Fields
import ValidatedStore.Proofs.Toml.Quoting
import ValidatedStore.Proofs.Toml.Scalars
import ValidatedStore.Settings

/-!
# Lines of a settings file

A line gives a value to a bare name. Its value may run over several lines of text, but reading it
stops at the line end that was written behind it. So a file of such lines is read one line after
another, and if no name occurs twice, its table has the values under their names, in order.
-/

namespace ValidatedStore

namespace Toml

variable {written rest : List Char} {value : Value} {c d : Char}

/-- A written value is read as the value, up to the line end behind it. -/
structure ReadsAs (written : List Char) (value : Value) : Prop where
  /-- It begins with no blank. -/
  begins : ∃ c more, written = c :: more ∧ isBlank c = false
  /-- It is read as the value wherever it stands. -/
  read : ∀ fuel rest, readValue (fuel + 1) nestingLimit (written ++ '\n' :: rest) =
    some (value, '\n' :: rest)

theorem readsAs_token (hne : written ≠ []) (hall : written.all isTokenChar = true)
    (h : scalar? written = some value) : ReadsAs written value := by
  obtain ⟨c, more, rfl⟩ := List.exists_cons_of_ne_nil hne
  have ht := List.all_eq_true.mp hall
  have hc := ht c List.mem_cons_self
  refine ⟨⟨c, more, rfl, ?_⟩, fun fuel rest => ?_⟩
  · rw [Bool.eq_false_iff]
    intro hblank
    rw [isBlank, Bool.or_eq_true, beq_iff_eq, beq_iff_eq] at hblank
    rcases hblank with rfl | rfl
    · exact absurd hc (by decide)
    · exact absurd hc (by decide)
  · rw [List.cons_append, readValue_token hc, ← List.cons_append, spanToken_append ht, h,
      Option.map_some]

/-- A whole number of the signed 64-bit range is written by its digits. -/
theorem readsAs_digits {n : Nat} (h : n < 2 ^ 63) : ReadsAs (Decimal.digits n) (.integer n) := by
  refine readsAs_token (Decimal.digits_ne_nil n) (List.all_eq_true.mpr fun c hc => ?_)
    (scalar?_digits h)
  have hdigit := Decimal.isDigit_of_mem_digits hc
  simp [isTokenChar, Char.isAlphanum, hdigit]

/-- A truth value is written by its word. -/
theorem readsAs_truth (b : Bool) : ReadsAs (Settings.tomlTruth b) (.boolean b) := by
  cases b with
  | true => exact readsAs_token (by decide) (by decide) rfl
  | false => exact readsAs_token (by decide) (by decide) rfl

theorem exists_quoted_eq_cons (text : String) :
    ∃ quote more, quoted text = quote :: more ∧ (quote = '"' ∨ quote = '\'') := by
  unfold quoted
  dsimp only
  split
  · exact ⟨_, _, rfl, .inl rfl⟩
  · exact ⟨_, _, rfl, .inr rfl⟩
  · exact ⟨_, _, rfl, .inl rfl⟩
  · exact ⟨_, _, rfl, .inr rfl⟩

/-- A text is written with its quotes. -/
theorem readsAs_quoted (text : String) : ReadsAs (quoted text) (.string text) := by
  obtain ⟨quote, more, hquoted, hquote⟩ := exists_quoted_eq_cons text
  refine ⟨⟨quote, more, hquoted, ?_⟩, fun fuel rest => ?_⟩
  · rcases hquote with rfl | rfl
    · rfl
    · rfl
  · have hread : readText (quoted text ++ '\n' :: rest) = some (text.toList, '\n' :: rest) :=
      readText_quoted text (by simp) (by simp)
    rw [hquoted, List.cons_append] at hread ⊢
    rcases hquote with rfl | rfl
    · simp [readValue, hread]
    · simp [readValue, hread]

/-- A name that needs no quotes. -/
structure IsBare (name : String) : Prop where
  /-- It is not empty. -/
  ne_nil : name.toList ≠ []
  /-- All its characters may stand in a bare key. -/
  all : ∀ c ∈ name.toList, isBareChar c = true

instance (name : String) : Decidable (IsBare name) :=
  decidable_of_iff (name.toList ≠ [] ∧ name.toList.all isBareChar = true)
    ⟨fun h => ⟨h.1, List.all_eq_true.mp h.2⟩, fun h => ⟨h.ne_nil, List.all_eq_true.mpr h.all⟩⟩

/-- A bare character is none of those with a meaning of their own. -/
theorem ne_of_bare (hc : isBareChar c = true) (hd : isBareChar d = false) : c ≠ d := by
  rintro rfl
  rw [hd] at hc
  cases hc

theorem skipBlanks_of_bare (hc : isBareChar c = true) : skipBlanks (c :: rest) = c :: rest := by
  have hblank : ¬isBlank c = true := by
    rw [isBlank, Bool.or_eq_true, beq_iff_eq, beq_iff_eq, not_or]
    exact ⟨ne_of_bare hc (by decide), ne_of_bare hc (by decide)⟩
  rw [skipBlanks, List.dropWhile_cons_of_neg hblank]

/-- A bare key before an equality sign. -/
theorem readKey_bare {name : String} (hn : IsBare name) :
    readKey (name.toList ++ " = ".toList ++ rest) = some ([name], '=' :: ' ' :: rest) := by
  obtain ⟨c, more, hname⟩ := List.exists_cons_of_ne_nil hn.ne_nil
  have hc : isBareChar c = true := hn.all c (by rw [hname]; exact List.mem_cons_self)
  have hsplit : (name.toList ++ ' ' :: '=' :: ' ' :: rest).span isBareChar =
      (name.toList, ' ' :: '=' :: ' ' :: rest) := span_append hn.all (by decide)
  have hpart : readKeyPart (name.toList ++ ' ' :: '=' :: ' ' :: rest) =
      some (name, ' ' :: '=' :: ' ' :: rest) := by
    unfold readKeyPart
    split
    next heq =>
      rw [hname, List.cons_append] at heq
      exact absurd (List.cons.inj heq).1 (ne_of_bare hc (by decide))
    next heq =>
      rw [hname, List.cons_append] at heq
      exact absurd (List.cons.inj heq).1 (ne_of_bare hc (by decide))
    next =>
      rw [hsplit]
      split
      next heq => exact absurd (Prod.mk.inj heq).1 hn.ne_nil
      next heq =>
        obtain ⟨rfl, rfl⟩ := Prod.mk.inj heq
        rw [String.ofList_toList]
  have hbegin : skipBlanks (name.toList ++ ' ' :: '=' :: ' ' :: rest) =
      name.toList ++ ' ' :: '=' :: ' ' :: rest := by
    rw [hname, List.cons_append, skipBlanks_of_bare hc]
  have hform : name.toList ++ " = ".toList ++ rest =
      name.toList ++ ' ' :: '=' :: ' ' :: rest := by simp
  have hblanks : skipBlanks (' ' :: '=' :: ' ' :: rest) = '=' :: ' ' :: rest := rfl
  rw [hform, readKey, nestingLimit, readKeyParts, hbegin, hpart]
  simp [hblanks]

/-- A line that gives a value to a bare name. -/
structure Line where
  /-- The name. -/
  name : String
  /-- The value as it is written. -/
  written : List Char
  /-- The value. -/
  value : Value
  /-- The name needs no quotes. -/
  bare : IsBare name
  /-- The value is read as it is written. -/
  reads : ReadsAs written value

namespace Line

/-- The text of a line with its end. -/
def text (line : Line) : List Char := Settings.tomlLine line.name line.written

/-- What a line says. -/
def statement (line : Line) : Statement := .assign [line.name] line.value

/-- What a line makes of a table. -/
def entry (line : Line) : String × Item := (line.name, .value line.value)

variable {lines : List Line}

theorem text_eq (line : Line) :
    line.text = line.name.toList ++ " = ".toList ++ (line.written ++ ['\n']) := by
  rw [text, Settings.tomlLine, List.append_assoc _ line.written]

/-- A line begins with a character of its name. -/
theorem exists_text_eq_cons (line : Line) :
    ∃ c more, line.text = c :: more ∧ isBareChar c = true := by
  obtain ⟨c, more, hname⟩ := List.exists_cons_of_ne_nil line.bare.ne_nil
  refine ⟨c, _, by rw [text_eq, hname]; rfl, line.bare.all c ?_⟩
  rw [hname]
  exact List.mem_cons_self

/-- A line is one statement, up to its end. -/
theorem readStatement_text (line : Line) (rest : List Char) :
    readStatement (line.text ++ rest) = some (line.statement, '\n' :: rest) := by
  obtain ⟨c, more, htext, hc⟩ := line.exists_text_eq_cons
  have hbracket : c ≠ '[' := ne_of_bare hc (by decide)
  have hform : line.text ++ rest =
      line.name.toList ++ " = ".toList ++ (line.written ++ '\n' :: rest) := by
    rw [text_eq]
    simp
  have hkey : readKey (c :: (more ++ rest)) =
      some ([line.name], '=' :: ' ' :: (line.written ++ '\n' :: rest)) := by
    rw [← List.cons_append, ← htext, hform, readKey_bare line.bare]
  have hblanks : skipBlanks (' ' :: (line.written ++ '\n' :: rest)) =
      line.written ++ '\n' :: rest := by
    obtain ⟨first, more, hwritten, hfirst⟩ := line.reads.begins
    have hnot : ¬isBlank first = true := by simp [hfirst]
    rw [skipBlanks, List.dropWhile_cons_of_pos rfl, hwritten, List.cons_append,
      List.dropWhile_cons_of_neg hnot]
  rw [htext, List.cons_append, readStatement]
  · simp [hkey, hblanks, line.reads.read, statement]
  · exact fun _ h => hbracket (List.cons.inj h).1
  · exact fun _ h => hbracket (List.cons.inj h).1

/-- A line begins without blanks, comments and line ends. -/
theorem skipLines_text (line : Line) (fuel : Nat) (rest : List Char) :
    skipLines fuel (line.text ++ rest) = line.text ++ rest := by
  obtain ⟨c, more, htext, hc⟩ := line.exists_text_eq_cons
  cases fuel with
  | zero => rfl
  | succ fuel =>
    have hcomment : skipComment (c :: (more ++ rest)) = c :: (more ++ rest) := by
      unfold skipComment
      split
      next heq => exact absurd (List.cons.inj heq).1 (ne_of_bare hc (by decide))
      next => rfl
    have hend : afterLineEnd? (c :: (more ++ rest)) = none := by
      unfold afterLineEnd?
      split
      next heq => exact absurd (List.cons.inj heq).1 (ne_of_bare hc (by decide))
      next heq => exact absurd (List.cons.inj heq).1 (ne_of_bare hc (by decide))
      next => rfl
    rw [htext, List.cons_append, skipLines]
    simp [skipBlanks_of_bare hc, hcomment, hend]

/-- Lines are read one after another. -/
theorem readStatements_text {fuel : Nat} (h : lines.length < fuel) :
    readStatements fuel (lines.flatMap text) = some (lines.map statement) := by
  induction lines generalizing fuel with
  | nil =>
    obtain ⟨fuel, rfl⟩ := Nat.exists_eq_succ_of_ne_zero (Nat.ne_of_gt h)
    rfl
  | cons line lines ih =>
    obtain ⟨fuel, rfl⟩ := Nat.exists_eq_succ_of_ne_zero (Nat.ne_of_gt (Nat.zero_lt_of_lt h))
    rw [List.length_cons] at h
    have hrest := ih (Nat.lt_of_succ_lt_succ h)
    obtain ⟨c, more, htext, -⟩ := line.exists_text_eq_cons
    have hskip := line.skipLines_text (line.text ++ lines.flatMap text).length (lines.flatMap text)
    have hread := line.readStatement_text (lines.flatMap text)
    rw [List.flatMap_cons, readStatements, hskip]
    rw [htext, List.cons_append] at hread ⊢
    dsimp only
    rw [hread]
    have hblanks : skipComment (skipBlanks ('\n' :: lines.flatMap text)) =
        '\n' :: lines.flatMap text := rfl
    simp [hblanks, afterLineEnd?, hrest]

/-- Names that occur once each get their values, in order. -/
theorem tableOf_statements (hd : (lines.map Line.name).Nodup) :
    tableOf (lines.map statement) = some (lines.map entry) := by
  suffices hrun : ∀ (root : Entries), (root.map Prod.fst ++ lines.map Line.name).Nodup →
      carryOut (lines.map statement) [] root = some (root ++ lines.map entry) by
    exact hrun [] hd
  clear hd
  induction lines with
  | nil =>
    intro root _
    simp [carryOut]
  | cons line lines ih =>
    intro root hnodup
    have hnew : line.name ∉ Fields.names root := fun hm =>
      List.disjoint_of_nodup_append hnodup hm List.mem_cons_self
    have hhas : Fields.has line.name root = false := by
      rw [Fields.has, Fields.find?_eq_none_iff.mpr hnew]
      rfl
    have hdefine : define line.value true [line.name] root = some (root ++ [line.entry]) := by
      rw [define, hhas, Fields.insert_of_not_mem hnew]
      rfl
    have hnext := ih (root ++ [line.entry]) (by simpa [entry] using hnodup)
    rw [List.map_cons, statement, carryOut, atHeader, hdefine]
    simpa using hnext

/-- A file of lines has the table of what they say. -/
theorem parse_text (hd : (lines.map Line.name).Nodup) :
    parse (String.ofList (lines.flatMap text)) = some (lines.map entry) := by
  have hmark : skipByteOrderMark (lines.flatMap text) = lines.flatMap text := by
    cases lines with
    | nil => rfl
    | cons line lines =>
      obtain ⟨c, more, htext, hc⟩ := line.exists_text_eq_cons
      rw [List.flatMap_cons, htext, List.cons_append]
      unfold skipByteOrderMark
      split
      next heq => exact absurd (List.cons.inj heq).1 (ne_of_bare hc (by decide))
      next => rfl
  have hlength : lines.length ≤ (lines.flatMap text).length := by
    clear hd hmark
    induction lines with
    | nil => exact Nat.le_refl _
    | cons line lines ih =>
      obtain ⟨c, more, htext, -⟩ := line.exists_text_eq_cons
      rw [List.flatMap_cons, htext]
      simp only [List.length_cons, List.length_append]
      omega
  have hread := readStatements_text (Nat.lt_succ_of_le hlength)
  rw [parse, String.toList_ofList, hmark]
  simp only [hread, Option.bind_eq_bind, Option.bind_some, tableOf_statements hd]

end Line

end Toml

end ValidatedStore
