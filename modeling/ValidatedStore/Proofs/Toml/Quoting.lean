import Mathlib.Tactic.SplitIfs
import ValidatedStore.Toml.Quoting
import ValidatedStore.Toml.Reader

/-!
# Quoted TOML texts are read as they are written

In double quotes, every character has one written form, and both readers of escaped texts take off
one form at a time. Between three quotes a quote may stand bare: the reader ends a text at the first
three quotes, and takes up to two more of them for the text, so that what counts is that a text
never has three bare quotes in a row. The writer sees to that by escapes, or chooses other quotes.
Hence each of the four ways to quote a text is undone by reading, and the text after it is left.
-/

namespace ValidatedStore

namespace Toml

variable {cs rest after text : List Char} {c d : Char} {run : Nat} {overLines : Bool}

/-- A reader of a text takes off escapes and plain characters one at a time. -/
structure Unescapes (read : List Char → Option (List Char × List Char)) (overLines : Bool) :
    Prop where
  /-- A plain character stands for itself. -/
  plain : ∀ {c rest text after}, isPlain c = true → c ≠ '"' → c ≠ '\\' →
    read rest = some (text, after) → read (c :: rest) = some (c :: text, after)
  /-- So does a line end, in a text over lines. -/
  lineEnd : ∀ {rest text after}, overLines = true →
    read rest = some (text, after) → read ('\n' :: rest) = some ('\n' :: text, after)
  /-- A letter after a backslash stands for a character. -/
  letter : ∀ {l c rest text after}, shortEscape? l = some c →
    read rest = some (text, after) → read ('\\' :: l :: rest) = some (c :: text, after)
  /-- So do four digits of a code. -/
  code : ∀ {w x y z c rest text after}, charOfCode? [w, x, y, z] = some c →
    read rest = some (text, after) →
      read ('\\' :: 'u' :: w :: x :: y :: z :: rest) = some (c :: text, after)

/-- The letters of codes are no short escapes. -/
theorem ne_of_shortEscape? {l : Char} (h : shortEscape? l = some c) : l ≠ 'u' ∧ l ≠ 'U' := by
  have hu : shortEscape? 'u' = none := by decide
  have hU : shortEscape? 'U' = none := by decide
  constructor
  · rintro rfl
    rw [hu] at h
    cases h
  · rintro rfl
    rw [hU] at h
    cases h

theorem unescapes_readBasic : Unescapes readBasic false where
  plain hc hquote hslash h := by
    rw [readBasic]
    · simp [hc, h]
    all_goals
      intros
      contradiction
  lineEnd hlines := by cases hlines
  letter hl h := by
    obtain ⟨hu, hU⟩ := ne_of_shortEscape? hl
    rw [readBasic]
    · simp [hl, h]
    all_goals
      intros
      contradiction
  code hc h := by simp [readBasic, hc, h]

theorem isPlain_return : isPlain '\r' = false := by decide

theorem unescapes_readBasicLines : Unescapes (readBasicLines .inText) true where
  plain hc hquote hslash h := by
    have hreturn := isPlain_return
    rw [readBasicLines]
    · simp [hc, h]
    all_goals
      intros
      simp_all
  lineEnd _ h := by
    rw [readBasicLines]
    · simp [h]
    all_goals
      intros
      simp_all
  letter hl h := by
    obtain ⟨hu, hU⟩ := ne_of_shortEscape? hl
    rw [readBasicLines]
    · simp [hl, h]
    all_goals
      intros
      simp_all
  code hc h := by simp [readBasicLines, hc, h]

/-- What needs no escape is plain, or ends a line. -/
theorem isPlain_of_not_needsEscape (h : needsEscape c = false) (hline : c ≠ '\n') :
    isPlain c = true := by
  simp only [needsEscape, Bool.or_eq_false_iff, Bool.and_eq_false_iff, decide_eq_false_iff_not,
    bne_eq_false_iff_eq, beq_eq_false_iff_ne] at h
  obtain ⟨hcontrol, hdelete⟩ := h
  simp only [isPlain, Bool.or_eq_true, beq_iff_eq, Bool.and_eq_true, decide_eq_true_eq, bne_iff_ne]
  rcases hcontrol with (hcode | hend) | htab
  · exact .inr ⟨by omega, hdelete⟩
  · exact absurd hend hline
  · exact .inl htab

/-- The digits of a control character spell its code. -/
theorem charOfCode?_of_needsEscape (h : needsEscape c = true) :
    charOfCode? ['0', '0', upperHexDigit (c.toNat / 16), upperHexDigit (c.toNat % 16)] =
      some c := by
  have hall : ∀ n < 128, charOfCode? ['0', '0', upperHexDigit (n / 16), upperHexDigit (n % 16)] =
      some (Char.ofNat n) := by decide
  have hcode : c.toNat < 128 := by
    simp only [needsEscape, Bool.or_eq_true, Bool.and_eq_true, decide_eq_true_eq, beq_iff_eq] at h
    rcases h with ⟨⟨hcontrol, -⟩, -⟩ | rfl
    · omega
    · decide
  rw [hall c.toNat hcode, Char.ofNat_toNat]

/-- The written form of a character is read as the character. -/
theorem Unescapes.read_escapedChar {read : List Char → Option (List Char × List Char)}
    (hr : Unescapes read overLines) (hquote : c ≠ '"') (h : read rest = some (text, after)) :
    read (escapedChar overLines c ++ rest) = some (c :: text, after) := by
  unfold escapedChar
  split
  case h_3 =>
    split
    next hlines => exact hr.lineEnd hlines h
    next => exact hr.letter rfl h
  case h_7 hline _ _ hslash =>
    split
    next hescape => exact hr.code (charOfCode?_of_needsEscape hescape) h
    next hescape =>
      rw [Bool.not_eq_true] at hescape
      exact hr.plain (isPlain_of_not_needsEscape hescape hline) hquote hslash h
  all_goals exact hr.letter rfl h

/-- A text in double quotes is read up to its closing quote. -/
theorem readBasic_escaped (run : Nat) (cs rest : List Char) :
    readBasic (escaped false run cs ++ '"' :: rest) = some (cs, rest) := by
  induction cs generalizing run with
  | nil => rfl
  | cons c cs ih =>
    rw [escaped]
    split
    next hquote =>
      subst hquote
      exact unescapes_readBasic.letter rfl (ih 0)
    next hquote =>
      rw [List.append_assoc]
      exact unescapes_readBasic.read_escapedChar hquote (ih 0)

/-- The first character of a written form is no quote, and begins a line end only for a line end. -/
theorem exists_escapedChar_eq_cons (overLines : Bool) (hquote : c ≠ '"') :
    ∃ first tail, escapedChar overLines c = first :: tail ∧ first ≠ '"' ∧ first ≠ '\r' ∧
      (first = '\n' → c = '\n') := by
  unfold escapedChar
  split
  case h_3 =>
    split
    · exact ⟨_, _, rfl, by decide, by decide, fun _ => rfl⟩
    · exact ⟨_, _, rfl, by decide, by decide, fun _ => rfl⟩
  case h_7 hreturn _ =>
    split
    · exact ⟨_, _, rfl, by decide, by decide, fun h => absurd h (by decide)⟩
    · exact ⟨c, [], rfl, hquote, hreturn, id⟩
  all_goals exact ⟨_, _, rfl, by decide, by decide, fun h => absurd h (by decide)⟩

/-- Once as many quotes are bare as may be, the next one is not. -/
theorem head?_escaped (h : (if overLines then 2 else 0) ≤ run) :
    (escaped overLines run cs).head? ≠ some '"' := by
  cases cs with
  | nil => simp [escaped]
  | cons c cs =>
    rw [escaped]
    split
    next => simp [Nat.not_lt.mpr h]
    next hquote =>
      obtain ⟨first, tail, heq, hfirst, -⟩ := exists_escapedChar_eq_cons overLines hquote
      rw [heq]
      simpa using hfirst

/-- After a bare quote there are no two more. -/
theorem escaped_ne_two_quotes (h : 0 < run) (tail : List Char) :
    escaped true run cs ≠ '"' :: '"' :: tail := by
  intro heq
  cases cs with
  | nil => cases heq
  | cons c cs =>
    rw [escaped] at heq
    split at heq
    next =>
      simp only [if_true] at heq
      split at heq
      next =>
        have hnext : (escaped true (run + 1) cs).head? ≠ some '"' :=
          head?_escaped (Nat.succ_le_succ h)
        rw [(List.cons.inj heq).2] at hnext
        exact hnext rfl
      next => exact absurd (List.cons.inj heq).1 (by decide)
    next hquote =>
      obtain ⟨first, more, hform, hfirst, -⟩ := exists_escapedChar_eq_cons true hquote
      rw [hform] at heq
      exact hfirst (List.cons.inj heq).1

/-- A reader of a text between three quotes ends it at the first three quotes. -/
structure ClosesAt (quote : Char) (read : List Char → Option (List Char × List Char)) : Prop where
  /-- The quotes that follow three quotes are looked at once more. -/
  closing : ∀ rest, read (quote :: quote :: quote :: rest) = some (closingQuotes quote rest)
  /-- A quote that begins no three stands for itself. -/
  bare : ∀ {rest text after}, (∀ tail, rest ≠ quote :: quote :: tail) →
    read rest = some (text, after) → read (quote :: rest) = some (quote :: text, after)

theorem closesAt_readBasicLines : ClosesAt '"' (readBasicLines .inText) where
  closing rest := by
    rw [readBasicLines]
    simp
  bare hthree h := by
    have hplain : isPlain '"' = true := by decide
    rw [readBasicLines]
    · simp [h, hplain]
    all_goals simp_all

theorem closesAt_readLiteralLines : ClosesAt '\'' readLiteralLines where
  closing rest := by rw [readLiteralLines]
  bare hthree h := by
    have hplain : isPlain '\'' = true := by decide
    rw [readLiteralLines]
    · simp [h, hplain]
    all_goals
      intros
      simp_all

namespace ClosesAt

variable {quote : Char} {read : List Char → Option (List Char × List Char)} {body : List Char}

theorem closingQuotes_of_head? (h : rest.head? ≠ some quote) :
    closingQuotes quote rest = ([], rest) := by
  cases rest with
  | nil => rfl
  | cons c rest =>
    have hc : c ≠ quote := by simpa using h
    cases rest with
    | nil => simp [closingQuotes, hc]
    | cons d rest => simp [closingQuotes, hc]

/-- Three quotes end a text. -/
theorem read_nil (hr : ClosesAt quote read) (h : rest.head? ≠ some quote) :
    read (quote :: quote :: quote :: rest) = some ([], rest) := by
  rw [hr.closing, closingQuotes_of_head? h]

/-- A bare quote is read as itself before anything that begins with no two bare quotes, also before
the end of the text. -/
theorem read_quote (hr : ClosesAt quote read) (hrest : rest.head? ≠ some quote)
    (hbody : ∀ tail, body ≠ quote :: quote :: tail)
    (h : read (body ++ quote :: quote :: quote :: rest) = some (text, rest)) :
    read (quote :: (body ++ quote :: quote :: quote :: rest)) = some (quote :: text, rest) := by
  have hone : closingQuotes quote (quote :: rest) = ([quote], rest) := by
    cases rest with
    | nil => simp [closingQuotes]
    | cons c rest =>
      have hc : c ≠ quote := by simpa using hrest
      simp [closingQuotes, hc]
  match body, hbody, h with
  | [], _, h =>
    rw [List.nil_append, hr.read_nil hrest] at h
    obtain ⟨rfl, -⟩ := Prod.mk.inj (Option.some.inj h)
    rw [List.nil_append, hr.closing, hone]
  | [c], _, h =>
    by_cases hc : c = quote
    · subst hc
      rw [List.singleton_append, hr.closing, hone] at h
      obtain ⟨rfl, -⟩ := Prod.mk.inj (Option.some.inj h)
      rw [List.singleton_append, hr.closing]
      simp [closingQuotes]
    · exact hr.bare (fun tail heq => hc (List.cons.inj heq).1) h
  | c :: d :: body, hbody, h =>
    refine hr.bare (fun tail heq => ?_) h
    simp only [List.cons_append, List.cons.injEq] at heq
    exact hbody body (by rw [heq.1, heq.2.1])

end ClosesAt

/-- A text in three double quotes is read up to its closing quotes. -/
theorem readBasicLines_escaped (hrest : rest.head? ≠ some '"') (run : Nat) (cs : List Char) :
    readBasicLines .inText (escaped true run cs ++ '"' :: '"' :: '"' :: rest) =
      some (cs, rest) := by
  induction cs generalizing run with
  | nil => exact closesAt_readBasicLines.read_nil hrest
  | cons c cs ih =>
    rw [escaped]
    split
    next hquote =>
      subst hquote
      simp only [if_true]
      split
      next =>
        exact closesAt_readBasicLines.read_quote hrest
          (escaped_ne_two_quotes (Nat.succ_pos run)) (ih (run + 1))
      next => exact unescapes_readBasicLines.letter rfl (ih 0)
    next hquote =>
      rw [List.append_assoc]
      exact unescapes_readBasicLines.read_escapedChar hquote (ih 0)

section Runs

/-- The longest run is at least the one that has begun. -/
theorem le_longestRun (c : Char) (run : Nat) (cs : List Char) : run ≤ longestRun c run cs := by
  induction cs generalizing run with
  | nil => exact Nat.le_refl run
  | cons d cs ih =>
    rw [longestRun]
    split
    · exact Nat.le_of_succ_le (ih (run + 1))
    · exact Nat.le_max_left _ _

/-- The longest run within a text is at most the one that goes on from before it. -/
theorem longestRun_zero_le (c : Char) (run : Nat) (cs : List Char) :
    longestRun c 0 cs ≤ longestRun c run cs := by
  suffices hmono : ∀ less more, less ≤ more → longestRun c less cs ≤ longestRun c more cs from
    hmono 0 run (Nat.zero_le run)
  induction cs with
  | nil => exact fun less more h => h
  | cons d cs ih =>
    intro less more h
    rw [longestRun, longestRun]
    split
    · exact ih _ _ (Nat.succ_le_succ h)
    · exact Nat.max_le.mpr ⟨Nat.le_trans h (Nat.le_max_left _ _), Nat.le_max_right _ _⟩

theorem longestRun_tail_le (c d : Char) (cs : List Char) :
    longestRun c 0 cs ≤ longestRun c 0 (d :: cs) := by
  rw [longestRun]
  split
  · exact longestRun_zero_le c 1 cs
  · exact Nat.le_max_right _ _

/-- A text without a run of a character does not have the character. -/
theorem not_mem_of_longestRun (h : longestRun c 0 cs = 0) : c ∉ cs := by
  induction cs with
  | nil => exact List.not_mem_nil
  | cons d cs ih =>
    have htail := longestRun_tail_le c d cs
    have hd : d ≠ c := by
      rintro rfl
      have hrun := le_longestRun d (0 + 1) cs
      rw [longestRun, if_pos rfl] at h
      omega
    rw [List.mem_cons, not_or]
    exact ⟨hd.symm, ih (by omega)⟩

/-- Where runs have at most two characters, one of them is not followed by two more. -/
theorem ne_two_of_longestRun (h : longestRun c 0 (c :: cs) ≤ 2) (tail : List Char) :
    cs ≠ c :: c :: tail := by
  rintro rfl
  have hrun := le_longestRun c (0 + 1 + 1 + 1) tail
  simp only [longestRun, if_true] at h
  omega

end Runs

/-- A text in single quotes is read up to its closing quote. -/
theorem readLiteral_append (hplain : ∀ c ∈ cs, isPlain c = true) (hquote : '\'' ∉ cs)
    (rest : List Char) : readLiteral (cs ++ '\'' :: rest) = some (cs, rest) := by
  induction cs with
  | nil => rfl
  | cons c cs ih =>
    obtain ⟨hc, hcs⟩ := List.forall_mem_cons.mp hplain
    rw [List.mem_cons, not_or] at hquote
    rw [List.cons_append, readLiteral]
    · simp [hc, ih hcs hquote.2]
    · exact fun h => hquote.1 h.symm

/-- A text in three single quotes is read up to its closing quotes. -/
theorem readLiteralLines_append (hrest : rest.head? ≠ some '\'')
    (hplain : ∀ c ∈ cs, isPlain c = true ∨ c = '\n') (hrun : longestRun '\'' 0 cs ≤ 2) :
    readLiteralLines (cs ++ '\'' :: '\'' :: '\'' :: rest) = some (cs, rest) := by
  induction cs with
  | nil => exact closesAt_readLiteralLines.read_nil hrest
  | cons c cs ih =>
    obtain ⟨hc, hcs⟩ := List.forall_mem_cons.mp hplain
    have htail := ih hcs (Nat.le_trans (longestRun_tail_le '\'' c cs) hrun)
    by_cases hquote : c = '\''
    · subst hquote
      exact closesAt_readLiteralLines.read_quote hrest (ne_two_of_longestRun hrun) htail
    · have hreturn := isPlain_return
      rw [List.cons_append, readLiteralLines]
      · simp [hc, htail]
      all_goals
        intros
        simp_all

/-- What is put into single quotes has no line end and no single quote, and needs no escape. -/
theorem of_quotingFor_literal (h : quotingFor cs = .literal) :
    cs.any needsEscape = false ∧ '\n' ∉ cs ∧ '\'' ∉ cs := by
  simp only [quotingFor] at h
  split_ifs at h
  next hliteral =>
    simp only [Bool.and_eq_true, Bool.not_eq_true', decide_eq_true_eq, List.contains_eq_mem,
      decide_eq_false_iff_not] at hliteral
    exact ⟨hliteral.1.1, hliteral.1.2, not_mem_of_longestRun hliteral.2⟩

/-- What is put into three single quotes has no three of them in a row, and needs no escape. -/
theorem of_quotingFor_literalLines (h : quotingFor cs = .literalLines) :
    cs.any needsEscape = false ∧ longestRun '\'' 0 cs ≤ 2 := by
  simp only [quotingFor] at h
  split_ifs at h
  next hlines =>
    simpa only [Bool.and_eq_true, Bool.not_eq_true', decide_eq_true_eq] using hlines

theorem isPlain_or_lineEnd_of_any (h : cs.any needsEscape = false) :
    ∀ c ∈ cs, isPlain c = true ∨ c = '\n' := by
  intro c hc
  rw [List.any_eq_false] at h
  by_cases hline : c = '\n'
  · exact .inr hline
  · exact .inl (isPlain_of_not_needsEscape (by simpa using h c hc) hline)

/-- The line end in front of a text over lines is passed over, and no other character is. -/
theorem skipLineEnd_leadingLineEnd (cs : List Char)
    (hhead : '\n' ∉ cs → rest.head? ≠ some '\n' ∧ rest.head? ≠ some '\r') :
    skipLineEnd (leadingLineEnd cs ++ rest) = rest := by
  rw [leadingLineEnd]
  split
  next => rfl
  next hcs =>
    obtain ⟨hline, hreturn⟩ := hhead (by simpa using hcs)
    have hnone : afterLineEnd? rest = none := by
      unfold afterLineEnd?
      split
      next => exact absurd rfl hline
      next => exact absurd rfl hreturn
      next => rfl
    rw [List.nil_append, skipLineEnd, hnone, Option.getD_none]

theorem readText_basic (hbody : ∀ tail, rest ≠ '"' :: '"' :: tail) :
    readText ('"' :: rest) = readBasic rest := by
  rw [readText]
  exact hbody

theorem readText_literal (hbody : ∀ tail, rest ≠ '\'' :: '\'' :: tail) :
    readText ('\'' :: rest) = readLiteral rest := by
  rw [readText]
  exact hbody

theorem readText_basicLines (rest : List Char) :
    readText ('"' :: '"' :: '"' :: rest) = readBasicLines .inText (skipLineEnd rest) := by
  rw [readText]

theorem readText_literalLines (rest : List Char) :
    readText ('\'' :: '\'' :: '\'' :: rest) = readLiteralLines (skipLineEnd rest) := by
  rw [readText]

/-- The first character of a text in double quotes does not make three quotes of the opening one. -/
theorem readText_inBasic (cs : List Char) (hrest : rest.head? ≠ some '"') :
    readText ('"' :: (escaped false 0 cs ++ '"' :: rest)) = some (cs, rest) := by
  rw [readText_basic, readBasic_escaped]
  intro tail heq
  have hhead : (escaped false 0 cs).head? ≠ some '"' := head?_escaped (Nat.le_refl 0)
  cases hform : escaped false 0 cs with
  | nil =>
    rw [hform, List.nil_append] at heq
    rw [(List.cons.inj heq).2] at hrest
    exact hrest rfl
  | cons first form =>
    rw [hform] at heq hhead
    exact hhead (congrArg some (List.cons.inj heq).1)

/-- A text in single quotes has no quote that would make three of the opening one. -/
theorem readText_inLiteral (hplain : ∀ c ∈ cs, isPlain c = true) (hquote : '\'' ∉ cs)
    (hrest : rest.head? ≠ some '\'') :
    readText ('\'' :: (cs ++ '\'' :: rest)) = some (cs, rest) := by
  rw [readText_literal, readLiteral_append hplain hquote]
  intro tail heq
  cases cs with
  | nil =>
    rw [List.nil_append] at heq
    rw [(List.cons.inj heq).2] at hrest
    exact hrest rfl
  | cons c cs =>
    rw [List.mem_cons, not_or] at hquote
    exact hquote.1 (List.cons.inj heq).1.symm

theorem readText_inBasicLines (cs : List Char) (hrest : rest.head? ≠ some '"') :
    readText ('"' :: '"' :: '"' ::
      (leadingLineEnd cs ++ (escaped true 0 cs ++ '"' :: '"' :: '"' :: rest))) =
      some (cs, rest) := by
  rw [readText_basicLines, skipLineEnd_leadingLineEnd, readBasicLines_escaped hrest]
  intro hline
  cases cs with
  | nil => simp [escaped]
  | cons c cs =>
    rw [escaped]
    split
    next => simp
    next hquote =>
      obtain ⟨first, tail, hform, -, hreturn, hend⟩ :=
        exists_escapedChar_eq_cons true hquote
      have hfirst : first ≠ '\n' := fun h => hline (hend h ▸ List.mem_cons_self)
      simp [hform, hfirst, hreturn]

theorem readText_inLiteralLines (hplain : ∀ c ∈ cs, isPlain c = true ∨ c = '\n')
    (hrun : longestRun '\'' 0 cs ≤ 2) (hrest : rest.head? ≠ some '\'') :
    readText ('\'' :: '\'' :: '\'' ::
      (leadingLineEnd cs ++ (cs ++ '\'' :: '\'' :: '\'' :: rest))) = some (cs, rest) := by
  rw [readText_literalLines, skipLineEnd_leadingLineEnd, readLiteralLines_append hrest hplain hrun]
  intro hline
  cases cs with
  | nil => simp
  | cons c cs =>
    have hend : c ≠ '\n' := fun h => hline (h ▸ List.mem_cons_self)
    have hc : isPlain c = true := (hplain c List.mem_cons_self).resolve_right hend
    have hreturn : c ≠ '\r' := by
      rintro rfl
      rw [isPlain_return] at hc
      cases hc
    simp [hend, hreturn]

/-- A quoted text is read as the text, whatever quotes were chosen, and what follows is left. -/
theorem readText_quoted (text : String) (hdouble : rest.head? ≠ some '"')
    (hsingle : rest.head? ≠ some '\'') :
    readText (quoted text ++ rest) = some (text.toList, rest) := by
  unfold quoted
  generalize text.toList = cs
  dsimp only
  cases hq : quotingFor cs with
  | basic => simpa using readText_inBasic cs hdouble
  | literal =>
    obtain ⟨hescape, hline, hquote⟩ := of_quotingFor_literal hq
    have hplain : ∀ c ∈ cs, isPlain c = true := fun c hc =>
      (isPlain_or_lineEnd_of_any hescape c hc).resolve_right fun heq => hline (heq ▸ hc)
    simpa using readText_inLiteral hplain hquote hsingle
  | basicLines => simpa using readText_inBasicLines cs hdouble
  | literalLines =>
    obtain ⟨hescape, hrun⟩ := of_quotingFor_literalLines hq
    simpa using readText_inLiteralLines (isPlain_or_lineEnd_of_any hescape) hrun hsingle

end Toml

end ValidatedStore
