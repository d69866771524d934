import ValidatedStore.Json.Printer
import ValidatedStore.Proofs.Json.Numbers
import ValidatedStore.Proofs.Json.Texts
import ValidatedStore.Proofs.Json.WellFormed

/-!
# Values are read as they are written

The reader takes a written value off the front of a text, provided that the text behind it does not
continue a number, and it refuses exactly the values that are nested too deeply. Written values
therefore come back from their own text up to the greatest depth of the reader, and none beyond
it. The induction is on the value; one lemma for each kind of value says what a round adds.
-/

namespace ValidatedStore

namespace Json

variable {rest cs : List Char} {value : Value} {values items : List Value}
  {entries : List (String × Value)} {item : Value} {key : String}

theorem stops_cons {c : Char} (hd : c.isDigit = false) (hp : c ≠ '.') (he : c ≠ 'e')
    (hE : c ≠ 'E') : Stops (c :: rest) where
  noDigit d h := by
    obtain rfl := Option.some.inj h
    exact hd
  noPoint h := hp (Option.some.inj h)
  noExponent := ⟨fun h => he (Option.some.inj h), fun h => hE (Option.some.inj h)⟩

theorem stops_nil : Stops [] where
  noDigit _ h := by cases h
  noPoint h := by cases h
  noExponent := ⟨by simp, by simp⟩

/-- Blanks are skipped only where there are some. -/
theorem skipSpace_cons {c : Char} (h : isSpace c = false) : skipSpace (c :: cs) = c :: cs := by
  rw [skipSpace, List.dropWhile_cons_of_neg (by simp [h])]

/-- A number starts with none of the characters that start other things. -/
theorem text_eq_cons (n : Number) :
    ∃ c cs, n.text = c :: cs ∧ isSpace c = false ∧ c ≠ ']' := by
  have hread := readNumber_text n stops_nil
  rw [List.append_nil] at hread
  cases ht : n.text with
  | nil =>
    rw [ht] at hread
    cases hread
  | cons c cs =>
    rw [ht] at hread
    refine ⟨c, cs, rfl, ?_, ?_⟩
    · by_contra hspace
      simp only [isSpace, Bool.not_eq_false, Bool.or_eq_true, beq_iff_eq] at hspace
      rcases hspace with ((rfl | rfl) | rfl) | rfl <;> cases hread
    · rintro rfl
      cases hread

/-- A written value starts with a character that is neither a blank nor a closing bracket. -/
theorem printed_eq_cons (value : Value) :
    ∃ c cs, printed value = c :: cs ∧ isSpace c = false ∧ c ≠ ']' := by
  cases value with
  | null => exact ⟨'n', "ull".toList, by rw [printed]; rfl, rfl, by decide⟩
  | bool b =>
    cases b with
    | false => exact ⟨'f', "alse".toList, by rw [printed]; rfl, rfl, by decide⟩
    | true => exact ⟨'t', "rue".toList, by rw [printed]; rfl, rfl, by decide⟩
  | number n =>
    rw [printed]
    exact text_eq_cons n
  | string s => exact ⟨'"', _, by rw [printed, quoted]; rfl, rfl, by decide⟩
  | array items => exact ⟨'[', _, by rw [printed]; rfl, rfl, by decide⟩
  | object entries => exact ⟨'{', _, by rw [printed]; rfl, rfl, by decide⟩

theorem quoted_append (s : String) :
    quoted s ++ rest = '"' :: (s.toList.flatMap escapedChar ++ '"' :: rest) := by
  simp [quoted]

/-- A value is read from the front of a text, unless it is nested too deeply. -/
def ReadsBack (value : Value) : Prop :=
  ∀ {fuel depth rest}, (printed value).length ≤ fuel → Stops rest →
    readValue fuel depth (printed value ++ rest) =
      if value.depth ≤ depth then some (value, rest) else none

/-- The items of a sequence are read up to its end, unless one is nested too deeply. -/
def ItemsReadBack (items : List Value) : Prop :=
  ∀ {fuel depth rest}, (printedItems items).length < fuel →
    readItems fuel depth (printedItems items ++ ']' :: rest) =
      if Value.depthOfItems items ≤ depth then some (items, rest) else none

/-- The members of an object are read up to its end, unless one is nested too deeply. -/
def MembersReadBack (entries : List (String × Value)) : Prop :=
  ∀ {fuel depth rest}, (printedEntries entries).length < fuel →
    readMembers fuel depth (printedEntries entries ++ '}' :: rest) =
      if Value.depthOfEntries entries ≤ depth then some (entries, rest) else none

/-- A written value is not empty, so there is fuel for a first round. -/
theorem exists_fuel {fuel : Nat} (h : (printed value).length ≤ fuel) : ∃ n, fuel = n + 1 := by
  obtain ⟨c, cs, hp, _⟩ := printed_eq_cons value
  rw [hp, List.length_cons] at h
  exact ⟨fuel - 1, by omega⟩

theorem readsBack_null : ReadsBack .null := by
  intro fuel depth rest hfuel _
  obtain ⟨fuel, rfl⟩ := exists_fuel hfuel
  rfl

theorem readsBack_bool (b : Bool) : ReadsBack (.bool b) := by
  intro fuel depth rest hfuel _
  obtain ⟨fuel, rfl⟩ := exists_fuel hfuel
  cases b <;> rfl

theorem readsBack_number (n : Number) : ReadsBack (.number n) := by
  intro fuel depth rest hfuel hr
  obtain ⟨fuel, rfl⟩ := exists_fuel hfuel
  have hread := readNumber_text n hr
  obtain ⟨c, cs, ht, hspace, _⟩ := text_eq_cons n
  have hskip : skipSpace (n.text ++ rest) = n.text ++ rest := by
    rw [ht]
    exact skipSpace_cons hspace
  have hdepth : (Value.number n).depth = 0 := rfl
  rw [printed, readValue, hskip, hdepth, if_pos (Nat.zero_le _)]
  split
  next heq => rw [heq] at hread; cases hread
  next heq => rw [heq] at hread; cases hread
  next heq => rw [heq] at hread; cases hread
  next heq => rw [heq] at hread; cases hread
  next heq => rw [heq] at hread; cases hread
  next heq => rw [heq] at hread; cases hread
  next => rw [hread]; rfl

theorem readsBack_string (s : String) : ReadsBack (.string s) := by
  intro fuel depth rest hfuel _
  obtain ⟨fuel, rfl⟩ := exists_fuel hfuel
  have hdepth : (Value.string s).depth = 0 := rfl
  rw [printed, quoted_append, readValue, skipSpace_cons rfl, hdepth, if_pos (Nat.zero_le _)]
  change (readQuoted (s.toList.flatMap escapedChar ++ '"' :: rest)).bind
    (fun read => some (Value.string (String.ofList read.1), read.2)) = _
  rw [readQuoted_flatMap, Option.bind_some, String.ofList_toList]

theorem printedItems_cons_cons (item next : Value) (items : List Value) :
    printedItems (item :: next :: items) = printed item ++ ',' :: printedItems (next :: items) :=
  rfl

theorem printedEntries_cons_cons (value : Value) (next : String × Value) :
    printedEntries ((key, value) :: next :: entries) =
      quoted key ++ ':' :: printed value ++ ',' :: printedEntries (next :: entries) :=
  rfl

/-- The text of a sequence that is not empty starts like the text of a value. -/
theorem printedItems_eq_cons (item : Value) (items : List Value) :
    ∃ c cs, printedItems (item :: items) = c :: cs ∧ isSpace c = false ∧ c ≠ ']' := by
  obtain ⟨c, cs, hp, hc⟩ := printed_eq_cons item
  cases items with
  | nil => exact ⟨c, cs, by rw [printedItems, hp], hc⟩
  | cons next items => exact ⟨c, _, by rw [printedItems_cons_cons, hp]; rfl, hc⟩

/-- The text of an object that is not empty starts with a quote. -/
theorem printedEntries_eq_cons (entry : String × Value) (entries : List (String × Value)) :
    ∃ cs, printedEntries (entry :: entries) = '"' :: cs := by
  obtain ⟨key, value⟩ := entry
  cases entries with
  | nil => exact ⟨_, by rw [printedEntries, quoted]; rfl⟩
  | cons next entries => exact ⟨_, by rw [printedEntries_cons_cons, quoted]; rfl⟩

/-- Behind an opening bracket come items, if the next character is neither a blank nor the closing
bracket. -/
theorem readValue_items {fuel depth : Nat} {c : Char} (hspace : isSpace c = false) (hc : c ≠ ']') :
    readValue (fuel + 1) (depth + 1) ('[' :: c :: cs) =
      (readItems fuel depth (c :: cs)).bind fun read => some (.array read.1, read.2) := by
  rw [readValue, skipSpace_cons rfl]
  simp [skipSpace_cons hspace, hc]

/-- Behind an opening brace come members, if the next character is a quote. -/
theorem readValue_members {fuel depth : Nat} :
    readValue (fuel + 1) (depth + 1) ('{' :: '"' :: cs) =
      (readMembers fuel depth ('"' :: cs)).bind fun read =>
        some (.object (Fields.insertAll [] read.1), read.2) := by
  rw [readValue, skipSpace_cons rfl]
  simp [skipSpace_cons (show isSpace '"' = false from rfl)]

theorem readsBack_array (h : items ≠ [] → ItemsReadBack items) : ReadsBack (.array items) := by
  intro fuel depth rest hfuel _
  obtain ⟨fuel, rfl⟩ := exists_fuel hfuel
  have htext : printed (.array items) ++ rest = '[' :: (printedItems items ++ ']' :: rest) := by
    rw [printed]
    simp
  have hdepth : (Value.array items).depth = Value.depthOfItems items + 1 := rfl
  rw [htext, hdepth]
  cases depth with
  | zero => rfl
  | succ depth =>
    cases items with
    | nil => rfl
    | cons item others =>
      obtain ⟨c, cs, hp, hspace, hc⟩ := printedItems_eq_cons item others
      have hsplit : printedItems (item :: others) ++ ']' :: rest = c :: (cs ++ ']' :: rest) := by
        rw [hp]
        rfl
      have hread : readItems fuel depth (printedItems (item :: others) ++ ']' :: rest) = _ :=
        h (by simp) (by rw [printed] at hfuel; simp at hfuel; omega)
      rw [hsplit, readValue_items hspace hc, ← hsplit, hread]
      by_cases hfits : Value.depthOfItems (item :: others) ≤ depth <;> simp [hfits]

theorem readsBack_object (hd : Fields.Distinct entries)
    (h : entries ≠ [] → MembersReadBack entries) : ReadsBack (.object entries) := by
  intro fuel depth rest hfuel _
  obtain ⟨fuel, rfl⟩ := exists_fuel hfuel
  have htext : printed (.object entries) ++ rest =
      '{' :: (printedEntries entries ++ '}' :: rest) := by
    rw [printed]
    simp
  have hdepth : (Value.object entries).depth = Value.depthOfEntries entries + 1 := rfl
  rw [htext, hdepth]
  cases depth with
  | zero => rfl
  | succ depth =>
    cases entries with
    | nil => rfl
    | cons entry others =>
      obtain ⟨cs, hp⟩ := printedEntries_eq_cons entry others
      have hsplit : printedEntries (entry :: others) ++ '}' :: rest =
          '"' :: (cs ++ '}' :: rest) := by
        rw [hp]
        rfl
      have hread : readMembers fuel depth (printedEntries (entry :: others) ++ '}' :: rest) = _ :=
        h (by simp) (by rw [printed] at hfuel; simp at hfuel; omega)
      rw [hsplit, readValue_members, ← hsplit, hread]
      by_cases hfits : Value.depthOfEntries (entry :: others) ≤ depth
      · simp [hfits, Fields.insertAll_nil_of_distinct hd]
      · simp [hfits]

/-- Two values fit into a depth when the first one does and then the second one. -/
theorem ite_max_le {α : Type} {first second depth : Nat} {result : Option α} :
    (if max first second ≤ depth then result else none) =
      if first ≤ depth then if second ≤ depth then result else none else none := by
  by_cases hfirst : first ≤ depth
  · have hmax : max first second ≤ depth ↔ second ≤ depth := by omega
    simp only [hmax, if_pos hfirst]
  · have hmax : ¬max first second ≤ depth := by omega
    rw [if_neg hmax, if_neg hfirst]

theorem stops_comma : Stops (',' :: rest) :=
  stops_cons rfl (by decide) (by decide) (by decide)

theorem itemsReadBack_singleton (h : ReadsBack value) : ItemsReadBack [value] := by
  intro fuel depth rest hfuel
  rw [printedItems] at hfuel ⊢
  obtain ⟨fuel, rfl⟩ : ∃ n, fuel = n + 1 := ⟨fuel - 1, by omega⟩
  have hstops : Stops (']' :: rest) := stops_cons rfl (by decide) (by decide) (by decide)
  have hdepth : Value.depthOfItems [value] = value.depth := by simp [Value.depthOfItems]
  rw [readItems, h (Nat.lt_succ_iff.mp hfuel) hstops, hdepth]
  by_cases hfits : value.depth ≤ depth
  · simp [hfits, skipSpace_cons (show isSpace ']' = false from rfl)]
  · simp [hfits]

theorem itemsReadBack_cons (h : ReadsBack value) (hitems : ItemsReadBack (item :: items)) :
    ItemsReadBack (value :: item :: items) := by
  intro fuel depth rest hfuel
  rw [printedItems_cons_cons] at hfuel ⊢
  simp only [List.length_append, List.length_cons] at hfuel
  obtain ⟨fuel, rfl⟩ : ∃ n, fuel = n + 1 := ⟨fuel - 1, by omega⟩
  have hothers : readItems fuel depth (printedItems (item :: items) ++ ']' :: rest) = _ :=
    hitems (by omega)
  have hdepth : Value.depthOfItems (value :: item :: items) =
      max value.depth (Value.depthOfItems (item :: items)) := rfl
  rw [List.append_assoc, List.cons_append, readItems, h (by omega) stops_comma, hdepth, ite_max_le]
  by_cases hfits : value.depth ≤ depth
  · simp only [if_pos hfits, Option.bind_eq_bind, Option.bind_some,
      skipSpace_cons (show isSpace ',' = false from rfl)]
    rw [hothers]
    by_cases hrest : Value.depthOfItems (item :: items) ≤ depth <;> simp [hrest]
  · simp [hfits]

/-- A written key is read with its colon, then comes a value. -/
theorem readMembers_quoted (fuel depth : Nat) (key : String) (cs : List Char) :
    readMembers (fuel + 1) depth (quoted key ++ ':' :: cs) =
      (readValue fuel depth cs).bind fun read =>
        match skipSpace read.2 with
        | '}' :: rest => some ([(key, read.1)], rest)
        | ',' :: rest => (readMembers fuel depth rest).bind fun others =>
            some ((key, read.1) :: others.1, others.2)
        | _ => none := by
  rw [quoted_append, readMembers, skipSpace_cons rfl]
  simp only [readQuoted_flatMap, Option.bind_eq_bind, Option.bind_some,
    skipSpace_cons (show isSpace ':' = false from rfl), String.ofList_toList]
  rfl

theorem membersReadBack_singleton (h : ReadsBack value) : MembersReadBack [(key, value)] := by
  intro fuel depth rest hfuel
  rw [printedEntries] at hfuel ⊢
  simp only [List.length_append, List.length_cons] at hfuel
  obtain ⟨fuel, rfl⟩ : ∃ n, fuel = n + 1 := ⟨fuel - 1, by omega⟩
  have hstops : Stops ('}' :: rest) := stops_cons rfl (by decide) (by decide) (by decide)
  have hdepth : Value.depthOfEntries [(key, value)] = value.depth := by
    simp [Value.depthOfEntries]
  rw [List.append_assoc, List.cons_append, readMembers_quoted, h (by omega) hstops, hdepth]
  by_cases hfits : value.depth ≤ depth
  · simp [hfits, skipSpace_cons (show isSpace '}' = false from rfl)]
  · simp [hfits]

theorem membersReadBack_cons {entry : String × Value} (h : ReadsBack value)
    (hentries : MembersReadBack (entry :: entries)) :
    MembersReadBack ((key, value) :: entry :: entries) := by
  intro fuel depth rest hfuel
  rw [printedEntries_cons_cons] at hfuel ⊢
  simp only [List.length_append, List.length_cons] at hfuel
  obtain ⟨fuel, rfl⟩ : ∃ n, fuel = n + 1 := ⟨fuel - 1, by omega⟩
  have hothers : readMembers fuel depth (printedEntries (entry :: entries) ++ '}' :: rest) = _ :=
    hentries (by omega)
  have hdepth : Value.depthOfEntries ((key, value) :: entry :: entries) =
      max value.depth (Value.depthOfEntries (entry :: entries)) := rfl
  simp only [List.append_assoc, List.cons_append]
  rw [readMembers_quoted, h (by omega) stops_comma, hdepth, ite_max_le]
  by_cases hfits : value.depth ≤ depth
  · simp only [if_pos hfits, Option.bind_some, skipSpace_cons (show isSpace ',' = false from rfl)]
    rw [hothers]
    by_cases hrest : Value.depthOfEntries (entry :: entries) ≤ depth <;> simp [hrest]
  · simp [hfits]

mutual

/-- Well-formed values are read back. -/
theorem readsBack : ∀ {value : Value}, value.WellFormed → ReadsBack value
  | .null, _ => readsBack_null
  | .bool b, _ => readsBack_bool b
  | .number n, _ => readsBack_number n
  | .string s, _ => readsBack_string s
  | .array _, h => readsBack_array (itemsReadBack h)
  | .object _, h => readsBack_object h.1 (membersReadBack h.2)

/-- Sequences of well-formed values are read back. -/
theorem itemsReadBack :
    ∀ {items : List Value}, Value.WellFormedItems items → items ≠ [] → ItemsReadBack items
  | [], _, hne => absurd rfl hne
  | [_], h, _ => itemsReadBack_singleton (readsBack h.1)
  | _ :: _ :: _, h, _ => itemsReadBack_cons (readsBack h.1) (itemsReadBack h.2 (by simp))

/-- Entries with well-formed values are read back. -/
theorem membersReadBack :
    ∀ {entries : List (String × Value)}, Value.WellFormedEntries entries → entries ≠ [] →
      MembersReadBack entries
  | [], _, hne => absurd rfl hne
  | [(_, _)], h, _ => membersReadBack_singleton (readsBack h.1)
  | (_, _) :: _ :: _, h, _ =>
    membersReadBack_cons (readsBack h.1) (membersReadBack h.2 (by simp))

end

/-- A well-formed value comes back from its text, unless it is nested too deeply to be read. -/
theorem parse_print (h : value.WellFormed) :
    parse (print value) = if value.depth ≤ maxDepth then some value else none := by
  have hread : readValue (2 * (printed value).length + 2) maxDepth (printed value) =
      if value.depth ≤ maxDepth then some (value, []) else none := by
    have hfuel : (printed value).length ≤ 2 * (printed value).length + 2 := by omega
    simpa using readsBack h hfuel stops_nil
  rw [parse, print, String.toList_ofList, hread]
  by_cases hfits : value.depth ≤ maxDepth
  · rw [if_pos hfits, if_pos hfits]
    rfl
  · rw [if_neg hfits, if_neg hfits]
    rfl

end Json

end ValidatedStore
