import Mathlib.Data.List.Infix
import ValidatedStore.KeyPath

/-!
# Texts and the paths that they name

A separator delimits a key if it occurs nowhere before the end of the key when it follows it. A cut
goes from one delimited key to the next, until no separator is left. So the keys of a text, joined
again, are the text, and none of them contains the separator. Keys that are joined are found again
exactly if the separator delimits each of them but the last, which must not contain it: a separator
that overlaps itself, or the end of a key, can be found too early.
-/

namespace ValidatedStore

namespace KeyPath

variable {separator text key last rest : List Char} {front keys : List (List Char)} {c : Char}

/-- The first occurrence of a separator in a key that is followed by it begins at the end of the
key. -/
def Delimits (separator key : List Char) : Prop :=
  ∀ before after, key ++ separator = before ++ separator ++ after → key.length ≤ before.length

/-- How a text falls into the keys between the separators that are found from the left. -/
inductive Cuts (separator : List Char) : List Char → List (List Char) → Prop
  /-- No separator is left. -/
  | last {text : List Char} (h : ¬separator <:+: text) : Cuts separator text [text]
  /-- The text begins with a key and the separator that delimits it. -/
  | next {key rest : List Char} {keys : List (List Char)} (hd : Delimits separator key)
      (hr : Cuts separator rest keys) : Cuts separator (key ++ separator ++ rest) (key :: keys)

section Delimiting

theorem delimits_nil (separator : List Char) : Delimits separator [] :=
  fun before _ _ => Nat.zero_le before.length

/-- A separator that delimits a key delimits it without its first character. -/
theorem Delimits.tail (h : Delimits separator (c :: key)) : Delimits separator key := by
  intro before after he
  have hlonger := h (c :: before) after (by rw [List.cons_append, he, List.cons_append,
    List.cons_append])
  simpa using hlonger

/-- A separator that delimits a key with a first character is not found there. -/
theorem Delimits.not_prefix (h : Delimits separator (c :: key)) (rest : List Char) :
    ¬separator <+: c :: (key ++ separator ++ rest) := by
  intro hp
  have hlong : separator.length ≤ ((c :: key) ++ separator).length := by
    rw [List.length_append]
    exact Nat.le_add_left _ _
  have hfront : (c :: key) ++ separator <+: c :: (key ++ separator ++ rest) := ⟨rest, by simp⟩
  obtain ⟨after, hafter⟩ := List.prefix_of_prefix_length_le hp hfront hlong
  have hzero := h [] after (by rw [List.nil_append, hafter])
  simp at hzero

/-- A separator is found first behind a key with one more character, if it is not found at that
character. -/
theorem Delimits.cons (h : Delimits separator key)
    (hp : ¬separator <+: c :: (key ++ separator ++ rest)) : Delimits separator (c :: key) := by
  intro before after he
  cases before with
  | nil =>
    refine absurd ?_ hp
    have hfront : (c :: key) ++ separator <+: c :: (key ++ separator ++ rest) := ⟨rest, by simp⟩
    exact List.IsPrefix.trans ⟨after, he.symm⟩ hfront
  | cons first before =>
    obtain ⟨-, hrest⟩ := List.cons.inj he
    have hle := h before after hrest
    simpa using hle

/-- A key that a separator delimits does not contain it. -/
theorem Delimits.not_within (h : Delimits separator key) (hne : separator ≠ []) :
    ¬separator <:+: key := by
  rintro ⟨before, after, rfl⟩
  have hle := h before (after ++ separator) (by simp)
  have hpos : 0 < separator.length := List.length_pos_iff.mpr hne
  simp only [List.length_append] at hle
  omega

/-- One character delimits the keys that do not contain it. -/
theorem delimits_singleton_iff : Delimits [c] key ↔ c ∉ key := by
  constructor
  · intro h hm
    exact h.not_within (List.cons_ne_nil c []) ((List.singleton_infix_iff c key).mpr hm)
  · intro h before after he
    by_contra hlt
    have hin : (key ++ [c])[before.length]? = some c := by simp [he]
    rw [List.getElem?_append_left (by omega)] at hin
    exact h (List.mem_of_getElem? hin)

/-- A text that contains a separator begins with a key that the separator delimits. -/
theorem exists_delimited (h : separator <:+: text) :
    ∃ key rest, text = key ++ separator ++ rest ∧ Delimits separator key := by
  induction text with
  | nil => exact ⟨[], [], by simpa using h, delimits_nil separator⟩
  | cons c text ih =>
    by_cases hp : separator <+: c :: text
    · obtain ⟨rest, hrest⟩ := hp
      exact ⟨[], rest, by rw [List.nil_append, hrest], delimits_nil separator⟩
    · obtain ⟨key, rest, rfl, hd⟩ := ih ((List.infix_cons_iff.mp h).resolve_left hp)
      exact ⟨c :: key, rest, by simp, hd.cons hp⟩

end Delimiting

section Cutting

/-- Characters to be passed over are dropped. -/
theorem cut_eq_cut_drop (separator : List Char) (skip : Nat) (text : List Char) :
    cut separator skip text = cut separator 0 (text.drop skip) := by
  induction text generalizing skip with
  | nil => cases skip <;> rfl
  | cons c text ih =>
    cases skip with
    | zero => rfl
    | succ skip => rw [cut, ih, List.drop_succ_cons]

/-- A separator at the beginning ends an empty piece. -/
theorem cut_append_of_ne_nil (hne : separator ≠ []) (rest : List Char) :
    cut separator 0 (separator ++ rest) = [] :: cut separator 0 rest := by
  obtain ⟨c, tail, rfl⟩ := List.exists_cons_of_ne_nil hne
  have hp : (c :: tail).isPrefixOf (c :: (tail ++ rest)) = true :=
    List.isPrefixOf_iff_prefix.mpr ⟨rest, rfl⟩
  rw [List.cons_append, cut, if_pos hp, cut_eq_cut_drop]
  simp

/-- A character at which no separator begins stands in front of the first piece. -/
theorem cut_cons_of_not_prefix (hp : ¬separator <+: c :: text)
    (h : cut separator 0 text = key :: keys) :
    cut separator 0 (c :: text) = (c :: key) :: keys := by
  rw [cut, if_neg (by rwa [List.isPrefixOf_iff_prefix]), h]

/-- A text without the separator is one piece. -/
theorem cut_of_not_within (h : ¬separator <:+: text) : cut separator 0 text = [text] := by
  induction text with
  | nil => rfl
  | cons c text ih =>
    rw [List.infix_cons_iff, not_or] at h
    exact cut_cons_of_not_prefix h.1 (ih h.2)

/-- A delimited key is the first piece. -/
theorem cut_of_delimits (hne : separator ≠ []) (h : Delimits separator key) (rest : List Char) :
    cut separator 0 (key ++ separator ++ rest) = key :: cut separator 0 rest := by
  induction key with
  | nil => rw [List.nil_append, cut_append_of_ne_nil hne]
  | cons c key ih => exact cut_cons_of_not_prefix (h.not_prefix rest) (ih h.tail)

namespace Cuts

theorem ne_nil (h : Cuts separator text keys) : keys ≠ [] := by
  cases h <;> exact List.cons_ne_nil _ _

/-- The pieces that are found are the only ones. -/
theorem cut_eq (h : Cuts separator text keys) (hne : separator ≠ []) :
    cut separator 0 text = keys := by
  induction h with
  | last h => exact cut_of_not_within h
  | next hd _ ih => rw [cut_of_delimits hne hd, ih]

/-- The pieces joined are the text. -/
theorem intercalate_eq (h : Cuts separator text keys) : separator.intercalate keys = text := by
  induction h with
  | last => simp
  | next _ hr ih => rw [List.intercalate_cons_of_ne_nil hr.ne_nil, ih, List.append_assoc]

/-- No piece contains the separator. -/
theorem not_within (h : Cuts separator text keys) (hne : separator ≠ []) :
    ∀ key ∈ keys, ¬separator <:+: key := by
  induction h with
  | last h => simpa using h
  | next hd _ ih => exact List.forall_mem_cons.mpr ⟨hd.not_within hne, ih⟩

/-- Some keys are those of the text that they make up when joined, if all but the last are
delimited. -/
theorem of_delimits (hl : ¬separator <:+: last) (hf : ∀ key ∈ front, Delimits separator key) :
    Cuts separator (separator.intercalate (front ++ [last])) (front ++ [last]) := by
  induction front with
  | nil => simpa using Cuts.last hl
  | cons key front ih =>
    obtain ⟨hd, hrest⟩ := List.forall_mem_cons.mp hf
    have hne : front ++ [last] ≠ [] := by simp
    rw [List.cons_append, List.intercalate_cons_of_ne_nil hne]
    exact .next hd (ih hrest)

/-- The last key of a text does not contain the separator, and the others are delimited by it. -/
theorem delimits (h : Cuts separator text (front ++ [last])) :
    ¬separator <:+: last ∧ ∀ key ∈ front, Delimits separator key := by
  induction front generalizing text with
  | nil =>
    cases h with
    | last h => exact ⟨h, by simp⟩
    | next _ hr => exact absurd rfl hr.ne_nil
  | cons key front ih =>
    generalize htail : front ++ [last] = tail at ih
    rw [List.cons_append, htail] at h
    cases h with
    | last => simp at htail
    | next hd hr =>
      obtain ⟨hl, hf⟩ := ih hr
      exact ⟨hl, List.forall_mem_cons.mpr ⟨hd, hf⟩⟩

end Cuts

/-- Every text falls into keys. -/
theorem exists_cuts (hne : separator ≠ []) (text : List Char) :
    ∃ keys, Cuts separator text keys := by
  induction hn : text.length using Nat.strongRecOn generalizing text with
  | ind n ih =>
    by_cases h : separator <:+: text
    · obtain ⟨key, rest, rfl, hd⟩ := exists_delimited h
      have hpos : 0 < separator.length := List.length_pos_iff.mpr hne
      have hlt : rest.length < n := by
        simp only [List.length_append] at hn
        omega
      obtain ⟨keys, hkeys⟩ := ih _ hlt rest rfl
      exact ⟨key :: keys, .next hd hkeys⟩
    · exact ⟨[text], .last h⟩

/-- The pieces of a text are the keys into which it falls. -/
theorem cuts_cut (hne : separator ≠ []) (text : List Char) :
    Cuts separator text (cut separator 0 text) := by
  obtain ⟨keys, hkeys⟩ := exists_cuts hne text
  rwa [hkeys.cut_eq hne]

/-- Joined keys are cut apart again exactly if the separator delimits all of them but the last, and
does not occur in that one. -/
theorem cut_intercalate_iff (hne : separator ≠ []) :
    cut separator 0 (separator.intercalate (front ++ [last])) = front ++ [last] ↔
      ¬separator <:+: last ∧ ∀ key ∈ front, Delimits separator key := by
  constructor
  · intro h
    exact (h ▸ cuts_cut hne (separator.intercalate (front ++ [last]))).delimits
  · rintro ⟨hl, hf⟩
    exact (Cuts.of_delimits hl hf).cut_eq hne

end Cutting

section Naming

variable {separator text : String} {path : KeyPath}

/-- The keys that a text names are its pieces. -/
theorem map_toList_ofText (hs : separator ≠ "") (ht : text ≠ "") :
    (ofText separator text).map String.toList = cut separator.toList 0 text.toList := by
  have hempty : ∀ {t : String}, t ≠ "" → t.isEmpty = false := fun h => by simpa using h
  rw [ofText, hempty ht, hempty hs]
  simp [Function.comp_def]

/-- The keys that a text names, joined again, are the text. -/
theorem intercalate_ofText (hs : separator ≠ "") (text : String) :
    separator.intercalate (ofText separator text) = text := by
  by_cases ht : text = ""
  · subst ht
    rfl
  · have hne : separator.toList ≠ [] := by simpa using hs
    rw [← String.toList_inj, String.toList_intercalate, map_toList_ofText hs ht,
      (cuts_cut hne text.toList).intercalate_eq]

/-- No key that a text names contains the separator. -/
theorem not_within_of_mem_ofText (hs : separator ≠ "") {key : String}
    (hm : key ∈ ofText separator text) : ¬separator.toList <:+: key.toList := by
  have ht : text ≠ "" := by
    rintro rfl
    cases hm
  have hne : separator.toList ≠ [] := by simpa using hs
  refine (cuts_cut hne text.toList).not_within hne _ ?_
  rw [← map_toList_ofText hs ht]
  exact List.mem_map_of_mem hm

/-- Keys make up a text unless there are none, or one empty key alone. -/
theorem intercalate_ne_empty (hs : separator ≠ "") (hn : path ≠ []) (he : path ≠ [""]) :
    separator.intercalate path ≠ "" := by
  rcases path with _ | ⟨first, _ | ⟨second, rest⟩⟩
  · exact absurd rfl hn
  · simpa using he
  · rw [String.intercalate_cons_cons]
    simp [hs]

/-- Joined keys name the same path again exactly if they are cut apart again. -/
theorem ofText_intercalate_iff_cut (hs : separator ≠ "") (hn : path ≠ []) (he : path ≠ [""]) :
    ofText separator (separator.intercalate path) = path ↔
      cut separator.toList 0 (separator.toList.intercalate (path.map String.toList)) =
        path.map String.toList := by
  rw [← String.toList_intercalate, ← map_toList_ofText hs (intercalate_ne_empty hs hn he),
    List.map_inj_right fun _ _ => String.toList_inj.mp]

/-- Joined keys name the same path again exactly if the separator delimits all of them but the last,
and does not occur in that one. -/
theorem ofText_intercalate_iff (hs : separator ≠ "") {front : List String} {last : String}
    (he : front ++ [last] ≠ [""]) :
    ofText separator (separator.intercalate (front ++ [last])) = front ++ [last] ↔
      ¬separator.toList <:+: last.toList ∧
        ∀ key ∈ front, Delimits separator.toList key.toList := by
  have hne : separator.toList ≠ [] := by simpa using hs
  rw [ofText_intercalate_iff_cut hs (by simp) he, List.map_append, List.map_singleton,
    cut_intercalate_iff hne, List.forall_mem_map]

/-- Keys joined with one character name the same path again exactly if none of them contains it. -/
theorem ofText_intercalate_iff_of_singleton {c : Char} (hs : separator.toList = [c])
    (hn : path ≠ []) (he : path ≠ [""]) :
    ofText separator (separator.intercalate path) = path ↔ ∀ key ∈ path, c ∉ key.toList := by
  have hne : separator ≠ "" := by
    rintro rfl
    cases hs
  obtain ⟨front, last, rfl⟩ := (List.eq_nil_or_concat' path).resolve_left hn
  simp only [ofText_intercalate_iff hne he, hs, delimits_singleton_iff, List.singleton_infix_iff,
    List.forall_mem_append, List.forall_mem_singleton, and_comm]

/-- Texts and paths correspond, for every separator that is not empty. The keys that a text names
make up the text when joined, and none of them contains the separator, so that different texts name
different paths. Some keys are named by the text that they make up exactly if the separator delimits
all of them but the last, and does not occur in that one; for a separator of one character, exactly
if none of them contains it. -/
theorem ofText_exact (separator : String) (hs : separator ≠ "") :
    (∀ text, separator.intercalate (ofText separator text) = text ∧
      ∀ key ∈ ofText separator text, ¬separator.toList <:+: key.toList) ∧
    Function.Injective (ofText separator) ∧
    (∀ front last, front ++ [last] ≠ [""] →
      (ofText separator (separator.intercalate (front ++ [last])) = front ++ [last] ↔
        ¬separator.toList <:+: last.toList ∧
          ∀ key ∈ front, Delimits separator.toList key.toList)) ∧
    ∀ c, separator.toList = [c] → ∀ path : KeyPath, path ≠ [] → path ≠ [""] →
      (ofText separator (separator.intercalate path) = path ↔ ∀ key ∈ path, c ∉ key.toList) := by
  refine ⟨fun text => ⟨intercalate_ofText hs text, fun key => not_within_of_mem_ofText hs⟩, ?_,
    fun front last => ofText_intercalate_iff hs,
    fun c hc path => ofText_intercalate_iff_of_singleton hc⟩
  intro text other he
  rw [← intercalate_ofText hs text, he, intercalate_ofText hs other]

/-- A double colon behind a key that ends in a colon is found one character too early; a key that
begins with one does no harm, nor does one at the end of the last key. -/
theorem ofText_exact_of_colons :
    "::" ≠ "" ∧ ["a:"] ++ ["b"] ≠ [""] ∧
      ofText "::" ("::".intercalate (["a:"] ++ ["b"])) = ["a", ":b"] ∧
      ¬Delimits "::".toList "a:".toList ∧
      [":a"] ++ ["b:"] ≠ [""] ∧
      ofText "::" ("::".intercalate ([":a"] ++ ["b:"])) = [":a"] ++ ["b:"] ∧
      Delimits "::".toList ":a".toList ∧
      ".".toList = ['.'] ∧ ["", "a", ""] ≠ [] ∧ ["", "a", ""] ≠ [""] ∧
      ofText "." (".".intercalate ["", "a", ""]) = ["", "a", ""] := by
  have hs : "::" ≠ "" := by decide
  have hpoint : "." ≠ "" := by decide
  obtain ⟨-, -, hiff, -⟩ := ofText_exact "::" hs
  obtain ⟨-, -, -, hone⟩ := ofText_exact "." hpoint
  have hcolon : ["a:"] ++ ["b"] ≠ [""] := by decide
  have hclear : [":a"] ++ ["b:"] ≠ [""] := by decide
  have hcut : ofText "::" ("::".intercalate (["a:"] ++ ["b"])) = ["a", ":b"] := by decide +kernel
  have hback : ofText "::" ("::".intercalate ([":a"] ++ ["b:"])) = [":a"] ++ ["b:"] := by
    decide +kernel
  have hlast : ¬"::".toList <:+: "b".toList := by decide +kernel
  have hdelimits := (hiff _ _ hclear).mp hback
  refine ⟨hs, hcolon, hcut, fun hd => ?_, hclear, hback, by simpa using hdelimits.2, rfl, by decide,
    by decide, (hone '.' rfl _ (by decide) (by decide)).mpr (by decide +kernel)⟩
  have hsame := (hiff _ _ hcolon).mpr ⟨hlast, by simpa using hd⟩
  rw [hcut] at hsame
  exact absurd hsame (by decide)

end Naming

end KeyPath

end ValidatedStore
