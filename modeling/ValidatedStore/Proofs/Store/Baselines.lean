import ValidatedStore.Proofs.Medium.Lawful
import ValidatedStore.Proofs.Store.Usage

/-!
# The baseline is what the store last saw

The log of a store tells which sources its loads took over and which values its saves wrote. The
baseline is the text of the last entry, after every operation and whatever its handlers do, and a
secure store saves only while its medium holds that text. So the log of an operation accounts for
all that the operation does to the medium.
-/

namespace ValidatedStore

open LawfulMedium (content)

namespace Store

/-- The text that the last access of a log saw; none if that was nothing, or if there is none. -/
def lastSeen (log : List Access) : Option String :=
  match log.getLast? with
  | none => none
  | some (.loaded source) => source
  | some (.saved value _) => some (Json.print value)

theorem lastSeen_append_loaded (log : List Access) (source : Option String) :
    lastSeen (log ++ [.loaded source]) = source := by
  rw [lastSeen, List.getLast?_append]
  rfl

theorem lastSeen_append_saved (log : List Access) (value : Value) (baseline : Option String) :
    lastSeen (log ++ [.saved value baseline]) = some (Json.print value) := by
  rw [lastSeen, List.getLast?_append]
  rfl

/-- What a medium holds after accesses, given what it held before them. -/
def written (held : Option String) : List Access → Option String
  | [] => held
  | .loaded _ :: rest => written held rest
  | .saved value _ :: rest => written (some (Json.print value)) rest

theorem written_append (held : Option String) (first second : List Access) :
    written held (first ++ second) = written (written held first) second := by
  induction first generalizing held with
  | nil => rfl
  | cons access rest ih => cases access <;> exact ih _

/-- New accesses that overwrite nothing unseen, on a medium that held one text before them and
holds another one after them, by a store with the given log. -/
structure Faithful (held : Option String) (log new : List Access) (final : Option String) :
    Prop where
  /-- A load takes over what the medium holds, or held at an earlier point. -/
  loads : ∀ {before source after}, new = before ++ .loaded source :: after →
    ∃ earlier, earlier <+: before ∧ written held earlier = source
  /-- A save finds what the store last saw, and its text becomes the baseline. -/
  saves : ∀ {before value baseline after}, new = before ++ .saved value baseline :: after →
    written held before = lastSeen (log ++ before) ∧ baseline = some (Json.print value)
  /-- Nothing but the saves changes the medium. -/
  ends : written held new = final

namespace Faithful

variable {held middle final source : Option String} {log new others : List Access}
  {access : Access}

theorem nil : Faithful held log [] held where
  loads h := by simp at h
  saves h := by simp at h
  ends := rfl

/-- An access of two lists together is one of the first, or one of the second. -/
theorem access_of_append {before after : List Access}
    (h : new ++ others = before ++ access :: after) :
    (∃ rest, new = before ++ access :: rest) ∨
      ∃ rest, before = new ++ rest ∧ others = rest ++ access :: after := by
  rcases List.append_eq_append_iff.mp h with ⟨rest, hb, ho⟩ | ⟨rest, hn, ho⟩
  · exact .inr ⟨rest, hb, ho⟩
  · cases rest with
    | nil => exact .inr ⟨[], by simpa using hn.symm, ho.symm⟩
    | cons first rest =>
      obtain ⟨rfl, _⟩ := List.cons.inj ho
      exact .inl ⟨rest, hn⟩

/-- Accesses after others, seen from the start of the first ones. -/
theorem append (h₁ : Faithful held log new middle)
    (h₂ : Faithful middle (log ++ new) others final) :
    Faithful held log (new ++ others) final where
  loads h := by
    rcases access_of_append h with ⟨rest, hn⟩ | ⟨rest, rfl, ho⟩
    · exact h₁.loads hn
    · obtain ⟨earlier, hp, hw⟩ := h₂.loads ho
      refine ⟨new ++ earlier, (List.prefix_append_right_inj new).mpr hp, ?_⟩
      rw [written_append, h₁.ends, hw]
  saves h := by
    rcases access_of_append h with ⟨rest, hn⟩ | ⟨rest, rfl, ho⟩
    · exact h₁.saves hn
    · rw [written_append, h₁.ends, ← List.append_assoc]
      exact h₂.saves ho
  ends := by rw [written_append, h₁.ends, h₂.ends]

/-- A load that takes over what the medium held at the start. -/
theorem load (h : Faithful held log new final) :
    Faithful held log (new ++ [.loaded held]) final where
  loads {before source after} he := by
    rcases access_of_append he with ⟨rest, hn⟩ | ⟨rest, rfl, ho⟩
    · exact h.loads hn
    · obtain ⟨rfl, hs⟩ : rest = [] ∧ held = source := by
        cases rest with
        | nil => exact ⟨rfl, Access.loaded.inj (List.cons.inj ho).1⟩
        | cons first rest => simp at ho
      exact ⟨[], List.nil_prefix, hs⟩
  saves {before value baseline after} he := by
    rcases access_of_append he with ⟨rest, hn⟩ | ⟨rest, rfl, ho⟩
    · exact h.saves hn
    · cases rest <;> simp at ho
  ends := by
    rw [written_append, h.ends]
    rfl

/-- A save that finds what the store last saw. -/
theorem save {value : Value} (h : Faithful held log new (lastSeen (log ++ new))) :
    Faithful held log (new ++ [.saved value (some (Json.print value))])
      (some (Json.print value)) where
  loads {before source after} he := by
    rcases access_of_append he with ⟨rest, hn⟩ | ⟨rest, rfl, ho⟩
    · exact h.loads hn
    · cases rest <;> simp at ho
  saves {before other baseline after} he := by
    rcases access_of_append he with ⟨rest, hn⟩ | ⟨rest, rfl, ho⟩
    · exact h.saves hn
    · cases rest with
      | nil =>
        obtain ⟨rfl, rfl⟩ := Access.saved.inj (List.cons.inj ho).1
        rw [List.append_nil]
        exact ⟨h.ends, rfl⟩
      | cons first rest => simp at ho
  ends := by
    rw [written_append]
    rfl

/-- Without a save the medium holds what it held. -/
theorem exists_saved (h : Faithful held log new final) (hne : final ≠ held) :
    ∃ value baseline, Access.saved value baseline ∈ new := by
  by_contra hno
  refine hne (h.ends.symm.trans ?_)
  clear h hne
  induction new with
  | nil => rfl
  | cons access rest ih =>
    cases access with
    | loaded source =>
      exact ih fun ⟨value, baseline, hm⟩ => hno ⟨value, baseline, List.mem_cons_of_mem _ hm⟩
    | saved value baseline => exact absurd ⟨value, baseline, List.mem_cons_self⟩ hno

end Faithful

variable {μ : Type} [Medium μ] [LawfulMedium μ] {store : Store}

/-- From one session to a later one of the same store, the baseline stays what the store last saw,
and the log accounts for the medium. -/
def Accounts (store : Store) (first last : Session μ) : Prop :=
  first.state.baseline = lastSeen first.state.log →
    last.state.baseline = lastSeen last.state.log ∧
      ∃ new, last.state.log = first.state.log ++ new ∧
        Faithful (content first.medium store.name) first.state.log new
          (content last.medium store.name)

namespace Accounts

variable {first middle last : Session μ}

theorem refl (session : Session μ) : store.Accounts session session :=
  fun hb => ⟨hb, [], by rw [List.append_nil], .nil⟩

theorem trans (h₁ : store.Accounts first middle) (h₂ : store.Accounts middle last) :
    store.Accounts first last := by
  intro hb
  obtain ⟨hm, new, hlog, hf⟩ := h₁ hb
  obtain ⟨hl, others, hlog', hf'⟩ := h₂ hm
  rw [hlog] at hlog' hf'
  exact ⟨hl, new ++ others, by rw [hlog', List.append_assoc], hf.append hf'⟩

/-- A load takes over what the medium held at the start. -/
theorem taken (h : store.Accounts first middle) (value : Value) :
    store.Accounts first (taken value (content first.medium store.name) middle) := by
  intro hb
  obtain ⟨_, new, hlog, hf⟩ := h hb
  refine ⟨(lastSeen_append_loaded _ _).symm, _, ?_, hf.load⟩
  rw [← List.append_assoc, ← hlog]
  rfl

/-- A save writes when the medium holds what the store last saw, and otherwise leaves it. -/
theorem write (h : store.Accounts first middle)
    (hread : Medium.read middle.medium store.name = .ok middle.state.baseline) :
    store.Accounts first (store.write middle).2 := by
  intro hb
  obtain ⟨hm, new, hlog, hf⟩ := h hb
  unfold Store.write
  dsimp only
  split
  next hw => exact ⟨hm, new, hlog, LawfulMedium.content_of_failed_write hw ▸ hf⟩
  next hw =>
    have hheld : content middle.medium store.name = lastSeen (first.state.log ++ new) := by
      rw [LawfulMedium.content_of_read hread, hm, hlog]
    rw [hheld] at hf
    let entry := Access.saved middle.state.value (some (Json.print middle.state.value))
    refine ⟨(lastSeen_append_saved _ _ _).symm, new ++ [entry], ?_, ?_⟩
    · rw [State.record, hlog, List.append_assoc]
    · dsimp only
      rw [LawfulMedium.content_of_write hw]
      exact hf.save

/-- Whatever a move does is accounted for, in an operation that started at the first session and
that is no load from a given source. -/
theorem move {operation : Operation} (hsecure : store.settings.secure = true)
    (hload : ∀ source, operation ≠ .loadFrom source) (h : store.Accounts first middle)
    (hm : store.Move operation first.medium middle last) : store.Accounts first last := by
  cases hm with
  | note event => exact h
  | pending pending => exact h
  | change hc => exact h
  | load ht ho =>
    cases ht with
    | load hr =>
      rw [← LawfulMedium.content_of_read hr]
      exact h.taken _
    | loadFrom => exact absurd rfl (hload _)
  | save hs => exact h.write (hs hsecure)

end Accounts

/-- An operation is accounted for if its handlers are. -/
theorem Trail.accounts {callbacks : Callbacks μ} {operation : Operation} {first last : Session μ}
    (hsecure : store.settings.secure = true) (hload : ∀ source, operation ≠ .loadFrom source)
    (hinvalid : ∀ session, store.Accounts session (callbacks.afterInvalid session))
    (hconflict : ∀ session, store.Accounts session (callbacks.afterConflict session))
    (h : store.Trail callbacks operation first.medium first last) :
    store.Accounts first last := by
  induction h with
  | refl => exact .refl first
  | tail _ hstride ih =>
    rcases hstride with hm | rfl | rfl
    · exact ih.move hsecure hload hm
    · exact ih.trans (hinvalid _)
    · exact ih.trans (hconflict _)

/-- Nothing that a secure store does goes unaccounted for, whatever its handlers do with it, as
long as it loads from its medium alone and nobody else interferes. -/
theorem Evolves.accounts {may : Operation → Prop} {shifts : μ → μ → Prop} {first last : Session μ}
    (hsecure : store.settings.secure = true)
    (hmay : ∀ operation, may operation → ∀ source, operation ≠ .loadFrom source)
    (hshifts : ∀ medium after, ¬ shifts medium after)
    (h : store.Evolves may shifts first last) : store.Accounts first last := by
  refine h.related .refl .trans (fun session _ => .refl session) ?_ ?_
  · exact fun _ _ hs => absurd hs (hshifts _ _)
  · exact fun callbacks operation session hinvalid hconflict ho =>
      (trail_perform operation).accounts hsecure (hmay operation ho) hinvalid hconflict

end Store

end ValidatedStore
