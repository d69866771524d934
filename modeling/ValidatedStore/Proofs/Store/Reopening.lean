import ValidatedStore.Proofs.Json.RoundTrip
import ValidatedStore.Proofs.Medium.Lawful
import ValidatedStore.Proofs.Store.Validity
import ValidatedStore.Proofs.Store.WellFormed

/-!
# Stores that are opened again

A save leaves the text of the value in the medium, and opening a store once more reads that text.
It gives the value back, as long as the value is not nested too deeply for the reader and the
validator accepts it. Otherwise the text is taken for an invalid one and the value is lost, although
the save succeeded: no depth is too great for the writer.
-/

namespace ValidatedStore

open LawfulMedium (content)

variable {μ : Type} [Medium μ] {store : Store} {draft : StoreDraft}
  {onInvalid : Option InvalidHandler} {onConflict : Option ConflictHandler}

/-- The store with other handlers, which loads as soon as it is opened. -/
def Store.eager (store : Store) (onInvalid : Option InvalidHandler)
    (onConflict : Option ConflictHandler) : Store :=
  { store with
    settings := { store.settings with lazyLoad := false }
    onInvalid := onInvalid
    onConflict := onConflict }

namespace StoreDraft

/-- The draft with other handlers, whose store loads as soon as it is opened. -/
def eager (draft : StoreDraft) (onInvalid : Option InvalidHandler)
    (onConflict : Option ConflictHandler) : StoreDraft :=
  { draft with
    settings := { draft.settings with lazyLoad := false }
    onInvalid := onInvalid
    onConflict := onConflict }

/-- Opened again on a medium, whatever its handlers are, the store loads the value, tells no handler
of invalid values, and leaves the medium as it is. -/
def Reopens (draft : StoreDraft) (medium : μ) (value : Value) : Prop :=
  ∀ onInvalid onConflict, ∃ store session,
    (draft.eager onInvalid onConflict).openOn medium = (.ok store, session) ∧
      session.state.loaded = true ∧ session.state.value = value ∧
      (∀ paths, Event.invalid paths ∉ session.events) ∧ session.medium = medium

theorem prepare_eager (h : draft.prepare = .ok store) :
    (draft.eager onInvalid onConflict).prepare = .ok (store.eager onInvalid onConflict) := by
  obtain ⟨_, he⟩ := Store.prepare_eq_ok h
  have hprepare := Store.prepare_with h { draft.settings with lazyLoad := false } onInvalid
    onConflict rfl
  rw [eager, hprepare, Store.eager, he]

/-- Such a store is opened by its first load. -/
theorem openOn_eager (h : draft.prepare = .ok store) (medium : μ) :
    (draft.eager onInvalid onConflict).openOn medium =
      (((store.eager onInvalid onConflict).load Callbacks.passive (store.start medium)).1.map
          fun _ => store.eager onInvalid onConflict,
        ((store.eager onInvalid onConflict).load Callbacks.passive (store.start medium)).2) := by
  rw [Store.openOn_of_prepare (prepare_eager h)]
  rfl

end StoreDraft

namespace Store

/-- A save that wrote did so without anything else. -/
theorem write_of_saveNow {callbacks : Callbacks μ} {before after : Session μ}
    (h : store.saveNow callbacks before = (.ok true, after)) :
    store.write before = (.ok true, after) := by
  rcases saveNow_cases store callbacks before with ⟨hs, _⟩ | ⟨cause, hs⟩ | ⟨current, hs⟩
  · exact hs.symm.trans h
  · cases (Prod.mk.inj (hs.symm.trans h)).1
  · have hreport := hs.symm.trans h
    unfold reportConflict at hreport
    dsimp only at hreport
    split at hreport
    next => cases (Prod.mk.inj hreport).1
    next => cases (Prod.mk.inj hreport).1

/-- A save writes where the medium holds the baseline. -/
theorem saveNow_of_read {callbacks : Callbacks μ} {session : Session μ}
    (h : Medium.read session.medium store.name = .ok session.state.baseline) :
    store.saveNow callbacks session = store.write session := by
  unfold saveNow
  split
  next =>
    rw [h]
    exact if_pos rfl
  next => rfl

/-- A written value stands in the medium. -/
theorem content_of_write [LawfulMedium μ] {before after : Session μ}
    (h : store.write before = (.ok true, after)) :
    content after.medium store.name = some (Json.print after.state.value) := by
  unfold write at h
  dsimp only at h
  split at h
  next => cases (Prod.mk.inj h).1
  next hw =>
    obtain ⟨_, rfl⟩ := Prod.mk.inj h
    exact LawfulMedium.content_of_write hw

/-- The text of a well-formed value is found valid exactly if the value is neither nested too deeply
nor rejected. -/
theorem examine_print {value : Value} (hw : value.WellFormed) :
    store.examine (Json.print value) =
      if value.depth ≤ Json.maxDepth then (value, store.failures value)
      else (.null, [KeyPath.root]) := by
  rw [examine, Json.parse_print hw]
  by_cases hfits : value.depth ≤ Json.maxDepth
  · rw [if_pos hfits, if_pos hfits]
  · rw [if_neg hfits, if_neg hfits]

/-- Events are kept by every move. -/
theorem Move.events_subset {operation : Operation} {origin : μ} {before after : Session μ}
    (h : store.Move operation origin before after) : before.events ⊆ after.events := by
  cases h with
  | note event => exact List.subset_append_left _ _
  | pending pending => exact List.Subset.refl _
  | change h => exact List.Subset.refl _
  | load ht ho => exact List.Subset.refl _
  | save h =>
    unfold write
    dsimp only
    split <;> exact List.Subset.refl _

/-- Events are kept by operations whose handlers only take note. -/
theorem Trail.events_subset {operation : Operation} {origin : μ} {before after : Session μ}
    (h : store.Trail Callbacks.passive operation origin before after) :
    before.events ⊆ after.events := by
  induction h with
  | refl => exact List.Subset.refl _
  | tail _ hstride ih =>
    rcases hstride with hm | rfl | rfl
    · exact List.Subset.trans ih hm.events_subset
    · exact ih
    · exact ih

/-- A store with a handler of invalid values tells it of every text that it does not take as it
stands. -/
theorem mem_events_loadFrom {handler : InvalidHandler} {text : String} {value : Value}
    {path : KeyPath} {paths : List KeyPath} {session : Session μ}
    (hi : store.onInvalid = some handler) (he : store.examine text = (value, path :: paths)) :
    Event.invalid (path :: paths) ∈
      (store.loadFrom Callbacks.passive (some text) session).2.events := by
  have hnoted : Event.invalid (path :: paths) ∈
      (session.note (.invalid (path :: paths))).events :=
    List.mem_append_right _ (List.mem_singleton_self _)
  rw [loadFrom, he]
  dsimp only
  split
  next =>
    rw [reject, hi]
    exact hnoted
  next template ht =>
    have hreport : store.reportRepair Callbacks.passive (path :: paths) session =
        session.note (.invalid (path :: paths)) := by
      rw [reportRepair, hi]
      rfl
    rw [hreport]
    split
    next => exact hnoted
    next repaired hr =>
      have hcommit : store.Trail Callbacks.passive (.loadFrom (some text)) session.medium
          (session.note (.invalid (path :: paths)))
          (store.commitLoad Callbacks.passive repaired (some text) true
            (session.note (.invalid (path :: paths)))).2 :=
        trail_commitLoad true .loadFrom (.repaired he ht hr)
      exact hcommit.events_subset hnoted

/-- A text that is found valid is taken as it stands. -/
theorem loadFrom_of_examine {callbacks : Callbacks μ} {text : String} {value : Value}
    {session : Session μ} (he : store.examine text = (value, [])) :
    store.loadFrom callbacks (some text) session =
      (.ok true, taken value (some text) session) := by
  rw [loadFrom, he]
  rfl

/-- A store whose key holds the text of a value is opened again without a report of invalid values
only if that value is valid and not nested too deeply. -/
theorem valid_of_reopens {medium : μ} {value held : Value} (hp : draft.prepare = .ok store)
    (hw : held.WellFormed)
    (hread : ∀ text?, Medium.read medium store.name = .ok text? → text? = some (Json.print held))
    (h : draft.Reopens medium value) :
    (∃ text?, Medium.read medium store.name = .ok text?) ∧ held.depth ≤ Json.maxDepth ∧
      store.failures held = [] := by
  obtain ⟨reopened, session, hopens, _, _, hquiet, _⟩ := h (some .observe) none
  have hname : Medium.read (store.start medium).medium (store.eager (some .observe) none).name =
      Medium.read medium store.name := rfl
  rw [StoreDraft.openOn_eager hp, load, hname] at hopens
  cases hr : Medium.read medium store.name with
  | error cause =>
    rw [hr] at hopens
    cases (Prod.mk.inj hopens).1
  | ok text? =>
    obtain rfl := hread text? hr
    rw [hr] at hopens
    obtain ⟨_, rfl⟩ := Prod.mk.inj hopens
    cases he : (store.eager (some .observe) none).examine (Json.print held) with
    | mk found paths =>
      cases paths with
      | nil =>
        rw [examine_print hw] at he
        split at he
        next hdepth => exact ⟨⟨_, rfl⟩, hdepth, (Prod.mk.inj he).2⟩
        next => cases (Prod.mk.inj he).2
      | cons path paths => exact absurd (mem_events_loadFrom rfl he) (hquiet _)

/-- A valid value that is not nested too deeply comes back from its text. -/
theorem reopens_of_valid {medium : μ} {value : Value} (hp : draft.prepare = .ok store)
    (hw : value.WellFormed)
    (hread : Medium.read medium store.name = .ok (some (Json.print value)))
    (hdepth : value.depth ≤ Json.maxDepth) (hvalid : store.failures value = []) :
    draft.Reopens medium value := by
  intro onInvalid onConflict
  have hname : Medium.read (store.start medium).medium (store.eager onInvalid onConflict).name =
      Medium.read medium store.name := rfl
  have he : (store.eager onInvalid onConflict).examine (Json.print value) = (value, []) := by
    rw [examine_print hw, if_pos hdepth]
    exact Prod.ext rfl hvalid
  have hopens : (draft.eager onInvalid onConflict).openOn medium =
      (.ok (store.eager onInvalid onConflict),
        taken value (some (Json.print value)) (store.start medium)) := by
    rw [StoreDraft.openOn_eager hp, load, hname, hread]
    dsimp only
    rw [loadFrom_of_examine he]
    rfl
  exact ⟨_, _, hopens, rfl, rfl, fun _ => List.not_mem_nil, rfl⟩

/-- After a save that wrote, a store that was opened from a well-formed draft and used by
well-formed operations is opened again with its value, exactly if the medium can be read, the value
is not nested too deeply, and the validator accepts it. The last is certain without a schema, and
with a built one that has a default. -/
theorem reopens_iff [LawfulMedium μ] {callbacks : Callbacks μ} {shifts : μ → μ → Prop} {medium : μ}
    {opened before after : Session μ} (hdraft : draft.WellFormed)
    (hopen : draft.openOn medium = (.ok store, opened))
    (hrun : store.Evolves Operation.WellFormed shifts opened before)
    (hsave : store.save callbacks before = (.ok true, after)) :
    (draft.Reopens after.medium after.state.value ↔
      (∃ text?, Medium.read after.medium store.name = .ok text?) ∧
        after.state.value.depth ≤ Json.maxDepth ∧ store.failures after.state.value = []) ∧
    ((∀ schema, draft.schema = some schema → schema.Built ∧ schema.default?.isSome = true) →
      store.failures after.state.value = []) := by
  have hp := prepare_of_openOn hopen
  have hwrite : store.write (withPending false before) = (.ok true, after) :=
    write_of_saveNow hsave
  have hvalue : after.state.value = before.state.value := by
    have hv := write_value store (withPending false before)
    rw [hwrite] at hv
    exact hv
  have hw : after.state.value.WellFormed := hvalue ▸ wellFormed_of_openOn hdraft hopen hrun
  have hread : ∀ text?, Medium.read after.medium store.name = .ok text? →
      text? = some (Json.print after.state.value) := by
    intro text? hr
    rw [← content_of_write hwrite, LawfulMedium.content_of_read hr]
  refine ⟨⟨valid_of_reopens hp hw hread, fun ⟨⟨text?, hr⟩, hdepth, hvalid⟩ => ?_⟩,
    fun hschema => ?_⟩
  · obtain rfl := hread text? hr
    exact reopens_of_valid hp hw hr hdepth hvalid
  · rw [hvalue]
    exact failures_of_openOn trivial hschema hopen hrun

theorem wellFormed_switchDraft : switchDraft.WellFormed where
  default h := by cases h
  schema {schema inner value} hs hw hv := by
    obtain rfl := Option.some.inj hs
    cases hw with
    | refl =>
      obtain rfl := Option.some.inj hv
      exact ⟨List.nodup_singleton _, trivial, trivial⟩
    | field hm hw =>
      obtain rfl := (Prod.mk.inj (List.mem_singleton.mp hm)).2
      cases hw
      obtain rfl := Option.some.inj hv
      exact trivial

/-- The switch is turned on, saved, and opened again. -/
theorem reopens_of_switch_turned_on :
    ∃ opened before after : Session Memory, switchDraft.WellFormed ∧
      switchDraft.openOn Memory.empty = (.ok switchStore, opened) ∧
      switchStore.Evolves Operation.WellFormed (fun _ _ => False) opened before ∧
      switchStore.save switchStore.callbacks before = (.ok true, after) ∧
      after.state.value = .object [("on", .bool true)] ∧
      switchDraft.Reopens after.medium after.state.value := by
  let opened := (switchDraft.openOn Memory.empty).2
  let attempt := Operation.set (.text "on") (.bool true)
  let before := (switchStore.perform Callbacks.passive attempt opened).2
  let after := (switchStore.save switchStore.callbacks before).2
  have hopen : switchDraft.openOn Memory.empty = (.ok switchStore, opened) := rfl
  have hrun : switchStore.Evolves Operation.WellFormed (fun _ _ => False) opened before :=
    evolves_perform_passive (Operation.wellFormed_set _ (show (Value.bool true).WellFormed from
      trivial)) opened
  have hsave : switchStore.save switchStore.callbacks before = (.ok true, after) := rfl
  exact ⟨opened, before, after, wellFormed_switchDraft, hopen, hrun, hsave, rfl,
    (reopens_iff wellFormed_switchDraft hopen hrun hsave).1.mpr ⟨⟨_, rfl⟩, by decide, rfl⟩⟩

/-- Null inside of so many arrays. -/
def nested : Nat → Value
  | 0 => .null
  | n + 1 => .array [nested n]

theorem depth_nested (n : Nat) : (nested n).depth = n := by
  induction n with
  | zero => rfl
  | succ n ih =>
    rw [nested, Value.depth, Value.depthOfItems, Value.depthOfItems, ih]
    simp

theorem wellFormed_nested (n : Nat) : (nested n).WellFormed := by
  induction n with
  | zero => exact trivial
  | succ n ih => exact ⟨ih, trivial⟩

/-- A store without a schema that holds one array too many can save it, and is not opened again with
it. -/
theorem exists_save_not_reopened :
    ∃ (draft : StoreDraft) (store : Store) (opened before after : Session Memory),
      draft.WellFormed ∧ draft.openOn Memory.empty = (.ok store, opened) ∧
      store.Evolves Operation.WellFormed (fun _ _ => False) opened before ∧
      store.save store.callbacks before = (.ok true, after) ∧
      ¬draft.Reopens after.medium after.state.value := by
  let draft : StoreDraft := { name := "deep" }
  let store : Store := ⟨"deep", none, none, none, {}, none, none⟩
  let deep := nested (Json.maxDepth + 1)
  let opened := (draft.openOn Memory.empty).2
  let before := (store.perform Callbacks.passive (.set (.text "") deep) opened).2
  let after := (store.write (withPending false before)).2
  have hdraft : draft.WellFormed := ⟨nofun, nofun⟩
  have hopen : draft.openOn Memory.empty = (.ok store, opened) := rfl
  have hrun : store.Evolves Operation.WellFormed (fun _ _ => False) opened before :=
    evolves_perform_passive (Operation.wellFormed_set _ (wellFormed_nested _)) opened
  have hwrite : store.write (withPending false before) = (.ok true, after) := rfl
  have hsave : store.save store.callbacks before = (.ok true, after) :=
    (saveNow_of_read rfl).trans hwrite
  have hvalue : after.state.value = deep := rfl
  have hread : ∀ text?, Medium.read after.medium store.name = .ok text? →
      text? = some (Json.print deep) := by
    intro text? hr
    rw [← hvalue, ← content_of_write hwrite, LawfulMedium.content_of_read hr]
  refine ⟨draft, store, opened, before, after, hdraft, hopen, hrun, hsave, fun hreopens => ?_⟩
  obtain ⟨_, hdepth, _⟩ :=
    valid_of_reopens (prepare_of_openOn hopen) (wellFormed_nested _) hread hreopens
  rw [depth_nested] at hdepth
  omega

end Store

end ValidatedStore
