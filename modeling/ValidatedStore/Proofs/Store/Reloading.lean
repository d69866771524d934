import ValidatedStore.Proofs.Store.Coherence

/-!
# Handlers that load again

A handler of conflicts may load the store again while an operation waits for it. Such a load has
just read the medium when it saves, so it meets no conflict itself, and it does not matter what its
own handlers would do: one report is all there is, and the handlers of a store that loads again are
the only ones that have themselves inside that load. On a medium that works, a load into a store
that repairs what it loads always takes over what the medium holds. So after a conflict, too, the
medium ends up with the baseline, and with a text of the value.
-/

namespace ValidatedStore

open LawfulMedium (content)

namespace Store

variable {μ : Type} [Medium μ]

/-- Handlers of which the one of conflicts loads again, with the given handlers inside that load,
and the other only takes note. -/
def reloading (store : Store) (nested : Callbacks μ) : Callbacks μ where
  afterInvalid := id
  afterConflict session :=
    match store.load nested session with
    | (result, session) => session.note (.reload result.toOption)

variable {store : Store} {callbacks : Callbacks μ} {session : Session μ} {source : Option String}

theorem callbacks_eq_reloading (hinvalid : store.onInvalid ≠ some .resetAll)
    (hconflict : store.onConflict = some .reload) :
    (store.callbacks : Callbacks μ) = store.reloading Callbacks.passive := by
  unfold Store.callbacks reloading loadWithin
  rw [hconflict]
  congr 1
  split
  next he => exact absurd he hinvalid
  next => rfl

/-- A load of what the medium holds does not depend on what a handler of conflicts does. -/
theorem commitLoad_of_read (value : Value) (repaired : Bool)
    (hread : Medium.read session.medium store.name = .ok source) :
    store.commitLoad callbacks value source repaired session =
      store.commitLoad Callbacks.passive value source repaired session := by
  have hrequest : store.requestSave callbacks (taken value source session) =
      store.requestSave Callbacks.passive (taken value source session) := by
    rw [requestSave_eq, requestSave_eq, saveNow_of_read hread, saveNow_of_read hread]
  rw [commitLoad_eq, commitLoad_eq, hrequest]

theorem loadFrom_of_read (hi : callbacks.afterInvalid = id)
    (hread : Medium.read session.medium store.name = .ok source) :
    store.loadFrom callbacks source session = store.loadFrom Callbacks.passive source session := by
  have hreject : ∀ paths, store.reject callbacks paths session =
      store.reject Callbacks.passive paths session := by
    intro paths
    rw [reject, reject, hi]
    rfl
  have hreport : ∀ paths, store.reportRepair callbacks paths session =
      store.reportRepair Callbacks.passive paths session := by
    intro paths
    rw [reportRepair, reportRepair, hi]
    rfl
  cases source with
  | none =>
    rw [loadFrom, loadFrom]
    cases store.default with
    | none => rfl
    | some value => exact commitLoad_of_read value false hread
  | some text =>
    rw [loadFrom, loadFrom]
    obtain ⟨value, paths⟩ := store.examine text
    cases paths with
    | nil => exact commitLoad_of_read value false hread
    | cons path paths =>
      dsimp only
      cases store.repairTemplate? with
      | none => exact hreject (path :: paths)
      | some template =>
        dsimp only
        rw [hreport, reportRepair_eq_noteAll]
        cases value.repair template (path :: paths) with
        | error fault => rfl
        | ok repaired => exact commitLoad_of_read repaired true hread

/-- No load meets a conflict, whatever the handler of conflicts does. -/
theorem load_eq_passive (hi : callbacks.afterInvalid = id) (session : Session μ) :
    store.load callbacks session = store.load Callbacks.passive session := by
  rw [load, load]
  cases hread : Medium.read session.medium store.name with
  | error cause => rfl
  | ok source => exact loadFrom_of_read hi hread

/-- The handlers inside a load on behalf of a handler do not matter. -/
theorem reloading_eq (store : Store) {nested : Callbacks μ} (hi : nested.afterInvalid = id) :
    store.reloading nested = store.reloading Callbacks.passive := by
  have hload : ∀ session, store.load nested session = store.load Callbacks.passive session :=
    load_eq_passive hi
  unfold reloading
  simp only [hload]

/-- An edit that succeeds commits a value. -/
theorem exists_commit_of_isEdit {operation : Operation} {after : Session μ}
    (hedit : operation.IsEdit)
    (h : store.perform callbacks operation session = (.ok true, after)) :
    ∃ value, store.commit callbacks value session = (.ok true, after) := by
  cases hedit with
  | update selector patch =>
    rw [perform, update] at h
    split at h
    next =>
      unfold reject at h
      split at h <;> cases (Prod.mk.inj h).1
    next => cases (Prod.mk.inj h).1
    next value _ => exact ⟨value, h⟩
  | reset selector =>
    rw [perform, reset] at h
    split at h
    next =>
      split at h
      next => cases (Prod.mk.inj h).1
      next restored _ =>
        split at h
        next => exact ⟨restored, h⟩
        next => cases (Prod.mk.inj h).1
    next => cases (Prod.mk.inj h).1

/-- A store with a default that repairs what it loads takes a value over from every source. -/
theorem Guarded.exists_take {schema : Schema} {default : Value} (hg : store.Guarded schema)
    (hd : store.default = some default) (hfix : store.settings.autoFix = true)
    (source : Option String) :
    ∃ value repaired events, store.decideLoad source = .take value source repaired events := by
  cases source with
  | none => exact ⟨default, false, [], by rw [decideLoad, hd]⟩
  | some text =>
    rw [decideLoad]
    cases he : store.examine text with
    | mk value paths =>
      cases paths with
      | nil => exact ⟨value, false, [], rfl⟩
      | cons path paths =>
        obtain ⟨template, ht⟩ : ∃ template, store.template? = some template := by
          unfold template?
          rw [hd]
          cases store.schema <;> exact ⟨_, rfl⟩
        have hrepair : store.repairTemplate? = some template := by
          rw [repairTemplate?, if_pos hfix, ht]
        obtain ⟨repaired, hr, _⟩ := hg.exists_repaired he ht
        exact ⟨repaired, true, store.reports (path :: paths), by simp only [hrepair, hr]⟩

variable [LawfulMedium μ] {works : μ → Prop} {medium : μ} {before after : Session μ}

/-- The store is in step with its medium, and the baseline is the text of the value, or a text that
was loaded and in which nothing fails. -/
structure Settled (store : Store) (works : μ → Prop) (session : Session μ) : Prop extends
    store.InStep works session where
  /-- The text of the value. -/
  text : ∃ text, session.state.baseline = some text ∧
    (text = Json.print session.state.value ∨
      Access.loaded (some text) ∈ session.state.log ∧
        store.examine text = (session.state.value, []))

/-- The store has become settled and has reported this many conflicts on the way. -/
structure SettledAfter (store : Store) (works : μ → Prop) (before : Session μ) (conflicts : ℕ)
    (after : Session μ) : Prop extends store.Settled works after where
  /-- The reports are among the new events. -/
  events : ∃ events, after.events = before.events ++ events ∧
    events.countP Event.isConflict = conflicts

theorem settled_of_requested (hd : store.settings.isDebounced = false)
    (h : store.Requested works session after) : store.Settled works after := by
  cases h with
  | later hlate => cases hd.symm.trans hlate
  | now _ hw hc => exact ⟨⟨hw, hc⟩, _, rfl, .inl rfl⟩

theorem settled_taken {text : String} {value : Value} (hw : works session.medium)
    (hc : content session.medium store.name = some text) (hs : store.examine text = (value, [])) :
    store.Settled works (taken value (some text) session) := by
  have hloaded : Access.loaded (some text) ∈ (taken value (some text) session).state.log :=
    List.mem_append_right _ (List.mem_singleton_self _)
  exact ⟨⟨hw, hc⟩, text, rfl, .inr ⟨hloaded, hs⟩⟩

section Settling

variable (hreliable : Reliable store.name works)
  (htake : ∀ source, ∃ value repaired events,
    store.decideLoad source = .take value source repaired events)
  (hsync : store.settings.isDebounced = false)
include hreliable htake hsync

/-- A load settles a store and reports no conflict. -/
theorem exists_settled_load (hw : works session.medium) :
    ∃ after, store.load Callbacks.passive session = (.ok true, after) ∧
      store.SettledAfter works session 0 after := by
  obtain ⟨source, hc⟩ : ∃ source, content session.medium store.name = source := ⟨_, rfl⟩
  obtain ⟨value, repaired, events, hdecide⟩ := htake source
  have hj := justified_decideLoad store session.state.value source
  rw [hdecide] at hj
  rw [load, hreliable.read hw, hc]
  dsimp only
  rw [loadFrom_eq_carryOut, hdecide, carryOut]
  cases hj with
  | take _ _ hs he =>
    have hnone : events.countP Event.isConflict = 0 := by
      rw [List.countP_eq_length_filter, filter_isConflict_of_invalid he, List.length_nil]
    obtain ⟨after, hcommit, ⟨_, hr⟩ | ⟨hsave, rfl⟩⟩ :=
      @commitLoad_of_content _ (session.noteAll events) _ _ _ _ _ hreliable value repaired hw hc
    · exact ⟨after, hcommit, settled_of_requested hsync hr, events, hr.events_eq, hnone⟩
    · obtain ⟨hsome, hrepaired⟩ := Bool.or_eq_false_iff.mp hsave
      obtain ⟨text, rfl⟩ := Option.isSome_iff_exists.mp (Option.isNone_eq_false_iff.mp hsome)
      exact ⟨_, hcommit, settled_taken hw hc (hs text rfl hrepaired), events, rfl, hnone⟩

variable (hconflict : store.onConflict = some .reload)
include hconflict

/-- The report of a conflict is followed by a load, which settles a store. -/
theorem exists_settled_reportConflict (current : Option String) (hw : works session.medium) :
    ∃ after, store.reportConflict (store.reloading Callbacks.passive) current session =
        (.ok false, after) ∧
      store.SettledAfter works session 1 after := by
  let report := Event.conflict current session.state.baseline
  obtain ⟨loaded, hload, hs, events, he, hnone⟩ :=
    @exists_settled_load _ _ _ (session.note report) _ _ hreliable htake hsync hw
  refine ⟨loaded.note (.reload (some true)), ?_, ⟨⟨hs.works, hs.content⟩, hs.text⟩,
    report :: events ++ [.reload (some true)], ?_, ?_⟩
  · rw [reportConflict, hconflict]
    dsimp only [reloading]
    rw [hload]
    rfl
  · rw [Session.note, he, Session.note]
    simp
  · rw [List.cons_append, List.countP_cons, List.countP_append, hnone]
    rfl

/-- A save settles a store: it writes, or it reports a conflict. -/
theorem exists_settled_saveNow (hw : works session.medium) :
    ∃ success after, store.saveNow (store.reloading Callbacks.passive) session =
        (.ok success, after) ∧
      store.SettledAfter works session (if success then 0 else 1) after := by
  obtain ⟨medium, hwrite, hwm, hc⟩ := write_of_works hreliable hw
  have hwritten : ∃ success after, store.write session = (.ok success, after) ∧
      store.SettledAfter works session (if success then 0 else 1) after :=
    ⟨true, _, hwrite, ⟨⟨hwm, hc⟩, _, rfl, .inl rfl⟩, [], (List.append_nil _).symm, rfl⟩
  unfold saveNow
  rw [hreliable.read hw]
  split
  next =>
    dsimp only
    split
    next => exact hwritten
    next =>
      obtain ⟨after, hreport, hs⟩ :=
        exists_settled_reportConflict hreliable htake hsync hconflict _ hw
      exact ⟨false, after, hreport, hs⟩
  next => exact hwritten

/-- A commit settles a store in the same way, and succeeds in either case. -/
theorem exists_settled_commit (value : Value) (hw : works session.medium) :
    ∃ conflicts after, store.commit (store.reloading Callbacks.passive) value session =
        (.ok true, after) ∧
      conflicts ≤ 1 ∧ store.SettledAfter works session conflicts after := by
  let changed : Session μ := { session with state := { session.state with value := value } }
  obtain ⟨success, after, hsave, hs⟩ :=
    @exists_settled_saveNow _ _ _ changed _ _ hreliable htake hsync hconflict hw
  refine ⟨_, after, ?_, ?_, hs.toSettled, hs.events⟩
  · rw [commit_eq, requestSave_eq, if_neg (hsync ▸ Bool.false_ne_true), hsave]
    rfl
  · cases success <;> decide

/-- Loads, saves, and edits that succeed settle a store. -/
theorem exists_settled_perform {operation : Operation} {result : Except StoreError Bool}
    (hw : works session.medium)
    (hperform : store.perform (store.reloading Callbacks.passive) operation session =
      (result, after))
    (ho : operation = .load ∨ operation = .save ∨ operation.IsEdit ∧ result = .ok true) :
    (∃ success, result = .ok success) ∧ (operation = .load → result = .ok true) ∧
      ∃ conflicts ≤ 1, store.SettledAfter works session conflicts after := by
  rcases ho with rfl | rfl | ⟨hedit, rfl⟩
  · obtain ⟨loaded, hload, hs⟩ := exists_settled_load hreliable htake hsync hw
    rw [perform, load_eq_passive rfl, hload] at hperform
    obtain ⟨rfl, rfl⟩ := Prod.mk.inj hperform
    exact ⟨⟨true, rfl⟩, fun _ => rfl, 0, Nat.zero_le 1, hs⟩
  · obtain ⟨success, saved, hsave, hs⟩ := @exists_settled_saveNow _ _ _
      (withPending false session) _ _ hreliable htake hsync hconflict hw
    rw [perform, save, hsave] at hperform
    obtain ⟨rfl, rfl⟩ := Prod.mk.inj hperform
    refine ⟨⟨success, rfl⟩, by simp, _, ?_, hs.toSettled, hs.events⟩
    cases success <;> decide
  · obtain ⟨value, hcommit⟩ := exists_commit_of_isEdit hedit hperform
    obtain ⟨conflicts, committed, hcommitted, hle, hs⟩ :=
      exists_settled_commit hreliable htake hsync hconflict value hw
    obtain rfl := (Prod.mk.inj (hcommit.symm.trans hcommitted)).2
    exact ⟨⟨true, rfl⟩, fun _ => rfl, conflicts, hle, hs⟩

end Settling

/-- A store with a validator that saves without a delay, repairs what it loads, and loads again at
every conflict, on a medium that works, whatever others have written there or removed: its handlers
are the same whatever the handlers inside their loads do. Every load and save, and every edit that
succeeds, ends without an error, reports at most one conflict, and leaves the medium with the
baseline, which is the text that a save of the value writes, or a text that was loaded and in which
nothing fails. -/
theorem settled_by_reloading {draft : StoreDraft} (hprepare : draft.prepare = .ok store)
    (hschema : ∀ schema, draft.schema = some schema →
      schema.Built ∧ schema.default?.isSome = true)
    (hsome : draft.schema ≠ none ∨ draft.default ≠ none)
    (hsync : store.settings.isDebounced = false) (hfix : store.settings.autoFix = true)
    (hinvalid : store.onInvalid ≠ some .resetAll) (hconflict : store.onConflict = some .reload)
    (hreliable : Reliable store.name works) (hw : works before.medium) :
    (∀ nested : Callbacks μ, nested.afterInvalid = id →
      store.reloading nested = store.callbacks) ∧
    ∀ operation result after, store.perform store.callbacks operation before = (result, after) →
      operation = .load ∨ operation = .save ∨ operation.IsEdit ∧ result = .ok true →
      (∃ success, result = .ok success) ∧ (operation = .load → result = .ok true) ∧
      (∃ events, after.events = before.events ++ events ∧
        events.countP Event.isConflict ≤ 1) ∧
      content after.medium store.name = after.state.baseline ∧
      ∃ text, after.state.baseline = some text ∧
        (text = Json.print after.state.value ∨
          Access.loaded (some text) ∈ after.state.log ∧
            store.examine text = (after.state.value, [])) := by
  obtain ⟨schema, value, hg, _, hd⟩ := exists_guarded hprepare hschema hsome
  have hcallbacks : (store.callbacks : Callbacks μ) = store.reloading Callbacks.passive :=
    callbacks_eq_reloading hinvalid hconflict
  refine ⟨fun nested hi => (reloading_eq store hi).trans hcallbacks.symm, ?_⟩
  intro operation result after hperform ho
  rw [hcallbacks] at hperform
  obtain ⟨hresult, hload, conflicts, hle, hs⟩ :=
    exists_settled_perform hreliable (hg.exists_take hd hfix) hsync hconflict hw hperform ho
  obtain ⟨events, he, hcount⟩ := hs.events
  exact ⟨hresult, hload, ⟨events, he, hcount ▸ hle⟩, hs.content, hs.text⟩

/-- A draft of one switch that loads again at a conflict and only takes note of invalid values. -/
def attentiveDraft : StoreDraft :=
  { name := "switch", schema := some switchSchema, onInvalid := some .observe,
    onConflict := some .reload }

/-- The store of that switch. -/
def attentiveStore : Store :=
  ⟨"switch", some switchSchema, some (.object [("on", .bool false)]), some switchSchema, {},
    some .observe, some .reload⟩

/-- The switch is opened on an empty medium, and someone writes a text that has to be repaired.
Turning the switch on then runs into a conflict, on which the text is loaded and repaired. -/
theorem settled_by_reloading_of_switch :
    ∃ before after : Session Memory,
      content before.medium attentiveStore.name ≠ before.state.baseline ∧
      attentiveStore.perform attentiveStore.callbacks (.set (.text "on") (.bool true)) before =
        (.ok true, after) ∧
      after.events = [.conflict (some "7") (some "\x7b\"on\":false\x7d"),
        .invalid [KeyPath.root], .reload (some true)] ∧
      (∃ events, after.events = before.events ++ events ∧
        events.countP Event.isConflict ≤ 1) ∧
      content after.medium attentiveStore.name = after.state.baseline ∧
      ∃ text, after.state.baseline = some text ∧
        (text = Json.print after.state.value ∨
          Access.loaded (some text) ∈ after.state.log ∧
            attentiveStore.examine text = (after.state.value, [])) := by
  let opened := (attentiveDraft.openOn Memory.empty).2
  let before : Session Memory := { opened with medium := Memory.empty.write "switch" "7" }
  let turnOn := Operation.set (.text "on") (.bool true)
  let after := (attentiveStore.perform attentiveStore.callbacks turnOn before).2
  have hperform : attentiveStore.perform attentiveStore.callbacks turnOn before =
      (.ok true, after) := rfl
  have hschema : ∀ schema, attentiveDraft.schema = some schema →
      schema.Built ∧ schema.default?.isSome = true := by
    intro schema h
    obtain rfl := Option.some.inj h
    exact ⟨built_switchSchema, rfl⟩
  have hdraft : attentiveDraft.schema ≠ none := Option.some_ne_none switchSchema
  have hprepare : attentiveDraft.prepare = .ok attentiveStore := rfl
  obtain ⟨_, hall⟩ := settled_by_reloading hprepare hschema (.inl hdraft) rfl rfl (by decide) rfl
    (reliable_memory attentiveStore.name) (@trivial : (fun _ : Memory => True) before.medium)
  obtain ⟨_, _, hevents, hcontent, htext⟩ :=
    hall turnOn _ after hperform (.inr (.inr ⟨.update _ _, rfl⟩))
  exact ⟨before, after, by decide, hperform, rfl, hevents, hcontent, htext⟩

end Store

end ValidatedStore
