import ValidatedStore.Proofs.Medium.Lawful
import ValidatedStore.Proofs.Store.Decisions
import ValidatedStore.Proofs.Store.Validity

/-!
# What operations leave behind when they fail

With handlers that only take note, an edit or a load that declines leaves the state and the medium
as they were. An edit that runs into trouble with the medium has committed its value to memory and
changed nothing else. And no operation that fails changes what is seen of the medium, if failing
writes do not.
-/

namespace ValidatedStore

open LawfulMedium (content)

theorem Outcome.error_inj {μ α : Type} {e e' : StoreError} {session session' : Session μ}
    (h : ((.error e, session) : Outcome μ α) = (.error e', session')) :
    e = e' ∧ session = session' :=
  ⟨Except.error.inj (Prod.mk.inj h).1, (Prod.mk.inj h).2⟩

namespace Store

variable {μ γ : Type} {view : μ → γ} {session before after : Session μ}
  {result : Except StoreError Bool} {e : StoreError}

/-- A session is left because of its medium: with the state that it has, and with nothing new to be
seen of the medium. -/
structure Obstructed (view : μ → γ) (session : Session μ) (e : StoreError) (after : Session μ) :
    Prop where
  /-- The error tells of the medium. -/
  concerns : e.concernsMedium = true
  /-- The state is the same. -/
  state : after.state = session.state
  /-- What is seen of the medium is the same. -/
  medium : view after.medium = view session.medium

theorem Obstructed.not_declines (h : Obstructed view session e after) :
    ¬Declines (.error e) :=
  fun hd => Bool.false_ne_true (hd.symm.trans h.concerns)

variable [Medium μ] {store : Store} {operation : Operation}

/-- Writes under a key that fail leave what is seen of a medium. -/
def KeepsOnFailure (key : String) (view : μ → γ) : Prop :=
  ∀ (medium after : μ) (text : String) (cause : StorageError),
    Medium.write medium key text = (.error cause, after) → view after = view medium

/-- A lawful medium keeps the text under a key. -/
theorem keepsOnFailure_content [LawfulMedium μ] (key : String) :
    KeepsOnFailure key fun medium : μ => content medium key :=
  fun _ _ _ _ h => LawfulMedium.content_of_failed_write h

section Obstructions

variable (hview : KeepsOnFailure store.name view)
include hview

/-- A write that fails is obstructed. -/
theorem obstructed_of_write (h : store.write session = (.error e, after)) :
    Obstructed view session e after := by
  unfold write at h
  dsimp only at h
  split at h
  next cause medium hw =>
    obtain ⟨rfl, rfl⟩ := Outcome.error_inj h
    exact ⟨rfl, rfl, hview _ _ _ _ hw⟩
  next => cases (Prod.mk.inj h).1

/-- So is a save that fails, whether it writes or finds a conflict before that. -/
theorem obstructed_of_saveNow (h : store.saveNow Callbacks.passive session = (.error e, after)) :
    Obstructed view session e after := by
  rcases saveNow_cases store Callbacks.passive session with ⟨hs, _⟩ | ⟨cause, hs⟩ | ⟨current, hs⟩
  · exact obstructed_of_write hview (hs.symm.trans h)
  · rw [hs] at h
    obtain ⟨rfl, rfl⟩ := Outcome.error_inj h
    exact ⟨rfl, rfl, rfl⟩
  · rw [hs, reportConflict] at h
    split at h
    next =>
      obtain ⟨rfl, rfl⟩ := Outcome.error_inj h
      exact ⟨rfl, rfl, rfl⟩
    next => cases (Prod.mk.inj h).1

theorem obstructed_of_requestSave
    (h : store.requestSave Callbacks.passive session = (.error e, after)) :
    Obstructed view session e after := by
  rw [requestSave_eq] at h
  split at h
  next => cases (Prod.mk.inj h).1
  next => exact obstructed_of_saveNow hview (Outcome.succeeding_eq_error_iff.mp h)

/-- A commit that fails has its value in memory. -/
theorem obstructed_of_commit {value : Value}
    (h : store.commit Callbacks.passive value session = (.error e, after)) :
    Obstructed view { session with state := { session.state with value := value } } e after := by
  rw [commit_eq] at h
  exact obstructed_of_requestSave hview (Outcome.succeeding_eq_error_iff.mp h)

/-- A load that fails while it saves has taken its value over. -/
theorem obstructed_of_commitLoad {value : Value} {source : Option String} {repaired : Bool}
    (h : store.commitLoad Callbacks.passive value source repaired session = (.error e, after)) :
    Obstructed view (taken value source session) e after := by
  rw [commitLoad_eq] at h
  split at h
  next => exact obstructed_of_requestSave hview (Outcome.succeeding_eq_error_iff.mp h)
  next => cases (Prod.mk.inj h).1

/-- A commit that does not fail succeeds, so that no commit declines. -/
theorem not_declines_commit {value : Value}
    (h : store.commit Callbacks.passive value session = (result, after)) : ¬Declines result := by
  cases result with
  | error e => exact (obstructed_of_commit hview h).not_declines
  | ok success =>
    rw [commit_eq] at h
    obtain rfl := Outcome.eq_of_succeeding_eq_ok h
    exact nofun

/-- Neither does a load that takes a value over. -/
theorem not_declines_commitLoad {value : Value} {source : Option String} {repaired : Bool}
    (h : store.commitLoad Callbacks.passive value source repaired session = (result, after)) :
    ¬Declines result := by
  cases result with
  | error e => exact (obstructed_of_commitLoad hview h).not_declines
  | ok success =>
    rw [commitLoad_eq] at h
    split at h
    next =>
      obtain rfl := Outcome.eq_of_succeeding_eq_ok h
      exact nofun
    next =>
      obtain rfl := Except.ok.inj (Prod.mk.inj h).1
      exact nofun

/-- A decision whose result declines leaves the state and the medium. -/
theorem unchanged_of_declines {decision : Decision}
    (h : store.carryOut decision session = (result, after)) (hd : Declines result) :
    after.state = session.state ∧ after.medium = session.medium := by
  cases decision with
  | decline declined events =>
    obtain ⟨_, rfl⟩ := Prod.mk.inj h
    exact ⟨rfl, rfl⟩
  | change value => exact absurd hd (not_declines_commit hview h)
  | take value source repaired events => exact absurd hd (not_declines_commitLoad hview h)

/-- A decision that ends with an error leaves what is seen of the medium. -/
theorem view_of_carryOut_error {decision : Decision}
    (h : store.carryOut decision session = (.error e, after)) :
    view after.medium = view session.medium := by
  cases decision with
  | decline declined events =>
    obtain ⟨_, rfl⟩ := Prod.mk.inj h
    rfl
  | change value => exact (obstructed_of_commit hview h).medium
  | take value source repaired events => exact (obstructed_of_commitLoad hview h).medium

/-- An edit whose error tells of the medium has committed its value. -/
theorem committed_of_concernsMedium (hedit : operation.IsEdit)
    (h : store.perform Callbacks.passive operation before = (.error e, after))
    (he : e.concernsMedium = true) :
    ∃ value, store.Changes operation before.state.value value ∧
      after.state = { before.state with value := value } ∧
      view after.medium = view before.medium := by
  obtain ⟨decision, hj, hperform⟩ := exists_decision_of_isEdit store before hedit
  rw [hperform] at h
  cases hj with
  | decline hr _ =>
    obtain ⟨rfl, _⟩ := Prod.mk.inj h
    exact absurd (hr.symm.trans he) Bool.false_ne_true
  | @change value hchange =>
    have ho := obstructed_of_commit hview h
    exact ⟨value, hchange, ho.state, ho.medium⟩
  | take hl => exact nomatch (hl ▸ hedit : Operation.IsEdit (.loadFrom _))

/-- An edit or a load whose result declines leaves the state and the medium. -/
theorem unchanged_of_perform_declines (ho : operation.IsEdit ∨ operation.IsLoad)
    (h : store.perform Callbacks.passive operation before = (result, after))
    (hd : Declines result) : after.state = before.state ∧ after.medium = before.medium := by
  rcases ho with hedit | hload
  · obtain ⟨decision, _, hperform⟩ := exists_decision_of_isEdit store before hedit
    exact unchanged_of_declines hview (hperform ▸ h) hd
  · rcases load_cases store before hload with ⟨cause, hperform⟩ | ⟨source, _, hperform⟩
    · obtain ⟨_, rfl⟩ := Prod.mk.inj (hperform ▸ h)
      exact ⟨rfl, rfl⟩
    · exact unchanged_of_declines hview (hperform ▸ h) hd

/-- An operation that fails leaves what is seen of the medium. -/
theorem view_of_perform_error
    (h : store.perform Callbacks.passive operation before = (.error e, after)) :
    view after.medium = view before.medium := by
  have hedit : operation.IsEdit → view after.medium = view before.medium := fun hedit => by
    obtain ⟨decision, _, hperform⟩ := exists_decision_of_isEdit store before hedit
    exact view_of_carryOut_error hview (hperform ▸ h)
  have hload : operation.IsLoad → view after.medium = view before.medium := fun hload => by
    rcases load_cases store before hload with ⟨cause, hperform⟩ | ⟨source, _, hperform⟩
    · obtain ⟨_, rfl⟩ := Prod.mk.inj (hperform ▸ h)
      rfl
    · exact view_of_carryOut_error hview (hperform ▸ h)
  cases operation with
  | update selector patch => exact hedit (.update selector patch)
  | reset selector => exact hedit (.reset selector)
  | load => exact hload .load
  | loadFrom source => exact hload (.loadFrom source)
  | save => exact (obstructed_of_saveNow hview h).medium
  | flush =>
    rw [perform, flush] at h
    split at h
    next => exact (obstructed_of_saveNow hview h).medium
    next => cases (Prod.mk.inj h).1
  | fire => cases (Prod.mk.inj h).1

end Obstructions

/-- An edit that does not decline ends with a value that it may commit. -/
theorem changes_of_not_declines (hedit : operation.IsEdit)
    (h : store.perform Callbacks.passive operation before = (result, after))
    (hd : ¬Declines result) :
    store.Changes operation before.state.value after.state.value := by
  obtain ⟨decision, hj, hperform⟩ := exists_decision_of_isEdit store before hedit
  rw [hperform] at h
  cases hj with
  | decline hr _ =>
    obtain ⟨rfl, _⟩ := Prod.mk.inj h
    exact absurd hr hd
  | @change value hchange =>
    have hvalue : (store.commit Callbacks.passive value before).2.state.value = value :=
      commit_value (fun _ => rfl) value before
    rw [carryOut] at h
    rw [h] at hvalue
    exact hvalue ▸ hchange
  | take hl =>
    rw [hl] at hedit
    cases hedit

/-- What an update may commit is the patch of the part at its path, put in the place of that part;
at the root this is the whole value. -/
theorem overwritten_of_changes {selector : Selector} {patch : Option Value → Value}
    {old new : Value} (h : store.Changes (.update selector patch) old new) :
    ∃ current, old.find (store.resolve selector) = .ok current ∧
      (store.resolve selector = [] ∧ new = patch current ∨
        store.resolve selector ≠ [] ∧
          old.set (store.resolve selector) (patch current) = .ok new) := by
  cases h with
  | update hpatched =>
    obtain ⟨_, current, _, hfind, _, hwritten⟩ := patched_eq_ok hpatched
    refine ⟨current, hfind, ?_⟩
    cases hpath : store.resolve selector with
    | nil =>
      rw [hpath] at hwritten
      exact .inl ⟨rfl, (Except.ok.inj hwritten).symm⟩
    | cons key rest =>
      rw [hpath] at hwritten
      exact .inr ⟨List.cons_ne_nil key rest, hwritten⟩

/-- How an operation with handlers that only take note leaves a session. An edit or a load that is
false, or fails with an error that does not tell of the medium, leaves the state and the medium. An
edit whose error tells of the medium has committed its value, and has changed neither another part
of the state nor what is seen of the medium. No operation that fails changes what is seen of the
medium. And an update that succeeds, or fails because of the medium, has replaced exactly the part
at its path. -/
theorem left_by_perform (hview : KeepsOnFailure store.name view)
    (h : store.perform Callbacks.passive operation before = (result, after)) :
    (operation.IsEdit ∨ operation.IsLoad →
      (result = .ok false ∨ ∃ e, result = .error e ∧ e.concernsMedium = false) →
      after.state = before.state ∧ after.medium = before.medium) ∧
    (operation.IsEdit → (∃ e, result = .error e ∧ e.concernsMedium = true) →
      ∃ value, store.Changes operation before.state.value value ∧
        after.state = { before.state with value := value } ∧
        view after.medium = view before.medium) ∧
    ((∃ e, result = .error e) → view after.medium = view before.medium) ∧
    ∀ selector patch, operation = .update selector patch →
      (result = .ok true ∨ ∃ e, result = .error e ∧ e.concernsMedium = true) →
      ∃ current, before.state.value.find (store.resolve selector) = .ok current ∧
        (store.resolve selector = [] ∧ after.state.value = patch current ∨
          store.resolve selector ≠ [] ∧
            before.state.value.set (store.resolve selector) (patch current) =
              .ok after.state.value) := by
  refine ⟨fun ho hr => ?_, fun hedit ⟨e, hr, he⟩ => ?_, fun ⟨e, hr⟩ => ?_,
    fun selector patch ho hr => ?_⟩
  · have hd : Declines result := by
      rcases hr with rfl | ⟨e, rfl, he⟩
      · rfl
      · exact he
    exact unchanged_of_perform_declines hview ho h hd
  · exact committed_of_concernsMedium hview hedit (hr ▸ h) he
  · exact view_of_perform_error hview (hr ▸ h)
  · have hd : ¬Declines result := by
      rcases hr with rfl | ⟨e, rfl, he⟩
      · exact nofun
      · exact fun hd => Bool.false_ne_true (hd.symm.trans he)
    have hedit : operation.IsEdit := ho ▸ .update selector patch
    exact overwritten_of_changes (ho ▸ changes_of_not_declines hedit h hd)

/-- A switch is turned on while the medium refuses writes: the store has the new value, the medium
the old text. -/
theorem left_by_refused_switch :
    ∃ before after : Session (Faulty Memory),
      switchDraft.openOn ⟨Memory.empty, false, false⟩ = (.ok switchStore, before) ∧
      before.state.value = .object [("on", .bool false)] ∧
      switchStore.perform Callbacks.passive (.set (.text "on") (.bool true))
        { before with medium := { before.medium with refusesWrites := true } } =
          (.error (.storage (.io .writeRefused)), after) ∧
      after.state.value = .object [("on", .bool true)] ∧
      content after.medium switchStore.name = content before.medium switchStore.name := by
  let before := (switchDraft.openOn (⟨Memory.empty, false, false⟩ : Faulty Memory)).2
  let refusing : Session (Faulty Memory) :=
    { before with medium := { before.medium with refusesWrites := true } }
  let attempt := Operation.set (.text "on") (.bool true)
  let after := (switchStore.perform Callbacks.passive attempt refusing).2
  have hperform : switchStore.perform Callbacks.passive attempt refusing =
      (.error (.storage (.io .writeRefused)), after) := rfl
  obtain ⟨_, hcommitted, _, hreplaced⟩ :=
    left_by_perform (keepsOnFailure_content switchStore.name) hperform
  obtain ⟨value, _, _, hmedium⟩ := hcommitted (.update _ _) ⟨_, rfl, rfl⟩
  obtain ⟨current, _, ⟨hpath, _⟩ | ⟨_, hset⟩⟩ := hreplaced _ _ rfl (.inr ⟨_, rfl, rfl⟩)
  · cases hpath
  · exact ⟨before, after, rfl, rfl, hperform, (Except.ok.inj hset).symm, hmedium⟩

end Store

end ValidatedStore
