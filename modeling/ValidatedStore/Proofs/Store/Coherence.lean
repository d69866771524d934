import ValidatedStore.Proofs.Store.Decisions
import ValidatedStore.Proofs.Store.Reopening
import ValidatedStore.Proofs.Store.Sharing

/-!
# A store that nobody disturbs

A store is in step with its medium when the medium works and holds the baseline. A store that is
in step finds no conflict, and every save, load and change leaves it in step. So a store that has
loaded stays in step for as long as nobody else writes its key; and unless a save is put off, the
text in the medium stands for the value in memory.
-/

namespace ValidatedStore

open LawfulMedium (content)

/-- A text stands for the value of a state: it is the text that a save writes, or a load took it
over and it denotes the value. -/
def State.HasText (state : State) (text : String) : Prop :=
  text = Json.print state.value ∨
    Access.loaded (some text) ∈ state.log ∧ Json.parse text = some state.value

namespace Store

variable {μ : Type} {medium : μ} {session after : Session μ} {value : Value}
  {source : Option String} {repaired : Bool}

/-- The session after a save that left this medium. -/
def saved (medium : μ) (session : Session μ) : Session μ :=
  let value := session.state.value
  let state := { session.state with baseline := some (Json.print value) }
  { session with
    state := state.record (.saved value (some (Json.print value)))
    medium := medium }

variable [Medium μ] [LawfulMedium μ] {store : Store} {works : μ → Prop} {operation : Operation}

/-- The medium works, and it holds the baseline of the store. -/
structure InStep (store : Store) (works : μ → Prop) (session : Session μ) : Prop where
  /-- The medium works. -/
  works : works session.medium
  /-- It holds the baseline. -/
  content : content session.medium store.name = session.state.baseline

/-- The store is in step, and unless a save is put off the baseline stands for the value. -/
structure Coherent (store : Store) (works : μ → Prop) (session : Session μ) : Prop extends
    store.InStep works session where
  /-- The text of the value. -/
  hasText : session.state.pending = false →
    ∃ text, session.state.baseline = some text ∧ session.state.HasText text

/-- What becomes of a session when a save is requested. -/
inductive Requested (store : Store) (works : μ → Prop) (session : Session μ) : Session μ → Prop
  /-- The save is put off. -/
  | later (hd : store.settings.isDebounced = true) :
      Requested store works session (withPending true session)
  /-- The value is saved at once. -/
  | now {medium : μ} (hd : store.settings.isDebounced = false) (hw : works medium)
      (hc : content medium store.name = some (Json.print session.state.value)) :
      Requested store works session (saved medium session)

theorem coherent_saved (hw : works medium)
    (hc : content medium store.name = some (Json.print session.state.value)) :
    store.Coherent works (saved medium session) where
  works := hw
  content := hc
  hasText _ := ⟨_, rfl, .inl rfl⟩

theorem Requested.coherent (h : store.Requested works session after)
    (hs : store.InStep works session) : store.Coherent works after := by
  cases h with
  | later => exact ⟨⟨hs.works, hs.content⟩, nofun⟩
  | now _ hw hc => exact coherent_saved hw hc

theorem Requested.events_eq (h : store.Requested works session after) :
    after.events = session.events := by
  cases h <;> rfl

/-- A text in which nothing fails denotes its value. -/
theorem parse_of_examine {text : String} (h : store.examine text = (value, [])) :
    Json.parse text = some value := by
  unfold examine at h
  split at h
  next denoted hp => exact (Prod.mk.inj h).1 ▸ hp
  next => cases (Prod.mk.inj h).2

section Saving

variable (hreliable : Reliable store.name works)
include hreliable

/-- A write to a working medium leaves the text of the value there. -/
theorem write_of_works (hw : works session.medium) :
    ∃ medium, store.write session = (.ok true, saved medium session) ∧
      works medium ∧ content medium store.name = some (Json.print session.state.value) := by
  obtain ⟨medium, hwrite, hw⟩ := hreliable.write (Json.print session.state.value) hw
  refine ⟨medium, ?_, hw, LawfulMedium.content_of_write hwrite⟩
  rw [write, hwrite]
  rfl

/-- A store that is in step saves. -/
theorem saveNow_of_inStep {callbacks : Callbacks μ} (hs : store.InStep works session) :
    ∃ medium, store.saveNow callbacks session = (.ok true, saved medium session) ∧
      works medium ∧ content medium store.name = some (Json.print session.state.value) := by
  have hread : Medium.read session.medium store.name = .ok session.state.baseline := by
    rw [hreliable.read hs.works, hs.content]
  rw [saveNow_of_read hread]
  exact write_of_works hreliable hs.works

theorem requestSave_of_inStep (hs : store.InStep works session) :
    ∃ after, store.requestSave Callbacks.passive session = (.ok (), after) ∧
      store.Requested works session after := by
  cases hd : store.settings.isDebounced with
  | true => exact ⟨_, by rw [requestSave_eq, if_pos hd], .later hd⟩
  | false =>
    obtain ⟨medium, hsave, hw, hc⟩ := saveNow_of_inStep hreliable hs
    refine ⟨_, ?_, .now hd hw hc⟩
    rw [requestSave_eq, if_neg (hd ▸ Bool.false_ne_true), hsave]
    rfl

/-- A store that is in step commits every value. -/
theorem commit_of_inStep (value : Value) (hs : store.InStep works session) :
    ∃ after, store.commit Callbacks.passive value session = (.ok true, after) ∧
      store.Requested works { session with state := { session.state with value := value } }
        after := by
  have hchanged : store.InStep works
      { session with state := { session.state with value := value } } := ⟨hs.works, hs.content⟩
  obtain ⟨after, hrequest, hr⟩ := requestSave_of_inStep hreliable hchanged
  refine ⟨after, ?_, hr⟩
  rw [commit_eq, hrequest]
  rfl

/-- A load takes over what a working medium holds, and requests a save where this does not hold the
value. -/
theorem commitLoad_of_content (value : Value) (repaired : Bool) (hw : works session.medium)
    (hc : content session.medium store.name = source) :
    ∃ after,
      store.commitLoad Callbacks.passive value source repaired session = (.ok true, after) ∧
      ((source.isNone || repaired) = true ∧
          store.Requested works (taken value source session) after ∨
        (source.isNone || repaired) = false ∧ after = taken value source session) := by
  have hs : store.InStep works (taken value source session) := ⟨hw, hc⟩
  cases hsave : source.isNone || repaired with
  | true =>
    obtain ⟨after, hrequest, hr⟩ := requestSave_of_inStep hreliable hs
    refine ⟨after, ?_, .inl ⟨rfl, hr⟩⟩
    rw [commitLoad_eq, hsave, if_pos rfl, hrequest]
    rfl
  | false =>
    refine ⟨_, ?_, .inr ⟨rfl, rfl⟩⟩
    rw [commitLoad_eq, hsave, if_neg Bool.false_ne_true]

end Saving

/-- How an operation of a store that is in step ends. -/
structure Smooth (store : Store) (works : μ → Prop) (session : Session μ)
    (outcome : Outcome μ Bool) : Prop where
  /-- No error tells of the medium. -/
  result : ∀ e, outcome.1 = .error e → e.concernsMedium = false
  /-- Nothing is reported but invalid values. -/
  events : ∃ events, outcome.2.events = session.events ++ events ∧
    ∀ event ∈ events, ∃ paths, event = .invalid paths
  /-- The store is in step again. -/
  coherent : store.Coherent works outcome.2

theorem Coherent.smooth {success : Bool} (h : store.Coherent works after)
    (he : after.events = session.events) : store.Smooth works session (.ok success, after) where
  result := nofun
  events := ⟨[], by rw [List.append_nil]; exact he, nofun⟩
  coherent := h

section Smoothness

variable (hreliable : Reliable store.name works)
include hreliable

/-- A load that takes over what the medium holds brings a store in step. -/
theorem coherent_commitLoad (session : Session μ) (hw : works session.medium)
    (hc : content session.medium store.name = source)
    (hs : ∀ text, source = some text → repaired = false → store.examine text = (value, [])) :
    ∃ after,
      store.commitLoad Callbacks.passive value source repaired session = (.ok true, after) ∧
      store.Coherent works after ∧ after.events = session.events := by
  obtain ⟨after, hcommit, ⟨_, hr⟩ | ⟨hsave, rfl⟩⟩ :=
    commitLoad_of_content hreliable value repaired hw hc
  · exact ⟨after, hcommit, hr.coherent ⟨hw, hc⟩, hr.events_eq⟩
  · obtain ⟨hsource, hrepaired⟩ := Bool.or_eq_false_iff.mp hsave
    obtain ⟨text, rfl⟩ := Option.isSome_iff_exists.mp (Option.isNone_eq_false_iff.mp hsource)
    have hloaded : Access.loaded (some text) ∈
        (taken value (some text) session).state.log :=
      List.mem_append_right _ (List.mem_singleton_self _)
    have hparse := parse_of_examine (hs text rfl hrepaired)
    exact ⟨_, hcommit, ⟨⟨hw, hc⟩, fun _ => ⟨text, rfl, .inr ⟨hloaded, hparse⟩⟩⟩, rfl⟩

/-- A decision that an operation may make is carried out smoothly, if the source that it takes over
is what the medium holds. -/
theorem Coherent.carryOut {decision : Decision} (h : store.Coherent works session)
    (hj : store.Justified operation session.state.value decision)
    (hsource : ∀ source, operation = .loadFrom source →
      content session.medium store.name = source) :
    store.Smooth works session (store.carryOut decision session) := by
  cases hj with
  | @decline result events hr he =>
    refine ⟨fun e hresult => ?_, ⟨events, rfl, he⟩, ⟨⟨h.works, h.content⟩, h.hasText⟩⟩
    obtain rfl : result = .error e := hresult
    exact hr
  | @change value _ =>
    obtain ⟨after, hcommit, hr⟩ := commit_of_inStep hreliable value h.toInStep
    rw [Store.carryOut, hcommit]
    exact (hr.coherent ⟨h.works, h.content⟩).smooth hr.events_eq
  | @take source value repaired events hl _ hs he =>
    obtain ⟨after, hcommit, hcoherent, hevents⟩ :=
      coherent_commitLoad hreliable (session.noteAll events) h.works (hsource source hl) hs
    rw [Store.carryOut, hcommit]
    exact ⟨by simp, ⟨events, hevents, he⟩, hcoherent⟩

/-- A store that is in step saves smoothly. -/
theorem Coherent.save (h : store.Coherent works session) :
    store.Smooth works session (store.save Callbacks.passive session) := by
  have hs : store.InStep works (withPending false session) := ⟨h.works, h.content⟩
  obtain ⟨medium, hsave, hw, hc⟩ := saveNow_of_inStep hreliable hs
  rw [Store.save, hsave]
  exact (coherent_saved hw hc).smooth rfl

/-- Every operation of a store that is in step ends smoothly, if it loads from nowhere but the
medium. -/
theorem Coherent.perform (h : store.Coherent works session) (ho : operation.ReadsMedium) :
    store.Smooth works session (store.perform Callbacks.passive operation session) := by
  have hedit : operation.IsEdit →
      store.Smooth works session (store.perform Callbacks.passive operation session) :=
    fun hedit => by
      obtain ⟨decision, hj, hperform⟩ := exists_decision_of_isEdit store session hedit
      rw [hperform]
      exact h.carryOut hreliable hj fun source hl => absurd hl (ho source)
  have hflush : store.Smooth works session (store.flush Callbacks.passive session) := by
    rw [flush]
    split
    next => exact h.save hreliable
    next => exact h.smooth rfl
  cases operation with
  | load =>
    rw [Store.perform, load, hreliable.read h.works]
    dsimp only
    rw [loadFrom_eq_carryOut]
    refine h.carryOut hreliable (justified_decideLoad store _ _) fun source hl => ?_
    injection hl
  | loadFrom source => exact absurd rfl (ho source)
  | update selector patch => exact hedit (.update selector patch)
  | reset selector => exact hedit (.reset selector)
  | save => exact h.save hreliable
  | flush => exact hflush
  | fire =>
    rw [Store.perform]
    exact ⟨by simp, hflush.events, hflush.coherent⟩

/-- A load that succeeds on a working medium brings the store in step. -/
theorem coherent_of_load {before : Session μ} (hw : works before.medium)
    (h : store.load Callbacks.passive before = (.ok true, after)) :
    store.Coherent works after := by
  have hread := hreliable.read hw
  rw [load, hread] at h
  dsimp only at h
  rw [loadFrom_eq_carryOut] at h
  have hj := justified_decideLoad store before.state.value (content before.medium store.name)
  -- Only a decision that takes the source over succeeds, and it needs nothing of the state before.
  generalize store.decideLoad (content before.medium store.name) = decision at h hj
  cases hj with
  | decline hr =>
    obtain ⟨rfl, _⟩ := Prod.mk.inj h
    cases hr
  | change hchange => cases hchange
  | @take source value repaired events hl _ hs _ =>
    obtain ⟨after', hcommit, hcoherent, _⟩ :=
      coherent_commitLoad hreliable (before.noteAll events) hw (by injection hl) hs
    rw [carryOut, hcommit] at h
    exact (Prod.mk.inj h).2 ▸ hcoherent

end Smoothness

/-- A step in which nobody else writes the key of a store: an operation of the store that loads from
nowhere but the medium, with handlers that only take note, or a change of something else in the
medium. -/
inductive QuietStep (store : Store) (works : μ → Prop) : Session μ → Session μ → Prop
  /-- An operation. -/
  | perform {session : Session μ} {operation : Operation} (ho : operation.ReadsMedium) :
      QuietStep store works session (store.perform Callbacks.passive operation session).2
  /-- A change of something else. -/
  | outside {session : Session μ} {medium : μ} (hw : works medium)
      (hc : content medium store.name = content session.medium store.name) :
      QuietStep store works session { session with medium := medium }

theorem QuietStep.coherent {before : Session μ} (hreliable : Reliable store.name works)
    (h : store.QuietStep works before after) (hb : store.Coherent works before) :
    store.Coherent works after := by
  cases h with
  | perform ho => exact (hb.perform hreliable ho).coherent
  | outside hw hc => exact ⟨⟨hw, hc.trans hb.content⟩, hb.hasText⟩

theorem coherent_of_quietSteps {before : Session μ} (hreliable : Reliable store.name works)
    (h : Relation.ReflTransGen (store.QuietStep works) before after)
    (hb : store.Coherent works before) : store.Coherent works after := by
  induction h with
  | refl => exact hb
  | tail _ hstep ih => exact hstep.coherent hreliable ih

/-- After a load that succeeded, and for as long as nobody else writes the key of the store and the
medium works, the medium holds the baseline. Unless a save is put off, it holds a text that stands
for the value in memory. And no operation fails because of the medium, and so with a conflict, or
reports one to a handler. -/
theorem in_step_since_load (hreliable : Reliable store.name works) {before loaded : Session μ}
    (hw : works before.medium)
    (hload : store.load Callbacks.passive before = (.ok true, loaded))
    (hrun : Relation.ReflTransGen (store.QuietStep works) loaded session) :
    content session.medium store.name = session.state.baseline ∧
    (session.state.pending = false →
      ∃ text, content session.medium store.name = some text ∧ session.state.HasText text) ∧
    ∀ operation result after, operation.ReadsMedium →
      store.perform Callbacks.passive operation session = (result, after) →
      (∀ e, result = .error e → e.concernsMedium = false) ∧
      ∃ events, after.events = session.events ++ events ∧
        ∀ event ∈ events, ∃ paths, event = .invalid paths := by
  have hcoherent := coherent_of_quietSteps hreliable hrun (coherent_of_load hreliable hw hload)
  refine ⟨hcoherent.content, fun hp => ?_, fun operation result after ho hperform => ?_⟩
  · obtain ⟨text, hb, ht⟩ := hcoherent.hasText hp
    exact ⟨text, hcoherent.content.trans hb, ht⟩
  · have hsmooth := hcoherent.perform hreliable ho
    rw [hperform] at hsmooth
    exact ⟨hsmooth.result, hsmooth.events⟩

/-- The switch is loaded from nothing, turned on, and turned off again by a reset. -/
theorem in_step_since_load_of_switch :
    ∃ loaded turnedOn session : Session Memory,
      switchStore.load Callbacks.passive (switchStore.start Memory.empty) = (.ok true, loaded) ∧
      turnedOn.state.value = .object [("on", .bool true)] ∧
      Relation.ReflTransGen (switchStore.QuietStep fun _ => True) loaded turnedOn ∧
      Relation.ReflTransGen (switchStore.QuietStep fun _ => True) turnedOn session ∧
      session.state.value = .object [("on", .bool false)] ∧
      content session.medium switchStore.name = session.state.baseline ∧
      ∃ text, content session.medium switchStore.name = some text ∧
        session.state.HasText text := by
  let loaded := (switchStore.load Callbacks.passive (switchStore.start Memory.empty)).2
  let turnedOn :=
    (switchStore.perform Callbacks.passive (.set (.text "on") (.bool true)) loaded).2
  let session := (switchStore.perform Callbacks.passive (.reset (.text "on")) turnedOn).2
  have hload : switchStore.load Callbacks.passive (switchStore.start Memory.empty) =
      (.ok true, loaded) := rfl
  have hon : Relation.ReflTransGen (switchStore.QuietStep fun _ => True) loaded turnedOn :=
    .single (.perform nofun)
  have hoff : Relation.ReflTransGen (switchStore.QuietStep fun _ => True) turnedOn session :=
    .single (.perform nofun)
  obtain ⟨hbaseline, htext, _⟩ :=
    in_step_since_load (reliable_memory switchStore.name) trivial hload (hon.trans hoff)
  exact ⟨loaded, turnedOn, session, hload, rfl, hon, hoff, rfl, hbaseline, htext rfl⟩

end Store

end ValidatedStore
