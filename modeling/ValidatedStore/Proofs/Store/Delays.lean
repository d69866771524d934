import ValidatedStore.Proofs.Store.Coherence

/-!
# Delayed saves

Two stores that differ in their delay alone, one prompt and one delayed, go through the same edits
and saves on two media that do not fail. The delayed one may take up what it put off at any moment.
The two always have the same results and the same value. While a save is put off, the medium of the
prompt store has the text that the delayed store is going to write, and otherwise the two media hold
the same text.
-/

namespace ValidatedStore

open LawfulMedium (content)

/-- The draft with another delay. -/
def StoreDraft.delayed (draft : StoreDraft) (delay : UInt64) : StoreDraft :=
  { draft with settings := { draft.settings with delayMs := delay } }

namespace Store

/-- The store with another delay. -/
def delayed (store : Store) (delay : UInt64) : Store :=
  { store with settings := { store.settings with delayMs := delay } }

theorem prepare_delayed {draft : StoreDraft} {store : Store} (h : draft.prepare = .ok store)
    (delay : UInt64) : (draft.delayed delay).prepare = .ok (store.delayed delay) := by
  obtain ⟨_, he⟩ := prepare_eq_ok h
  have hprepare := prepare_with h { draft.settings with delayMs := delay } draft.onInvalid
    draft.onConflict rfl
  rw [StoreDraft.delayed, hprepare, delayed, he]

theorem isDebounced_delayed {store : Store} {delay : UInt64} (h : 0 < delay) :
    (store.delayed delay).settings.isDebounced = true :=
  decide_eq_true h

theorem isDebounced_of_delayMs {store : Store} (h : store.settings.delayMs = 0) :
    store.settings.isDebounced = false := by
  rw [Settings.isDebounced, h]
  rfl

section Decisions

variable (store : Store) (delay : UInt64)

/-- A delay has no part in what is decided. -/
theorem decideUpdate_delayed : (store.delayed delay).decideUpdate = store.decideUpdate := rfl

theorem decideReset_delayed : (store.delayed delay).decideReset = store.decideReset := rfl

theorem decideLoad_delayed : (store.delayed delay).decideLoad = store.decideLoad := by
  funext source
  cases source <;> rfl

end Decisions

variable {μ ν : Type} [Medium μ] [LawfulMedium μ] [Medium ν] [LawfulMedium ν]
  {store : Store} {delay : UInt64} {works : μ → Prop} {lateWorks : ν → Prop}
  {prompt prompt' : Session μ} {late late' : Session ν} {operation : Operation}

/-- A prompt store and a delayed one agree. -/
structure Agree (store : Store) (works : μ → Prop) (lateWorks : ν → Prop) (prompt : Session μ)
    (late : Session ν) : Prop where
  /-- The prompt store is in step. -/
  inStep : store.InStep works prompt
  /-- So is the delayed one. -/
  lateInStep : store.InStep lateWorks late
  /-- They have the same value. -/
  value : late.state.value = prompt.state.value
  /-- The medium of the prompt store holds what the delayed one has written or is going to write. -/
  text : ∃ text, content prompt.medium store.name = some text ∧
    (late.state.pending = true → text = Json.print prompt.state.value) ∧
    (late.state.pending = false → content late.medium store.name = some text)

/-- Two outcomes, one of the prompt store and one of the delayed store, have the same result, and
the stores agree. -/
def Alike (store : Store) (works : μ → Prop) (lateWorks : ν → Prop) (outcome : Outcome μ Bool)
    (lateOutcome : Outcome ν Bool) : Prop :=
  outcome.1 = lateOutcome.1 ∧ store.Agree works lateWorks outcome.2 lateOutcome.2

section Saves

variable (hreliable : Reliable store.name works)
  (hlateReliable : Reliable (store.delayed delay).name lateWorks)
include hlateReliable

/-- After the delayed store took up what it put off, the stores still agree, and nothing is put
off. -/
theorem Agree.flush (h : store.Agree works lateWorks prompt late) :
    store.Agree works lateWorks prompt ((store.delayed delay).flush Callbacks.passive late).2 ∧
      ((store.delayed delay).flush Callbacks.passive late).2.state.pending = false := by
  obtain ⟨text, hc, htext, hlc⟩ := h.text
  rw [Store.flush]
  split
  next hpending =>
    have hs : (store.delayed delay).InStep lateWorks (withPending false late) :=
      ⟨h.lateInStep.works, h.lateInStep.content⟩
    obtain ⟨medium, hsave, hr, hwritten⟩ := saveNow_of_inStep hlateReliable hs
    have hsame : Json.print late.state.value = text := by rw [h.value, htext hpending]
    have hheld : content medium store.name = some text := hsame ▸ hwritten
    rw [hsave]
    have hcleared : (saved medium (withPending false late)).state.pending = false := rfl
    exact ⟨⟨h.inStep, ⟨hr, hwritten⟩, h.value, text, hc, by simp [hcleared], fun _ => hheld⟩, rfl⟩
  next hpending => exact ⟨h, Bool.eq_false_iff.mpr hpending⟩

include hreliable

/-- Stores that agree save the same text. -/
theorem Agree.save (h : store.Agree works lateWorks prompt late) :
    store.Alike works lateWorks (store.save Callbacks.passive prompt)
      ((store.delayed delay).save Callbacks.passive late) := by
  have hs : store.InStep works (withPending false prompt) := ⟨h.inStep.works, h.inStep.content⟩
  have hl : (store.delayed delay).InStep lateWorks (withPending false late) :=
    ⟨h.lateInStep.works, h.lateInStep.content⟩
  obtain ⟨medium, hsave, hw, hc⟩ := saveNow_of_inStep hreliable hs
  obtain ⟨lateMedium, hlateSave, hr, hlc⟩ := saveNow_of_inStep hlateReliable hl
  have hheld : content lateMedium store.name = some (Json.print prompt.state.value) :=
    hlc.trans (congrArg (fun value => some (Json.print value)) h.value)
  rw [Store.save, Store.save, hsave, hlateSave]
  exact ⟨rfl, ⟨hw, hc⟩, ⟨hr, hlc⟩, h.value, _, hc, fun _ => rfl, fun _ => hheld⟩

end Saves

section Changes

variable (hprompt : store.settings.isDebounced = false)
  (hlate : (store.delayed delay).settings.isDebounced = true)
include hprompt hlate

/-- Where both stores request a save of the same value, they agree afterwards. -/
theorem agree_of_requested (hs : store.InStep lateWorks late)
    (hvalue : late.state.value = prompt.state.value)
    (hp : store.Requested works prompt prompt')
    (hl : (store.delayed delay).Requested lateWorks late late') :
    store.Agree works lateWorks prompt' late' := by
  cases hp with
  | later hd => exact absurd (hd.symm.trans hprompt) nofun
  | now _ hw hc =>
    cases hl with
    | later =>
      exact ⟨⟨hw, hc⟩, ⟨hs.works, hs.content⟩, hvalue, _, hc, fun _ => rfl, nofun⟩
    | now hd => exact absurd (hd.symm.trans hlate) nofun

variable (hreliable : Reliable store.name works)
  (hlateReliable : Reliable (store.delayed delay).name lateWorks)
include hreliable hlateReliable

/-- Stores that agree carry an edit's decision out alike. -/
theorem Agree.carryOut (h : store.Agree works lateWorks prompt late) {decision : Decision}
    (hj : store.Justified operation prompt.state.value decision)
    (ho : operation.IsEdit) :
    store.Alike works lateWorks (store.carryOut decision prompt)
      ((store.delayed delay).carryOut decision late) := by
  cases hj with
  | @decline result events =>
    have hp : store.InStep works (prompt.noteAll events) := ⟨h.inStep.works, h.inStep.content⟩
    have hl : store.InStep lateWorks (late.noteAll events) :=
      ⟨h.lateInStep.works, h.lateInStep.content⟩
    exact ⟨rfl, hp, hl, h.value, h.text⟩
  | @change value =>
    have hs : (store.delayed delay).InStep lateWorks late :=
      ⟨h.lateInStep.works, h.lateInStep.content⟩
    obtain ⟨after, hcommit, hp⟩ := commit_of_inStep hreliable value h.inStep
    obtain ⟨lateAfter, hlateCommit, hl⟩ := commit_of_inStep hlateReliable value hs
    have hchanged : store.InStep lateWorks
        { late with state := { late.state with value := value } } := ⟨hs.works, hs.content⟩
    rw [Store.carryOut, Store.carryOut, hcommit, hlateCommit]
    exact ⟨rfl, agree_of_requested hprompt hlate hchanged rfl hp hl⟩
  | take hl =>
    rw [hl] at ho
    cases ho

/-- Stores that take the same source over from their media, with nothing put off, do so alike. -/
theorem alike_commitLoad (prompt : Session μ) (late : Session ν) (value : Value)
    {source : Option String} (repaired : Bool) (hw : works prompt.medium)
    (hr : lateWorks late.medium) (hc : content prompt.medium store.name = source)
    (hlc : content late.medium store.name = source) (hpending : late.state.pending = false) :
    store.Alike works lateWorks
      (store.commitLoad Callbacks.passive value source repaired prompt)
      ((store.delayed delay).commitLoad Callbacks.passive value source repaired late) := by
  have hs : store.InStep lateWorks (taken value source late) := ⟨hr, hlc⟩
  obtain ⟨after, hload, hp⟩ := commitLoad_of_content hreliable value repaired hw hc
  obtain ⟨lateAfter, hlateLoad, hl⟩ := commitLoad_of_content hlateReliable value repaired hr hlc
  rw [hload, hlateLoad]
  refine ⟨rfl, ?_⟩
  -- Whether a save is requested depends on the source and the repair, which the stores share.
  rcases hp with ⟨hsave, hp⟩ | ⟨hsave, rfl⟩
  · rcases hl with ⟨_, hl⟩ | ⟨hnone, _⟩
    · exact agree_of_requested hprompt hlate hs rfl hp hl
    · exact absurd (hsave.symm.trans hnone) nofun
  · rcases hl with ⟨hsome, _⟩ | ⟨_, rfl⟩
    · exact absurd (hsave.symm.trans hsome) nofun
    · have hsource := (Bool.or_eq_false_iff.mp hsave).1
      obtain ⟨text, rfl⟩ := Option.isSome_iff_exists.mp (Option.isNone_eq_false_iff.mp hsource)
      have hnotPending : (taken value (some text) late).state.pending ≠ true :=
        fun h => Bool.false_ne_true (hpending.symm.trans h)
      exact ⟨⟨hw, hc⟩, hs, rfl, text, hc, fun h => absurd h hnotPending, fun _ => hlc⟩

/-- Stores that agree perform every edit and every save alike. -/
theorem Agree.perform (h : store.Agree works lateWorks prompt late)
    (ho : operation.IsEdit ∨ operation = .save) :
    store.Alike works lateWorks (store.perform Callbacks.passive operation prompt)
      ((store.delayed delay).perform Callbacks.passive operation late) := by
  rcases ho with hedit | rfl
  · cases hedit with
    | update selector patch =>
      have hj := justified_decideUpdate store prompt.state.value selector patch
      rw [Store.perform, Store.perform, update_eq_carryOut, update_eq_carryOut,
        decideUpdate_delayed, h.value]
      exact h.carryOut hprompt hlate hreliable hlateReliable hj (.update selector patch)
    | reset selector =>
      have hj := justified_decideReset store prompt.state.value selector
      rw [Store.perform, Store.perform, reset_eq_carryOut, reset_eq_carryOut,
        decideReset_delayed, h.value]
      exact h.carryOut hprompt hlate hreliable hlateReliable hj (.reset selector)
  · exact h.save hreliable hlateReliable

/-- Stores that start on media with the same text agree after a first load that succeeded. -/
theorem agree_of_start {medium : μ} {lateMedium : ν} (hw : works medium) (hr : lateWorks lateMedium)
    (hsame : content medium store.name = content lateMedium store.name)
    (hload : (store.load Callbacks.passive (store.start medium)).1 = .ok true) :
    store.Agree works lateWorks (store.load Callbacks.passive (store.start medium)).2
      ((store.delayed delay).load Callbacks.passive
        ((store.delayed delay).start lateMedium)).2 := by
  have hread : Medium.read (store.start medium).medium store.name =
      .ok (content lateMedium store.name) := hsame ▸ hreliable.read hw
  have hlateRead : Medium.read ((store.delayed delay).start lateMedium).medium
      (store.delayed delay).name = .ok (content lateMedium store.name) := hlateReliable.read hr
  have hj := justified_decideLoad store (store.start medium).state.value
    (content lateMedium store.name)
  rw [load, hread] at hload ⊢
  rw [load, hlateRead]
  dsimp only at hload ⊢
  rw [loadFrom_eq_carryOut] at hload ⊢
  rw [loadFrom_eq_carryOut, decideLoad_delayed]
  -- Both stores carry the same decision out, and one that declines would not have succeeded.
  generalize store.decideLoad (content lateMedium store.name) = decision at hload hj ⊢
  cases hj with
  | @decline result _ hd =>
    obtain rfl : result = .ok true := hload
    cases hd
  | change hchange => cases hchange
  | @take source value repaired events hl =>
    injection hl with hsource
    have halike := alike_commitLoad hprompt hlate hreliable hlateReliable
      ((store.start medium).noteAll events)
      (((store.delayed delay).start lateMedium).noteAll events) value repaired hw hr
      (hsame.trans hsource) hsource rfl
    exact halike.2

end Changes

/-- A step of a prompt store and a delayed one: both do the same edit or save, or the delayed one
alone takes up what it put off. -/
inductive PairStep (prompt delayed : Store) :
    Session μ × Session ν → Session μ × Session ν → Prop
  /-- Both do the same. -/
  | both {session : Session μ} {late : Session ν} {operation : Operation}
      (ho : operation.IsEdit ∨ operation = .save) :
      PairStep prompt delayed (session, late)
        ((prompt.perform Callbacks.passive operation session).2,
          (delayed.perform Callbacks.passive operation late).2)
  /-- The delayed store flushes, or its delay runs out. -/
  | late {session : Session μ} {late : Session ν} {operation : Operation}
      (ho : operation = .flush ∨ operation = .fire) :
      PairStep prompt delayed (session, late)
        (session, (delayed.perform Callbacks.passive operation late).2)

/-- Whatever both stores do, and whenever the delayed store takes up what it put off, they agree. -/
theorem agree_of_pairSteps {first last : Session μ × Session ν}
    (hprompt : store.settings.isDebounced = false)
    (hlate : (store.delayed delay).settings.isDebounced = true)
    (hreliable : Reliable store.name works)
    (hlateReliable : Reliable (store.delayed delay).name lateWorks)
    (h : Relation.ReflTransGen (store.PairStep (store.delayed delay)) first last)
    (ha : store.Agree works lateWorks first.1 first.2) :
    store.Agree works lateWorks last.1 last.2 := by
  induction h with
  | refl => exact ha
  | tail _ hstep ih =>
    cases hstep with
    | both ho => exact (ih.perform hprompt hlate hreliable hlateReliable ho).2
    | late ho =>
      rcases ho with rfl | rfl
      · exact (ih.flush hlateReliable).1
      · exact (ih.flush hlateReliable).1

/-- Two stores that differ in their delay alone are opened eagerly on media that do not fail and
that hold the same, and the first load succeeds. Whatever edits and saves both go through, and
whenever the delayed one flushes or its delay runs out, they have the same value, the next edit or
save has the same result and leaves the same value, and a flush or the end of the delayed store
leaves the same text in both media. -/
theorem prompt_and_delayed_agree {draft : StoreDraft} {debounced : Store} {medium : μ}
    {lateMedium : ν} {opened : Session μ} {lateOpened : Session ν}
    (hprompt : draft.settings.delayMs = 0) (hdelay : 0 < delay)
    (heager : draft.settings.lazyLoad = false)
    (hreliable : Reliable draft.name works) (hlateReliable : Reliable draft.name lateWorks)
    (hw : works medium) (hr : lateWorks lateMedium)
    (hsame : content medium draft.name = content lateMedium draft.name)
    (hopen : draft.openOn medium = (.ok store, opened))
    (hlateOpen : (draft.delayed delay).openOn lateMedium = (.ok debounced, lateOpened))
    (hload : (store.load Callbacks.passive (store.start medium)).1 = .ok true)
    (hrun : Relation.ReflTransGen (store.PairStep debounced) (opened, lateOpened)
      (prompt, late)) :
    late.state.value = prompt.state.value ∧
    (∀ operation : Operation, operation.IsEdit ∨ operation = .save →
      (debounced.perform Callbacks.passive operation late).1 =
          (store.perform Callbacks.passive operation prompt).1 ∧
        (debounced.perform Callbacks.passive operation late).2.state.value =
          (store.perform Callbacks.passive operation prompt).2.state.value) ∧
    ∃ text, content prompt.medium draft.name = some text ∧
      content (debounced.flush Callbacks.passive late).2.medium draft.name = some text ∧
      content (debounced.close late).medium draft.name = some text := by
  have hp := prepare_of_openOn hopen
  have he := (prepare_eq_ok hp).2
  have hname : store.name = draft.name := by rw [he]
  have hsettings : store.settings = draft.settings := by rw [he]
  have hdebounced : debounced = store.delayed delay :=
    Except.ok.inj ((prepare_of_openOn hlateOpen).symm.trans (prepare_delayed hp delay))
  subst hdebounced
  rw [← hname] at hreliable hlateReliable hsame ⊢
  have hnow : store.settings.isDebounced = false :=
    isDebounced_of_delayMs (hsettings ▸ hprompt)
  have hlater : (store.delayed delay).settings.isDebounced = true := isDebounced_delayed hdelay
  have hstart : store.Agree works lateWorks opened lateOpened := by
    rw [session_of_openOn hopen heager, session_of_openOn hlateOpen heager]
    exact agree_of_start hnow hlater hreliable hlateReliable hw hr hsame hload
  have hdelayed : Reliable (store.delayed delay).name lateWorks := hlateReliable
  have hagree := agree_of_pairSteps hnow hlater hreliable hdelayed hrun hstart
  refine ⟨hagree.value, fun operation ho => ?_, ?_⟩
  · obtain ⟨hresult, hafter⟩ := hagree.perform hnow hlater hreliable hdelayed ho
    exact ⟨hresult.symm, hafter.value⟩
  · obtain ⟨hflushed, hnone⟩ := hagree.flush hdelayed
    obtain ⟨text, hc, _, hlc⟩ := hflushed.text
    exact ⟨text, hc, hlc hnone, hlc hnone⟩

/-- Two switches, one of them with a delay, are turned on; the delay runs out; and both are turned
off again, which the delayed one writes only when it is closed. -/
theorem switches_agree :
    ∃ opened prompt lateOpened late : Session Memory,
      switchDraft.openOn Memory.empty = (.ok switchStore, opened) ∧
      (switchDraft.delayed 50).openOn Memory.empty = (.ok (switchStore.delayed 50), lateOpened) ∧
      Relation.ReflTransGen (switchStore.PairStep (switchStore.delayed 50))
        (opened, lateOpened) (prompt, late) ∧
      late.state.value = .object [("on", .bool false)] ∧
      prompt.state.value = .object [("on", .bool false)] ∧
      late.state.pending = true ∧
      ∃ text, content prompt.medium "switch" = some text ∧
        content ((switchStore.delayed 50).close late).medium "switch" = some text := by
  let on := Operation.set (.text "on") (.bool true)
  let off := Operation.reset (.text "on")
  let opened := (switchDraft.openOn Memory.empty).2
  let lateOpened := ((switchDraft.delayed 50).openOn Memory.empty).2
  let step (operation : Operation) (pair : Session Memory × Session Memory) :=
    ((switchStore.perform Callbacks.passive operation pair.1).2,
      ((switchStore.delayed 50).perform Callbacks.passive operation pair.2).2)
  let turnedOn := step on (opened, lateOpened)
  let fired := (turnedOn.1,
    ((switchStore.delayed 50).perform Callbacks.passive .fire turnedOn.2).2)
  let last := step off fired
  have hopen : switchDraft.openOn Memory.empty = (.ok switchStore, opened) := rfl
  have hlateOpen : (switchDraft.delayed 50).openOn Memory.empty =
      (.ok (switchStore.delayed 50), lateOpened) := rfl
  have hon : switchStore.PairStep (switchStore.delayed 50) (opened, lateOpened) turnedOn :=
    .both (.inl (.update _ _))
  have hfire : switchStore.PairStep (switchStore.delayed 50) turnedOn fired := .late (.inr rfl)
  have hoff : switchStore.PairStep (switchStore.delayed 50) fired last := .both (.inl (.reset _))
  have hrun : Relation.ReflTransGen (switchStore.PairStep (switchStore.delayed 50))
      (opened, lateOpened) last := ((Relation.ReflTransGen.single hon).tail hfire).tail hoff
  have hdelay : (0 : UInt64) < 50 := by decide
  obtain ⟨hvalue, _, text, hc, _, hlc⟩ :=
    prompt_and_delayed_agree rfl hdelay rfl
      (reliable_memory switchDraft.name) (reliable_memory switchDraft.name) trivial trivial rfl
      hopen hlateOpen rfl hrun
  exact ⟨opened, last.1, lateOpened, last.2, hopen, hlateOpen, hrun, hvalue.trans rfl, rfl, rfl,
    text, hc, hlc⟩

end Store

end ValidatedStore
