import Mathlib.Logic.Function.Basic
import Mathlib.Logic.Relation
import ValidatedStore.Proofs.Store.Baselines
import ValidatedStore.Proofs.Store.Validity

/-!
# Stores that share a key

Any number of secure stores may be open on one key of one medium. In every step one of them opens,
carries out an operation with all that its handlers do, or closes; or someone else changes the
medium in any way. No store ever overwrites a text that it has not seen, and what it does to the
medium is told by its log.
-/

namespace ValidatedStore

open LawfulMedium (content)

/-- An open store with what it keeps between steps. -/
structure Party where
  /-- The store. -/
  store : Store
  /-- Its state. -/
  state : State
  /-- The events that its handlers saw. -/
  events : List Event

namespace Party

variable {μ : Type}

/-- The session in which a store takes its next step. -/
def on (party : Party) (medium : μ) : Session μ := ⟨party.state, medium, party.events⟩

/-- What a store keeps of a session. -/
def of (store : Store) (session : Session μ) : Party := ⟨store, session.state, session.events⟩

end Party

/-- Operations that load from nowhere but the medium. -/
def Operation.ReadsMedium (operation : Operation) : Prop :=
  ∀ source, operation ≠ .loadFrom source

/-- A medium and the stores that are open on it. -/
structure Shared (ι μ : Type) where
  /-- The medium. -/
  medium : μ
  /-- The store at each place, if one is open there. -/
  parties : ι → Option Party

namespace Shared

variable {ι μ : Type} [Medium μ] [LawfulMedium μ] {key : String}
  {system : Shared ι μ} {i : ι} {before after : Session μ} {left : Option Party}

/-- The step of one store, from one session to another one, and what is left of the store. -/
inductive Acts (key : String) (system : Shared ι μ) (i : ι) :
    Session μ → Session μ → Option Party → Prop
  /-- A secure store is opened where there is none; if this fails there is still none. -/
  | opens {draft : StoreDraft} {store : Store} {result : Except StoreError Store}
      {session : Session μ} (hfree : system.parties i = none) (hp : draft.prepare = .ok store)
      (hname : store.name = key) (hsecure : store.settings.secure = true)
      (hopen : draft.openOn system.medium = (result, session)) :
      Acts key system i (store.start system.medium) session
        (result.toOption.map fun store => Party.of store session)
  /-- An operation is carried out, by handlers that use the store in the same way. -/
  | performs {party : Party} {operation : Operation} {callbacks : Callbacks μ}
      (hparty : system.parties i = some party) (hreads : operation.ReadsMedium)
      (huses : party.store.Uses Operation.ReadsMedium (fun _ _ => False) callbacks) :
      Acts key system i (party.on system.medium)
        (party.store.perform callbacks operation (party.on system.medium)).2
        (some (Party.of party.store
          (party.store.perform callbacks operation (party.on system.medium)).2))
  /-- The store is dropped. -/
  | closes {party : Party} (hparty : system.parties i = some party) :
      Acts key system i (party.on system.medium) (party.store.close (party.on system.medium)) none

/-- Every open store is a secure store of the key whose baseline is what it has last seen. -/
def Honest (key : String) (system : Shared ι μ) : Prop :=
  ∀ i party, system.parties i = some party → party.store.name = key ∧
    party.store.settings.secure = true ∧ party.state.baseline = Store.lastSeen party.state.log

/-- A step of a store is accounted for by its log, and leaves an honest store or none. -/
theorem Acts.accounts (hs : Honest key system) (h : system.Acts key i before after left) :
    before.medium = system.medium ∧ before.state.baseline = Store.lastSeen before.state.log ∧
      ∃ store : Store, store.name = key ∧ store.settings.secure = true ∧
        store.Accounts before after ∧
        ∀ party, left = some party → party = Party.of store after := by
  cases h with
  | @opens draft store result session hfree hp hname hsecure hopen =>
    have hrun : store.Evolves Operation.ReadsMedium (fun _ _ => False) (store.start system.medium)
        (draft.openOn system.medium).2 :=
      Store.evolves_openOn _ hp fun source => nofun
    rw [hopen] at hrun
    refine ⟨rfl, rfl, store, hname, hsecure, hrun.accounts hsecure (fun _ h => h) (fun _ _ h => h),
      fun party hleft => ?_⟩
    cases result with
    | error e => cases hleft
    | ok opened =>
      obtain rfl := Except.ok.inj (hp.symm.trans (Store.prepare_of_openOn hopen))
      exact (Option.some.inj hleft).symm
  | @performs party operation callbacks hparty hreads huses =>
    obtain ⟨hname, hsecure, hb⟩ := hs i party hparty
    have hrun : party.store.Evolves Operation.ReadsMedium (fun _ _ => False)
        (party.on system.medium)
        (party.store.perform callbacks operation (party.on system.medium)).2 :=
      (Store.Evolves.refl _).perform huses.afterInvalid huses.afterConflict hreads
    exact ⟨rfl, hb, party.store, hname, hsecure,
      hrun.accounts hsecure (fun _ h => h) (fun _ _ h => h),
      fun _ hleft => (Option.some.inj hleft).symm⟩
  | @closes party hparty =>
    obtain ⟨hname, hsecure, hb⟩ := hs i party hparty
    have hrun : party.store.Evolves Operation.ReadsMedium (fun _ _ => False)
        (party.on system.medium)
        (party.store.perform Callbacks.passive .fire (party.on system.medium)).2 :=
      Store.evolves_perform_passive (fun source => nofun) _
    exact ⟨rfl, hb, party.store, hname, hsecure,
      hrun.accounts hsecure (fun _ h => h) (fun _ _ h => h), fun _ hleft => by cases hleft⟩

variable [DecidableEq ι]

/-- One step of the whole. -/
inductive Step (key : String) : Shared ι μ → Shared ι μ → Prop
  /-- A store acts. -/
  | act {system : Shared ι μ} {i : ι} {before after : Session μ} {left : Option Party}
      (h : system.Acts key i before after left) :
      Step key system ⟨after.medium, Function.update system.parties i left⟩
  /-- Someone else writes to the medium, removes keys from it or breaks it. -/
  | outside {system : Shared ι μ} (medium : μ) : Step key system { system with medium := medium }

/-- What can be reached from a medium on which no store is open. -/
def Reachable (key : String) (medium : μ) (system : Shared ι μ) : Prop :=
  Relation.ReflTransGen (Step key) ⟨medium, fun _ => none⟩ system

/-- Steps keep all stores honest. -/
theorem Step.honest {next : Shared ι μ} (hs : Honest key system) (h : Step key system next) :
    Honest key next := by
  cases h with
  | @act i before after left h =>
    obtain ⟨_, hb, store, hname, hsecure, ha, hleft⟩ := h.accounts hs
    intro j party hj
    dsimp only at hj
    by_cases hij : j = i
    · subst hij
      rw [Function.update_self] at hj
      obtain rfl := hleft party hj
      exact ⟨hname, hsecure, (ha hb).1⟩
    · rw [Function.update_of_ne hij] at hj
      exact hs j party hj
  | outside medium => exact hs

theorem Reachable.honest {start : μ} (h : Reachable key start system) : Honest key system := by
  induction h with
  | refl => exact fun _ _ hno => by cases hno
  | tail _ hstep ih => exact hstep.honest ih

/-- Whatever has happened before, a step of a store changes the medium only by saves in its log;
each of them finds the text that the store has last seen in a load or a save of its own, leaves the
text of its value, and makes that text the baseline. -/
theorem overwrites_only_seen {start : μ} (hreach : Reachable key start system)
    (h : system.Acts key i before after left) :
    before.medium = system.medium ∧ after.state.baseline = Store.lastSeen after.state.log ∧
      ∃ new, after.state.log = before.state.log ++ new ∧
        Store.Faithful (content system.medium key) before.state.log new
          (content after.medium key) ∧
        (content after.medium key ≠ content system.medium key →
          ∃ value baseline, Access.saved value baseline ∈ new) := by
  obtain ⟨hm, hb, store, rfl, _, ha, _⟩ := h.accounts hreach.honest
  obtain ⟨hbaseline, new, hlog, hf⟩ := ha hb
  rw [← hm]
  exact ⟨rfl, hbaseline, new, hlog, hf, hf.exists_saved⟩

/-- A switch with a handler that loads again is open when someone else writes a text that has to be
repaired. Turning the switch on runs into the conflict, loads that text and overwrites it. -/
theorem overwrites_only_seen_of_switch :
    ∃ (system : Shared Nat Memory) (before after : Session Memory) (left : Option Party),
      Reachable "switch" Memory.empty system ∧ system.Acts "switch" 0 before after left ∧
      content system.medium "switch" = some "7" ∧
      content after.medium "switch" = some (Json.print (.object [("on", .bool false)])) ∧
      before.medium = system.medium ∧ after.state.baseline = Store.lastSeen after.state.log ∧
      ∃ new, after.state.log = before.state.log ++ new ∧
        Store.Faithful (content system.medium "switch") before.state.log new
          (content after.medium "switch") ∧
        (content after.medium "switch" ≠ content system.medium "switch" →
          ∃ value baseline, Access.saved value baseline ∈ new) := by
  let opened := (Store.switchDraft.openOn Memory.empty).2
  let party := Party.of Store.switchStore opened
  let system : Shared Nat Memory :=
    ⟨Memory.empty.write "switch" "7", Function.update (fun _ => none) 0 (some party)⟩
  have hopens : (⟨Memory.empty, fun _ => none⟩ : Shared Nat Memory).Acts "switch" 0
      (Store.switchStore.start Memory.empty) opened (some party) :=
    @Acts.opens _ _ _ _ _ _ Store.switchDraft Store.switchStore (.ok Store.switchStore) opened rfl
      rfl rfl rfl rfl
  have hreach : Reachable "switch" Memory.empty system :=
    (Relation.ReflTransGen.single (Step.act hopens)).tail (.outside _)
  have huses : Store.switchStore.Uses Operation.ReadsMedium (fun _ _ => False)
      (Store.switchStore.callbacks : Callbacks Memory) :=
    Store.uses_callbacks (fun source => nofun) fun source => nofun
  have hacts := @Acts.performs Nat Memory _ "switch" system 0 party
    (.set (.text "on") (.bool true)) _ rfl (fun source => nofun) huses
  exact ⟨system, _, _, _, hreach, hacts, rfl, by decide, overwrites_only_seen hreach hacts⟩

end Shared

end ValidatedStore
