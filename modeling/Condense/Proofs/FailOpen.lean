import Condense.Session
import Condense.Proofs.CompactionResults
import Condense.Proofs.FileRefinement
import Condense.Proofs.StoreReads

/-!
# The guard fails open

A failed compaction shows in nothing but a notice: the call goes on with the turns as they were, and
the store has only been looked into. This rests on the order of work in a compaction: whatever can
fail comes before the first thing that is kept.
-/

namespace Condense.Proofs
open Summary

/-- Nothing has been kept when a compaction fails, and it fails by a cancellation only if the
provider was cancelled. -/
theorem compact_error {strategy : Strategy} {registry : Registry} {call : Call}
    {provider : Request → Reply} {turns : List Turn} {store : Store} {fault : Fault}
    (h : (strategy.compact registry call provider turns store).outcome = .error fault) :
    Consulted store (strategy.compact registry call provider turns store).store ∧
      (fault.isCancellation = true →
        ∃ request message, provider request = .cancelled message) := by
  obtain ⟨honce, htwice⟩ := looksAt_consulted call.agent store
  have hcourse := compact_course strategy registry call provider turns store
  generalize strategy.compact registry call provider turns store = run at h hcourse ⊢
  generalize looksAt call.agent store = looks at honce htwice hcourse
  cases hcourse with
  | unplanned notices hfault =>
    cases h
    exact ⟨.refl store, by simp [hfault]⟩
  | unmeasured notices hfault =>
    cases h
    exact ⟨honce, by simp [hfault]⟩
  | unprepared notices hfault =>
    cases h
    exact ⟨htwice, by simp [hfault]⟩
  | unanswered notices sent hjob hfault =>
    cases h
    exact ⟨htwice, fun hcancelled => ⟨_, hfault hcancelled⟩⟩
  | _ => cases h

/-- How a call of the guard ends, next to the compaction that it makes. -/
inductive Guarded (turns : List Turn) (run : Run (Option Compaction)) : Run Unit → Prop where
  | passed (notices : List Notice) {result : Option Compaction} (h : run.outcome = .ok result) :
      Guarded turns run ⟨run.turns, run.store, notices, run.sent, .ok ()⟩
  | failed (notices : List Notice) {fault : Fault} (h : run.outcome = .error fault)
      (hfault : fault.isCancellation = false) :
      Guarded turns run ⟨turns, run.store, notices, run.sent, .ok ()⟩
  | cancelled (notices : List Notice) {fault : Fault} (h : run.outcome = .error fault)
      (hfault : fault.isCancellation = true) :
      Guarded turns run ⟨turns, run.store, notices, run.sent, .error fault⟩

lemma beforeModelCall_guarded {guard : Guard} {call : Call} {turns : List Turn}
    {installed : Installed} (hturns : turns ≠ [])
    (hinstalled : guard.strategyFor? call.agent = some installed) (registry : Registry)
    (provider : Request → Reply) (store : Store) :
    Guarded turns (installed.strategy.compact registry call provider turns store)
      (guard.beforeModelCall registry call provider turns store) := by
  have hsome : turns.isEmpty = false := List.isEmpty_eq_false_iff.mpr hturns
  simp only [Guard.beforeModelCall, hsome, hinstalled, Bool.false_eq_true, if_false]
  generalize installed.strategy.compact registry call provider turns store = run
  cases houtcome : run.outcome with
  | ok result => cases result <;> exact .passed _ houtcome
  | error fault =>
    cases hfault : fault.isCancellation with
    | true =>
      simp only [Guard.passThrough, hfault, if_true]
      exact .cancelled _ houtcome hfault
    | false =>
      simp only [Guard.passThrough, hfault, Bool.false_eq_true, if_false]
      exact .failed _ houtcome hfault

/-- A call of the guard does nothing without turns or without a strategy; otherwise it follows the
compaction. -/
theorem beforeModelCall_cases (guard : Guard) (registry : Registry) (call : Call)
    (provider : Request → Reply) (turns : List Turn) (store : Store) :
    ((turns = [] ∨ guard.strategyFor? call.agent = none) ∧
        guard.beforeModelCall registry call provider turns store =
          { turns, store, outcome := .ok () }) ∨
      ∃ installed, guard.strategyFor? call.agent = some installed ∧ turns ≠ [] ∧
        Guarded turns (installed.strategy.compact registry call provider turns store)
          (guard.beforeModelCall registry call provider turns store) := by
  cases hturns : turns.isEmpty with
  | true =>
    refine Or.inl ⟨Or.inl (List.isEmpty_iff.mp hturns), ?_⟩
    simp only [Guard.beforeModelCall, hturns, if_true]
  | false =>
    cases hstrategy : guard.strategyFor? call.agent with
    | none =>
      refine Or.inl ⟨Or.inr rfl, ?_⟩
      simp only [Guard.beforeModelCall, hturns, hstrategy, Bool.false_eq_true, if_false]
    | some installed =>
      right
      have hsome : turns ≠ [] := by simpa using hturns
      exact ⟨installed, rfl, hsome, beforeModelCall_guarded hsome hstrategy registry provider store⟩

/-- Unless the provider is cancelled, a call of the guard always returns. If the compaction failed,
the turns are those that the call was given, and the store is as the compaction left it; without
turns there has been none. -/
theorem beforeModelCall_fails_open (guard : Guard) (registry : Registry) (call : Call)
    {provider : Request → Reply} (turns : List Turn) (store : Store)
    (hprovider : ∀ request message, provider request ≠ .cancelled message) :
    let run := guard.beforeModelCall registry call provider turns store
    run.outcome = .ok () ∧
      ∀ installed fault, guard.strategyFor? call.agent = some installed →
        (installed.strategy.compact registry call provider turns store).outcome = .error fault →
        run.turns = turns ∧
          run.store = if turns = [] then store
            else (installed.strategy.compact registry call provider turns store).store := by
  dsimp only
  rcases beforeModelCall_cases guard registry call provider turns store with
    ⟨hnothing, hrun⟩ | ⟨installed, hinstalled, hturns, hguarded⟩
  · rw [hrun]
    refine ⟨rfl, fun installed fault hinstalled _ => ⟨rfl, (if_pos ?_).symm⟩⟩
    refine hnothing.resolve_right fun hnone => ?_
    rw [hinstalled] at hnone
    contradiction
  · have hfailed : ∀ fault,
        (installed.strategy.compact registry call provider turns store).outcome = .error fault →
        fault.isCancellation = false := by
      intro fault hfault
      by_contra hcancelled
      obtain ⟨request, message, hreply⟩ := (compact_error hfault).2 (by simpa using hcancelled)
      exact hprovider request message hreply
    generalize guard.beforeModelCall registry call provider turns store = run at hguarded ⊢
    cases hguarded with
    | passed notices hresult =>
      refine ⟨rfl, fun other fault hother hfault => ?_⟩
      rw [hinstalled] at hother
      cases hother
      rw [hresult] at hfault
      contradiction
    | failed notices hfault hcancellation =>
      refine ⟨rfl, fun other why hother _ => ⟨rfl, ?_⟩⟩
      rw [hinstalled] at hother
      cases hother
      exact (if_neg hturns).symm
    | cancelled notices hfault hcancellation =>
      rw [hfailed _ hfault] at hcancellation
      contradiction

/-- A failed compaction has cost a store nothing, unless the store is a file that is its own lock and
the compaction got as far as its record. -/
lemma stored?_compact_failed {strategy : Strategy} {registry : Registry} {call : Call}
    {provider : Request → Reply} {turns : List Turn} {store : Store} {fault : Fault}
    (h : (strategy.compact registry call provider turns store).outcome = .error fault) :
    (∀ key, stored? key (strategy.compact registry call provider turns store).store =
        stored? key store) ↔
      locksItself store = false ∨ (∃ why, (strategy.plan registry call turns).2 = .error why) ∨
        ∀ key, stored? key store = none := by
  have hconsulted := (compact_error h).1
  have hfar := compact_failed h
  dsimp only at hfar
  generalize strategy.compact registry call provider turns store = run at hconsulted hfar ⊢
  constructor
  · intro hsame
    by_contra hloses
    simp only [not_or, Bool.not_eq_false] at hloses
    obtain ⟨hown, hplanned, hsome⟩ := hloses
    have hempty : ∀ key, stored? key (lookedAt call.agent store) = none :=
      stored?_lookedAt hown call.agent
    refine hsome fun key => (hsame key).symm.trans ?_
    rcases hfar with ⟨hunplanned, -⟩ | ⟨-, ⟨-, -, hstore⟩ | ⟨-, hstore⟩⟩
    · exact absurd hunplanned hplanned
    · rw [hstore, looksAt_once]
      exact hempty key
    · rw [hstore, looksAt_twice]
      exact (lookedAt_consulted call.agent _).stored_none (hempty key)
  · rintro (happart | hunplanned | hnone) key
    · exact hconsulted.stored happart key
    · rcases hfar with ⟨-, -, hstore⟩ | ⟨⟨plan, hplan⟩, -⟩
      · rw [hstore]
      · obtain ⟨why, hwhy⟩ := hunplanned
        rw [hplan] at hwhy
        contradiction
    · rw [hconsulted.stored_none (hnone key), hnone key]

section Absorb

variable {α : Type} (session : Session) (errand : Errand) (run : Run α)

lemma turns_absorb (name : Text) :
    (session.absorb errand run).world.turns name =
      if name = errand.list then run.turns else session.world.turns name := by
  have hlists : (session.absorb errand run).world.turns name =
      (Assoc.get? name (Assoc.put errand.list run.turns session.world.lists)).getD [] := by
    unfold Session.absorb
    cases run.sent <;> rfl
  rw [hlists]
  split
  case isTrue hsame => rw [hsame, Assoc.get?_put_self, Option.getD_some]
  case isFalse hother =>
    rw [Assoc.get?_put_of_ne run.turns session.world.lists hother]
    rfl

lemma store_absorb (name : Text) :
    (session.absorb errand run).world.store name =
      if name = errand.store then run.store else session.world.store name := by
  have hstores : (session.absorb errand run).world.store name =
      (Assoc.get? name (Assoc.put errand.store run.store session.world.stores)).getD .empty := by
    unfold Session.absorb
    cases run.sent <;> rfl
  rw [hstores]
  split
  case isTrue hsame => rw [hsame, Assoc.get?_put_self, Option.getD_some]
  case isFalse hother =>
    rw [Assoc.get?_put_of_ne run.store session.world.stores hother]
    rfl

end Absorb

/-- Whatever the host's strategies, stores and settings are, and whatever the provider does short of
a cancellation, a call returns and works on no list and no store but those that it was given. If the
compaction fails, the list holds the turns from before the call, and the store has only been looked
into. Every key keeps its value then, unless the store is a file that is its own lock: such a file
loses what lay in it, as soon as the compaction looks for its record. -/
theorem call_fails_open (session : Session) (errand : Errand)
    (hreply : ∀ message, session.world.nextReply ≠ .cancelled message) :
    let world := session.world
    let after := (session.call errand).1.world
    let turns := world.turns errand.list
    let store := world.store errand.store
    (session.call errand).2 = .ok () ∧
      (∀ name ≠ errand.list, after.turns name = world.turns name) ∧
      (∀ name ≠ errand.store, after.store name = world.store name) ∧
      ∀ installed fault, session.guard.strategyFor? errand.call.agent = some installed →
        (session.compact errand).2 = some (.error fault) →
        after.turns errand.list = turns ∧
        Consulted store (after.store errand.store) ∧
        (∀ key, found? key (after.store errand.store) = found? key store) ∧
        ((∀ key, stored? key (after.store errand.store) = stored? key store) ↔
          locksItself store = false ∨ turns = [] ∨
            (∃ why, (installed.strategy.plan world.registry errand.call turns).2 = .error why) ∨
            ∀ key, stored? key store = none) := by
  dsimp only
  obtain ⟨hreturns, hfailed⟩ := beforeModelCall_fails_open session.guard session.world.registry
    errand.call (session.world.turns errand.list) (session.world.store errand.store)
    (fun _ => hreply : ∀ _ message, session.world.nextReply ≠ .cancelled message)
  unfold Session.call
  dsimp only
  refine ⟨hreturns, ?_, ?_, ?_⟩
  · intro name hname
    rw [turns_absorb, if_neg hname]
  · intro name hname
    rw [store_absorb, if_neg hname]
  · intro installed fault hinstalled hfault
    unfold Session.compact at hfault
    rw [hinstalled] at hfault
    have herror := Option.some.inj hfault
    obtain ⟨hturns, hstore⟩ := hfailed installed fault hinstalled herror
    rw [turns_absorb, if_pos rfl, store_absorb, if_pos rfl, hturns, hstore]
    generalize session.world.turns errand.list = turns at herror
    generalize session.world.store errand.store = store at herror
    refine ⟨rfl, ?_⟩
    by_cases hnone : turns = []
    · rw [if_pos hnone]
      exact ⟨.refl store, fun _ => rfl, iff_of_true (fun _ => rfl) (Or.inr (Or.inl hnone))⟩
    · rw [if_neg hnone]
      have hconsulted := (compact_error herror).1
      refine ⟨hconsulted, hconsulted.held, (stored?_compact_failed herror).trans ?_⟩
      simp only [hnone, false_or]

lemma exists_fault {α : Type} {outcome : Option (Except Fault α)}
    (h : (outcome.any fun outcome => !outcome.isOk) = true) :
    ∃ fault, outcome = some (.error fault) := by
  rcases outcome with _ | fault | result
  · contradiction
  · exact ⟨fault, rfl⟩
  · contradiction

/-- A host whose provider fails once the summary has been put in front of the turns. -/
def unluckySession (store : Store) : Session where
  world := {
    lists := [("l", [.ofText "user" "one two three", .ofText "user" "four five six",
      .ofText "user" "seven", .ofText "user" "eight"])]
    stores := [("s", store)]
    otherwise := .failed "overloaded" }
  guard := Guard.install 0 [("a", .threshold wholeSettings)]

def unluckyErrand : Errand := { call := { agent := "a" }, list := "l", store := "s" }

/-- A table that refuses one of its reads and every write. -/
def refusingTable : Store := .memory {
  entries := [(stateKey "a" Record.summaryKey, .text "S")]
  refuses := fun count access => count == 1 || access matches .write .. }

/-- A file whose name ends as that of a lock does. -/
def lockingFile : FileStore where
  path := "conv.lock"
  contents := .octets (documentOf [(.text "host", .int 1)])

lemma documentable_host : Documentable depthLimit (.dict [(.text "host", .int 1)]) := by
  refine .dict (by decide) (by simp) (fun entry hentry => ?_) fun entry hentry => ?_
  · obtain rfl := List.mem_singleton.mp hentry
    exact ⟨"host", rfl, rfl⟩
  · obtain rfl := List.mem_singleton.mp hentry
    exact .int _ rfl

lemma lockingFile_host : stored? (.text "host") (.file lockingFile) = some (.int 1) := by
  have hmembers : lockingFile.members = ([], .ok [(.text "host", .int 1)]) :=
    members_of_document documentable_host rfl
  simp only [stored?, hmembers]
  rfl

/-- The table still holds its summary, and the file has lost the value of its host. -/
theorem unluckySession_fails_open :
    (let after := ((unluckySession refusingTable).call unluckyErrand).1.world
    ∃ fault, ((unluckySession refusingTable).compact unluckyErrand).2 = some (.error fault) ∧
      ((unluckySession refusingTable).call unluckyErrand).2 = .ok () ∧
      after.turns "l" = (unluckySession refusingTable).world.turns "l" ∧
      stored? (stateKey "a" Record.summaryKey) (after.store "s") = some (.text "S")) ∧
    let after := ((unluckySession (.file lockingFile)).call unluckyErrand).1.world
    ∃ fault, ((unluckySession (.file lockingFile)).compact unluckyErrand).2 = some (.error fault) ∧
      after.turns "l" = (unluckySession (.file lockingFile)).world.turns "l" ∧
      stored? (.text "host") (.file lockingFile) = some (.int 1) ∧
      ¬∀ key, stored? key (after.store "s") = stored? key (.file lockingFile) := by
  have hreply : ∀ store message, (unluckySession store).world.nextReply ≠ .cancelled message :=
    nofun
  constructor
  · have hfails : (((unluckySession refusingTable).compact unluckyErrand).2.any
        fun outcome => !outcome.isOk) = true := by decide +kernel
    obtain ⟨fault, hfault⟩ := exists_fault hfails
    obtain ⟨hreturns, -, -, hfailed⟩ :=
      call_fails_open (unluckySession refusingTable) unluckyErrand (hreply _)
    obtain ⟨hturns, -, -, hkept⟩ := hfailed _ fault rfl hfault
    exact ⟨fault, hfault, hreturns, hturns, hkept.mpr (Or.inl rfl) _⟩
  · have hfails : (((unluckySession (.file lockingFile)).compact unluckyErrand).2.any
        fun outcome => !outcome.isOk) = true := by decide +kernel
    obtain ⟨fault, hfault⟩ := exists_fault hfails
    obtain ⟨-, -, -, hfailed⟩ :=
      call_fails_open (unluckySession (.file lockingFile)) unluckyErrand (hreply _)
    obtain ⟨hturns, -, -, hkept⟩ := hfailed _ fault rfl hfault
    refine ⟨fault, hfault, hturns, lockingFile_host, fun hsame => ?_⟩
    rcases hkept.mp hsame with happart | hnone | ⟨why, hwhy⟩ | hempty
    · have hown : locksItself (.file lockingFile) = true := by decide +kernel
      cases hown.symm.trans happart
    · contradiction
    · have hplanned : ((Strategy.threshold wholeSettings).plan {} { agent := "a" }
          ((unluckySession (.file lockingFile)).world.turns "l")).2.toOption.isSome = true := by
        decide +kernel
      have hplan : ((Strategy.threshold wholeSettings).plan {} { agent := "a" }
          ((unluckySession (.file lockingFile)).world.turns "l")).2 = .error why := hwhy
      rw [hplan] at hplanned
      contradiction
    · cases lockingFile_host.symm.trans (hempty _)

end Condense.Proofs
