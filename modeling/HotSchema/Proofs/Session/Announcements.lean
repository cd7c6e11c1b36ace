import HotSchema.Proofs.Compile.Pass
import HotSchema.Proofs.Registry.History
import HotSchema.Proofs.Session.Hub
/-!
# Every install is announced once

A pass publishes a generation exactly if it succeeds with something to do, and then it tells of it once: every
open listener but those of the session that the pass was made for. So as long as a listener stays open, what it
received and what is still in its queue are the events of the passes since it subscribed, in their order, and
every one of them has a higher generation than those before it.

Whatever else happens to the stores between two passes has no part in that. A session that subscribes while a
compiler runs is told like one that subscribed before the pass, since a pass looks for its listeners at its end.
-/

namespace HotSchema

/-- One compile pass: what it is to compile, for whom, and how the compiler answers whatever it is given. -/
structure PassCall where
  scope : String
  request : CompileRequest
  origin : Option String
  withdrawn : Bool
  answer : Stores → CompilerCall → CallEnd

/-- One thing that happens to stores and to the sessions that listen. -/
inductive StoresEvent where
  | pass (call : PassCall)
  | subscribe (session : String)
  | drop (number : Nat)
  | receive (number : Nat)
  | registry (call : RegistryCall LoadedType)
  /-- Something else is done to what waits and to the library. -/
  | prepare (staging : Staging) (library : Library)

namespace Stores

def passed (s : Stores) (p : PassCall) : Except EngineError CompileOutcome × Stores :=
  let (result, s, _) :=
    compile p.scope (fun s c (_ : Unit) => (p.answer s c, ())) p.request p.origin p.withdrawn s ()
  (result, s)

def take (s : Stores) : StoresEvent → Stores
  | .pass p => (s.passed p).2
  | .subscribe session => { s with hub := (s.hub.subscribe session).2 }
  | .drop number => { s with hub := s.hub.drop number }
  | .receive number => { s with hub := (s.hub.receive number).2 }
  | .registry call => { s with registry := s.registry.take call }
  | .prepare staging library => { s with staging, library }

def after (s : Stores) (events : List StoresEvent) : Stores := events.foldl take s

/-- What there is to tell of a pass, by the generations before and after it: the names that it loaded, and those
that are not registered any more. -/
def announcement? (s : Stores) (p : PassCall) : Option CompiledEvent :=
  let registry := (s.passed p).2.registry
  if registry.generation = s.registry.generation then none
  else some ⟨true, registry.generation, p.request.names ++ s.registry.registered.filter (· ∉ registry.registered)⟩

/-- What a session is to be told when something happens. -/
def announced (session : String) (s : Stores) : StoresEvent → List CompiledEvent
  | .pass p => if p.origin = some session then [] else (s.announcement? p).toList
  | _ => []

def announcements (session : String) : Stores → List StoresEvent → List CompiledEvent
  | _, [] => []
  | s, event :: rest => s.announced session event ++ announcements session (s.take event) rest

/-- What a receiver reads when something happens. -/
def received (number : Nat) (s : Stores) : StoresEvent → List CompiledEvent
  | .receive reader => if reader = number then (s.hub.receive number).1.getD [] else []
  | _ => []

def receivedIn (number : Nat) : Stores → List StoresEvent → List CompiledEvent
  | _, [] => []
  | s, event :: rest => s.received number event ++ receivedIn number (s.take event) rest

variable {s : Stores} {p : PassCall} {event : CompiledEvent}

/-! ### One pass -/

/-- A compiler that changes a world of its own answers one pass like one that does not. -/
theorem passed_of_compile {ω : Type} (scope : String) (invoke : Stores → CompilerCall → ω → CallEnd × ω)
    (r : CompileRequest) (origin : Option String) (withdrawn : Bool) (s : Stores) (w : ω) :
    s.passed ⟨scope, r, origin, withdrawn, fun s c => (invoke s c w).1⟩ =
      ((compile scope invoke r origin withdrawn s w).1, (compile scope invoke r origin withdrawn s w).2.1) := by
  unfold passed compile
  split_ifs <;> rfl

theorem passed_told (s : Stores) (p : PassCall) :
    s.Silent (s.passed p).2 ∧
        (p.request.isEmpty = true ∨ ∀ outcome, (s.passed p).1 = .ok outcome → outcome.success = false) ∨
      ∃ outcome, (s.passed p).1 = .ok outcome ∧ p.request.isEmpty = false ∧
        s.Announced p.request p.origin outcome (s.passed p).2 := by
  have hcompile : compile p.scope (fun s c (_ : Unit) => (p.answer s c, ())) p.request p.origin p.withdrawn s () =
    ((s.passed p).1, (s.passed p).2, ()) := rfl
  exact compile_told hcompile

theorem Silent.announcement? (h : s.Silent (s.passed p).2) : s.announcement? p = none := by
  rw [Stores.announcement?, h.registry]
  exact if_pos rfl

theorem Announced.announcement? {outcome : CompileOutcome}
    (h : s.Announced p.request p.origin outcome (s.passed p).2) :
    s.announcement? p = some ⟨true, outcome.generation, outcome.loaded ++ outcome.retired⟩ := by
  have hgeneration := h.generation
  have hnext := h.next
  rw [Stores.announcement?, h.loaded, h.retired, hgeneration]
  exact if_neg (by omega)

/-- What the sessions learn of one pass. -/
structure Tells (s : Stores) (p : PassCall) : Prop where
  published_iff : (∃ event, s.announcement? p = some event) ↔
    p.request.isEmpty = false ∧ ∃ outcome, (s.passed p).1 = .ok outcome ∧ outcome.success = true
  silent : s.announcement? p = none → (s.passed p).2.registry = s.registry ∧ (s.passed p).2.hub = s.hub
  event : ∀ event, s.announcement? p = some event → ∃ outcome, (s.passed p).1 = .ok outcome ∧
    event = ⟨true, (s.passed p).2.registry.generation, outcome.loaded ++ outcome.retired⟩
  kept : ∀ event, s.announcement? p = some event →
    (s.passed p).2.hub.listeners.map Listener.number = (s.hub.listeners.filter Listener.isOpen).map Listener.number ∧
      ∀ l ∈ (s.passed p).2.hub.listeners, l.isOpen = true

theorem tells (s : Stores) (p : PassCall) : s.Tells p := by
  rcases s.passed_told p with ⟨hsilent, hfails⟩ | ⟨outcome, hresult, hasked, htold⟩
  · have hnone := hsilent.announcement?
    refine ⟨⟨?_, ?_⟩, fun _ => ⟨hsilent.registry, hsilent.hub⟩, ?_, ?_⟩
    · rintro ⟨event, hevent⟩
      cases hnone.symm.trans hevent
    · rintro ⟨hasked, outcome, hresult, hsuccess⟩
      rcases hfails with hempty | hfails
      · cases hasked.symm.trans hempty
      · cases hsuccess.symm.trans (hfails outcome hresult)
    all_goals
      intro event hevent
      cases hnone.symm.trans hevent
  · have hsome := htold.announcement?
    refine ⟨⟨fun _ => ⟨hasked, outcome, hresult, htold.success⟩, fun _ => ⟨_, hsome⟩⟩, ?_, ?_, ?_⟩
    · intro hnone
      cases hnone.symm.trans hsome
    · intro event hevent
      cases hsome.symm.trans hevent
      exact ⟨outcome, hresult, by rw [htold.generation]⟩
    · intro event _
      rw [htold.hub]
      exact ⟨Hub.numbers_publish .., fun l => Hub.isOpen_of_mem_publish⟩

/-! ### Generations -/

theorem generation_le_passed (s : Stores) (p : PassCall) :
    s.registry.generation ≤ (s.passed p).2.registry.generation := by
  rcases s.passed_told p with ⟨hsilent, -⟩ | ⟨outcome, -, -, htold⟩
  · rw [hsilent.registry]
  · have hnext := htold.next
    omega

end Stores

theorem Registry.generation_le_take {α : Type} [Named α] (r : Registry α) (call : RegistryCall α) :
    r.generation ≤ (r.take call).generation := by
  cases call with
  | install batch retire =>
    show r.generation ≤ (r.install batch retire).2.generation
    unfold install
    dsimp only
    split
    · exact Nat.le_refl _
    · split
      · exact Nat.le_succ _
      · exact Nat.le_refl _
  | retire _ | reset => exact Nat.le_succ _

namespace Stores

variable {s : Stores} {p : PassCall} {event : CompiledEvent}

theorem generation_le_take (s : Stores) (event : StoresEvent) :
    s.registry.generation ≤ (s.take event).registry.generation := by
  cases event with
  | pass p => exact s.generation_le_passed p
  | registry call => exact s.registry.generation_le_take call
  | subscribe _ | drop _ | receive _ | prepare _ _ => exact Nat.le_refl _

/-- What is told of something that happens has the generation that it left, a higher one than before. -/
theorem generation_of_mem_announced {session : String} {happened : StoresEvent}
    (h : event ∈ s.announced session happened) :
    s.registry.generation < event.generation ∧ event.generation = (s.take happened).registry.generation := by
  cases happened with
  | pass p =>
    rw [announced] at h
    split at h
    · cases h
    · have hevent : s.announcement? p = some event := Option.mem_toList.1 h
      have hle := s.generation_le_passed p
      unfold announcement? at hevent
      dsimp only at hevent
      split at hevent <;> cases hevent
      next hne => exact ⟨Nat.lt_of_le_of_ne hle (Ne.symm hne), rfl⟩
  | subscribe _ | drop _ | receive _ | registry _ | prepare _ _ => cases h

theorem lt_of_mem_announcements {session : String} {events : List StoresEvent}
    (h : event ∈ announcements session s events) : s.registry.generation < event.generation := by
  induction events generalizing s with
  | nil => cases h
  | cons happened rest ih =>
    rcases List.mem_append.1 h with hnow | hlater
    · exact (generation_of_mem_announced hnow).1
    · have hlt := ih hlater
      have hle := s.generation_le_take happened
      omega

theorem length_announced_le (session : String) (s : Stores) (happened : StoresEvent) :
    (s.announced session happened).length ≤ 1 := by
  cases happened with
  | pass p =>
    rw [announced]
    split
    · exact Nat.zero_le _
    · rcases s.announcement? p with _ | event
      · exact Nat.zero_le _
      · exact Nat.le_refl _
  | subscribe _ | drop _ | receive _ | registry _ | prepare _ _ => exact Nat.zero_le _

theorem pairwise_announcements (session : String) (s : Stores) (events : List StoresEvent) :
    (announcements session s events).Pairwise fun a b => a.generation < b.generation := by
  induction events generalizing s with
  | nil => exact .nil
  | cons happened rest ih =>
    refine List.pairwise_append.2 ⟨?_, ih _, fun a ha b hb => ?_⟩
    · have hshort := s.length_announced_le session happened
      rcases hnow : s.announced session happened with _ | ⟨first, _ | ⟨second, others⟩⟩
      · exact .nil
      · exact List.pairwise_singleton _ _
      · rw [hnow] at hshort
        simp at hshort
    · have hlater := lt_of_mem_announcements hb
      rw [(generation_of_mem_announced ha).2]
      exact hlater

/-! ### Listeners -/

theorem numbered_take (hn : s.hub.Numbered) (happened : StoresEvent) : (s.take happened).hub.Numbered := by
  cases happened with
  | pass p =>
    show (s.passed p).2.hub.Numbered
    rcases s.passed_told p with ⟨hsilent, -⟩ | ⟨outcome, -, -, htold⟩
    · rwa [hsilent.hub]
    · rw [htold.hub]
      exact hn.publish ..
  | subscribe session => exact hn.subscribe session
  | drop number => exact hn.drop number
  | receive number => exact hn.receive number
  | registry _ | prepare _ _ => exact hn

theorem numbered_after (hn : s.hub.Numbered) (events : List StoresEvent) : (s.after events).hub.Numbered := by
  induction events generalizing s with
  | nil => exact hn
  | cons happened rest ih => exact ih (numbered_take hn happened)

/-- Whatever happens to a listener that stays open, it reads what was queued or it is told what there is to tell. -/
theorem listener?_take (hn : s.hub.Numbered) {number : Nat} {session : String} {queue : List CompiledEvent}
    (hl : s.hub.listener? number = some ⟨number, session, true, queue⟩) {happened : StoresEvent}
    (hopen : happened ≠ .drop number) :
    ∃ queue', (s.take happened).hub.listener? number = some ⟨number, session, true, queue'⟩ ∧
      s.received number happened ++ queue' = queue ++ s.announced session happened := by
  cases happened with
  | pass p =>
    rcases s.passed_told p with ⟨hsilent, -⟩ | ⟨outcome, -, -, htold⟩
    · refine ⟨queue, ?_, ?_⟩
      · show (s.passed p).2.hub.listener? number = _
        rwa [hsilent.hub]
      · simp [announced, hsilent.announcement?, received]
    · have hkept := hn.listener?_publish
        ⟨true, (s.passed p).2.registry.generation, outcome.loaded ++ outcome.retired⟩ p.origin hl rfl
      rw [← htold.hub, Listener.told] at hkept
      have hsome := htold.announcement?
      rw [htold.generation] at hsome
      by_cases horigin : p.origin = some session
      · rw [if_pos horigin] at hkept
        exact ⟨queue, hkept, by simp [announced, received, horigin]⟩
      · rw [if_neg horigin] at hkept
        exact ⟨_, hkept, by simp [announced, received, horigin, hsome]⟩
  | subscribe other => exact ⟨queue, hn.listener?_subscribe other hl, by simp [announced, received]⟩
  | drop dropped =>
    have hne : number ≠ dropped := fun heq => hopen (heq ▸ rfl)
    exact ⟨queue, hn.listener?_drop hne hl, by simp [announced, received]⟩
  | receive reader =>
    by_cases hreader : reader = number
    · subst hreader
      have hread := Hub.receive_of_open hl rfl
      refine ⟨[], ?_, ?_⟩
      · show (s.hub.receive reader).2.listener? reader = _
        rw [hread]
        exact hn.listener?_modify (f := fun l => { l with queue := [] }) (fun _ => rfl) hl
      · simp [announced, received, hread]
    · refine ⟨queue, hn.listener?_receive_of_ne (Ne.symm hreader) hl, ?_⟩
      simp [announced, received, hreader]
  | registry _ | prepare _ _ => exact ⟨queue, hl, by simp [announced, received]⟩

theorem listener?_after (hn : s.hub.Numbered) {number : Nat} {session : String} {queue : List CompiledEvent}
    (hl : s.hub.listener? number = some ⟨number, session, true, queue⟩) {events : List StoresEvent}
    (hopen : .drop number ∉ events) :
    ∃ queue', (s.after events).hub.listener? number = some ⟨number, session, true, queue'⟩ ∧
      s.receivedIn number events ++ queue' = queue ++ announcements session s events := by
  induction events generalizing s queue with
  | nil => exact ⟨queue, hl, (List.append_nil queue).symm⟩
  | cons happened rest ih =>
    rw [List.mem_cons, not_or] at hopen
    obtain ⟨queue', hl', hfirst⟩ := listener?_take hn hl (Ne.symm hopen.1)
    obtain ⟨queue'', hl'', hothers⟩ := ih (numbered_take hn happened) hl' hopen.2
    refine ⟨queue'', hl'', ?_⟩
    show (s.received number happened ++ receivedIn number (s.take happened) rest) ++ queue'' =
      queue ++ (s.announced session happened ++ announcements session (s.take happened) rest)
    rw [List.append_assoc, hothers, ← List.append_assoc, hfirst, List.append_assoc]

/-- A listener that stays open has received, or has in its queue, exactly the events of the passes since it
subscribed that published a generation and were not made for its session, in order and with ascending
generations. And every pass, whatever the stores and whatever world the compiler works on, has something to tell
exactly if it succeeds with something to do: it names what it loaded and what is gone, and keeps exactly the open
listeners; else it leaves registry and listeners alone. -/
theorem installs_announced_once (host : HostTypes) (before events : List StoresEvent) (session : String)
    (hopen : .drop ((Stores.new host).after before).hub.next ∉ events) :
    let start := (Stores.new host).after before
    let number := start.hub.next
    let since := StoresEvent.subscribe session :: events
    (∃ queue, (start.after since).hub.listener? number = some ⟨number, session, true, queue⟩ ∧
        start.receivedIn number since ++ queue = announcements session start since) ∧
      (announcements session start since).Pairwise (fun a b => a.generation < b.generation) ∧
      (∀ (s : Stores) p, s.Tells p) ∧
      ∀ (ω : Type) scope (invoke : Stores → CompilerCall → ω → CallEnd × ω) r origin withdrawn s w,
        s.passed ⟨scope, r, origin, withdrawn, fun s c => (invoke s c w).1⟩ =
          ((compile scope invoke r origin withdrawn s w).1, (compile scope invoke r origin withdrawn s w).2.1) := by
  intro start number since
  have hn : start.hub.Numbered := numbered_after Hub.numbered_empty before
  have hsubscribed : (start.take (.subscribe session)).hub.listener? number = some ⟨number, session, true, []⟩ :=
    hn.listener?_new session
  obtain ⟨queue, hl, hqueue⟩ := listener?_after (numbered_take hn (.subscribe session)) hsubscribed hopen
  exact ⟨⟨queue, hl, hqueue⟩, pairwise_announcements session start since, tells, fun _ => passed_of_compile⟩

/-- A pass for a session, with a compiler that makes what it is given. -/
def passFor (origin : Option String) (units removed : List String) : PassCall :=
  ⟨"app", ⟨units.map fun name => ⟨name, "type", [.anonymous 1]⟩, removed⟩, origin, false,
    fun _ c => ⟨.ok ⟨[], echoUnits c.batch⟩, false⟩⟩

/-- Passes for two sessions and for none; one of them has nothing to do, and one session leaves meanwhile. -/
def passesForTwo : List StoresEvent :=
  [.pass (passFor (some "editor") ["app.A", "app.B"] []), .receive 1, .pass (passFor (some "viewer") ["app.A"] []),
    .drop 0, .pass (passFor none [] []), .pass (passFor none ["app.C"] ["app.B", "app.Missing"])]

/-- The viewer reads of the first pass, is not told of its own, and has the last in its queue. -/
theorem viewer_told_twice :
    ∃ queue, (((Stores.new none).after [.subscribe "editor"]).after (.subscribe "viewer" :: passesForTwo)).hub.listeners =
        [⟨1, "viewer", true, queue⟩] ∧
      ((Stores.new none).after [.subscribe "editor"]).receivedIn 1 (.subscribe "viewer" :: passesForTwo) ++ queue =
        [⟨true, 1, ["app.A", "app.B"]⟩, ⟨true, 3, ["app.C", "app.B"]⟩] := by
  have hopen : .drop ((Stores.new none).after [.subscribe "editor"]).hub.next ∉ passesForTwo := by
    show StoresEvent.drop 1 ∉ passesForTwo
    simp [passesForTwo]
  obtain ⟨⟨queue, hl, hqueue⟩, -⟩ := installs_announced_once none [.subscribe "editor"] passesForTwo "viewer" hopen
  have hannounced : announcements "viewer" ((Stores.new none).after [.subscribe "editor"])
      (.subscribe "viewer" :: passesForTwo) =
        [⟨true, 1, ["app.A", "app.B"]⟩, ⟨true, 3, ["app.C", "app.B"]⟩] := by decide +kernel
  rw [hannounced] at hqueue
  refine ⟨queue, ?_, hqueue⟩
  have halone : (((Stores.new none).after [.subscribe "editor"]).after
      (.subscribe "viewer" :: passesForTwo)).hub.listeners.length = 1 := by decide +kernel
  obtain ⟨l, hlisteners⟩ := List.length_eq_one_iff.1 halone
  have hmem := Hub.mem_of_listener? hl
  rw [hlisteners, List.mem_singleton] at hmem
  rw [hlisteners, ← hmem]
  rfl

end Stores

end HotSchema
