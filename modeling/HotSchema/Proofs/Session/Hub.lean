import HotSchema.Proofs.Roster
import HotSchema.Session.Hub
/-!
# Listeners by their numbers

A number is given out once, so it stands for one subscription for good. What each operation of the hub does is
said here by what it makes of the listener with a number.
-/

namespace HotSchema

/-- The listener after an event, which may be kept from its session. -/
def Listener.told (l : Listener) (event : CompiledEvent) (exclude : Option String) : Listener :=
  if exclude = some l.session then l else { l with queue := l.queue ++ [event] }

@[simp] theorem Listener.number_told (l : Listener) (event : CompiledEvent) (exclude : Option String) :
    (l.told event exclude).number = l.number := by
  unfold told
  split <;> rfl

@[simp] theorem Listener.isOpen_told (l : Listener) (event : CompiledEvent) (exclude : Option String) :
    (l.told event exclude).isOpen = l.isOpen := by
  unfold told
  split <;> rfl

namespace Hub

def listener? (h : Hub) (number : Nat) : Option Listener := h.listeners.find? (·.number = number)

/-- No number was given out twice, and the next is new. -/
structure Numbered (h : Hub) : Prop where
  nodup : (h.listeners.map Listener.number).Nodup
  lt : ∀ l ∈ h.listeners, l.number < h.next

theorem numbered_empty : empty.Numbered := ⟨List.nodup_nil, List.forall_mem_nil _⟩

variable {h : Hub} {number : Nat} {l : Listener}

theorem number_of_listener? (hl : h.listener? number = some l) : l.number = number := by
  simpa using List.find?_some hl

theorem mem_of_listener? (hl : h.listener? number = some l) : l ∈ h.listeners := List.mem_of_find?_eq_some hl

theorem Numbered.listener?_of_mem (hn : h.Numbered) (hl : l ∈ h.listeners) : h.listener? l.number = some l :=
  find?_key_of_mem hn.nodup hl

/-! ### Subscribing -/

theorem Numbered.subscribe (hn : h.Numbered) (session : String) : (h.subscribe session).2.Numbered := by
  refine ⟨?_, ?_⟩
  · have hnew : h.next ∉ h.listeners.map Listener.number := by
      intro hmem
      obtain ⟨l, hl, heq⟩ := List.mem_map.1 hmem
      have hlt := hn.lt l hl
      omega
    show ((h.listeners ++ [Listener.mk h.next session true []]).map Listener.number).Nodup
    rw [List.map_append]
    exact List.Nodup.append hn.nodup (List.nodup_singleton _) (by simpa using hnew)
  · intro l hl
    rcases List.mem_append.1 hl with hold | hnew
    · exact Nat.lt_succ_of_lt (hn.lt l hold)
    · cases List.mem_singleton.1 hnew
      exact Nat.lt_succ_self _

theorem Numbered.listener?_new (hn : h.Numbered) (session : String) :
    (h.subscribe session).2.listener? h.next = some ⟨h.next, session, true, []⟩ :=
  (hn.subscribe session).listener?_of_mem (List.mem_append_right _ List.mem_cons_self)

theorem Numbered.listener?_subscribe (hn : h.Numbered) (session : String) (hl : h.listener? number = some l) :
    (h.subscribe session).2.listener? number = some l := by
  have hmem := (hn.subscribe session).listener?_of_mem (List.mem_append_left _ (mem_of_listener? hl))
  rwa [number_of_listener? hl] at hmem

/-! ### Receivers -/

theorem Numbered.modify (hn : h.Numbered) {f : Listener → Listener} (hf : ∀ l, (f l).number = l.number) :
    (h.modify number f).Numbered := by
  have hnumber (l : Listener) : (if l.number = number then f l else l).number = l.number := by
    split
    · exact hf l
    · rfl
  refine ⟨?_, ?_⟩
  · rw [Hub.modify, List.map_map, show Listener.number ∘ _ = Listener.number from funext hnumber]
    exact hn.nodup
  · intro l hl
    obtain ⟨l', hl', rfl⟩ := List.mem_map.1 hl
    rw [hnumber]
    exact hn.lt l' hl'

theorem Numbered.listener?_modify (hn : h.Numbered) {f : Listener → Listener} (hf : ∀ l, (f l).number = l.number)
    (hl : h.listener? number = some l) : (h.modify number f).listener? number = some (f l) := by
  have hnumber := number_of_listener? hl
  have hmem : f l ∈ (h.modify number f).listeners :=
    List.mem_map.2 ⟨l, mem_of_listener? hl, if_pos hnumber⟩
  have hfound := (hn.modify hf).listener?_of_mem hmem
  rwa [hf, hnumber] at hfound

theorem Numbered.listener?_modify_of_ne (hn : h.Numbered) {f : Listener → Listener}
    (hf : ∀ l, (f l).number = l.number) {other : Nat} (hne : number ≠ other) (hl : h.listener? number = some l) :
    (h.modify other f).listener? number = some l := by
  have hnumber := number_of_listener? hl
  have hmem : l ∈ (h.modify other f).listeners :=
    List.mem_map.2 ⟨l, mem_of_listener? hl, if_neg (hnumber ▸ hne)⟩
  have hfound := (hn.modify hf).listener?_of_mem hmem
  rwa [hnumber] at hfound

theorem Numbered.drop (hn : h.Numbered) (number : Nat) : (h.drop number).Numbered := hn.modify fun _ => rfl

theorem Numbered.listener?_drop (hn : h.Numbered) {dropped : Nat} (hne : number ≠ dropped)
    (hl : h.listener? number = some l) : (h.drop dropped).listener? number = some l := by
  refine hn.listener?_modify_of_ne (fun _ => ?_) hne hl
  rfl

theorem receive_eq (h : Hub) (number : Nat) :
    h.receive number =
      match h.listener? number with
      | none => (none, h)
      | some l =>
        if l.isOpen then (some l.queue, h.modify number fun l => { l with queue := [] }) else (none, h) := rfl

theorem Numbered.receive (hn : h.Numbered) (number : Nat) : (h.receive number).2.Numbered := by
  rw [receive_eq]
  split
  · exact hn
  · split
    · exact hn.modify fun _ => rfl
    · exact hn

theorem receive_of_open (hl : h.listener? number = some l) (hopen : l.isOpen = true) :
    h.receive number = (some l.queue, h.modify number fun l => { l with queue := [] }) := by
  rw [receive_eq, hl]
  dsimp only
  rw [if_pos hopen]

theorem Numbered.listener?_receive_of_ne (hn : h.Numbered) {reader : Nat} (hne : number ≠ reader)
    (hl : h.listener? number = some l) : (h.receive reader).2.listener? number = some l := by
  rw [receive_eq]
  split
  · exact hl
  · split
    · refine hn.listener?_modify_of_ne (fun _ => ?_) hne hl
      rfl
    · exact hl

/-! ### Publishing -/

theorem listeners_publish (h : Hub) (event : CompiledEvent) (exclude : Option String) :
    (h.publish event exclude).listeners = (h.listeners.filter Listener.isOpen).map (·.told event exclude) := rfl

theorem Numbered.publish (hn : h.Numbered) (event : CompiledEvent) (exclude : Option String) :
    (h.publish event exclude).Numbered := by
  refine ⟨?_, ?_⟩
  · rw [listeners_publish, List.map_map,
      show Listener.number ∘ (·.told event exclude) = Listener.number from
        funext fun l => l.number_told event exclude]
    exact hn.nodup.sublist (List.filter_sublist.map _)
  · intro l hl
    rw [listeners_publish] at hl
    obtain ⟨l', hl', rfl⟩ := List.mem_map.1 hl
    rw [Listener.number_told]
    exact hn.lt l' (List.mem_of_mem_filter hl')

/-- An open listener is kept, and told unless the event is kept from its session. -/
theorem Numbered.listener?_publish (hn : h.Numbered) (event : CompiledEvent) (exclude : Option String)
    (hl : h.listener? number = some l) (hopen : l.isOpen = true) :
    (h.publish event exclude).listener? number = some (l.told event exclude) := by
  obtain rfl := number_of_listener? hl
  have hkept : l ∈ h.listeners.filter Listener.isOpen := List.mem_filter.2 ⟨mem_of_listener? hl, hopen⟩
  have htold : l.told event exclude ∈ (h.publish event exclude).listeners := List.mem_map.2 ⟨l, hkept, rfl⟩
  have hfound := (hn.publish event exclude).listener?_of_mem htold
  rwa [Listener.number_told] at hfound

/-- The listeners that are left are the open ones. -/
theorem numbers_publish (h : Hub) (event : CompiledEvent) (exclude : Option String) :
    (h.publish event exclude).listeners.map Listener.number =
      (h.listeners.filter Listener.isOpen).map Listener.number := by
  rw [listeners_publish, List.map_map]
  exact List.map_congr_left fun l _ => l.number_told event exclude

theorem isOpen_of_mem_publish {event : CompiledEvent} {exclude : Option String}
    (hl : l ∈ (h.publish event exclude).listeners) : l.isOpen = true := by
  rw [listeners_publish] at hl
  obtain ⟨l', hl', rfl⟩ := List.mem_map.1 hl
  exact (Listener.isOpen_told ..).trans (List.mem_filter.1 hl').2

end Hub

end HotSchema
