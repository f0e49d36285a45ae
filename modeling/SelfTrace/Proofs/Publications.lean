import Mathlib.Data.List.Induction
import SelfTrace.Introspection.ProcessTable
import SelfTrace.Proofs.Refusals

/-!
# How long publications last

Publications are made and dropped in any order, several of one key among them. A publication knows
its key and no more: to drop one withdraws whatever is published under the key by then.

* `Introspector.Storing` — one value is stored under each key;
* `PublicationStep.run` — publications are made and dropped, and what was done is noted;
* `run_leads` — what is published after a run is told by what was done;
* `publications_last` — the newest publication of a key lasts until one of the key is dropped;
* `newest_publication_withdrawn` — an older one is dropped, and the newest is withdrawn.
-/

namespace SelfTrace

variable {σ τ : Type}

/-! ## One value under each key -/

/-- What is published is stored under its key, in place of what was there. `holds` tells what value
is published under a key. -/
structure Introspector.Storing (i : Introspector σ τ)
    (holds : Scene σ → String → String → Prop) : Prop where
  published : ∀ s key value, ((i.publish key value).runOn s).1 = .ok () →
    ∀ k v, holds ((i.publish key value).runOn s).2 k v ↔ if k = key then v = value else holds s k v
  /-- A refused publication changes nothing, or withdraws what was published under its key. -/
  refused : ∀ s key value e, ((i.publish key value).runOn s).1 = .error e → ∀ k v,
    (k ≠ key → (holds ((i.publish key value).runOn s).2 k v ↔ holds s k v)) ∧
      (holds ((i.publish key value).runOn s).2 k v → holds s k v)
  retracted : ∀ s key k v, holds ((i.retract key).runOn s).2 k v ↔ k ≠ key ∧ holds s k v

namespace ProcessTable

variable (key k : String) (published : List (String × String))

theorem valueOf_filter :
    valueOf (published.filter (·.1 != key)) k =
      if k = key then none else valueOf published k := by
  split
  · next hk =>
    have hnone : (published.filter (·.1 != key)).find? (·.1 == k) = none := by
      rw [List.find?_eq_none]
      intro p hp
      simpa [hk] using (List.mem_filter.1 hp).2
    rw [valueOf, hnone]
    rfl
  · next hk => exact Holdings.find_without_of_ne hk published

theorem valueOf_concat (value : String) :
    valueOf (published.filter (·.1 != key) ++ [(key, value)]) k =
      if k = key then some value else valueOf published k := by
  have hfilter := valueOf_filter key k published
  rw [valueOf] at hfilter ⊢
  rw [List.find?_append]
  split
  · next hk =>
    rw [if_pos hk, Option.map_eq_none_iff] at hfilter
    rw [hfilter, Option.none_or]
    simp [hk]
  · next hk =>
    rw [if_neg hk] at hfilter
    have hlast : [(key, value)].find? (·.1 == k) = none := by simp [Ne.symm hk]
    rw [hlast, Option.or_none]
    exact hfilter

theorem runOn_publish (value : String) (s : Scene ProcessTable) :
    (introspector.publish key value).runOn s =
      match s.state.publishError with
      | some e => (.error e, s)
      | none => (.ok (), { s with state := { s.state with
          published := s.state.published.filter (·.1 != key) ++ [(key, value)] } }) := by
  have hpublish : introspector.publish key value = do
      match (← Act.state).publishError with
      | some e => return .error e
      | none =>
        Act.update fun t =>
          { t with published := t.published.filter (·.1 != key) ++ [(key, value)] }
        return .ok () := rfl
  rw [hpublish, Act.runOn_bind, Act.runOn_state]
  cases s.state.publishError <;> rfl

/-- What the own process publishes is stored by key. -/
theorem introspector_storing :
    introspector.Storing fun s key value => valueOf s.state.published key = some value where
  published := by
    intro s key value hok k v
    rw [runOn_publish] at hok ⊢
    cases herror : s.state.publishError with
    | some e =>
      rw [herror] at hok
      cases hok
    | none =>
      dsimp only
      rw [valueOf_concat]
      by_cases hk : k = key
      · simp [hk, eq_comm]
      · simp [hk]
  refused := by
    intro s key value e herror k v
    rw [runOn_publish] at herror ⊢
    cases hrefuses : s.state.publishError with
    | some e => exact ⟨fun _ => Iff.rfl, id⟩
    | none =>
      rw [hrefuses] at herror
      cases herror
  retracted := by
    intro s key k v
    have hstate : ((introspector.retract key).runOn s).2.state.published =
        s.state.published.filter (·.1 != key) := rfl
    rw [hstate, valueOf_filter]
    by_cases hk : k = key
    · simp [hk]
    · simp [hk]

end ProcessTable

/-- What an owner of a marker directory publishes is stored by key. -/
theorem MarkerDirectory.introspector_storing (d : MarkerDirectory) :
    d.introspector.Storing fun s key value => (key, d.markerPath key value) ∈ s.state where
  published := by
    intro s key value hok k v
    obtain ⟨hfits, hstate⟩ := publish_ok_state hok
    have hstate : ((d.introspector.publish key value).runOn s).2.state =
        s.state.filter (·.1 != key) ++ [(key, d.markerPath key value)] := hstate
    rw [hstate, mem_concat_iff (expressible_iff.1 hfits.expressible).1, List.mem_filter]
    by_cases hk : k = key
    · simp [hk]
    · simp [hk]
  refused := by
    intro s key value e herror k v
    have hstate : ((d.introspector.publish key value).runOn s).2.state =
        if expressible key value then s.state.filter (·.1 != key) else s.state :=
      publish_refused_state herror
    rw [hstate]
    split
    · rw [List.mem_filter]
      refine ⟨?_, And.left⟩
      intro hk
      simp [hk]
    · exact ⟨fun _ => Iff.rfl, id⟩
  retracted := by
    intro s key k v
    have hstate : ((d.introspector.retract key).runOn s).2.state =
        s.state.filter (·.1 != key) := retract_state key s
    rw [hstate, List.mem_filter, and_comm]
    simp

/-! ## Making and dropping -/

/-- A publication is made, or the one with a number is dropped. They are numbered as they are
made. -/
inductive PublicationStep where
  | make (key value : String)
  | drop (n : Nat)
deriving DecidableEq, Repr

/-- What a step comes to. To drop a publication that is not there any more comes to nothing. -/
inductive PublicationDeed where
  | made (key value : String)
  | refused (key : String) (e : IntrospectError)
  | dropped (n : Nat) (key : String)
  | nothing
deriving DecidableEq, Repr

/-- The publications by number; none in the place of one that was dropped. -/
abbrev Publications := List (Option Publication)

namespace PublicationStep

/-- Does a step. -/
def act (i : Introspector σ τ) (held : Publications) :
    PublicationStep → Act σ (Publications × PublicationDeed)
  | .make key value => do
    match ← Publication.make i key value with
    | .ok p => return (held ++ [some p], .made key value)
    | .error e => return (held, .refused key e)
  | .drop n =>
    match held[n]? with
    | some (some p) => do
      p.release i
      return (held.set n none, .dropped n p.key)
    | _ => return (held, .nothing)

/-- Does some steps, one after the other: the publications in the end, and what was done. -/
def run (i : Introspector σ τ) (steps : List PublicationStep) :
    Act σ (Publications × List PublicationDeed) :=
  steps.foldlM (fun r x => do
    let (held, deed) ← x.act i r.1
    return (held, r.2 ++ [deed])) ([], [])

theorem run_concat (i : Introspector σ τ) (steps : List PublicationStep) (x : PublicationStep)
    (s : Scene σ) :
    (run i (steps ++ [x])).runOn s =
      let r := (run i steps).runOn s
      let r' := (x.act i r.1.1).runOn r.2
      ((r'.1.1, r.1.2 ++ [r'.1.2]), r'.2) := by
  rw [run, List.foldlM_append]
  rfl

end PublicationStep

/-! ## What deeds do -/

namespace PublicationDeed

/-- What a deed does to the values under all keys. -/
def Does (before after : String → String → Prop) : PublicationDeed → Prop
  | .made key value => ∀ k v, after k v ↔ if k = key then v = value else before k v
  | .refused key _ => ∀ k v, (k ≠ key → (after k v ↔ before k v)) ∧ (after k v → before k v)
  | .dropped _ key => ∀ k v, after k v ↔ k ≠ key ∧ before k v
  | .nothing => ∀ k v, after k v ↔ before k v

/-- The key that a deed is about. -/
def key? : PublicationDeed → Option String
  | .made key _ => some key
  | .refused key _ => some key
  | .dropped _ key => some key
  | .nothing => none

/-- What a deed does to the publications. -/
def apply (held : Publications) : PublicationDeed → Publications
  | .made key _ => held ++ [some ⟨key⟩]
  | .dropped n _ => held.set n none
  | .refused _ _ => held
  | .nothing => held

variable {before after : String → String → Prop} {x : PublicationDeed} {key value : String}

/-- A deed about another key does nothing to the values under a key. -/
theorem Does.other (h : x.Does before after) (hkey : x.key? ≠ some key) (v : String) :
    after key v ↔ before key v := by
  cases x with
  | made k value =>
    have hne : key ≠ k := fun heq => hkey (congrArg some heq.symm)
    rw [h key v, if_neg hne]
  | refused k e =>
    have hne : key ≠ k := fun heq => hkey (congrArg some heq.symm)
    exact (h key v).1 hne
  | dropped n k =>
    have hne : key ≠ k := fun heq => hkey (congrArg some heq.symm)
    rw [h key v, and_iff_right hne]
  | nothing => exact h key v

/-- Only to make a publication puts a value under a key. -/
theorem Does.of_after (h : x.Does before after) (hmade : ∀ value, x ≠ .made key value) {v : String}
    (hafter : after key v) : before key v := by
  cases x with
  | made k value =>
    have hne : key ≠ k := fun heq => hmade value (heq ▸ rfl)
    have hv := (h key v).1 hafter
    rwa [if_neg hne] at hv
  | refused k e => exact (h key v).2 hafter
  | dropped n k => exact ((h key v).1 hafter).2
  | nothing => exact (h key v).1 hafter

/-- One deed after the other leads from the values under all keys to others. -/
def Lead (before after : String → String → Prop) : List PublicationDeed → Prop
  | [] => after = before
  | x :: xs => ∃ between, x.Does before between ∧ Lead between after xs

variable {xs ys : List PublicationDeed}

theorem Lead.append_iff :
    Lead before after (xs ++ ys) ↔ ∃ between, Lead before between xs ∧ Lead between after ys := by
  induction xs generalizing before with
  | nil => simp [Lead]
  | cons x xs ih =>
    simp only [List.cons_append, Lead, ih]
    constructor
    · intro h
      obtain ⟨first, hx, between, hxs, hys⟩ := h
      exact ⟨between, ⟨first, hx, hxs⟩, hys⟩
    · intro h
      obtain ⟨between, ⟨first, hx, hxs⟩, hys⟩ := h
      exact ⟨first, hx, between, hxs, hys⟩

/-- Deeds about other keys do nothing to the values under a key. -/
theorem Lead.other (h : Lead before after xs) (hkey : ∀ x ∈ xs, x.key? ≠ some key) (v : String) :
    after key v ↔ before key v := by
  induction xs generalizing before with
  | nil => rw [h]
  | cons x xs ih =>
    obtain ⟨between, hx, hxs⟩ := h
    rw [ih hxs fun y hy => hkey y (List.mem_cons_of_mem x hy)]
    exact hx.other (hkey x List.mem_cons_self) v

theorem Lead.of_after (h : Lead before after xs) (hmade : ∀ value, .made key value ∉ xs)
    {v : String} (hafter : after key v) : before key v := by
  induction xs generalizing before with
  | nil =>
    rw [h] at hafter
    exact hafter
  | cons x xs ih =>
    obtain ⟨between, hx, hxs⟩ := h
    refine hx.of_after (fun value heq => hmade value (heq ▸ List.mem_cons_self)) ?_
    exact ih hxs fun value hmem => hmade value (List.mem_cons_of_mem x hmem)

/-- After a publication was dropped, nothing is published under its key until another is made. -/
theorem Lead.withdrawn {n : Nat} (h : Lead before after (xs ++ .dropped n key :: ys))
    (hmade : ∀ value, .made key value ∉ ys) (v : String) : ¬after key v := by
  intro hafter
  obtain ⟨start, -, between, hdropped, hys⟩ := Lead.append_iff.1 h
  exact ((hdropped key v).1 (hys.of_after hmade hafter)).1 rfl

/-- The value of the newest publication of a key is published exactly until one of the key is
dropped, be it that one or an older one. -/
theorem Lead.newest_iff (h : Lead before after (xs ++ .made key value :: ys))
    (hnewest : ∀ value, .made key value ∉ ys) (hrefused : ∀ e, .refused key e ∉ ys) (v : String) :
    after key v ↔ v = value ∧ ∀ n, .dropped n key ∉ ys := by
  obtain ⟨start, -, between, hmade, hys⟩ := Lead.append_iff.1 h
  by_cases hdropped : ∃ n, .dropped n key ∈ ys
  · obtain ⟨n, hn⟩ := hdropped
    obtain ⟨first, last, rfl⟩ := List.append_of_mem hn
    have hgone := hys.withdrawn (fun value hmem => hnewest value
      (List.mem_append_right _ (List.mem_cons_of_mem _ hmem))) v
    exact ⟨fun hafter => absurd hafter hgone, fun hnone => absurd hn (hnone.2 n)⟩
  · have hother : ∀ y ∈ ys, y.key? ≠ some key := by
      intro y hy hkey
      cases y with
      | made k value =>
        cases hkey
        exact hnewest value hy
      | refused k e =>
        cases hkey
        exact hrefused e hy
      | dropped n k =>
        cases hkey
        exact hdropped ⟨n, hy⟩
      | nothing => cases hkey
    rw [hys.other hother, hmade key v, if_pos rfl, and_iff_left]
    exact fun n hn => hdropped ⟨n, hn⟩

/-! ## Publications that are left -/

/-- The deed makes a publication. -/
def makes : PublicationDeed → Bool
  | .made _ _ => true
  | _ => false

theorem length_foldl_apply (held : Publications) (xs : List PublicationDeed) :
    (xs.foldl apply held).length = held.length + xs.countP makes := by
  induction xs generalizing held with
  | nil => rfl
  | cons x xs ih =>
    rw [List.foldl_cons, ih, List.countP_cons]
    cases x with
    | made key value =>
      simp [apply, makes]
      omega
    | refused key e => rfl
    | dropped n key =>
      rw [apply, List.length_set]
      rfl
    | nothing => rfl

/-- A deed leaves a place as it is, unless it drops the publication there. -/
theorem getElem?_apply {held : Publications} {n : Nat} (hn : n < held.length)
    (hdropped : ∀ key, x ≠ .dropped n key) : (x.apply held)[n]? = held[n]? := by
  cases x with
  | made key value => exact List.getElem?_append_left hn
  | refused key e => rfl
  | dropped m key =>
    have hne : m ≠ n := fun heq => hdropped key (heq ▸ rfl)
    exact List.getElem?_set_ne hne
  | nothing => rfl

/-- The place of a publication that was dropped stays empty. -/
theorem getElem?_foldl_apply_none {held : Publications} {n : Nat} (h : held[n]? = some none)
    (xs : List PublicationDeed) : (xs.foldl apply held)[n]? = some none := by
  induction xs generalizing held with
  | nil => exact h
  | cons x xs ih =>
    refine ih ?_
    obtain ⟨hn, -⟩ := List.getElem?_eq_some_iff.1 h
    by_cases hdropped : ∃ key, x = .dropped n key
    · obtain ⟨key, rfl⟩ := hdropped
      exact List.getElem?_set_self hn
    · rw [getElem?_apply hn fun key heq => hdropped ⟨key, heq⟩]
      exact h

/-- A publication is there as long as it was not dropped. -/
theorem getElem?_foldl_apply {held : Publications} {n : Nat} {p : Publication}
    (h : held[n]? = some (some p)) (xs : List PublicationDeed) :
    (xs.foldl apply held)[n]? = some (some p) ↔ ∀ key, .dropped n key ∉ xs := by
  induction xs generalizing held with
  | nil => simp [h]
  | cons x xs ih =>
    obtain ⟨hn, -⟩ := List.getElem?_eq_some_iff.1 h
    rw [List.foldl_cons]
    by_cases hdropped : ∃ key, x = .dropped n key
    · obtain ⟨key, rfl⟩ := hdropped
      have hempty : (apply held (.dropped n key))[n]? = some none := List.getElem?_set_self hn
      rw [getElem?_foldl_apply_none hempty]
      constructor
      · intro hnone
        cases hnone
      · intro hkept
        exact absurd List.mem_cons_self (hkept key)
    · have hkept : (x.apply held)[n]? = some (some p) := by
        rw [getElem?_apply hn fun key heq => hdropped ⟨key, heq⟩]
        exact h
      rw [ih hkept]
      refine forall_congr' fun key => ?_
      rw [List.mem_cons, not_or, and_iff_right fun heq => hdropped ⟨key, heq.symm⟩]

end PublicationDeed

/-! ## Runs -/

namespace PublicationStep

variable {i : Introspector σ τ} {holds : Scene σ → String → String → Prop}

/-- What a step does to the publications and to the values is what its deed tells. -/
theorem act_leads (h : i.Storing holds) (held : Publications) (x : PublicationStep)
    (s : Scene σ) :
    (x.act i held).Leads s fun r t =>
      r.1 = r.2.apply held ∧ r.2.Does (holds s) (holds t) := by
  cases x with
  | make key value =>
    have hmake : (Publication.make i key value).Leads s fun answer t =>
        match answer with
        | .ok p => p = ⟨key⟩ ∧ PublicationDeed.Does (holds s) (holds t) (.made key value)
        | .error e => PublicationDeed.Does (holds s) (holds t) (.refused key e) := by
      rw [Act.Leads, Publication.make, Act.runOn_bind]
      have hpublished := h.published s key value
      have hrefused := h.refused s key value
      -- of the introspector nothing is used but what is laid down for it
      generalize (i.publish key value).runOn s = r at hpublished hrefused
      obtain ⟨answer, t⟩ := r
      cases answer with
      | ok _ => exact ⟨rfl, hpublished rfl⟩
      | error e => exact hrefused e rfl
    refine hmake.bind ?_
    intro answer t hanswer
    cases answer with
    | ok p =>
      obtain ⟨rfl, hdoes⟩ := hanswer
      exact .pure ⟨rfl, hdoes⟩
    | error e => exact .pure ⟨rfl, hanswer⟩
  | drop n =>
    rw [act]
    split
    · next p hp => exact ⟨rfl, h.retracted s p.key⟩
    · exact ⟨rfl, fun k v => Iff.rfl⟩

/-- The publications after a run, and the values under all keys, are told by what was done. -/
theorem run_leads (h : i.Storing holds) (steps : List PublicationStep) (s : Scene σ) :
    (run i steps).Leads s fun r t =>
      r.1 = r.2.foldl PublicationDeed.apply [] ∧ PublicationDeed.Lead (holds s) (holds t) r.2 := by
  induction steps using List.reverseRecOn with
  | nil => exact ⟨rfl, rfl⟩
  | append_singleton steps x ih =>
    obtain ⟨hheld, hlead⟩ := ih
    obtain ⟨hheld', hdoes⟩ := act_leads h ((run i steps).runOn s).1.1 x ((run i steps).runOn s).2
    rw [Act.Leads, run_concat]
    refine ⟨?_, ?_⟩
    · dsimp only
      rw [hheld', hheld, List.foldl_append]
      rfl
    · exact PublicationDeed.Lead.append_iff.2 ⟨_, hlead, _, hdoes, rfl⟩

end PublicationStep

/-- What holds of publications after a run. -/
structure Publications.Last (held : Publications) (deeds : List PublicationDeed)
    (holds : String → String → Prop) : Prop where
  /-- A publication is there until it is dropped; its number is how many were made before it. -/
  alive_iff : ∀ before key value after, deeds = before ++ .made key value :: after →
    (held[before.countP PublicationDeed.makes]? = some (some ⟨key⟩) ↔
      ∀ k, .dropped (before.countP PublicationDeed.makes) k ∉ after)
  /-- The value of the newest publication of a key is published until one of the key is dropped, be
  it that one or an older one. -/
  newest_iff : ∀ before key value after, deeds = before ++ .made key value :: after →
    (∀ v, .made key v ∉ after) → (∀ e, .refused key e ∉ after) →
      ∀ v, holds key v ↔ v = value ∧ ∀ n, .dropped n key ∉ after
  /-- After one of a key was dropped, nothing is published under the key until another is made. -/
  withdrawn : ∀ before n key after, deeds = before ++ .dropped n key :: after →
    (∀ v, .made key v ∉ after) → ∀ v, ¬holds key v

/-- Publications and their values after any run, for whatever introspector that stores values by
key. -/
theorem publications_last (i : Introspector σ τ) {holds : Scene σ → String → String → Prop}
    (h : i.Storing holds) (s : Scene σ) (steps : List PublicationStep) :
    (PublicationStep.run i steps).Leads s fun r t => r.1.Last r.2 (holds t) := by
  have hrun := PublicationStep.run_leads h steps s
  rw [Act.Leads] at hrun ⊢
  generalize (PublicationStep.run i steps).runOn s = r at hrun
  obtain ⟨hheld, hlead⟩ := hrun
  constructor
  case alive_iff =>
    intro before key value after hsplit
    have hplace : (before.foldl PublicationDeed.apply [] ++ [some ⟨key⟩])[before.countP
        PublicationDeed.makes]? = some (some ⟨key⟩) := by
      have hlength := PublicationDeed.length_foldl_apply [] before
      rw [List.length_nil, Nat.zero_add] at hlength
      rw [← hlength, List.getElem?_concat_length]
    rw [hheld, hsplit, List.foldl_append]
    exact PublicationDeed.getElem?_foldl_apply hplace after
  case newest_iff =>
    intro before key value after hsplit hnewest hrefused v
    rw [hsplit] at hlead
    exact hlead.newest_iff hnewest hrefused v
  case withdrawn =>
    intro before n key after hsplit hmade v
    rw [hsplit] at hlead
    exact hlead.withdrawn hmade v

/-- Two publications of one key with one of another between them, which is dropped. -/
theorem publications_last_other_dropped :
    let s : Scene ProcessTable := { state := {} }
    let steps : List PublicationStep := [.make "k" "old", .make "l" "w", .make "k" "new", .drop 1]
    ProcessTable.introspector.Storing
        (fun s key value => ProcessTable.valueOf s.state.published key = some value) ∧
      (PublicationStep.run ProcessTable.introspector steps).Leads s fun r t =>
        r.1.Last r.2 fun key value => ProcessTable.valueOf t.state.published key = some value :=
  ⟨ProcessTable.introspector_storing,
    publications_last ProcessTable.introspector ProcessTable.introspector_storing _ _⟩

/-- Two publications of one key: the older one is dropped, and the newest, which is still there, has
nothing published. -/
theorem newest_publication_withdrawn :
    let s : Scene ProcessTable := { state := {} }
    let steps : List PublicationStep :=
      [.make markerKey "old", .make markerKey "new", .drop 0]
    (PublicationStep.run ProcessTable.introspector steps).Leads s fun r t =>
      r.2 = [.made markerKey "old", .made markerKey "new", .dropped 0 markerKey] ∧
      r.1 = [none, some ⟨markerKey⟩] ∧
      ProcessTable.valueOf t.state.published markerKey = none := by
  intro s steps
  exact ⟨rfl, rfl, rfl⟩

end SelfTrace
